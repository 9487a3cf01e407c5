import DeployCheck.Proofs.Cache.Undisturbed
import DeployCheck.Proofs.Verification.Inquiries
namespace DeployCheck

namespace Cache.Traffic

variable {α : Type} {capacity load : Nat} {traffic last : Traffic α} {label : String}
  {result : Except VerificationError α}

theorem length_le_of_steps (steps : Relation.ReflTransGen Step traffic last) :
    traffic.calls.length ≤ last.calls.length := by
  induction steps with
  | refl => exact Nat.le_refl _
  | tail _ step ih =>
      rcases step_cases step with ⟨label, rfl⟩ | ⟨call, _, _, _, _, _, -, -, rfl⟩
      · simp only [enter, List.length_append]
        omega
      · simpa using ih

theorem answered_of_steps (reachable : Reachable capacity traffic)
    (steps : Relation.ReflTransGen Step traffic last)
    (answered : traffic.loads[load]? = some ⟨label, .answered result⟩) :
    last.loads[load]? = some ⟨label, .answered result⟩ := by
  induction steps using Relation.ReflTransGen.head_induction_on with
  | refl => exact answered
  | head step _ ih =>
      obtain ⟨action, acted⟩ := step_iff_act.mp step
      exact ih (.step reachable step) ((slots_reachable reachable).answered_act acted answered)

end Cache.Traffic

namespace Verification

open Cache Relation

variable {σ κ : Type} {collaborators : Collaborators σ κ} {table : Policies} {request : Request}
  {cache : Cache κ} {returned : Except VerificationError κ} {inquiry next : Inquiry}

namespace Service

variable {capacity i : Nat} {service after : Service κ}

def Step (collaborators : Collaborators σ κ) (table : Policies) (service next : Service κ) : Prop :=
  ∃ action, (∀ request, action ≠ .ask request) ∧
    service.act? collaborators table action = some next

theorem reachable_of_steps (reachable : Reachable collaborators table capacity service)
    (steps : ReflTransGen (Step collaborators table) service after) :
    Reachable collaborators table capacity after := by
  induction steps with
  | refl => exact reachable
  | tail _ step ih =>
      obtain ⟨action, -, acted⟩ := step
      exact .step action ih acted

theorem steps_of_traffic {traffic last : Traffic κ} (reachable : Traffic.Reachable capacity traffic)
    (steps : ReflTransGen Traffic.Step traffic last)
    (no_more : last.calls.length = traffic.calls.length)
    (loads : ∀ (load : Nat) (label : String) (result : Except VerificationError κ),
      last.loads[load]? = some ⟨label, .answered result⟩ → Loads collaborators label result)
    (inquiries : List Inquiry) :
    ReflTransGen (Step collaborators table) ⟨traffic, inquiries⟩ ⟨last, inquiries⟩ := by
  induction steps using ReflTransGen.head_induction_on with
  | refl => exact .refl
  | @head traffic between step rest ih =>
      have longer := Traffic.length_le_of_steps rest
      have reached := Traffic.Reachable.step reachable step
      have acts : Step collaborators table ⟨traffic, inquiries⟩ ⟨between, inquiries⟩ ∧
          between.calls.length = traffic.calls.length := by
        cases step with
        | enter label =>
            simp only [Traffic.enter, List.length_append, List.length_singleton] at longer
            omega
        | move call moved =>
            refine ⟨⟨.move call, by simp, by simp [act?, moved]⟩, ?_⟩
            obtain ⟨_, _, _, _, _, -, -, rfl⟩ := Traffic.advances_of_move moved
            exact List.length_set
        | answer call result answered =>
            obtain ⟨label, slot, load, stage, made, outcome, calls, -⟩ :=
              Traffic.answer_cases answered
            have placed := (Traffic.slots_reachable reachable).placed call _ made
            have running := placed.running slot load rfl
            have settled : between.loads[load]? = some ⟨label, .answered result⟩ := by
              rw [outcome, Traffic.setOutcome_self running]
            obtain ⟨world, rfl⟩ :=
              loads load label result (Traffic.answered_of_steps reached rest settled)
            refine ⟨⟨.load call world, by simp, by simp [act?, made, answered]⟩, ?_⟩
            rw [calls, List.length_set]
      exact .head acts.1 (ih reached (no_more.trans acts.2.symm))

theorem step_of_advance
    (advance : Inquiry.Advance collaborators table service.traffic.cache request returned inquiry
      next)
    (back : service.traffic.returned? i = some returned)
    (present : service.inquiries[i]? = some inquiry) :
    Step collaborators table service
      { service with inquiries := service.inquiries.set i next } := by
  cases advance with
  | beginFetch compiler compilation tally begun =>
      refine ⟨.proceed i, by simp, ?_⟩
      cases compilation with
      | idle => exact absurd rfl begun
      | running | done => simp [act?, advance?_of_returned back present, Inquiry.proceed?]
  | compile compiler retrieval tally world =>
      refine ⟨.compile i world, by simp, ?_⟩
      simp [act?, advance?_of_returned back present, Inquiry.compiled?]
  | fetch returned compilation tally world =>
      refine ⟨.fetch i world, by simp, ?_⟩
      simp [act?, advance?_of_returned back present, Inquiry.fetched?]
  | unload | beginCompile | count | conclude =>
      refine ⟨.proceed i, by simp, ?_⟩
      simp [act?, advance?_of_returned back present, Inquiry.proceed?]

theorem steps_of_advances {traffic : Traffic κ} {inquiries : List Inquiry}
    (back : traffic.returned? inquiries.length = some returned)
    (advances : ReflTransGen
      (Inquiry.Advance collaborators table traffic.cache request returned) inquiry next) :
    ReflTransGen (Step collaborators table) ⟨traffic, inquiries ++ [inquiry]⟩
      ⟨traffic, inquiries ++ [next]⟩ := by
  induction advances with
  | refl => exact .refl
  | tail _ advance ih =>
      have step : Step collaborators table ⟨traffic, inquiries ++ [_]⟩ _ :=
        step_of_advance advance back List.getElem?_concat_length
      simp only [List.set_append_right _ _ (Nat.le_refl _), Nat.sub_self, List.set_cons_zero] at step
      exact ih.tail step

end Service

theorem Inquiry.advances_alone (collaborators : Collaborators σ κ) (table : Policies) (lead : Lead)
    (compiler : κ) (request : Request) (cache : Cache κ) (world : σ) :
    ∃ inquiry, ReflTransGen (Advance collaborators table cache request (.ok compiler))
        (new request) inquiry ∧
      inquiry.request = request ∧ inquiry.result = some
        (match (gather collaborators lead compiler request world).1 with
        | .error fault => .error fault
        | .ok (artifacts, code) => report table request artifacts code (.of cache)) := by
  have begun : ReflTransGen (Advance collaborators table cache request (.ok compiler))
      (new request) ⟨request, .running, .running, none, none⟩ :=
    .tail (.single (.beginCompile compiler .idle none)) (.beginFetch compiler .running none nofun)
  cases produced : collaborators.compile compiler request.sources optimize world with
  | mk compiled later =>
      have compile (retrieval : Work String) :
          Advance collaborators table cache request (.ok compiler)
            ⟨request, .running, retrieval, none, none⟩
            ⟨request, .done compiled, retrieval, none, failure? compiled⟩ := by
        have advance : Advance collaborators table cache request _ _ _ :=
          .compile compiler retrieval none world
        rwa [produced] at advance
      cases fetched : collaborators.code request.address later with
      | mk answer last =>
          have fetch (compilation : Work Artifacts) :
              Advance collaborators table cache request (.ok compiler)
                ⟨request, compilation, .running, none, none⟩
                ⟨request, compilation, .done answer, none, failure? answer⟩ := by
            have advance : Advance collaborators table cache request _ _ _ :=
              .fetch (.ok compiler) compilation none later
            rwa [fetched] at advance
          cases compiled with
          | ok artifacts =>
              have compiled := begun.tail (compile .running)
              cases answer with
              | error other =>
                  refine ⟨_, compiled.tail (fetch _), rfl, ?_⟩
                  simp [gather, produced, fetched, failure?]
              | ok code =>
                  have gathered := (compiled.tail (fetch _)).tail (.count compiler artifacts code)
                  refine ⟨_, gathered.tail (.conclude compiler artifacts code cache.tally), rfl, ?_⟩
                  simp [gather, produced, fetched, CacheCounts.of]
          | error fault =>
              have compiled := begun.tail (compile .running)
              cases hasty : collaborators.failsAtOnce compiler request.sources world with
              | true => exact ⟨_, compiled, rfl, by simp [gather, produced, hasty, failure?]⟩
              | false =>
                  cases answer with
                  | ok code =>
                      exact ⟨_, compiled, rfl, by simp [gather, produced, fetched, hasty, failure?]⟩
                  | error other =>
                      cases lead with
                      | compiler =>
                          refine ⟨_, compiled, rfl, ?_⟩
                          simp [gather, produced, fetched, hasty, failure?, Lead.choose]
                      | node =>
                          refine ⟨_, begun.tail (fetch .running), rfl, ?_⟩
                          simp [gather, produced, fetched, hasty, failure?, Lead.choose]

namespace Service

variable {capacity : Nat} {service : Service κ}

theorem verify_steps (reachable : Reachable collaborators table capacity service)
    (past : ∀ made ∈ service.traffic.calls, made.stage.isOver = true) (lead : Lead)
    (request : Request) (world : σ) :
    ∃ asked after inquiry, service.act? collaborators table (.ask request) = some asked ∧
      ReflTransGen (Step collaborators table) asked after ∧
      after.inquiries = service.inquiries ++ [inquiry] ∧ inquiry.request = request ∧
      inquiry.result =
        some (verify collaborators table lead request service.traffic.cache world).1 ∧
      after.traffic.cache =
        (verify collaborators table lead request service.traffic.cache world).2.1 := by
  obtain ⟨traffic, inquiries⟩ := service
  have orderly := orderly_reachable reachable
  obtain ⟨steps, ran, loads⟩ := orderly.ran
  have counted : inquiries.length = traffic.calls.length := by
    simpa using congrArg List.length orderly.labels.symm
  obtain ⟨last, went, cache, calls, loaded⟩ :=
    Traffic.undisturbed_entered collaborators.load world request.label traffic past
  -- The loads so far were answered by the loader, and so is the one that this call may begin.
  have answered (load : Nat) (label : String) (result : Except VerificationError κ)
      (found : last.loads[load]? = some ⟨label, .answered result⟩) :
      Loads collaborators label result := by
    have older (found : traffic.loads[load]? = some ⟨label, .answered result⟩) :
        Loads collaborators label result := by
      obtain ⟨call, invoked⟩ := (Traffic.accounted_follow ran).answered load label result found
      exact loads call label result invoked
    rcases loaded with same | more
    · exact older (same ▸ found)
    · rw [more, List.getElem?_append] at found
      split at found
      · exact older found
      · have new := List.mem_singleton.mp (List.mem_of_getElem? found)
        rw [Load.mk.injEq, Outcome.answered.injEq] at new
        obtain ⟨rfl, rfl⟩ := new
        exact ⟨world, rfl⟩
  have entered := Traffic.Reachable.step (Traffic.reachable_iff_follow.mpr ⟨steps, ran⟩)
    (.enter traffic request.label)
  have called : ReflTransGen (Step collaborators table)
      ⟨traffic.enter request.label, inquiries ++ [.new request]⟩
      ⟨last, inquiries ++ [.new request]⟩ :=
    steps_of_traffic entered went (by simp [calls, Traffic.enter]) answered _
  have back : last.returned? inquiries.length =
      some (traffic.cache.obtain collaborators.load request.label world).1 := by
    simp [Traffic.returned?_eq_some, Traffic.stage?, calls, counted]
  cases obtained : traffic.cache.obtain collaborators.load request.label world with
  | mk outcome rest =>
      obtain ⟨kept, begun⟩ := rest
      rw [obtained] at back cache
      cases outcome with
      | error fault =>
          have failed : ReflTransGen
              (Inquiry.Advance collaborators table last.cache request (.error fault))
              (.new request) ⟨request, .idle, .idle, none, some (.error fault)⟩ :=
            .single (.unload fault .idle .idle none)
          refine ⟨_, _, _, rfl, called.trans (steps_of_advances back failed), rfl, rfl, ?_, ?_⟩
          · rw [verify_of_unloaded obtained]
          · rw [verify_of_unloaded obtained]
            exact cache
      | ok compiler =>
          obtain ⟨inquiry, advances, own, result⟩ :=
            Inquiry.advances_alone collaborators table lead compiler request last.cache begun
          refine ⟨_, _, inquiry, rfl, called.trans (steps_of_advances back advances), rfl, own, ?_⟩
          obtain rfl : last.cache = kept := cache
          rw [result]
          simp only [verify, obtained]
          cases gather collaborators lead compiler request begun with
          | mk outcome later =>
              cases outcome with
              | error fault => exact ⟨rfl, rfl⟩
              | ok pair => exact ⟨rfl, rfl⟩

end Service

end Verification

end DeployCheck
