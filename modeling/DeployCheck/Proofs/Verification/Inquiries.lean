import DeployCheck.Proofs.Cache.Results
import DeployCheck.Proofs.Verification.Settled
import DeployCheck.Verification.Scripted
import DeployCheck.Verification.Service
/-!
What becomes of the inquiries of a service, in whatever order their steps and those of the cache
fall. What an inquiry has in hand is what its own collaborators answered to its own questions, and
its result is settled by that.
-/
namespace DeployCheck

theorem map_set_of_eq {α β : Type} (f : α → β) {list : List α} {i : Nat} {old new : α}
    (found : list[i]? = some old) (same : f new = f old) :
    (list.set i new).map f = list.map f := by
  refine List.ext_getElem? fun j => ?_
  rw [List.getElem?_map, List.getElem?_map]
  by_cases here : i = j
  · subst here
    rw [List.getElem?_set_self (List.getElem?_eq_some_iff.mp found).1, found]
    exact congrArg some same
  · rw [List.getElem?_set_ne here]

namespace Cache

variable {α : Type}

def Stage.returned? : Stage α → Option (Except VerificationError α)
  | returned result => some result
  | _ => none

namespace Traffic

variable {traffic next : Traffic α} {call : Nat} {label : String} {before after : Stage α}
  {cache : Cache α} {loads : List (Load α)} {action : Action α}
  {result : Except VerificationError α}

def returned? (traffic : Traffic α) (call : Nat) : Option (Except VerificationError α) :=
  (traffic.stage? call).bind Stage.returned?

theorem returned?_eq_some :
    traffic.returned? call = some result ↔ traffic.stage? call = some (.returned result) := by
  unfold returned?
  cases traffic.stage? call with
  | none => simp
  | some stage => cases stage <;> simp [Stage.returned?]

theorem Advance.returned?_before (advance : Advance traffic call label before after cache loads) :
    before.returned? = none := by
  cases advance <;> rfl

theorem returned?_act (acted : traffic.act? action = some next) (call : Nat) :
    traffic.returned? call = none ∨ next.returned? call = traffic.returned? call := by
  unfold returned? stage?
  cases present : traffic.calls[call]? with
  | none => exact Or.inl rfl
  | some made =>
      obtain ⟨label, stage⟩ := made
      rcases act_present acted present with same | ⟨after, cache, loads, -, advance, -⟩
      · rw [same]
        exact Or.inr rfl
      · exact Or.inl advance.returned?_before

theorem labels_advances (advances : traffic.Advances call next) :
    next.calls.map Call.label = traffic.calls.map Call.label := by
  obtain ⟨label, before, after, cache, loads, made, -, rfl⟩ := advances
  exact map_set_of_eq Call.label made rfl

end Traffic

end Cache

namespace Verification

open Cache

variable {σ κ : Type} {collaborators : Collaborators σ κ} {table : Policies} {request : Request}
  {cache : Cache κ} {returned : Except VerificationError κ} {inquiry next : Inquiry}

/-! ## One step of an inquiry -/

/-- An inquiry whose call of the cache has returned goes from one state to another. -/
inductive Inquiry.Advance (collaborators : Collaborators σ κ) (table : Policies)
    (cache : Cache κ) (request : Request) :
    Except VerificationError κ → Inquiry → Inquiry → Prop
  | unload (fault : VerificationError) (compilation : Work Artifacts) (retrieval : Work String)
    (tally : Option Tally) :
    Advance collaborators table cache request (.error fault)
      ⟨request, compilation, retrieval, tally, none⟩
      ⟨request, compilation, retrieval, tally, some (.error fault)⟩
  | beginCompile (compiler : κ) (retrieval : Work String) (tally : Option Tally) :
    Advance collaborators table cache request (.ok compiler)
      ⟨request, .idle, retrieval, tally, none⟩ ⟨request, .running, retrieval, tally, none⟩
  | beginFetch (compiler : κ) (compilation : Work Artifacts) (tally : Option Tally)
    (begun : compilation ≠ .idle) :
    Advance collaborators table cache request (.ok compiler)
      ⟨request, compilation, .idle, tally, none⟩ ⟨request, compilation, .running, tally, none⟩
  | count (compiler : κ) (artifacts : Artifacts) (code : String) :
    Advance collaborators table cache request (.ok compiler)
      ⟨request, .done (.ok artifacts), .done (.ok code), none, none⟩
      ⟨request, .done (.ok artifacts), .done (.ok code), some cache.tally, none⟩
  | conclude (compiler : κ) (artifacts : Artifacts) (code : String) (tally : Tally) :
    Advance collaborators table cache request (.ok compiler)
      ⟨request, .done (.ok artifacts), .done (.ok code), some tally, none⟩
      ⟨request, .done (.ok artifacts), .done (.ok code), some tally,
        some (report table request artifacts code ⟨tally, cache.entries.length⟩)⟩
  | compile (compiler : κ) (retrieval : Work String) (tally : Option Tally) (world : σ) :
    Advance collaborators table cache request (.ok compiler)
      ⟨request, .running, retrieval, tally, none⟩
      ⟨request, .done (collaborators.compile compiler request.sources optimize world).1, retrieval,
        tally, failure? (collaborators.compile compiler request.sources optimize world).1⟩
  | fetch (returned : Except VerificationError κ) (compilation : Work Artifacts)
    (tally : Option Tally) (world : σ) :
    Advance collaborators table cache request returned
      ⟨request, compilation, .running, tally, none⟩
      ⟨request, compilation, .done (collaborators.code request.address world).1, tally,
        failure? (collaborators.code request.address world).1⟩

namespace Inquiry

theorem advance_of_proceed (proceeded : inquiry.proceed? table cache returned = some next) :
    Advance collaborators table cache inquiry.request returned inquiry next := by
  obtain ⟨request, compilation, retrieval, tally, result⟩ := inquiry
  simp only [proceed?] at proceeded
  split at proceeded
  · cases proceeded
  · exact Option.some.inj proceeded ▸ .unload _ compilation retrieval tally
  · split at proceeded
    · exact Option.some.inj proceeded ▸ .beginCompile _ retrieval tally
    · rename_i begun
      exact Option.some.inj proceeded ▸ .beginFetch _ compilation tally begun
    · split at proceeded
      · exact Option.some.inj proceeded ▸ .count _ _ _
      · exact Option.some.inj proceeded ▸ .conclude _ _ _ _
    · cases proceeded

theorem compiled?_eq_some {outcome : Except VerificationError Artifacts}
    (ended : inquiry.compiled? outcome = some next) :
    inquiry.result = none ∧ inquiry.compilation = .running ∧
      next = { inquiry with compilation := .done outcome, result := failure? outcome } := by
  unfold compiled? at ended
  split at ended
  · rename_i unsettled running
    exact ⟨unsettled, running, (Option.some.inj ended).symm⟩
  · cases ended

theorem fetched?_eq_some {outcome : Except VerificationError String}
    (ended : inquiry.fetched? outcome = some next) :
    inquiry.result = none ∧ inquiry.retrieval = .running ∧
      next = { inquiry with retrieval := .done outcome, result := failure? outcome } := by
  unfold fetched? at ended
  split at ended
  · rename_i unsettled running
    exact ⟨unsettled, running, (Option.some.inj ended).symm⟩
  · cases ended

/-! ## What an inquiry has in hand -/

/-- An inquiry with what its call of the cache has returned, if it has. Work is begun only with a
compiler; it ends with what the collaborators answer to the questions of this very inquiry; a
failure is at once the result, and the result is settled by what the work has come to, whatever the
work that was given up would have come to. -/
structure Stands (collaborators : Collaborators σ κ) (table : Policies)
    (returned? : Option (Except VerificationError κ)) (inquiry : Inquiry) : Prop where
  begun : inquiry.compilation ≠ .idle → ∃ compiler, returned? = some (.ok compiler)
  ordered : inquiry.retrieval ≠ .idle → inquiry.compilation ≠ .idle
  compiled : ∀ outcome, inquiry.compilation = .done outcome → ∃ compiler world,
    returned? = some (.ok compiler) ∧
    (collaborators.compile compiler inquiry.request.sources optimize world).1 = outcome
  fetched : ∀ outcome, inquiry.retrieval = .done outcome → ∃ world,
    (collaborators.code inquiry.request.address world).1 = outcome
  undecided : inquiry.result = none → (∀ fault, inquiry.compilation ≠ .done (.error fault)) ∧
    ∀ fault, inquiry.retrieval ≠ .done (.error fault)
  settled : ∀ result, inquiry.result = some result → ∃ loaded, returned? = some loaded ∧
    ∀ compiled fetched, (∀ outcome, inquiry.compilation = .done outcome → outcome = compiled) →
      (∀ outcome, inquiry.retrieval = .done outcome → outcome = fetched) →
      Settled table inquiry.request loaded compiled fetched result

theorem stands_new (request : Request) (returned? : Option (Except VerificationError κ)) :
    Stands collaborators table returned? (new request) where
  begun := fun busy => absurd rfl busy
  ordered := fun busy => absurd rfl busy
  compiled := fun _ done => nomatch done
  fetched := fun _ done => nomatch done
  undecided := fun _ => ⟨fun _ => nofun, fun _ => nofun⟩
  settled := fun _ decided => nomatch decided

theorem Stands.of_none (stands : Stands collaborators table none inquiry)
    (returned? : Option (Except VerificationError κ)) :
    Stands collaborators table returned? inquiry where
  begun := fun busy => nomatch stands.begun busy
  ordered := stands.ordered
  compiled := by
  -- An inquiry whose call has not returned has nothing in hand, so it stands well whatever the
  -- call returns.
    intro outcome done
    obtain ⟨compiler, world, returned, -⟩ := stands.compiled outcome done
    cases returned
  fetched := stands.fetched
  undecided := stands.undecided
  settled := by
    intro result decided
    obtain ⟨loaded, returned, -⟩ := stands.settled result decided
    cases returned

theorem Stands.act {traffic later : Traffic κ} {step : Traffic.Action κ} {i : Nat}
    (stands : inquiry.Stands collaborators table (traffic.returned? i))
    (acted : traffic.act? step = some later) :
    inquiry.Stands collaborators table (later.returned? i) := by
  rcases Traffic.returned?_act acted i with none_yet | same
  · rw [none_yet] at stands
    exact stands.of_none _
  · rw [same]
    exact stands

theorem settled_of_fault {compiler : κ} {fault : VerificationError}
    {compiled : Except VerificationError Artifacts} {fetched : Except VerificationError String}
    (failed : compiled = .error fault ∨ fetched = .error fault) :
    Settled table request (.ok compiler : Except VerificationError κ) compiled fetched
      (.error fault) := by
  rcases failed with rfl | rfl
  · cases fetched with
    | ok code => rfl
    | error other => exact Or.inl rfl
  · cases compiled with
    | ok artifacts => rfl
    | error other => exact Or.inr rfl

theorem failure?_eq_some {α : Type} {outcome : Except VerificationError α}
    {result : Except VerificationError Report} (failed : failure? outcome = some result) :
    ∃ fault, outcome = .error fault ∧ result = .error fault := by
  cases outcome with
  | ok value => cases failed
  | error fault => exact ⟨fault, rfl, (Option.some.inj failed).symm⟩

theorem Advance.request_eq
    (advance : Advance collaborators table cache request returned inquiry next) :
    next.request = inquiry.request := by
  cases advance <;> rfl

theorem Stands.advance (stands : Stands collaborators table (some returned) inquiry)
    (advance : Advance collaborators table cache request returned inquiry next) :
    Stands collaborators table (some returned) next := by
  cases advance with
  | unload fault compilation retrieval tally =>
      refine ⟨stands.begun, stands.ordered, stands.compiled, stands.fetched, nofun, ?_⟩
      rintro result decided
      obtain rfl := Option.some.inj decided
      exact ⟨.error fault, rfl, fun _ _ _ _ => rfl⟩
  | beginCompile compiler retrieval tally =>
      refine ⟨fun _ => ⟨compiler, rfl⟩, fun _ => nofun, nofun, stands.fetched, ?_, nofun⟩
      exact fun unsettled => ⟨nofun, (stands.undecided unsettled).2⟩
  | beginFetch compiler compilation tally begun =>
      refine ⟨stands.begun, fun _ => begun, stands.compiled, nofun, ?_, nofun⟩
      exact fun unsettled => ⟨(stands.undecided unsettled).1, nofun⟩
  | count compiler artifacts code =>
      exact ⟨stands.begun, stands.ordered, stands.compiled, stands.fetched, stands.undecided, nofun⟩
  | conclude compiler artifacts code tally =>
      refine ⟨stands.begun, stands.ordered, stands.compiled, stands.fetched, nofun, ?_⟩
      rintro result decided
      obtain rfl := Option.some.inj decided
      refine ⟨.ok compiler, rfl, fun compiled fetched produced held => ?_⟩
      obtain rfl := produced _ rfl
      obtain rfl := held _ rfl
      exact ⟨judged_report table request artifacts code _, _, rfl⟩
  | compile compiler retrieval tally world =>
      refine ⟨fun _ => ⟨compiler, rfl⟩, fun _ => nofun, ?_, stands.fetched, ?_, ?_⟩
      · rintro outcome done
        obtain rfl := Work.done.inj done
        exact ⟨compiler, world, rfl, rfl⟩
      · refine fun unsettled => ⟨fun fault done => ?_, (stands.undecided rfl).2⟩
        rw [Work.done.inj done] at unsettled
        cases unsettled
      · rintro result decided
        obtain ⟨fault, failed, rfl⟩ := failure?_eq_some decided
        refine ⟨.ok compiler, rfl, fun compiled fetched produced _ => settled_of_fault (.inl ?_)⟩
        rw [← produced _ rfl, failed]
  | fetch returned compilation tally world =>
      refine ⟨stands.begun, fun _ => stands.ordered (by simp), stands.compiled, ?_, ?_, ?_⟩
      · rintro outcome done
        obtain rfl := Work.done.inj done
        exact ⟨world, rfl⟩
      · refine fun unsettled => ⟨(stands.undecided rfl).1, fun fault done => ?_⟩
        rw [Work.done.inj done] at unsettled
        cases unsettled
      · rintro result decided
        obtain ⟨fault, failed, rfl⟩ := failure?_eq_some decided
        -- The node is asked only after the compilation was begun, and so with a compiler.
        obtain ⟨compiler, same⟩ := stands.begun (stands.ordered (by simp))
        obtain rfl := Option.some.inj same
        refine ⟨.ok compiler, rfl, fun compiled fetched _ held => settled_of_fault (.inr ?_)⟩
        rw [← held _ rfl, failed]

theorem Stands.proceeds_or_runs (stands : Stands collaborators table (some returned) inquiry)
    (cache : Cache κ) (unsettled : inquiry.result = none) :
    (inquiry.proceed? table cache returned).isSome ∨
      (∃ compiler, returned = .ok compiler ∧ inquiry.compilation = .running) ∨
      inquiry.retrieval = .running := by
  obtain ⟨sound, whole⟩ := stands.undecided unsettled
  obtain ⟨request, compilation, retrieval, tally, result⟩ := inquiry
  obtain rfl : result = none := unsettled
  cases returned with
  | error fault => exact Or.inl rfl
  | ok compiler =>
      cases compilation with
      | idle => exact Or.inl rfl
      | running => exact Or.inr (Or.inl ⟨compiler, rfl, rfl⟩)
      | done outcome =>
          cases retrieval with
          | idle => exact Or.inl (by simp [proceed?])
          | running => exact Or.inr (Or.inr rfl)
          | done answer =>
              -- Neither has failed, or there would be a result.
              cases outcome with
              | error fault => exact absurd rfl (sound fault)
              | ok artifacts =>
                  cases answer with
                  | error fault => exact absurd rfl (whole fault)
                  | ok code => cases tally <;> exact Or.inl rfl

end Inquiry

namespace Service

variable {capacity i : Nat} {service after : Service κ} {action : Action σ}

/-! ## One step of a service -/

theorem advance?_eq_some {step : Except VerificationError κ → Inquiry → Option Inquiry}
    (advanced : service.advance? i step = some after) :
    ∃ returned inquiry next, service.traffic.returned? i = some returned ∧
      service.inquiries[i]? = some inquiry ∧ step returned inquiry = some next ∧
      after = { service with inquiries := service.inquiries.set i next } := by
  unfold advance? at advanced
  split at advanced
  · rename_i returned inquiry stage present
    obtain ⟨next, stepped, rfl⟩ := Option.map_eq_some_iff.mp advanced
    exact ⟨returned, inquiry, next, Traffic.returned?_eq_some.mpr stage, present, stepped, rfl⟩
  · cases advanced

def Loads (collaborators : Collaborators σ κ) (label : String)
    (result : Except VerificationError κ) : Prop :=
  ∃ world, (collaborators.load label world).1 = result

def Led (collaborators : Collaborators σ κ) (traffic : Traffic κ) (step : Traffic.Action κ) : Prop :=
  step.caller?.isSome ∧ ∀ call result, step = .answer call result → ∀ label stage,
    traffic.calls[call]? = some ⟨label, stage⟩ → Loads collaborators label result

theorem act_cases (acted : service.act? collaborators table action = some after) :
    (∃ request, action = .ask request ∧
      after = ⟨service.traffic.enter request.label, service.inquiries ++ [.new request]⟩) ∨
    (∃ step, Led collaborators service.traffic step ∧
      service.traffic.act? step = some after.traffic ∧ after.inquiries = service.inquiries) ∨
    ∃ (i : Nat) (returned : Except VerificationError κ) (inquiry next : Inquiry),
      service.traffic.returned? i = some returned ∧ service.inquiries[i]? = some inquiry ∧
      Inquiry.Advance collaborators table service.traffic.cache inquiry.request returned inquiry
        next ∧
      after = { service with inquiries := service.inquiries.set i next } := by
  cases action with
  | ask request => exact Or.inl ⟨request, rfl, (Option.some.inj acted).symm⟩
  | move call =>
      obtain ⟨traffic, moved, rfl⟩ := Option.map_eq_some_iff.mp acted
      exact Or.inr (Or.inl ⟨.move call, ⟨rfl, nofun⟩, moved, rfl⟩)
  | load call world =>
      obtain ⟨made, present, loaded⟩ := Option.bind_eq_some_iff.mp acted
      obtain ⟨traffic, answered, rfl⟩ := Option.map_eq_some_iff.mp loaded
      refine Or.inr (Or.inl ⟨.answer call _, ⟨rfl, ?_⟩, answered, rfl⟩)
      rintro _ _ ⟨⟩ label stage found
      rw [present, Option.some.injEq] at found
      exact ⟨world, by rw [found]⟩
  | proceed i =>
      obtain ⟨returned, inquiry, next, back, present, stepped, rfl⟩ := advance?_eq_some acted
      exact Or.inr (Or.inr ⟨i, returned, inquiry, next, back, present,
        Inquiry.advance_of_proceed stepped, rfl⟩)
  | compile i world =>
      obtain ⟨returned, inquiry, next, back, present, stepped, rfl⟩ := advance?_eq_some acted
      refine Or.inr (Or.inr ⟨i, returned, inquiry, next, back, present, ?_, rfl⟩)
      cases returned with
      | error fault => cases stepped
      | ok compiler =>
          obtain ⟨request, compilation, retrieval, tally, result⟩ := inquiry
          obtain ⟨rfl, rfl, rfl⟩ := Inquiry.compiled?_eq_some stepped
          exact .compile compiler retrieval tally world
  | fetch i world =>
      obtain ⟨returned, inquiry, next, back, present, stepped, rfl⟩ := advance?_eq_some acted
      obtain ⟨request, compilation, retrieval, tally, result⟩ := inquiry
      obtain ⟨rfl, rfl, rfl⟩ := Inquiry.fetched?_eq_some stepped
      exact Or.inr (Or.inr ⟨i, returned, _, _, back, present,
        .fetch returned compilation tally world, rfl⟩)

/-! ## All steps of a service -/

/-- What holds of a service between any two steps: its loads were answered by the loader, its calls
are for the labels of its inquiries, and every inquiry stands to its call as it should. -/
structure Orderly (collaborators : Collaborators σ κ) (table : Policies) (capacity : Nat)
    (service : Service κ) : Prop where
  ran : ∃ steps, (Traffic.idle capacity).follow? steps = some service.traffic ∧
    ∀ call label result, Traffic.Invoked capacity steps call label result →
      Loads collaborators label result
  labels : service.traffic.calls.map Call.label = service.inquiries.map (·.request.label)
  stands : ∀ (i : Nat) (inquiry : Inquiry), service.inquiries[i]? = some inquiry →
    inquiry.Stands collaborators table (service.traffic.returned? i)

theorem orderly_idle (collaborators : Collaborators σ κ) (table : Policies) (capacity : Nat) :
    Orderly collaborators table capacity (idle capacity) where
  ran := by
    refine ⟨[], rfl, ?_⟩
    rintro call label result ⟨earlier, later, -, -, -, split, -⟩
    simp at split
  labels := rfl
  stands := fun _ _ found => nomatch found

theorem Orderly.ran_concat (orderly : Orderly collaborators table capacity service)
    {step : Traffic.Action κ} {later : Traffic κ} (acted : service.traffic.act? step = some later)
    (led : ∀ call result, step = .answer call result → ∀ label stage,
      service.traffic.calls[call]? = some ⟨label, stage⟩ → Loads collaborators label result) :
    ∃ steps, (Traffic.idle capacity).follow? steps = some later ∧
      ∀ call label result, Traffic.Invoked capacity steps call label result →
        Loads collaborators label result := by
  obtain ⟨steps, ran, loads⟩ := orderly.ran
  refine ⟨steps ++ [step], Traffic.follow?_concat_eq_some.mpr ⟨_, ran, acted⟩, ?_⟩
  intro call label result invoked
  rcases Traffic.invoked_concat invoked with earlier | ⟨before, slot, load, same, again, loading⟩
  · exact loads call label result earlier
  · rw [ran, Option.some.injEq] at again
    subst again
    exact led call result same label _ loading

theorem Orderly.step (orderly : Orderly collaborators table capacity service)
    (acted : service.act? collaborators table action = some after) :
    Orderly collaborators table capacity after := by
  rcases act_cases acted with ⟨request, -, rfl⟩ | ⟨step, ⟨calling, led⟩, moved, same⟩ |
    ⟨i, returned, inquiry, next, back, present, advance, rfl⟩
  · have entered : service.traffic.act? (.enter request.label) =
        some (service.traffic.enter request.label) := rfl
    refine ⟨orderly.ran_concat entered nofun, ?_, ?_⟩
    · simp only [Traffic.enter, List.map_append, orderly.labels]
      rfl
    · intro j inquiry found
      rw [List.getElem?_append] at found
      split at found
      · exact (orderly.stands j inquiry found).act entered
      · obtain rfl := List.mem_singleton.mp (List.mem_of_getElem? found)
        exact Inquiry.stands_new request _
  · obtain ⟨call, caller⟩ := Option.isSome_iff_exists.mp calling
    refine ⟨orderly.ran_concat moved led, ?_, ?_⟩
    · rw [same, Traffic.labels_advances (Traffic.advances_of_act moved caller), orderly.labels]
    · intro j inquiry found
      rw [same] at found
      exact (orderly.stands j inquiry found).act moved
  · refine ⟨orderly.ran, ?_, ?_⟩
    · rw [orderly.labels, map_set_of_eq _ present (congrArg Request.label advance.request_eq)]
    · intro j other found
      by_cases same : i = j
      · subst same
        rw [List.getElem?_set_self (List.getElem?_eq_some_iff.mp present).1, Option.some.injEq] at found
        subst found
        have stands := orderly.stands i inquiry present
        rw [back] at stands ⊢
        exact stands.advance advance
      · rw [List.getElem?_set_ne same] at found
        exact orderly.stands j other found

def follow? (collaborators : Collaborators σ κ) (table : Policies) :
    Service κ → List (Action σ) → Option (Service κ)
  | service, [] => some service
  | service, action :: later =>
    (service.act? collaborators table action).bind (follow? collaborators table · later)

theorem reachable_follow {actions : List (Action σ)}
    (reachable : Reachable collaborators table capacity service)
    (ran : follow? collaborators table service actions = some after) :
    Reachable collaborators table capacity after := by
  induction actions generalizing service with
  | nil => exact Option.some.inj ran ▸ reachable
  | cons action later ih =>
      obtain ⟨between, acted, ranLater⟩ := Option.bind_eq_some_iff.mp ran
      exact ih (.step action reachable acted) ranLater

theorem orderly_reachable (reachable : Reachable collaborators table capacity service) :
    Orderly collaborators table capacity service := by
  induction reachable with
  | idle => exact orderly_idle collaborators table capacity
  | step action _ acted ih => exact ih.step acted

theorem Orderly.call (orderly : Orderly collaborators table capacity service)
    (present : service.inquiries[i]? = some inquiry) :
    ∃ stage, service.traffic.calls[i]? = some ⟨inquiry.request.label, stage⟩ := by
  have labels := congrArg (·[i]?) orderly.labels
  simp only [List.getElem?_map, present, Option.map_some] at labels
  obtain ⟨made, found, same⟩ := Option.map_eq_some_iff.mp labels
  exact ⟨made.stage, by rw [found, ← same]⟩

theorem Orderly.loads (orderly : Orderly collaborators table capacity service)
    (present : service.inquiries[i]? = some inquiry) {loaded : Except VerificationError κ}
    (back : service.traffic.returned? i = some loaded) :
    Loads collaborators inquiry.request.label loaded := by
  obtain ⟨steps, ran, loads⟩ := orderly.ran
  obtain ⟨stage, made⟩ := orderly.call present
  obtain rfl : stage = .returned loaded := by
    simpa [Traffic.stage?, made] using Traffic.returned?_eq_some.mp back
  cases loaded with
  | ok compiler =>
      obtain ⟨owner, origins⟩ :=
        Traffic.origins_reachable (Traffic.reachable_iff_follow.mpr ⟨steps, ran⟩)
      obtain ⟨other, invoked⟩ :=
        Traffic.invoked_of_brought ran ((origins.honest i _ made).taken compiler rfl)
      exact loads other _ _ invoked
  | error fault =>
      exact loads i _ _ ((Traffic.accounted_follow ran).failed i _ _ fault made rfl)

end Service

/-! ## Results -/

/-- A result of an inquiry, with all that it came from. What its call returned was the loader's
answer for its label; if that was a failure, neither the compiler nor the node was asked for
anything. What either of these came to was an answer to the inquiry's own question, and settles the
result together with what the other has come to or would have come to. -/
structure Inquiry.Concluded (collaborators : Collaborators σ κ) (table : Policies)
    (loaded : Except VerificationError κ) (inquiry : Inquiry)
    (result : Except VerificationError Report) : Prop where
  brought : Service.Loads collaborators inquiry.request.label loaded
  unasked : ∀ fault, loaded = .error fault →
    inquiry.compilation = .idle ∧ inquiry.retrieval = .idle
  compiled : ∀ outcome, inquiry.compilation = .done outcome → ∃ compiler world,
    loaded = .ok compiler ∧
    (collaborators.compile compiler inquiry.request.sources optimize world).1 = outcome
  fetched : ∀ outcome, inquiry.retrieval = .done outcome → ∃ world,
    (collaborators.code inquiry.request.address world).1 = outcome
  settled : ∀ compiled fetched,
    (∀ outcome, inquiry.compilation = .done outcome → outcome = compiled) →
    (∀ outcome, inquiry.retrieval = .done outcome → outcome = fetched) →
    Settled table inquiry.request loaded compiled fetched result

def Work.outcome {α : Type} : Work α → Except VerificationError α
  | .done outcome => outcome
  | .idle | .running => .error (.chainFetch "" "")

theorem Work.outcome_eq_ok {α : Type} {work : Work α} {value : α} :
    work.outcome = .ok value ↔ work = .done (.ok value) := by
  cases work <;> simp [outcome]

theorem Work.outcome_eq_error {α : Type} {work : Work α} {fault : VerificationError}
    (failed : work.outcome = .error fault) :
    work = .done (.error fault) ∨ fault = .chainFetch "" "" := by
  cases work with
  | done outcome => exact .inl (congrArg Work.done failed)
  | idle | running => exact .inr (Except.error.inj failed).symm

theorem Inquiry.Concluded.settled_outcomes {loaded : Except VerificationError κ}
    {result : Except VerificationError Report}
    (concluded : inquiry.Concluded collaborators table loaded result) :
    Settled table inquiry.request loaded inquiry.compilation.outcome inquiry.retrieval.outcome
      result := by
  refine concluded.settled _ _ ?_ ?_
  · rintro outcome done
    rw [done]
    rfl
  · rintro outcome done
    rw [done]
    rfl

namespace Service

variable {capacity i : Nat} {service after : Service κ}

theorem Orderly.concluded (orderly : Orderly collaborators table capacity service)
    (present : service.inquiries[i]? = some inquiry) {result : Except VerificationError Report}
    (decided : inquiry.result = some result) :
    ∃ loaded, service.traffic.returned? i = some loaded ∧
      inquiry.Concluded collaborators table loaded result := by
  have stands := orderly.stands i inquiry present
  obtain ⟨loaded, back, settled⟩ := stands.settled result decided
  rw [back] at stands
  refine ⟨loaded, back, orderly.loads present back, ?_, ?_, stands.fetched, settled⟩
  · rintro fault rfl
    have uncompiled : inquiry.compilation = .idle := by
      by_contra busy
      obtain ⟨compiler, same⟩ := stands.begun busy
      cases same
    exact ⟨uncompiled, by_contra fun busy => stands.ordered busy uncompiled⟩
  · intro outcome done
    obtain ⟨compiler, world, same, answer⟩ := stands.compiled outcome done
    exact ⟨compiler, world, Option.some.inj same, answer⟩

theorem advance?_of_returned (back : service.traffic.returned? i = some returned)
    (present : service.inquiries[i]? = some inquiry)
    (step : Except VerificationError κ → Inquiry → Option Inquiry) :
    service.advance? i step = (step returned inquiry).map fun next =>
      { service with inquiries := service.inquiries.set i next } := by
  simp only [advance?, Traffic.returned?_eq_some.mp back, present]

theorem advance?_bind (back : service.traffic.returned? i = some returned)
    (present : service.inquiries[i]? = some inquiry)
    (first second : Except VerificationError κ → Inquiry → Option Inquiry) :
    (service.advance? i first).bind (·.advance? i second) =
      ((first returned inquiry).bind (second returned)).map fun next =>
        { service with inquiries := service.inquiries.set i next } := by
  rw [advance?_of_returned back present]
  cases first returned inquiry with
  | none => rfl
  | some between =>
      have stays : (service.inquiries.set i between)[i]? = some between :=
        List.getElem?_set_self (List.getElem?_eq_some_iff.mp present).1
      let later : Service κ := { service with inquiries := service.inquiries.set i between }
      have still : later.traffic.returned? i = some returned := back
      have stepped := advance?_of_returned still stays second
      simp only [Option.map_some, Option.bind_some]
      exact stepped.trans (by simp only [later, List.set_set])

theorem compile_fetch_comm {compiler : κ} {artifacts : Artifacts} {code : String} {here there : σ}
    (back : service.traffic.returned? i = some (.ok compiler))
    (present : service.inquiries[i]? = some inquiry)
    (produced : (collaborators.compile compiler inquiry.request.sources optimize here).1 =
      .ok artifacts)
    (held : (collaborators.code inquiry.request.address there).1 = .ok code) :
    (service.act? collaborators table (.compile i here)).bind
        (act? collaborators table · (.fetch i there)) =
      (service.act? collaborators table (.fetch i there)).bind
        (act? collaborators table · (.compile i here)) := by
  obtain ⟨request, compilation, retrieval, tally, result⟩ := inquiry
  simp only [act?, advance?_bind back present]
  refine congrArg (Option.map _) ?_
  cases result with
  | some result => rfl
  | none =>
      cases compilation <;> cases retrieval <;>
        simp [Inquiry.compiled?, Inquiry.fetched?, Inquiry.failure?, produced, held]

theorem exists_advance (stands : inquiry.Stands collaborators table (some returned))
    (back : service.traffic.returned? i = some returned)
    (present : service.inquiries[i]? = some inquiry) (unsettled : inquiry.result = none)
    (world : σ) : ∃ action ∈ [Action.proceed i, .compile i world, .fetch i world],
      (service.act? collaborators table action).isSome := by
  rcases stands.proceeds_or_runs service.traffic.cache unsettled with
    proceeds | ⟨compiler, rfl, running⟩ | running
  · refine ⟨.proceed i, by simp, ?_⟩
    simpa [act?, advance?_of_returned back present] using proceeds
  · refine ⟨.compile i world, by simp, ?_⟩
    simp [act?, advance?_of_returned back present, Inquiry.compiled?, unsettled, running]
  · refine ⟨.fetch i world, by simp, ?_⟩
    simp [act?, advance?_of_returned back present, Inquiry.fetched?, unsettled, running]

/-- The outcome of a verification is settled by its load, its compilation and the node's answer: the
first failure of these is the result unchanged, a failed load leaves compiler and node unasked, and
if none of them fails, the artifacts and the code are judged. This holds of a verification by itself
and of every inquiry of a service under way, in whatever order its work ends; if both kinds of work
end well, their order makes no difference at all. -/
theorem outcome_settled (collaborators : Collaborators σ κ) (table : Policies) :
    (∀ lead request (cache later : Cache κ) (world begun : σ),
      (∀ fault,
        cache.obtain collaborators.load request.label world = (.error fault, later, begun) →
        verify collaborators table lead request cache world = (.error fault, later, begun)) ∧
      ∀ compiler,
        cache.obtain collaborators.load request.label world = (.ok compiler, later, begun) →
        Settled table request (.ok compiler : Except VerificationError κ)
          (collaborators.compile compiler request.sources optimize begun).1
          (collaborators.code request.address
            (collaborators.compile compiler request.sources optimize begun).2).1
          (verify collaborators table lead request cache world).1) ∧
    ∀ capacity service, Reachable collaborators table capacity service →
      ∀ (i : Nat) (inquiry : Inquiry), service.inquiries[i]? = some inquiry →
        (∀ result, inquiry.result = some result → ∃ loaded,
          service.traffic.returned? i = some loaded ∧
          inquiry.Concluded collaborators table loaded result) ∧
        ∀ loaded, service.traffic.returned? i = some loaded →
          (inquiry.result = none → ∀ world,
            ∃ action ∈ [Action.proceed i, .compile i world, .fetch i world],
              (service.act? collaborators table action).isSome) ∧
          ∀ compiler artifacts code here there, loaded = .ok compiler →
            (collaborators.compile compiler inquiry.request.sources optimize here).1 =
              .ok artifacts →
            (collaborators.code inquiry.request.address there).1 = .ok code →
            (service.act? collaborators table (.compile i here)).bind
                (act? collaborators table · (.fetch i there)) =
              (service.act? collaborators table (.fetch i there)).bind
                (act? collaborators table · (.compile i here)) := by
  refine ⟨fun lead request cache later world begun => ⟨?_, ?_⟩, ?_⟩
  · exact fun fault obtained => verify_of_unloaded obtained
  · exact fun compiler obtained => verify_settled table lead obtained
  · intro capacity service reachable i inquiry present
    have orderly := orderly_reachable reachable
    refine ⟨fun result decided => orderly.concluded present decided, fun loaded back => ⟨?_, ?_⟩⟩
    · intro unsettled world
      have stands := orderly.stands i inquiry present
      rw [back] at stands
      exact exists_advance stands back present unsettled world
    · rintro compiler artifacts code here there rfl produced held
      exact compile_fetch_comm back present produced held

end Service

def Script.silent (script : Script) : Collaborators Unit String where
  load label world := ((script.load label).1, world)
  compile compiler sources optimize world := ((script.compile compiler sources optimize).1, world)
  code address world := ((script.code address).1, world)
  failsAtOnce _ _ _ := false

def smallScript : Script :=
  ⟨["v0.1.0+x"], [("A.sol:A", "6080604052")], none, [("0x8d12", "0x6080604052")], [], [], []⟩

def smallRequest (label address : String) : Request :=
  ⟨[("A.sol", "contract A { }")], label, "A", "A.sol", address⟩

namespace Service

theorem outcome_settled_two :
    ∃ service, Reachable smallScript.silent .standard 1 service ∧
      (∃ inquiry report, service.inquiries[0]? = some inquiry ∧
        inquiry.result = some (.ok report) ∧ report.verified = true ∧
        inquiry.Concluded smallScript.silent .standard (.ok "v0.4.24+x") (.ok report)) ∧
      ∃ inquiry, service.inquiries[1]? = some inquiry ∧
        inquiry.result = some (.error (.compilerLoad "v0.1.0+x" "unknown version")) ∧
        inquiry.compilation = .idle ∧ inquiry.retrieval = .idle := by
  -- Two requests at once. The node answers the first one before its sources are compiled, and
  -- the compiler of the second one cannot be loaded.
  have ran : follow? smallScript.silent .standard (idle 1)
      (List.flatten
        [[.ask (smallRequest "v0.4.24+x" "0x8d12"), .ask (smallRequest "v0.1.0+x" "0x8d12")],
          .replicate 5 (.move 0), [.load 0 ()], .replicate 2 (.move 0),
          [.proceed 0, .proceed 0, .fetch 0 (), .compile 0 (), .proceed 0, .proceed 0],
          .replicate 5 (.move 1), [.load 1 ()], .replicate 3 (.move 1), [.proceed 1]]) =
        some _ := rfl
  have reachable := reachable_follow .idle ran
  obtain ⟨-, outcomes⟩ := outcome_settled smallScript.silent .standard
  obtain ⟨concluded, -⟩ := outcomes 1 _ reachable 0 _ rfl
  obtain ⟨failed, -⟩ := outcomes 1 _ reachable 1 _ rfl
  obtain ⟨loaded, back, first⟩ := concluded _ rfl
  obtain ⟨fault, gone, second⟩ := failed _ rfl
  obtain rfl := Option.some.inj back
  obtain rfl := Option.some.inj gone
  obtain ⟨idle, unasked⟩ := second.unasked _ rfl
  exact ⟨_, reachable, ⟨_, _, rfl, rfl, rfl, first⟩, ⟨_, rfl, rfl, idle, unasked⟩⟩

end Service

end Verification

end DeployCheck
