import DeployCheck.Proofs.Cache.Progress
import DeployCheck.Proofs.Verification.Alone
/-!
Verifications do not disturb one another. If the collaborators answer by what they are asked alone,
every inquiry of a service comes to what it would come to by itself with a fresh cache, whatever the
others miss, evict and fail at; and as long as no new inquiry is made, all of them come to an end.
-/
namespace DeployCheck.Verification

open Cache

variable {σ κ : Type} {collaborators : Collaborators σ κ} {table : Policies} {request : Request}
  {cache : Cache κ} {returned : Except VerificationError κ} {inquiry next : Inquiry}

/-- The answers do not depend on the world in which they are given. -/
structure Collaborators.Steady (collaborators : Collaborators σ κ) : Prop where
  load : ∀ label here there, (collaborators.load label here).1 = (collaborators.load label there).1
  compile : ∀ compiler sources optimize here there,
    (collaborators.compile compiler sources optimize here).1 =
      (collaborators.compile compiler sources optimize there).1
  code : ∀ address here there,
    (collaborators.code address here).1 = (collaborators.code address there).1

theorem Script.silent_steady (script : Script) : script.silent.Steady :=
  ⟨fun _ _ _ => rfl, fun _ _ _ _ _ => rfl, fun _ _ _ => rfl⟩

/-! ## The end of an inquiry -/

def Work.rank {α : Type} : Work α → Nat
  | idle => 2
  | running => 1
  | done _ => 0

def Inquiry.rank (inquiry : Inquiry) : Nat :=
  match inquiry.result with
  | some _ => 0
  | none =>
    inquiry.compilation.rank + inquiry.retrieval.rank + (if inquiry.tally.isNone then 2 else 1)

theorem Inquiry.rank_le (inquiry : Inquiry) : inquiry.rank ≤
    inquiry.compilation.rank + inquiry.retrieval.rank + (if inquiry.tally.isNone then 2 else 1) := by
  unfold rank
  split
  · exact Nat.zero_le _
  · exact Nat.le_refl _

theorem Inquiry.Advance.rank_lt
    (advance : Advance collaborators table cache request returned inquiry next) :
    next.rank < inquiry.rank := by
  cases advance with
  | unload | conclude =>
      simp only [Inquiry.rank]
      split <;> omega
  | beginCompile | beginFetch | count => simp [Inquiry.rank, Work.rank]
  | compile | fetch =>
      refine Nat.lt_of_le_of_lt (Inquiry.rank_le _) ?_
      simp [Inquiry.rank, Work.rank]

namespace Service

variable {capacity i : Nat} {service after : Service κ} {action : Action σ}

def remaining (service : Service κ) : Nat :=
  service.traffic.remaining + (service.inquiries.map Inquiry.rank).sum

theorem remaining_lt (acted : service.act? collaborators table action = some after)
    (nothing_asked : ∀ request, action ≠ .ask request) : after.remaining < service.remaining := by
  rcases act_cases acted with ⟨request, asked, -⟩ | ⟨step, ⟨calling, -⟩, moved, same⟩ |
    ⟨i, returned, inquiry, next, -, present, advance, rfl⟩
  · exact absurd asked (nothing_asked request)
  · obtain ⟨call, caller⟩ := Option.isSome_iff_exists.mp calling
    have closer := (Traffic.advances_of_act moved caller).remaining_lt
    rw [remaining, remaining, same]
    omega
  · have balance := sum_map_set Inquiry.rank present next
    have closer := advance.rank_lt
    simp only [remaining]
    omega

theorem exists_act (reachable : Reachable collaborators table capacity service)
    (present : service.inquiries[i]? = some inquiry) (unsettled : inquiry.result = none)
    (world : σ) : ∃ action, (∀ request, action ≠ .ask request) ∧
      (service.act? collaborators table action).isSome := by
  have orderly := orderly_reachable reachable
  have stands := orderly.stands i inquiry present
  cases back : service.traffic.returned? i with
  | some loaded =>
      rw [back] at stands
      obtain ⟨action, member, acts⟩ := exists_advance stands back present unsettled world
      refine ⟨action, ?_, acts⟩
      rintro request rfl
      simp at member
  | none =>
      obtain ⟨steps, ran, -⟩ := orderly.ran
      obtain ⟨stage, made⟩ := orderly.call present
      have kept : stage ≠ .cancelled :=
        Traffic.uncancelled (Traffic.reachable_iff_follow.mpr ⟨steps, ran⟩) made
      have unfinished : stage.isOver = false := by
        cases stage with
        | returned loaded => simp [Traffic.returned?, Traffic.stage?, made, Stage.returned?] at back
        | cancelled => exact absurd rfl kept
        | _ => rfl
      -- The step may be another caller's, whom this one waits for.
      rcases Traffic.exists_move_or_loading made unfinished with
        ⟨mover, moves⟩ | ⟨caller, own, slot, load, loading⟩
      · exact ⟨.move mover, by simp, by simpa [act?] using moves⟩
      · have answers := Traffic.answer?_isSome loading (collaborators.load own world).1
        exact ⟨.load caller world, by simp, by simpa [act?, loading] using answers⟩

theorem length_le_remaining {actions : List (Action σ)}
    (ran : follow? collaborators table service actions = some after)
    (nothing_asked : ∀ request, .ask request ∉ actions) :
    actions.length + after.remaining ≤ service.remaining := by
  induction actions generalizing service with
  | nil =>
      obtain rfl := Option.some.inj ran
      simp
  | cons action later ih =>
      obtain ⟨between, acted, ranLater⟩ := Option.bind_eq_some_iff.mp ran
      have first := remaining_lt acted fun request same => nothing_asked request (by simp [same])
      have rest := ih ranLater fun request member => nothing_asked request (by simp [member])
      rw [List.length_cons]
      omega

end Service

/-! ## Two answers to one request -/

/-- Two answers to a request are the same but for the counters of the cache, or both its compilation
and its retrieval fail, and each answer is one of these two failures. -/
def Alike (collaborators : Collaborators σ κ) (world : σ) (request : Request)
    (result other : Except VerificationError Report) : Prop :=
  result.map Report.withoutCounts = other.map Report.withoutCounts ∨
    ∃ compiler fault missing, (collaborators.load request.label world).1 = .ok compiler ∧
      (collaborators.compile compiler request.sources optimize world).1 = .error fault ∧
      (collaborators.code request.address world).1 = .error missing ∧
      (result = .error fault ∨ result = .error missing) ∧
      (other = .error fault ∨ other = .error missing)

theorem obtain_empty (capacity : Nat) {load : String → σ → Except VerificationError κ × σ}
    {label : String} {world later : σ} {loaded : Except VerificationError κ}
    (answered : load label world = (loaded, later)) :
    ∃ cache, (Cache.empty capacity).obtain load label world = (loaded, cache, later) := by
  simp only [Cache.obtain, Cache.lookUp, Cache.empty, List.lookup_nil, answered]
  cases loaded with
  | ok handle => exact ⟨_, rfl⟩
  | error fault => exact ⟨_, rfl⟩

section

variable (steady : collaborators.Steady) {result : Except VerificationError Report}

include steady

theorem Inquiry.Concluded.settled_in {compiler : κ}
    (concluded : inquiry.Concluded collaborators table (.ok compiler) result) (here there : σ) :
    Settled table inquiry.request (.ok compiler : Except VerificationError κ)
      (collaborators.compile compiler inquiry.request.sources optimize here).1
      (collaborators.code inquiry.request.address there).1 result := by
  -- Each piece of work was done in some world, and would have ended so in any other.
  refine concluded.settled _ _ (fun outcome done => ?_) fun outcome done => ?_
  · obtain ⟨other, world, same, rfl⟩ := concluded.compiled outcome done
    obtain rfl := Except.ok.inj same
    exact steady.compile compiler _ _ world here
  · obtain ⟨world, rfl⟩ := concluded.fetched outcome done
    exact steady.code _ world there

theorem alike_alone {loaded : Except VerificationError κ}
    (concluded : inquiry.Concluded collaborators table loaded result) (capacity : Nat) (lead : Lead)
    (world : σ) : Alike collaborators world inquiry.request result
      (verify collaborators table lead inquiry.request (.empty capacity) world).1 := by
  obtain ⟨elsewhere, brought⟩ := concluded.brought
  rw [steady.load _ elsewhere world] at brought
  obtain ⟨cache, obtained⟩ := obtain_empty capacity (Prod.ext brought rfl)
  cases loaded with
  | error fault =>
      rw [verify_of_unloaded obtained]
      obtain ⟨idle, unasked⟩ := concluded.unasked fault rfl
      have unchanged : result = .error fault :=
        concluded.settled (.error fault) (.error fault) (by simp [idle]) (by simp [unasked])
      exact Or.inl (congrArg _ unchanged)
  | ok compiler =>
      have alone := verify_settled table lead obtained
      rw [steady.compile _ _ _ _ world, steady.code _ _ world] at alone
      rcases (concluded.settled_in steady world world).alike alone with
        same | ⟨handle, fault, missing, given, failed, unheld, mine, yours⟩
      · exact Or.inl same
      · obtain rfl := Except.ok.inj given
        exact Or.inr ⟨compiler, fault, missing, brought, failed, unheld, mine, yours⟩

end

namespace Service

variable {capacity i : Nat} {service : Service κ}

/-- Inquiries are isolated from one another. If the answers of the collaborators depend on nothing
but the questions, an inquiry comes to what it would come to alone with a fresh cache, and there a
service with no other inquiry comes to just that. Every run without new inquiries comes to an end,
and it can go on as long as any inquiry is without result. -/
theorem isolated (steady : collaborators.Steady)
    (reachable : Reachable collaborators table capacity service) :
    (∀ (i : Nat) (inquiry : Inquiry) (result : Except VerificationError Report),
      service.inquiries[i]? = some inquiry → inquiry.result = some result →
      ∀ (fresh : Nat) (lead : Lead) (world : σ),
        Alike collaborators world inquiry.request result
          (verify collaborators table lead inquiry.request (.empty fresh) world).1 ∧
        ∃ (other : Service κ) (alone : Inquiry), Reachable collaborators table fresh other ∧
          other.inquiries = [alone] ∧ alone.request = inquiry.request ∧ alone.result =
            some (verify collaborators table lead inquiry.request (.empty fresh) world).1) ∧
    ∀ (actions : List (Action σ)) (last : Service κ), (∀ request, .ask request ∉ actions) →
      follow? collaborators table service actions = some last →
      actions.length ≤ service.remaining ∧
      ∀ inquiry ∈ last.inquiries, inquiry.result = none → Nonempty σ → ∃ action : Action σ,
        (∀ request, action ≠ .ask request) ∧ (last.act? collaborators table action).isSome := by
  constructor
  · intro i inquiry result present decided fresh lead world
    obtain ⟨loaded, -, concluded⟩ := (orderly_reachable reachable).concluded present decided
    refine ⟨alike_alone steady concluded fresh lead world, ?_⟩
    have empty : Reachable collaborators table fresh (idle fresh) := .idle
    obtain ⟨asked, after, alone, acted, steps, only, own, same, -⟩ :=
      verify_steps empty nofun lead inquiry.request world
    exact ⟨after, alone, reachable_of_steps (.step _ empty acted) steps, only, own, same⟩
  · intro actions last nothing_asked ran
    have bound := length_le_remaining ran nothing_asked
    refine ⟨by omega, fun inquiry member unsettled ⟨world⟩ => ?_⟩
    obtain ⟨i, present⟩ := List.getElem?_of_mem member
    exact exists_act (reachable_follow reachable ran) present unsettled world

theorem isolated_three :
    ∃ service : Service String, Reachable smallScript.silent .standard 1 service ∧
      service.traffic.cache.tally = ⟨0, 3, 3, 1, 1⟩ ∧
      (service.inquiries.map fun inquiry => inquiry.result.map fun result =>
        result.map Report.verified) =
        [some (.ok true), some (.error (.compilerLoad "v0.1.0+x" "unknown version")),
          some (.error (.chainFetch "0x0" "no such account in mock chain"))] ∧
      ∀ (i : Nat) (inquiry : Inquiry) (result : Except VerificationError Report),
        service.inquiries[i]? = some inquiry → inquiry.result = some result →
        Alike smallScript.silent () inquiry.request result
          (verify smallScript.silent .standard .node inquiry.request (.empty 1) ()).1 := by
  -- Three requests at once and room for one compiler. The load of the second one fails, the
  -- first one has the compiler of the third one evicted, and the node has no code for the third
  -- one.
  have ran : follow? smallScript.silent .standard (idle 1)
      (List.flatten
        [[.ask (smallRequest "v0.4.24+x" "0x8d12"), .ask (smallRequest "v0.1.0+x" "0x8d12"),
            .ask (smallRequest "v0.4.25+x" "0x0")],
          .replicate 5 (.move 0), .replicate 5 (.move 1), .replicate 5 (.move 2),
          [.load 1 (), .load 2 (), .load 0 ()],
          .replicate 2 (.move 2), .replicate 2 (.move 0), .replicate 3 (.move 1),
          [.proceed 2, .proceed 2, .proceed 0, .proceed 0, .proceed 1, .fetch 2 (), .compile 0 (),
            .fetch 0 (), .proceed 0, .proceed 0]]) = some _ := rfl
  have reachable := reachable_follow .idle ran
  obtain ⟨alike, -⟩ := isolated smallScript.silent_steady reachable
  refine ⟨_, reachable, rfl, rfl, fun i inquiry result present decided => ?_⟩
  exact (alike i inquiry result present decided 1 .node ()).1

end Service

end DeployCheck.Verification
