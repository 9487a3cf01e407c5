import DeployCheck.Proofs.Cache.Slots
namespace DeployCheck.Cache

variable {α : Type}

def Stage.isUncounted : Stage α → Bool
  | entered | found _ | missed _ => true
  | _ => false

def Stage.isQueued : Stage α → Bool
  | waiting _ | permitted _ => true
  | _ => false

def Stage.isBeginning : Stage α → Bool
  | counted _ => true
  | _ => false

def Stage.isOpen : Stage α → Bool
  | counted _ | loading .. | failed .. => true
  | _ => false

/-! ## Counters and the tables -/

section

variable {cache next : Cache α} {label : String} {slot : Nat}

theorem lookUp_tally {outcome : Lookup α} (looked : cache.lookUp label = (outcome, next)) :
    next.tally = cache.tally := by
  cases outcome with
  | found handle =>
      rcases lookUp_found looked with ⟨-, rfl⟩ | ⟨-, -, rfl⟩
      · rfl
      · rfl
  | missed slot =>
      obtain ⟨-, ⟨-, -, rfl⟩ | ⟨-, -, rfl⟩⟩ := lookUp_missed looked
      · rfl
      · rfl

theorem release_tally (cache : Cache α) (label : String) (slot : Nat) (shared : Bool) :
    (cache.release label slot shared).tally = cache.tally := by
  rcases release_cases cache label slot shared with ⟨-, -, -, same⟩ | same
  · rw [same]
    rfl
  · rw [same]

theorem adopt_tally (cache : Cache α) (label : String) (slot : Nat) (handle : α) :
    ∃ evictions, (cache.adopt label slot handle).tally = { cache.tally with evictions } := by
  by_cases owner : List.lookup label cache.pending = some slot
  · rw [adopt_of_owner owner]
    exact ⟨_, rfl⟩
  · rw [adopt_of_not_owner owner]
    exact ⟨_, rfl⟩

end

namespace Traffic

variable {capacity call : Nat} {traffic next : Traffic α} {label : String} {before after : Stage α}
  {cache : Cache α} {loads : List (Load α)}

def count (traffic : Traffic α) (kind : Stage α → Bool) : Nat :=
  traffic.calls.countP fun made => kind made.stage

theorem count_set (made : traffic.calls[call]? = some ⟨label, before⟩) (cache : Cache α)
    (after : Stage α) (loads : List (Load α)) (kind : Stage α → Bool) :
    (⟨cache, traffic.calls.set call ⟨label, after⟩, loads⟩ : Traffic α).count kind +
      (kind before).toNat = traffic.count kind + (kind after).toNat := by
  obtain ⟨inside, value⟩ := List.getElem?_eq_some_iff.mp made
  have positive : kind before = true → 0 < traffic.count kind := fun counted =>
    List.countP_pos_iff.mpr ⟨_, List.mem_of_getElem? made, counted⟩
  simp only [count] at positive ⊢
  rw [List.countP_set inside, value]
  cases was : kind before with
  | true =>
      have positive := positive was
      simp only [if_true, Bool.toNat_true]
      cases kind after <;> simp <;> omega
  | false => cases kind after <;> simp

theorem count_enter (traffic : Traffic α) (label : String) (kind : Stage α → Bool) :
    (traffic.enter label).count kind = traffic.count kind + (kind .entered).toNat := by
  simp only [count, enter, List.countP_append, List.countP_singleton]
  cases kind .entered <;> rfl

theorem count_eq_zero {kind : Stage α → Bool} (past : ∀ made ∈ traffic.calls, made.stage.isOver)
    (returned : ∀ result, kind (.returned result) = false) (cancelled : kind .cancelled = false) :
    traffic.count kind = 0 := by
  refine List.countP_eq_zero.mpr fun made member => ?_
  have ended := past made member
  cases stage : made.stage with
  | returned result => simp [returned]
  | cancelled => simp [cancelled]
  | _ => simp [stage, Stage.isOver] at ended

structure Balanced (traffic : Traffic α) : Prop where
  lookups : traffic.cache.tally.hits + traffic.cache.tally.misses +
    traffic.count Stage.isUncounted = traffic.calls.length
  begun : traffic.cache.tally.loads = traffic.loads.length + traffic.count Stage.isBeginning
  missed : traffic.cache.tally.loads + traffic.count Stage.isQueued ≤ traffic.cache.tally.misses

theorem balanced_idle (capacity : Nat) : Balanced (idle capacity : Traffic α) :=
  ⟨rfl, rfl, Nat.le_refl 0⟩

theorem Balanced.enter (balanced : Balanced traffic) (label : String) :
    Balanced (traffic.enter label) := by
  refine ⟨?_, ?_, ?_⟩
  · rw [count_enter]
    simp only [Traffic.enter, List.length_append, List.length_singleton]
    exact congrArg Nat.succ balanced.lookups
  · rw [count_enter]
    exact balanced.begun
  · rw [count_enter]
    exact balanced.missed

theorem Advance.counters (advance : Advance traffic call label before after cache loads) :
    cache.tally.hits + cache.tally.misses + after.isUncounted.toNat =
        traffic.cache.tally.hits + traffic.cache.tally.misses + before.isUncounted.toNat ∧
      cache.tally.loads + traffic.loads.length + before.isBeginning.toNat =
        traffic.cache.tally.loads + loads.length + after.isBeginning.toNat ∧
      cache.tally.loads + traffic.cache.tally.misses + after.isQueued.toNat ≤
        traffic.cache.tally.loads + cache.tally.misses + before.isQueued.toNat := by
  cases advance with
  | find _ _ looked | miss _ _ looked =>
      rw [lookUp_tally looked]
      exact ⟨rfl, rfl, Nat.le_refl _⟩
  | countHit handle =>
      refine ⟨?_, rfl, Nat.le_refl _⟩
      simp only [Cache.countHit, Stage.isUncounted, Bool.toNat_true, Bool.toNat_false]
      omega
  | countMiss slot =>
      refine ⟨rfl, rfl, ?_⟩
      simp only [Cache.countMiss, Stage.isQueued, Bool.toNat_true, Bool.toNat_false]
      omega
  | observe slot handle filled => exact ⟨rfl, rfl, Nat.le_succ _⟩
  | permit slot empty free => exact ⟨rfl, rfl, Nat.le_refl _⟩
  | countLoad slot =>
      refine ⟨rfl, ?_, ?_⟩
      · simp only [Cache.countLoad, Stage.isBeginning, Bool.toNat_true, Bool.toNat_false]
        omega
      · simp only [Cache.countLoad, Stage.isQueued, Bool.toNat_true, Bool.toNat_false]
        omega
  | begin slot =>
      refine ⟨rfl, ?_, Nat.le_refl _⟩
      simp only [Stage.isBeginning, List.length_append, List.length_singleton, Bool.toNat_true,
        Bool.toNat_false]
      omega
  | succeed slot load handle | fail slot load fault =>
      refine ⟨rfl, ?_, Nat.le_refl _⟩
      simp [setOutcome, Cache.fill, Stage.isBeginning]
  | adopt slot handle =>
      obtain ⟨evictions, same⟩ := adopt_tally traffic.cache label slot handle
      rw [same]
      exact ⟨rfl, rfl, Nat.le_refl _⟩
  | release slot fault =>
      rw [release_tally]
      exact ⟨rfl, rfl, Nat.le_refl _⟩
  | countFailure | leave => exact ⟨rfl, rfl, Nat.le_refl _⟩

theorem Balanced.advance (balanced : Balanced traffic) (advances : traffic.Advances call next) :
    Balanced next := by
  obtain ⟨label, before, after, cache, loads, made, advance, rfl⟩ := advances
  obtain ⟨lookups, begun, missed⟩ := advance.counters
  refine ⟨?_, ?_, ?_⟩
  · have counted := count_set made cache after loads Stage.isUncounted
    have earlier := balanced.lookups
    simp only [List.length_set]
    omega
  · have counted := count_set made cache after loads Stage.isBeginning
    have earlier := balanced.begun
    simp only
    omega
  · have counted := count_set made cache after loads Stage.isQueued
    have earlier := balanced.missed
    simp only
    omega

theorem balanced_reachable (reachable : Reachable capacity traffic) : Balanced traffic := by
  induction reachable with
  | idle => exact balanced_idle capacity
  | step _ step balanced =>
      rcases step_cases step with ⟨label, rfl⟩ | ⟨call, advances⟩
      · exact balanced.enter label
      · exact balanced.advance advances

end Traffic

end DeployCheck.Cache
