import DeployCheck.Cache.Basic
import DeployCheck.Proofs.Lookup
namespace DeployCheck.Cache

variable {α : Type} {cache next : Cache α} {label other : String} {slot : Nat} {handle : α}

theorem lookUp_found (looked : cache.lookUp label = (.found handle, next)) :
    (List.lookup label cache.entries = some handle ∧
      next = { cache with entries := (label, handle) :: cache.entries.filter (·.1 ≠ label) }) ∨
    (List.lookup label cache.entries = none ∧ (∃ slot, List.lookup label cache.pending = some slot ∧
      cache.slotValue slot = some handle) ∧ next = cache) := by
  unfold lookUp at looked
  cases kept : List.lookup label cache.entries with
  | some handle =>
      simp only [kept, Prod.mk.injEq, Lookup.found.injEq] at looked
      obtain ⟨rfl, rfl⟩ := looked
      exact Or.inl ⟨rfl, rfl⟩
  | none =>
      cases waiting : List.lookup label cache.pending with
      | none => simp [kept, waiting] at looked
      | some slot =>
          cases value : cache.slotValue slot with
          | none => simp [kept, waiting, value] at looked
          | some handle =>
              simp only [kept, waiting, value, Prod.mk.injEq, Lookup.found.injEq] at looked
              obtain ⟨rfl, rfl⟩ := looked
              exact Or.inr ⟨rfl, ⟨slot, rfl, value⟩, rfl⟩

theorem lookUp_missed (looked : cache.lookUp label = (.missed slot, next)) :
    List.lookup label cache.entries = none ∧
      ((List.lookup label cache.pending = some slot ∧ cache.slotValue slot = none ∧ next = cache) ∨
      (List.lookup label cache.pending = none ∧ slot = cache.slots.length ∧
        next = { cache with
          pending := (label, cache.slots.length) :: cache.pending
          slots := cache.slots ++ [none] })) := by
  unfold lookUp at looked
  cases kept : List.lookup label cache.entries with
  | some handle => simp [kept] at looked
  | none =>
      refine ⟨rfl, ?_⟩
      cases waiting : List.lookup label cache.pending with
      | none =>
          simp only [kept, waiting, Prod.mk.injEq, Lookup.missed.injEq] at looked
          obtain ⟨rfl, rfl⟩ := looked
          exact Or.inr ⟨rfl, rfl, rfl⟩
      | some taken =>
          cases value : cache.slotValue taken with
          | some handle => simp [kept, waiting, value] at looked
          | none =>
              simp only [kept, waiting, value, Prod.mk.injEq, Lookup.missed.injEq] at looked
              obtain ⟨rfl, rfl⟩ := looked
              exact Or.inl ⟨rfl, value, rfl⟩

/-! ## Slots -/

theorem slotValue_addSlot (pending : List (String × Nat)) (slot : Nat) :
    ({ cache with pending := pending, slots := cache.slots ++ [none] } : Cache α).slotValue slot =
      cache.slotValue slot := by
  unfold slotValue
  rw [List.getElem?_append]
  split
  · rfl
  · rename_i beyond
    rw [List.getElem?_eq_none (Nat.le_of_not_lt beyond)]
    cases slot - cache.slots.length <;> rfl

theorem slotValue_lt (filled : cache.slotValue slot = some handle) : slot < cache.slots.length := by
  by_contra beyond
  rw [slotValue, List.getElem?_eq_none (Nat.le_of_not_lt beyond)] at filled
  cases filled

theorem slotValue_fill_self (inside : slot < cache.slots.length) :
    (cache.fill slot handle).slotValue slot = some handle := by
  simp [slotValue, fill, inside]

theorem slotValue_fill_ne {place : Nat} (differs : place ≠ slot) :
    (cache.fill slot handle).slotValue place = cache.slotValue place := by
  simp [slotValue, fill, List.getElem?_set_ne differs.symm]

/-! ## The pending table -/

theorem lookup_forget :
    List.lookup other (cache.forget label).pending =
      if other = label then none else List.lookup other cache.pending :=
  lookup_filter_ne label other cache.pending

theorem adopt_of_owner (owner : List.lookup label cache.pending = some slot) :
    cache.adopt label slot handle = (cache.forget label).keep label handle :=
  if_pos owner

theorem adopt_of_not_owner (foreign : List.lookup label cache.pending ≠ some slot) :
    cache.adopt label slot handle = cache :=
  if_neg foreign

theorem release_cases (cache : Cache α) (label : String) (slot : Nat) (shared : Bool) :
    (List.lookup label cache.pending = some slot ∧ cache.slotValue slot = none ∧ shared = false ∧
      cache.release label slot shared = cache.forget label) ∨
    cache.release label slot shared = cache := by
  unfold release
  split
  · rename_i holds
    exact Or.inl ⟨holds.1, by simpa using holds.2.1, by simpa using holds.2.2, rfl⟩
  · exact Or.inr rfl

/-! ## Entries -/

theorem contains_iff : cache.contains label = true ↔ label ∈ cache.entries.map Prod.fst :=
  lookup_isSome_iff_mem

theorem mem_keep {entry : String × α} (member : entry ∈ (cache.keep label handle).entries) :
    entry = (label, handle) ∨ entry ∈ cache.entries := by
  rcases List.mem_cons.mp (List.mem_of_mem_take member) with same | older
  · exact Or.inl same
  · exact Or.inr (List.mem_of_mem_filter older)

theorem contains_keep (kept : (cache.keep label handle).contains other = true) :
    other = label ∨ cache.contains other = true := by
  obtain ⟨entry, member, rfl⟩ := List.mem_map.mp (contains_iff.mp kept)
  rcases mem_keep member with rfl | older
  · exact Or.inl rfl
  · exact Or.inr (contains_iff.mpr (List.mem_map.mpr ⟨entry, older, rfl⟩))

theorem nodup_front (distinct : (cache.entries.map Prod.fst).Nodup) :
    (((label, handle) :: cache.entries.filter (·.1 ≠ label)).map Prod.fst).Nodup := by
  rw [List.map_cons, List.nodup_cons]
  constructor
  · intro member
    obtain ⟨entry, kept, same⟩ := List.mem_map.mp member
    simp [same] at kept
  · exact distinct.sublist (List.filter_sublist.map Prod.fst)

theorem length_front (found : List.lookup label cache.entries = some handle) :
    ((label, handle) :: cache.entries.filter (·.1 ≠ label)).length ≤ cache.entries.length := by
  have shorter : (cache.entries.filter (·.1 ≠ label)).length < cache.entries.length :=
    List.length_filter_lt_length_iff_exists.mpr ⟨(label, handle), mem_of_lookup found, by simp⟩
  exact shorter

/-! ## Sound caches -/

structure Sound (capacity : Nat) (cache : Cache α) : Prop where
  capacity_eq : cache.capacity = capacity
  bound : cache.entries.length ≤ capacity
  distinct : (cache.entries.map Prod.fst).Nodup
  apart : ∀ label, cache.contains label = true → List.lookup label cache.pending = none
  made : ∀ label slot, List.lookup label cache.pending = some slot → slot < cache.slots.length

variable {capacity : Nat}

theorem sound_empty (capacity : Nat) : (empty capacity : Cache α).Sound capacity where
  capacity_eq := rfl
  bound := Nat.zero_le capacity
  distinct := List.nodup_nil
  apart := fun _ _ => rfl
  made := fun _ _ found => nomatch found

theorem Sound.lookUp (sound : cache.Sound capacity) {outcome : Lookup α}
    (looked : cache.lookUp label = (outcome, next)) : next.Sound capacity := by
  cases outcome with
  | found handle =>
      rcases lookUp_found looked with ⟨kept, rfl⟩ | ⟨-, -, rfl⟩
      · refine ⟨sound.capacity_eq, ?_, nodup_front sound.distinct, ?_, sound.made⟩
        · exact Nat.le_trans (length_front kept) sound.bound
        · intro other held
          apply sound.apart other
          rw [contains, lookup_cons_filter_ne] at held
          split at held
          · rename_i same
            rw [same, contains, kept]
            rfl
          · exact held
      · exact sound
  | missed slot =>
      obtain ⟨absent, ⟨-, -, rfl⟩ | ⟨-, -, rfl⟩⟩ := lookUp_missed looked
      · exact sound
      · refine ⟨sound.capacity_eq, sound.bound, sound.distinct, ?_, ?_⟩
        · intro other held
          have differs : other ≠ label := by
            rintro rfl
            change (List.lookup other cache.entries).isSome = true at held
            simp [absent] at held
          simpa [List.lookup_cons, beq_false_of_ne differs] using sound.apart other held
        · intro other slot found
          rw [List.lookup_cons] at found
          rw [List.length_append, List.length_singleton]
          split at found
          · rw [← Option.some.inj found]
            exact Nat.lt_succ_self _
          · exact Nat.lt_succ_of_lt (sound.made other slot found)

theorem Sound.fill (sound : cache.Sound capacity) (slot : Nat) (handle : α) :
    (cache.fill slot handle).Sound capacity :=
  ⟨sound.capacity_eq, sound.bound, sound.distinct, sound.apart,
    fun other place found => by simpa [Cache.fill] using sound.made other place found⟩

theorem Sound.forget (sound : cache.Sound capacity) (label : String) :
    (cache.forget label).Sound capacity := by
  refine ⟨sound.capacity_eq, sound.bound, sound.distinct, ?_, ?_⟩
  · intro other held
    rw [lookup_forget]
    split
    · rfl
    · exact sound.apart other held
  · intro other slot found
    rw [lookup_forget] at found
    split at found
    · cases found
    · exact sound.made other slot found

theorem Sound.keep (sound : cache.Sound capacity)
    (unpending : List.lookup label cache.pending = none) (handle : α) :
    (cache.keep label handle).Sound capacity := by
  refine ⟨sound.capacity_eq, ?_, ?_, ?_, sound.made⟩
  · exact Nat.le_trans (List.length_take_le _ _) (Nat.le_of_eq sound.capacity_eq)
  · exact (nodup_front sound.distinct).sublist ((List.take_sublist _ _).map Prod.fst)
  · intro other held
    rcases contains_keep held with rfl | older
    · exact unpending
    · exact sound.apart other older

theorem Sound.adopt (sound : cache.Sound capacity) (label : String) (slot : Nat) (handle : α) :
    (cache.adopt label slot handle).Sound capacity := by
  by_cases owner : List.lookup label cache.pending = some slot
  · rw [adopt_of_owner owner]
    exact (sound.forget label).keep (by simp [lookup_forget]) handle
  · rw [adopt_of_not_owner owner]
    exact sound

theorem Sound.release (sound : cache.Sound capacity) (label : String) (slot : Nat) (shared : Bool) :
    (cache.release label slot shared).Sound capacity := by
  rcases release_cases cache label slot shared with ⟨-, -, -, same⟩ | same
  · exact same ▸ sound.forget label
  · exact same.symm ▸ sound

end DeployCheck.Cache
