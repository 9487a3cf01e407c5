import DeployCheck.Text.Search
import Mathlib.Data.List.Basic
namespace DeployCheck.Text

variable {pattern text rest : List Char} {c : Char} {n k : Nat}

/-! ## Occurrences -/

theorem occursAt_nil : OccursAt pattern [] n ↔ n = 0 ∧ pattern = [] := by
  simp [OccursAt]

theorem occursAt_cons_zero :
    OccursAt pattern (c :: rest) 0 ↔ pattern.isPrefixOf (c :: rest) = true := by
  simp [OccursAt]

theorem occursAt_cons_succ : OccursAt pattern (c :: rest) (n + 1) ↔ OccursAt pattern rest n := by
  simp [OccursAt]

theorem occursAt_zero : OccursAt pattern text 0 ↔ pattern <+: text := by
  simp [OccursAt]

theorem OccursAt.length_le (occurs : OccursAt pattern text n) :
    n + pattern.length ≤ text.length := by
  have fits := occurs.2.length_le
  have inside := occurs.1
  rw [List.length_drop] at fits
  omega

theorem occursAt_take : OccursAt pattern (text.take k) n ↔
    OccursAt pattern text n ∧ n + pattern.length ≤ k := by
  constructor
  · intro occurs
    have fits := occurs.length_le
    rw [List.length_take] at fits
    refine ⟨⟨by omega, ?_⟩, by omega⟩
    rw [← List.take_append_drop k text, List.drop_append_of_le_length occurs.1]
    exact occurs.2.trans (List.prefix_append _ _)
  · rintro ⟨occurs, inside⟩
    have fits := occurs.length_le
    refine ⟨by rw [List.length_take]; omega, ?_⟩
    rw [List.drop_take]
    exact List.prefix_take_iff.mpr ⟨occurs.2, by omega⟩

/-! ## The first one -/

theorem firstOccurrence_eq_none :
    firstOccurrence pattern text = none ↔ ∀ n, ¬ OccursAt pattern text n := by
  induction text with
  | nil => simp [firstOccurrence, occursAt_nil]
  | cons c rest ih =>
      rw [firstOccurrence]
      constructor
      · intro missing
        split at missing
        · cases missing
        · rename_i absent
          intro n occurs
          cases n with
          | zero => exact absent (occursAt_cons_zero.mp occurs)
          | succ n =>
              rw [Option.map_eq_none_iff] at missing
              exact ih.mp missing n (occursAt_cons_succ.mp occurs)
      · intro missing
        have absent : ¬ pattern.isPrefixOf (c :: rest) = true := fun found =>
          missing 0 (occursAt_cons_zero.mpr found)
        rw [if_neg absent, Option.map_eq_none_iff]
        exact ih.mpr fun n occurs => missing (n + 1) (occursAt_cons_succ.mpr occurs)

theorem firstOccurrence_least (found : firstOccurrence pattern text = some n) :
    OccursAt pattern text n ∧ ∀ m < n, ¬ OccursAt pattern text m := by
  induction text generalizing n with
  | nil =>
      rw [firstOccurrence] at found
      split at found
      · rename_i empty
        obtain rfl := Option.some.inj found
        exact ⟨occursAt_nil.mpr ⟨rfl, empty⟩, fun m below => absurd below (Nat.not_lt_zero m)⟩
      · cases found
  | cons c rest ih =>
      rw [firstOccurrence] at found
      split at found
      · rename_i here
        obtain rfl := Option.some.inj found
        refine ⟨occursAt_cons_zero.mpr here, fun m below => ?_⟩
        exact absurd below (Nat.not_lt_zero m)
      · rename_i absent
        obtain ⟨m, later, rfl⟩ := Option.map_eq_some_iff.mp found
        obtain ⟨occurs, least⟩ := ih later
        refine ⟨occursAt_cons_succ.mpr occurs, fun k below earlier => ?_⟩
        cases k with
        | zero => exact absent (occursAt_cons_zero.mp earlier)
        | succ k => exact least k (Nat.lt_of_succ_lt_succ below) (occursAt_cons_succ.mp earlier)

theorem firstOccurrence_eq_some : firstOccurrence pattern text = some n ↔
    OccursAt pattern text n ∧ ∀ m < n, ¬ OccursAt pattern text m := by
  constructor
  · exact firstOccurrence_least
  · rintro ⟨occurs, least⟩
    cases found : firstOccurrence pattern text with
    | none => exact absurd occurs (firstOccurrence_eq_none.mp found n)
    | some m =>
        obtain ⟨other, bottom⟩ := firstOccurrence_least found
        have lower : ¬ m < n := fun below => least m below other
        have upper : ¬ n < m := fun below => bottom n below occurs
        rw [show m = n by omega]

/-! ## The last one -/

theorem lastOccurrence_eq_none :
    lastOccurrence pattern text = none ↔ ∀ n, ¬ OccursAt pattern text n := by
  induction text with
  | nil => simp [lastOccurrence, occursAt_nil]
  | cons c rest ih =>
      rw [lastOccurrence]
      constructor
      · intro missing n occurs
        cases later : lastOccurrence pattern rest with
        | some offset => simp [later] at missing
        | none =>
            cases n with
            | zero =>
                have here := occursAt_cons_zero.mp occurs
                simp [later, here] at missing
            | succ n => exact ih.mp later n (occursAt_cons_succ.mp occurs)
      · intro missing
        have later : lastOccurrence pattern rest = none :=
          ih.mpr fun n occurs => missing (n + 1) (occursAt_cons_succ.mpr occurs)
        have absent : ¬ pattern.isPrefixOf (c :: rest) = true := fun found =>
          missing 0 (occursAt_cons_zero.mpr found)
        rw [later]
        exact if_neg absent

theorem lastOccurrence_greatest (found : lastOccurrence pattern text = some n) :
    OccursAt pattern text n ∧ ∀ m, OccursAt pattern text m → m ≤ n := by
  induction text generalizing n with
  | nil =>
      rw [lastOccurrence] at found
      split at found
      · rename_i empty
        obtain rfl := Option.some.inj found
        refine ⟨occursAt_nil.mpr ⟨rfl, empty⟩, fun m occurs => ?_⟩
        exact Nat.le_of_eq (occursAt_nil.mp occurs).1
      · cases found
  | cons c rest ih =>
      rw [lastOccurrence] at found
      cases later : lastOccurrence pattern rest with
      | some offset =>
          rw [later] at found
          obtain rfl := Option.some.inj found
          obtain ⟨occurs, bound⟩ := ih later
          refine ⟨occursAt_cons_succ.mpr occurs, fun m other => ?_⟩
          cases m with
          | zero => exact Nat.zero_le _
          | succ m => exact Nat.succ_le_succ (bound m (occursAt_cons_succ.mp other))
      | none =>
          simp only [later] at found
          split at found
          · rename_i here
            obtain rfl := Option.some.inj found
            refine ⟨occursAt_cons_zero.mpr here, fun m other => ?_⟩
            cases m with
            | zero => exact Nat.le_refl 0
            | succ m =>
                exact absurd (occursAt_cons_succ.mp other) (lastOccurrence_eq_none.mp later m)
          · cases found

theorem lastOccurrence_eq_some : lastOccurrence pattern text = some n ↔
    OccursAt pattern text n ∧ ∀ m, OccursAt pattern text m → m ≤ n := by
  constructor
  · exact lastOccurrence_greatest
  · rintro ⟨occurs, bound⟩
    cases found : lastOccurrence pattern text with
    | none => exact absurd occurs (lastOccurrence_eq_none.mp found n)
    | some m =>
        obtain ⟨other, top⟩ := lastOccurrence_greatest found
        rw [Nat.le_antisymm (bound m other) (top n occurs)]

end DeployCheck.Text
