import DeployCheck.Proofs.Text.Digits
import DeployCheck.Proofs.Text.Occurrences
import DeployCheck.Region
namespace DeployCheck.Region

open Text

variable {markers : Markers} {text : List Char} {n : Nat}

def stopOffset (markers : Markers) (text : List Char) : Nat :=
  (locate markers text).2.getD text.length

theorem stopOffset_of_none (missing : firstOccurrence markers.stop (lower text) = none) :
    stopOffset markers text = text.length := by
  simp [stopOffset, locate, missing]

theorem stopOffset_of_some (found : firstOccurrence markers.stop (lower text) = some n) :
    stopOffset markers text = n := by
  simp [stopOffset, locate, found]

theorem stopOffset_le : stopOffset markers text ≤ text.length := by
  cases found : firstOccurrence markers.stop (lower text) with
  | none => exact Nat.le_of_eq (stopOffset_of_none found)
  | some n =>
      rw [stopOffset_of_some found, ← length_lower]
      exact (firstOccurrence_least found).1.1

def window (markers : Markers) (text : List Char) : Nat :=
  match firstOccurrence markers.stop (lower text) with
  | some offset => min (offset + markers.start.length - 1) (lower text).length
  | none => (lower text).length

theorem window_le : window markers text ≤ text.length := by
  cases found : firstOccurrence markers.stop (lower text) with
  | none => simp [window, found]
  | some offset => simp [window, found]

theorem locate_start : (locate markers text).1 =
    lastOccurrence markers.start ((lower text).take (window markers text)) :=
  rfl

theorem occursAt_window (full : markers.start ≠ []) :
    OccursAt markers.start ((lower text).take (window markers text)) n ↔
      OccursAt markers.start (lower text) n ∧ n < stopOffset markers text := by
  rw [occursAt_take, and_congr_right_iff]
  intro occurs
  have fits := occurs.length_le
  have positive := List.length_pos_iff.mpr full
  rw [length_lower] at fits
  cases found : firstOccurrence markers.stop (lower text) with
  | none =>
      have whole : window markers text = text.length := by simp [window, found]
      rw [stopOffset_of_none found, whole]
      omega
  | some offset =>
      have bounded : window markers text = min (offset + markers.start.length - 1) text.length := by
        simp [window, found]
      rw [stopOffset_of_some found, bounded]
      omega

theorem locate_start_eq_none (full : markers.start ≠ []) : (locate markers text).1 = none ↔
    ∀ n < stopOffset markers text, ¬ OccursAt markers.start (lower text) n := by
  rw [locate_start, lastOccurrence_eq_none]
  simp only [occursAt_window full]
  exact ⟨fun missing n below occurs => missing n ⟨occurs, below⟩,
    fun missing n found => missing n found.2 found.1⟩

theorem locate_start_eq_some (full : markers.start ≠ []) : (locate markers text).1 = some n ↔
    OccursAt markers.start (lower text) n ∧ n < stopOffset markers text ∧
      ∀ m < stopOffset markers text, OccursAt markers.start (lower text) m → m ≤ n := by
  rw [locate_start, lastOccurrence_eq_some]
  simp only [occursAt_window full]
  constructor
  · rintro ⟨⟨occurs, below⟩, last⟩
    exact ⟨occurs, below, fun m inside other => last m ⟨other, inside⟩⟩
  · rintro ⟨occurs, below, last⟩
    exact ⟨⟨occurs, below⟩, fun m found => last m found.2 found.1⟩

/-! ## Empty start markers -/

theorem locate_start_of_empty (empty : markers.start = []) :
    (locate markers text).1 = some (window markers text) := by
  have inside : window markers text ≤ (lower text).length := by
    rw [length_lower]
    exact window_le
  have length : ((lower text).take (window markers text)).length = window markers text := by
    rw [List.length_take, Nat.min_eq_left inside]
  rw [locate_start, empty, lastOccurrence_eq_some]
  exact ⟨⟨Nat.le_of_eq length.symm, List.nil_prefix⟩, fun m occurs => length ▸ occurs.1⟩

theorem window_of_empty (empty : markers.start = []) : window markers text =
    if (locate markers text).2.isSome then stopOffset markers text - 1
    else stopOffset markers text := by
  have bounded : stopOffset markers text ≤ text.length := stopOffset_le
  have same : (locate markers text).2 = firstOccurrence markers.stop (lower text) := rfl
  rw [same]
  cases found : firstOccurrence markers.stop (lower text) with
  | none =>
      rw [stopOffset_of_none found]
      simp [window, found]
  | some offset =>
      rw [stopOffset_of_some found] at bounded ⊢
      simp only [window, found, empty, List.length_nil, length_lower, Option.isSome_some, if_true]
      omega

theorem start_le_stopOffset : (locate markers text).1.getD 0 ≤ stopOffset markers text := by
  by_cases empty : markers.start = []
  · rw [locate_start_of_empty empty, Option.getD_some, window_of_empty empty]
    split
    · exact Nat.sub_le _ 1
    · exact Nat.le_refl _
  · cases found : (locate markers text).1 with
    | none => exact Nat.zero_le _
    | some n => exact Nat.le_of_lt ((locate_start_eq_some empty).mp found).2.1

/-! ## Regions -/

variable {table : Policies} {version : Version} {policy : Policy} {code : Bytecode}

theorem policy_extract (table : Policies) (version : Version) (code : Bytecode) :
    (extract table version code).policy = (table.select version).map Policy.name := by
  unfold extract
  cases table.select version with
  | none => rfl
  | some policy => rfl

theorem extract_of_uncovered (uncovered : table.select version = none) :
    (extract table version code).text = code.text := by
  simp [extract, uncovered]

theorem toList_extract (selected : table.select version = some policy) :
    (extract table version code).text.toList =
      slice code.text.toList ((locate policy.markers code.text.toList).1.getD 0)
        (stopOffset policy.markers code.text.toList) := by
  simp [extract, selected, stopOffset]

def ends (table : Policies) (version : Version) (code : Bytecode) : Nat × Nat :=
  match table.select version with
  | none => (0, code.text.toList.length)
  | some policy =>
    ((locate policy.markers code.text.toList).1.getD 0,
      stopOffset policy.markers code.text.toList)

theorem ends_of_uncovered (uncovered : table.select version = none) :
    ends table version code = (0, code.text.toList.length) := by
  simp only [ends, uncovered]

theorem ends_of_selected (selected : table.select version = some policy) :
    ends table version code = ((locate policy.markers code.text.toList).1.getD 0,
      stopOffset policy.markers code.text.toList) := by
  simp only [ends, selected]

theorem toList_extract_ends : (extract table version code).text.toList =
    slice code.text.toList (ends table version code).1 (ends table version code).2 := by
  cases selected : table.select version with
  | none =>
      rw [extract_of_uncovered selected, ends_of_uncovered selected]
      simp [slice]
  | some policy => rw [toList_extract selected, ends_of_selected selected]

theorem ends_ordered : (ends table version code).1 ≤ (ends table version code).2 := by
  cases selected : table.select version with
  | none => simp [ends_of_uncovered selected]
  | some policy =>
      rw [ends_of_selected selected]
      exact start_le_stopOffset

theorem ends_inside : (ends table version code).2 ≤ code.text.toList.length := by
  cases selected : table.select version with
  | none => simp [ends_of_uncovered selected]
  | some policy =>
      rw [ends_of_selected selected]
      exact stopOffset_le

theorem length_slice {first last : Nat} (inside : last ≤ text.length) :
    (slice text first last).length = last - first := by
  rw [slice, List.length_drop, List.length_take, Nat.min_eq_left inside]

theorem lower_slice (start stop : Nat) :
    lower (slice text start stop) = slice (lower text) start stop := by
  simp [lower, slice, List.map_take, List.map_drop]

end DeployCheck.Region
