import DeployCheck.Proofs.Bytecode
import DeployCheck.Proofs.Region.Bounds
namespace DeployCheck

open Text

def IsDigitRun (pattern : List Char) : Prop :=
  2 ≤ pattern.length ∧ ∀ c ∈ pattern, isHexDigit c = true

instance (pattern : List Char) : Decidable (IsDigitRun pattern) :=
  decidable_of_iff (2 ≤ pattern.length ∧ pattern.all isHexDigit = true) (by simp [IsDigitRun])

theorem IsDigitRun.ne_nil {pattern : List Char} (run : IsDigitRun pattern) : pattern ≠ [] := by
  rintro rfl
  exact absurd run.1 (by decide)

def Markers.AreDigits (markers : Markers) : Prop :=
  IsDigitRun markers.start ∧ IsDigitRun markers.stop

instance (markers : Markers) : Decidable markers.AreDigits :=
  inferInstanceAs (Decidable (_ ∧ _))

namespace Region

variable {markers : Markers} {pattern body text : List Char} {n : Nat}

theorem not_occursAt_nil (run : IsDigitRun pattern) : ¬ OccursAt pattern [] n :=
  fun occurs => run.ne_nil (occursAt_nil.mp occurs).2

theorem two_le_of_occursAt (run : IsDigitRun pattern)
    (occurs : OccursAt pattern ('0' :: 'x' :: body) n) : 2 ≤ n := by
  obtain ⟨long, digits⟩ := run
  match pattern, long with
  | first :: second :: more, _ =>
      match n with
      | 0 =>
          obtain ⟨rfl, inside⟩ := List.cons_prefix_cons.mp (occursAt_zero.mp occurs)
          obtain ⟨rfl, -⟩ := List.cons_prefix_cons.mp inside
          cases digits 'x' (by simp)
      | 1 =>
          have inside := occursAt_zero.mp (occursAt_cons_succ.mp occurs)
          obtain ⟨rfl, -⟩ := List.cons_prefix_cons.mp inside
          cases digits 'x' (by simp)
      | n + 2 => exact Nat.le_add_left 2 n

theorem not_occursAt_bare (run : IsDigitRun pattern) : ¬ OccursAt pattern ['0', 'x'] n := by
  intro occurs
  have behind := two_le_of_occursAt run occurs
  have fits := occurs.length_le
  have long := run.1
  simp only [List.length_cons, List.length_nil] at fits
  omega

theorem occursAt_two : OccursAt pattern ('0' :: 'x' :: body) 2 ↔ pattern <+: body := by
  rw [occursAt_cons_succ, occursAt_cons_succ, occursAt_zero]

theorem slice_of_unmarked (full : markers.start ≠ [])
    (unstarted : ∀ n, ¬ OccursAt markers.start (lower text) n)
    (unstopped : ∀ n, ¬ OccursAt markers.stop (lower text) n) :
    slice text ((locate markers text).1.getD 0) (stopOffset markers text) = text := by
  have started : (locate markers text).1 = none :=
    (locate_start_eq_none full).mpr fun n _ => unstarted n
  rw [started, stopOffset_of_none (firstOccurrence_eq_none.mpr unstopped)]
  simp [slice]

theorem slice_of_bodiless (markers : Markers) (digits : markers.AreDigits)
    (bodiless : lower text = [] ∨ lower text = ['0', 'x']) :
    slice text ((locate markers text).1.getD 0) (stopOffset markers text) = text := by
  apply slice_of_unmarked digits.1.ne_nil
  · intro n occurs
    rcases bodiless with empty | bare
    · exact not_occursAt_nil digits.1 (empty ▸ occurs)
    · exact not_occursAt_bare digits.1 (bare ▸ occurs)
  · intro n occurs
    rcases bodiless with empty | bare
    · exact not_occursAt_nil digits.2 (empty ▸ occurs)
    · exact not_occursAt_bare digits.2 (bare ▸ occurs)

section

variable (digits : markers.AreDigits) (prefixed : lower text = '0' :: 'x' :: body)

include digits prefixed

theorem two_le_stopOffset : 2 ≤ stopOffset markers text := by
  cases found : firstOccurrence markers.stop (lower text) with
  | none =>
      rw [stopOffset_of_none found, ← length_lower, prefixed]
      simp
  | some n =>
      rw [stopOffset_of_some found]
      exact two_le_of_occursAt digits.2 (prefixed ▸ (firstOccurrence_least found).1)

theorem stopOffset_eq_two : stopOffset markers text = 2 ↔ body = [] ∨ markers.stop <+: body := by
  have length : text.length = body.length + 2 := by
    rw [← length_lower, prefixed]
    rfl
  cases found : firstOccurrence markers.stop (lower text) with
  | none =>
      have absent := firstOccurrence_eq_none.mp found 2
      rw [prefixed, occursAt_two] at absent
      rw [stopOffset_of_none found, length]
      simp [absent]
  | some n =>
      obtain ⟨occurs, least⟩ := firstOccurrence_least found
      rw [prefixed] at occurs least
      rw [stopOffset_of_some found]
      constructor
      · rintro rfl
        exact Or.inr (occursAt_two.mp occurs)
      · rintro (empty | leading)
        · rw [empty] at occurs
          exact absurd occurs (not_occursAt_bare digits.2)
        · have behind := two_le_of_occursAt digits.2 occurs
          have bound : ¬ 2 < n := fun below => least 2 below (occursAt_two.mpr leading)
          omega

theorem slice_prefixed_ne_nil :
    slice text ((locate markers text).1.getD 0) (stopOffset markers text) ≠ [] := by
  have stop := two_le_stopOffset digits prefixed
  have inside : stopOffset markers text ≤ text.length := stopOffset_le
  intro empty
  have short := congrArg List.length empty
  rw [slice, List.length_drop, List.length_take, List.length_nil] at short
  cases start : (locate markers text).1 with
  | none =>
      simp only [start, Option.getD_none] at short
      omega
  | some n =>
      have below := ((locate_start_eq_some digits.1.ne_nil).mp start).2.1
      simp only [start, Option.getD_some] at short
      omega

theorem lower_slice_eq_bare (clean : 'x' ∉ body) :
    lower (slice text ((locate markers text).1.getD 0) (stopOffset markers text)) = ['0', 'x'] ↔
      body = [] ∨ markers.stop <+: body := by
  rw [← stopOffset_eq_two digits prefixed, lower_slice, prefixed, slice]
  have stop := two_le_stopOffset digits prefixed
  cases start : (locate markers text).1 with
  | none =>
      rw [Option.getD_none, List.drop_zero]
      constructor
      · intro bare
        have length := congrArg List.length bare
        have whole : stopOffset markers text ≤ text.length := stopOffset_le
        rw [← length_lower, prefixed] at whole
        rw [List.length_take] at length
        simp only [List.length_cons, List.length_nil] at length whole
        omega
      · intro two
        rw [two]
        rfl
  | some n =>
      obtain ⟨occurs, below, -⟩ := (locate_start_eq_some digits.1.ne_nil).mp start
      have behind := two_le_of_occursAt digits.1 (prefixed ▸ occurs)
      obtain ⟨m, rfl⟩ := Nat.exists_eq_add_of_le' behind
      constructor
      · intro bare
        -- The letter of the prefix cannot come from behind it.
        have member : 'x' ∈ ['0', 'x'] := by simp
        rw [← bare, Option.getD_some, List.drop_take] at member
        have later : 'x' ∈ body.drop m := List.mem_of_mem_take member
        exact absurd (List.mem_of_mem_drop later) clean
      · intro two
        omega

end

/-! ## The same digits behind a prefix -/

section

variable (run : IsDigitRun pattern)

include run

theorem isPrefixOf_bare (body : List Char) : pattern.isPrefixOf ('0' :: 'x' :: body) = false := by
  by_contra begins
  have occurs := occursAt_cons_zero.mpr (eq_true_of_ne_false begins)
  exact absurd (two_le_of_occursAt run occurs) (by decide)

theorem isPrefixOf_letter (body : List Char) : pattern.isPrefixOf ('x' :: body) = false := by
  by_contra begins
  have occurs : OccursAt pattern ('0' :: 'x' :: body) 1 :=
    occursAt_cons_succ.mpr (occursAt_cons_zero.mpr (eq_true_of_ne_false begins))
  exact absurd (two_le_of_occursAt run occurs) (by decide)

theorem firstOccurrence_prefixed (body : List Char) :
    firstOccurrence pattern ('0' :: 'x' :: body) = (firstOccurrence pattern body).map (· + 2) := by
  rw [firstOccurrence, firstOccurrence, isPrefixOf_bare run, isPrefixOf_letter run,
    if_neg Bool.false_ne_true, if_neg Bool.false_ne_true, Option.map_map]
  rfl

theorem lastOccurrence_prefixed (body : List Char) :
    lastOccurrence pattern ('0' :: 'x' :: body) = (lastOccurrence pattern body).map (· + 2) := by
  rw [lastOccurrence, lastOccurrence, isPrefixOf_bare run, isPrefixOf_letter run]
  cases lastOccurrence pattern body <;> rfl

end

section

variable {long short : List Char} (digits : markers.AreDigits)
  (prefixed : lower long = '0' :: 'x' :: lower short)

include digits prefixed

theorem locate_prefixed : locate markers long =
    ((locate markers short).1.map (· + 2), (locate markers short).2.map (· + 2)) := by
  have wide := digits.1.1
  simp only [locate, prefixed, firstOccurrence_prefixed digits.2, Prod.mk.injEq, and_true]
  rw [← lastOccurrence_prefixed digits.1]
  cases firstOccurrence markers.stop (lower short) with
  | none => rfl
  | some offset =>
      have shifted : min (offset + 2 + markers.start.length - 1) ((lower short).length + 2) =
          min (offset + markers.start.length - 1) (lower short).length + 2 := by omega
      exact congrArg (fun count => lastOccurrence markers.start
        (('0' :: 'x' :: lower short).take count)) shifted

theorem stopOffset_prefixed : stopOffset markers long = stopOffset markers short + 2 := by
  have length : long.length = short.length + 2 := by
    rw [← length_lower, prefixed, List.length_cons, List.length_cons, length_lower]
  rw [stopOffset, stopOffset, locate_prefixed digits prefixed, length]
  cases (locate markers short).2 <;> rfl

end

/-- A region and that of the same code behind a prefix: the same one if it begins at a start marker,
and else it is behind the prefix again. -/
structure Prefixed (lead : String) (short long : Region) : Prop where
  policy : long.policy = short.policy
  startFound : long.startFound = short.startFound
  stopFound : long.stopFound = short.stopFound
  started : short.startFound = true → long.text = short.text
  unstarted : short.startFound = false → long.text = lead ++ short.text

theorem Prefixed.eq_of_started {lead : String} {short long : Region}
    (prefixed : Prefixed lead short long) (started : short.startFound = true) : long = short := by
  cases short
  cases long
  simpa using
    ⟨prefixed.started started, prefixed.policy, prefixed.startFound, prefixed.stopFound⟩

theorem prefixed_extract {table : Policies} {version : Version} {bare code : Bytecode}
    {lead : String} {x : Char} (letter : x = 'x' ∨ x = 'X') (spelled : lead.toList = ['0', x])
    (digital : ∀ policy, table.select version = some policy → policy.markers.AreDigits)
    (same : code.text = lead ++ bare.text) :
    Prefixed lead (extract table version bare) (extract table version code) := by
  have chars : code.text.toList = '0' :: x :: bare.text.toList := by
    rw [same, String.toList_append, spelled]
    rfl
  cases selected : table.select version with
  | none =>
      simp only [extract, selected]
      exact ⟨rfl, rfl, rfl, fun started => absurd started Bool.false_ne_true, fun _ => same⟩
  | some policy =>
      have digits := digital policy selected
      have prefixed : lower code.text.toList = '0' :: 'x' :: lower bare.text.toList := by
        rw [chars, Bytecode.lower_of_prefixed letter]
      have located := locate_prefixed digits prefixed
      have stops := stopOffset_prefixed digits prefixed
      simp only [stopOffset] at stops
      simp only [extract, selected, stops]
      refine ⟨rfl, by simp [located], by simp [located], fun started => ?_, fun unstarted => ?_⟩
      · obtain ⟨n, found⟩ := Option.isSome_iff_exists.mp started
        rw [located, found, chars]
        rfl
      · have missing : (locate policy.markers bare.text.toList).1 = none := by simpa using unstarted
        rw [located, missing, chars, ← String.toList_inj, String.toList_append, spelled,
          String.toList_ofList, String.toList_ofList]
        rfl

end Region

end DeployCheck
