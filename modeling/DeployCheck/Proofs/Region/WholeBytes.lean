import DeployCheck.Proofs.Bytecode
import DeployCheck.Proofs.Region.Prefix
import Mathlib.Order.Bounds.Basic
/-!
Regions and bytes. A marker is looked for at every digit, so it is also found where it begins inside
a byte. The ends of a region are between two bytes exactly if a search that passes from byte to byte
finds the same ends, and the region is bytecode itself exactly if both of its ends are between two
bytes, or none.
-/
namespace DeployCheck.Region

open Text

variable {table : Policies} {version : Version} {policy : Policy} {code : Bytecode}
  {markers : Markers} {pattern text : List Char} {first last n : Nat}

/-! ## Bytes of a text -/

/-- The very start of the text, or an even number of digits behind its prefix. -/
def BetweenBytes (text : List Char) (n : Nat) : Prop :=
  n = 0 ∨ ∃ k, n + (hexBody text).length = text.length + 2 * k

theorem betweenBytes_iff : BetweenBytes text n ↔ n % 2 = 0 := by
  unfold BetweenBytes
  rcases Bytecode.hexBody_cases text with whole | ⟨x, -, prefixed⟩
  · rw [whole]
    constructor
    · rintro (rfl | ⟨k, same⟩)
      · rfl
      · omega
    · exact fun even => Or.inr ⟨n / 2, by omega⟩
  · have length := congrArg List.length prefixed
    simp only [List.length_cons] at length
    constructor
    · rintro (rfl | ⟨k, same⟩)
      · rfl
      · omega
    · intro even
      by_cases start : n = 0
      · exact Or.inl start
      · exact Or.inr ⟨n / 2 - 1, by omega⟩

/-! ## A search from byte to byte -/

def bytePlaces (pattern text : List Char) : Set Nat :=
  {n | OccursAt pattern (lower text) n ∧ BetweenBytes text n}

structure ByteEnds (markers : Markers) (text : List Char) (first last : Nat) : Prop where
  stop : IsLeast (bytePlaces markers.stop text) last ∨
    bytePlaces markers.stop text = ∅ ∧ last = text.length
  start : IsGreatest {n ∈ bytePlaces markers.start text | n < last} first ∨
    {n ∈ bytePlaces markers.start text | n < last} = ∅ ∧ first = 0

theorem ByteEnds.betweenBytes (found : ByteEnds markers text first last)
    (even : text.length % 2 = 0) : BetweenBytes text first ∧ BetweenBytes text last := by
  constructor
  · rcases found.start with ⟨⟨⟨-, between⟩, -⟩, -⟩ | ⟨-, rfl⟩
    · exact between
    · exact Or.inl rfl
  · rcases found.stop with ⟨⟨-, between⟩, -⟩ | ⟨-, rfl⟩
    · exact between
    · exact betweenBytes_iff.mpr even

theorem byteEnds_of_betweenBytes (full : markers.start ≠ [])
    (start : BetweenBytes text ((locate markers text).1.getD 0))
    (stop : BetweenBytes text (stopOffset markers text)) :
    ByteEnds markers text ((locate markers text).1.getD 0) (stopOffset markers text) where
  stop := by
    cases found : firstOccurrence markers.stop (lower text) with
    | none =>
        refine Or.inr ⟨?_, stopOffset_of_none found⟩
        exact Set.eq_empty_of_forall_notMem fun n place =>
          firstOccurrence_eq_none.mp found n place.1
    | some n =>
        obtain ⟨occurs, least⟩ := firstOccurrence_least found
        rw [stopOffset_of_some found] at stop ⊢
        refine Or.inl ⟨⟨occurs, stop⟩, fun m place => ?_⟩
        exact Nat.le_of_not_lt fun below => least m below place.1
  start := by
    cases found : (locate markers text).1 with
    | none =>
        refine Or.inr ⟨Set.eq_empty_of_forall_notMem ?_, rfl⟩
        rintro n ⟨place, below⟩
        exact (locate_start_eq_none full).mp found n below place.1
    | some n =>
        obtain ⟨occurs, below, greatest⟩ := (locate_start_eq_some full).mp found
        rw [found] at start
        refine Or.inl ⟨⟨⟨occurs, start⟩, below⟩, ?_⟩
        rintro m ⟨place, inside⟩
        exact greatest m inside place.1

/-! ## Regions as bytecode -/

theorem ends_of_prefixed {x : Char} {body : List Char} (letter : x = 'x' ∨ x = 'X')
    (digital : ∀ policy, table.select version = some policy → policy.markers.AreDigits)
    (prefixed : code.text.toList = '0' :: x :: body) :
    ((ends table version code).1 = 0 ∨ 2 ≤ (ends table version code).1) ∧
      2 ≤ (ends table version code).2 := by
  have lowered : lower code.text.toList = '0' :: 'x' :: lower body := by
    rw [prefixed, Bytecode.lower_of_prefixed letter]
  cases selected : table.select version with
  | none =>
      rw [ends_of_uncovered selected, prefixed]
      simp
  | some policy =>
      have digits := digital policy selected
      rw [ends_of_selected selected]
      refine ⟨?_, two_le_stopOffset digits lowered⟩
      cases found : (locate policy.markers code.text.toList).1 with
      | none => exact Or.inl rfl
      | some n =>
          have occurs := ((locate_start_eq_some digits.1.ne_nil).mp found).1
          exact Or.inr (two_le_of_occursAt digits.1 (lowered ▸ occurs))

theorem slice_digits (digits : ∀ c ∈ text, isHexDigit c = true) :
    ∀ c ∈ slice text first last, isHexDigit c = true :=
  fun c member => digits c (List.mem_of_mem_take (List.mem_of_mem_drop member))

theorem isHexPairs_slice (digits : ∀ c ∈ text, isHexDigit c = true) (ordered : first ≤ last)
    (inside : last ≤ text.length) :
    IsHexPairs (slice text first last) ↔ (first % 2 = 0 ↔ last % 2 = 0) := by
  rw [IsHexPairs, and_iff_left (slice_digits digits), length_slice inside]
  omega

theorem isHexPairs_region
    (digital : ∀ policy, table.select version = some policy → policy.markers.AreDigits) :
    IsHexPairs (hexBody (extract table version code).text.toList) ↔
      ((ends table version code).1 % 2 = 0 ↔ (ends table version code).2 % 2 = 0) := by
  have ordered : (ends table version code).1 ≤ (ends table version code).2 := ends_ordered
  have inside : (ends table version code).2 ≤ code.text.toList.length := ends_inside
  have digits := code.wellFormed.2
  rw [toList_extract_ends]
  rcases Bytecode.hexBody_cases code.text.toList with whole | ⟨x, letter, prefixed⟩
  · rw [whole] at digits
    rw [Bytecode.hexBody_of_digits (slice_digits digits)]
    exact isHexPairs_slice digits ordered inside
  · obtain ⟨start, stop⟩ := ends_of_prefixed letter digital prefixed
    generalize (ends table version code).1 = first at ordered start ⊢
    generalize (ends table version code).2 = last at ordered inside stop ⊢
    generalize hexBody code.text.toList = body at prefixed digits
    obtain ⟨b, rfl⟩ := Nat.exists_eq_add_of_le' stop
    rw [prefixed, List.length_cons, List.length_cons] at inside
    have short : b ≤ body.length := by omega
    rw [prefixed]
    rcases start with rfl | behind
    · -- The prefix is in the region and is dropped from it again.
      have kept : slice ('0' :: x :: body) 0 (b + 2) = '0' :: x :: slice body 0 b := rfl
      rw [kept, Bytecode.hexBody_of_prefixed letter, isHexPairs_slice digits (Nat.zero_le b) short]
      omega
    · obtain ⟨a, rfl⟩ := Nat.exists_eq_add_of_le' behind
      have later : slice ('0' :: x :: body) (a + 2) (b + 2) = slice body a b := rfl
      rw [later, Bytecode.hexBody_of_digits (slice_digits digits),
        isHexPairs_slice digits (Nat.le_of_add_le_add_right ordered) short]
      omega

theorem betweenBytes_ends_iff
    (digital : ∀ policy, table.select version = some policy → policy.markers.AreDigits) :
    BetweenBytes code.text.toList (ends table version code).1 ∧
        BetweenBytes code.text.toList (ends table version code).2 ↔
      ∀ policy, table.select version = some policy →
        ByteEnds policy.markers code.text.toList (ends table version code).1
          (ends table version code).2 := by
  cases selected : table.select version with
  | none =>
      rw [ends_of_uncovered selected]
      have whole : BetweenBytes code.text.toList code.text.toList.length :=
        betweenBytes_iff.mpr code.even_length
      constructor
      · intro _ policy other
        cases other
      · exact fun _ => ⟨Or.inl rfl, whole⟩
  | some policy =>
      have full := (digital policy selected).1.ne_nil
      rw [ends_of_selected selected]
      constructor
      · rintro ⟨start, stop⟩ other same
        obtain rfl := Option.some.inj same
        exact byteEnds_of_betweenBytes full start stop
      · exact fun found => (found policy rfl).betweenBytes code.even_length

theorem areDigits_of_standard :
    ∀ policy, Policies.standard.select version = some policy → policy.markers.AreDigits := by
  intro policy selected
  have all : ∀ row ∈ Policies.standard.rows, row.markers.AreDigits := by decide
  exact all policy (List.mem_of_find?_eq_some selected)

/-- When a region is made of whole bytes. Its two ends are between two bytes exactly if a search
from byte to byte finds them as well. It is bytecode exactly if both of its ends are between two
bytes or both are inside of one. -/
theorem whole_bytes_iff (version : Version) (code : Bytecode) :
    let text := code.text.toList
    let first := (ends .standard version code).1
    let last := (ends .standard version code).2
    let region := (extract .standard version code).text.toList
    region = slice text first last ∧ first ≤ last ∧ last ≤ text.length ∧
      (BetweenBytes text first ∧ BetweenBytes text last ↔
        ∀ policy, Policies.standard.select version = some policy →
          ByteEnds policy.markers text first last) ∧
      (IsHexPairs (hexBody region) ↔ (BetweenBytes text first ↔ BetweenBytes text last)) := by
  refine ⟨toList_extract_ends, ends_ordered, ends_inside,
    betweenBytes_ends_iff areDigits_of_standard, ?_⟩
  rw [betweenBytes_iff, betweenBytes_iff]
  exact isHexPairs_region areDigits_of_standard

def shiftedCode : Bytecode :=
  ⟨"0x060806040520", by decide⟩

/-- A region may begin inside a byte, and is no bytecode then. -/
theorem not_whole_bytes : ¬ ∀ (version : Version) (code : Bytecode),
    BetweenBytes code.text.toList (ends .standard version code).1 ∧
      BetweenBytes code.text.toList (ends .standard version code).2 ∧
      IsHexPairs (hexBody (extract .standard version code).text.toList) := by
  intro always
  have region : (extract .standard ⟨4, 24⟩ shiftedCode).text = "60806040520" := by decide
  have pairs := (always ⟨4, 24⟩ shiftedCode).2.2
  rw [region] at pairs
  revert pairs
  decide

end DeployCheck.Region
