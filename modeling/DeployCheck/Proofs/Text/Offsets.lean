import DeployCheck.Proofs.Text.Digits
import DeployCheck.Proofs.Text.Occurrences
namespace DeployCheck.Text

variable {pattern text : List Char} {c : Char} {start stop n : Nat}

/-- The number of characters in the first so many bytes, if these end between two characters. -/
def charsIn? : List Char → Nat → Option Nat
  | _, 0 => some 0
  | [], _ + 1 => none
  | c :: rest, bytes =>
    if c.utf8Size ≤ bytes then (charsIn? rest (bytes - c.utf8Size)).map (· + 1) else none

/-- The part of a text from one offset in bytes up to another. There is none if the offsets are out
of order, out of range or within a character. -/
def cutBytes? (text : List Char) (start stop : Nat) : Option (List Char) :=
  match charsIn? text start, charsIn? text stop with
  | some first, some last => if first ≤ last then some ((text.take last).drop first) else none
  | _, _ => none

def firstOffset (pattern text : List Char) : Option Nat :=
  (firstOccurrence pattern text).map fun n => utf8Length (text.take n)

def lastOffset (pattern text : List Char) : Option Nat :=
  (lastOccurrence pattern text).map fun n => utf8Length (text.take n)

def SingleBytes (text : List Char) : Prop :=
  ∀ c ∈ text, c.utf8Size = 1

theorem utf8Size_toLower (single : c.utf8Size = 1) : c.toLower.utf8Size = 1 := by
  rw [Char.utf8Size_eq_one_iff] at single ⊢
  by_cases capital : c.val ≥ 'A'.val ∧ c.val ≤ 'Z'.val
  · have high : c.val.toNat ≤ 90 := UInt32.le_iff_toNat_le.mp capital.2
    have shifted : c.toLower.val = c.val + ('a'.val - 'A'.val) := congrArg Char.val (dif_pos capital)
    rw [shifted, UInt32.le_iff_toNat_le, UInt32.toNat_add]
    change (c.val.toNat + 32) % 2 ^ 32 ≤ 127
    omega
  · have kept : c.toLower = c := dif_neg capital
    rwa [kept]

namespace SingleBytes

theorem lower (single : SingleBytes text) : SingleBytes (lower text) := by
  intro c member
  obtain ⟨original, inside, rfl⟩ := List.mem_map.mp member
  exact utf8Size_toLower (single original inside)

theorem take (single : SingleBytes text) (n : Nat) : SingleBytes (text.take n) :=
  fun c member => single c (List.mem_of_mem_take member)

theorem of_occursAt (single : SingleBytes text) (occurs : OccursAt pattern text n) :
    SingleBytes pattern :=
  fun c member => single c (List.mem_of_mem_drop (occurs.2.subset member))

theorem utf8Length_eq (single : SingleBytes text) : utf8Length text = text.length := by
  induction text with
  | nil => rfl
  | cons c rest ih =>
      have first : c.utf8Size = 1 := single c List.mem_cons_self
      have others := ih fun c member => single c (List.mem_cons_of_mem _ member)
      change c.utf8Size + utf8Length rest = _
      rw [first, others, List.length_cons, Nat.add_comm]

theorem utf8Length_take (single : SingleBytes text) (inside : n ≤ text.length) :
    utf8Length (text.take n) = n := by
  rw [(single.take n).utf8Length_eq, List.length_take, Nat.min_eq_left inside]

theorem charsIn?_eq (single : SingleBytes text) (inside : n ≤ text.length) :
    charsIn? text n = some n := by
  induction text generalizing n with
  | nil =>
      obtain rfl := Nat.le_zero.mp inside
      rfl
  | cons c rest ih =>
      cases n with
      | zero => rfl
      | succ n =>
          have first : c.utf8Size = 1 := single c List.mem_cons_self
          have others := ih (fun c member => single c (List.mem_cons_of_mem _ member))
            (Nat.le_of_succ_le_succ inside)
          rw [charsIn?, first, if_pos (Nat.le_add_left 1 n), Nat.add_sub_cancel, others,
            Option.map_some]
          simp

theorem cutBytes?_eq (single : SingleBytes text) (ordered : start ≤ stop)
    (inside : stop ≤ text.length) :
    cutBytes? text start stop = some ((text.take stop).drop start) := by
  simp only [cutBytes?, single.charsIn?_eq (Nat.le_trans ordered inside),
    single.charsIn?_eq inside, if_pos ordered]

theorem firstOffset_eq (single : SingleBytes text) :
    firstOffset pattern text = firstOccurrence pattern text := by
  cases found : firstOccurrence pattern text with
  | none => rw [firstOffset, found, Option.map_none]
  | some n =>
      have inside := (firstOccurrence_least found).1.1
      rw [firstOffset, found, Option.map_some, single.utf8Length_take inside]

theorem lastOffset_eq (single : SingleBytes text) :
    lastOffset pattern text = lastOccurrence pattern text := by
  cases found : lastOccurrence pattern text with
  | none => rw [lastOffset, found, Option.map_none]
  | some n =>
      have inside := (lastOccurrence_greatest found).1.1
      rw [lastOffset, found, Option.map_some, single.utf8Length_take inside]

end SingleBytes

end DeployCheck.Text
