import DeployCheck.Text.Ascii
import Mathlib.Tactic.IntervalCases
namespace DeployCheck.Text

@[simp] theorem length_lower {text : List Char} : (lower text).length = text.length :=
  List.length_map _

def hexDigits : List Char :=
  "0123456789abcdefABCDEF".toList

theorem mem_hexDigits {c : Char} (digit : isHexDigit c = true) : c ∈ hexDigits := by
  have ranges : (48 ≤ c.toNat ∧ c.toNat ≤ 57) ∨ (97 ≤ c.toNat ∧ c.toNat ≤ 102) ∨
      (65 ≤ c.toNat ∧ c.toNat ≤ 70) := by
    simpa [isHexDigit, Char.isDigit, Char.le_def, UInt32.le_iff_toNat_le, or_assoc] using digit
  rw [← Char.ofNat_toNat c]
  generalize c.toNat = n at ranges
  rcases ranges with ⟨low, high⟩ | ⟨low, high⟩ | ⟨low, high⟩ <;> interval_cases n <;> decide

theorem forall_isHexDigit (holds : Char → Bool) (all : hexDigits.all holds = true) {c : Char}
    (digit : isHexDigit c = true) : holds c = true :=
  List.all_eq_true.mp all c (mem_hexDigits digit)

theorem toNat_lt_of_isHexDigit {c : Char} (digit : isHexDigit c = true) : c.toNat < 0x80 :=
  of_decide_eq_true (forall_isHexDigit (fun c => c.toNat < 0x80) (by decide) digit)

theorem utf8Size_of_isHexDigit {c : Char} (digit : isHexDigit c = true) : c.utf8Size = 1 :=
  of_decide_eq_true (forall_isHexDigit (fun c => c.utf8Size = 1) (by decide) digit)

theorem toLower_ne_x {c : Char} (digit : isHexDigit c = true) : c.toLower ≠ 'x' :=
  of_decide_eq_true (forall_isHexDigit (fun c => c.toLower ≠ 'x') (by decide) digit)

theorem x_not_mem_lower {text : List Char} (digits : ∀ c ∈ text, isHexDigit c = true) :
    'x' ∉ lower text := by
  intro member
  obtain ⟨c, inside, same⟩ := List.mem_map.mp member
  exact toLower_ne_x (digits c inside) same

/-! ## Letters of either case -/

def capitals : List Char :=
  "ABCDEFGHIJKLMNOPQRSTUVWXYZ".toList

theorem toLower_cases (c : Char) : c.toLower = c ∨ c ∈ capitals := by
  by_cases capital : c.val ≥ 'A'.val ∧ c.val ≤ 'Z'.val
  · right
    have low : 65 ≤ c.toNat := UInt32.le_iff_toNat_le.mp capital.1
    have high : c.toNat ≤ 90 := UInt32.le_iff_toNat_le.mp capital.2
    rw [← Char.ofNat_toNat c]
    generalize c.toNat = n at low high
    interval_cases n <;> decide
  · exact .inl (dif_neg capital)

theorem forall_capitals {c : Char} (member : c ∈ capitals) (holds : Char → Bool)
    (all : capitals.all holds = true) : holds c = true :=
  List.all_eq_true.mp all c member

theorem isHexDigit_toLower (c : Char) : isHexDigit c.toLower = isHexDigit c := by
  rcases toLower_cases c with same | member
  · rw [same]
  · exact of_decide_eq_true
      (forall_capitals member (fun c => isHexDigit c.toLower = isHexDigit c) (by decide))

theorem toLower_eq_zero {c : Char} : c.toLower = '0' ↔ c = '0' := by
  rcases toLower_cases c with same | member
  · rw [same]
  · exact of_decide_eq_true
      (forall_capitals member (fun c => c.toLower = '0' ↔ c = '0') (by decide))

theorem toLower_eq_x {c : Char} : c.toLower = 'x' ↔ c = 'x' ∨ c = 'X' := by
  rcases toLower_cases c with same | member
  · have small : c ≠ 'X' := by
      rintro rfl
      cases same
    rw [same, or_iff_left small]
  · exact of_decide_eq_true
      (forall_capitals member (fun c => c.toLower = 'x' ↔ c = 'x' ∨ c = 'X') (by decide))

theorem all_isHexDigit_lower {text : List Char} :
    (∀ c ∈ lower text, isHexDigit c = true) ↔ ∀ c ∈ text, isHexDigit c = true := by
  simp only [lower, List.forall_mem_map, isHexDigit_toLower]

theorem SameIgnoringCase.length_eq {one other : List Char} (same : SameIgnoringCase one other) :
    one.length = other.length := by
  rw [← length_lower, same, length_lower]

end DeployCheck.Text
