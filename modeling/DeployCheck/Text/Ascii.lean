namespace DeployCheck.Text

/-- Lowers the letters `A` to `Z` and keeps every other character. -/
def lower (text : List Char) : List Char :=
  text.map Char.toLower

theorem toLower_toLower (c : Char) : c.toLower.toLower = c.toLower := by
  by_cases capital : c.val ≥ 'A'.val ∧ c.val ≤ 'Z'.val
  · have moved : c.toLower.val = c.val + 32 := congrArg Char.val (dif_pos capital)
    have small : ¬(c.toLower.val ≥ 65 ∧ c.toLower.val ≤ 90) := by
      have within : c.val ≥ 65 ∧ c.val ≤ 90 := capital
      grind
    exact dif_neg small
  · have kept : c.toLower = c := dif_neg capital
    rw [kept, kept]

theorem lower_lower (text : List Char) : lower (lower text) = lower text := by
  rw [lower, lower, List.map_map]
  exact List.map_congr_left fun c _ => toLower_toLower c

def SameIgnoringCase (a b : List Char) : Prop :=
  lower a = lower b

instance (a b : List Char) : Decidable (SameIgnoringCase a b) :=
  inferInstanceAs (Decidable (lower a = lower b))

/-- The digits `0` to `9`, `a` to `f` and `A` to `F`. -/
def isHexDigit (c : Char) : Bool :=
  c.isDigit || ('a' ≤ c && c ≤ 'f') || ('A' ≤ c && c ≤ 'F')

def hexValue? (c : Char) : Option Nat :=
  if c.isDigit then some (c.toNat - '0'.toNat)
  else if 'a' ≤ c && c ≤ 'f' then some (c.toNat - 'a'.toNat + 10)
  else if 'A' ≤ c && c ≤ 'F' then some (c.toNat - 'A'.toNat + 10)
  else none

def isAlphanumeric (c : Char) : Bool :=
  c.isAlpha || c.isDigit

def decimalValue (digits : List Char) : Nat :=
  digits.foldl (fun value digit => value * 10 + (digit.toNat - '0'.toNat)) 0

def maxWord : Nat := Nat.pow 2 64 - 1

/-- The number that a non-empty run of ASCII digits writes, if it fits a 64-bit word. -/
def word? (digits : List Char) : Option Nat :=
  if digits ≠ [] ∧ digits.all Char.isDigit ∧ decimalValue digits ≤ maxWord then
    some (decimalValue digits)
  else
    none

def showNat (n : Nat) : String :=
  String.ofList (Nat.toDigits 10 n)

def utf8Length (text : List Char) : Nat :=
  text.foldr (fun c bytes => c.utf8Size + bytes) 0

/-- The order of texts by their bytes in UTF-8, which is the order of their code points. -/
def before (a b : String) : Bool :=
  a.toList < b.toList

def dropFront? : List Char → List Char → Option (List Char)
  | [], text => some text
  | _ :: _, [] => none
  | p :: ps, c :: text => if p = c then dropFront? ps text else none

def dropBack? (suffix text : List Char) : Option (List Char) :=
  (dropFront? suffix.reverse text.reverse).map List.reverse

end DeployCheck.Text
