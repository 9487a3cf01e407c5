import DeployCheck.Number.Binary64
import DeployCheck.Text.Ascii
/-!
The shortest decimal that reads back as a given number of the 64-bit format. For one digit, two
digits and so on the two neighbours of the number on that decimal grid are tried against the
interval of values that round to the number; the first grid with a hit wins, and of two hits the
nearer.
-/
namespace DeployCheck

open Text

/-- The decimal `digits * 10 ^ exponent`. -/
structure Decimal where
  digits : Nat
  exponent : Int
  deriving DecidableEq, Repr, Inhabited

namespace Binary64

/-- The interval of values that round to a number, scaled by `4 / 2 ^ exponent`. Both ends belong to
it when the significand is even. Below a power of two the numbers lie twice as dense. -/
def readBackRange (x : Binary64) : Nat × Nat :=
  let low :=
    if x.significand = Nat.pow 2 52 ∧ -1074 < x.exponent then 4 * x.significand - 1
    else 4 * x.significand - 2
  (low, 4 * x.significand + 2)

/-- A decimal scaled by `4 / 2 ^ exponent`, as a ratio. -/
def quarterUnits (x : Binary64) (d : Decimal) : Nat × Nat :=
  let tens : Nat × Nat :=
    if 0 ≤ d.exponent then (d.digits * Nat.pow 10 d.exponent.toNat, 1)
    else (d.digits, Nat.pow 10 (-d.exponent).toNat)
  if 0 ≤ x.exponent then (4 * tens.1, tens.2 * Nat.pow 2 x.exponent.toNat)
  else (4 * tens.1 * Nat.pow 2 (-x.exponent).toNat, tens.2)

def readsBack (x : Binary64) (d : Decimal) : Bool :=
  let (low, high) := x.readBackRange
  let (num, den) := x.quarterUnits d
  if x.significand % 2 = 0 then low * den ≤ num && num ≤ high * den
  else low * den < num && num < high * den

/-- How far a decimal is from the number, in units common to all decimals of one exponent. -/
def distance (x : Binary64) (d : Decimal) : Nat :=
  let (num, den) := x.quarterUnits d
  let target := 4 * x.significand * den
  if num ≤ target then target - num else num - target

def leadingExponent (x : Binary64) : Int :=
  let (num, den) := x.ratio
  let guess := (((Nat.log2 num : Int) - Nat.log2 den) * 30103).fdiv 100000
  let reaches (e : Int) : Bool :=
    if 0 ≤ e then Nat.pow 10 e.toNat * den ≤ num else den ≤ num * Nat.pow 10 (-e).toNat
  if reaches (guess + 1) then guess + 1 else if reaches guess then guess else guess - 1

/-- The neighbours of the number with so many digits: the one below and the one above. -/
def neighbours (x : Binary64) (count : Nat) : Decimal × Decimal :=
  let exponent := x.leadingExponent - (count - 1 : Nat)
  let (num, den) := x.ratio
  let below :=
    if 0 ≤ exponent then num / (den * Nat.pow 10 exponent.toNat)
    else num * Nat.pow 10 (-exponent).toNat / den
  (⟨below, exponent⟩, ⟨below + 1, exponent⟩)

def candidate? (x : Binary64) (count : Nat) : Option Decimal :=
  let (below, above) := x.neighbours count
  match x.readsBack below, x.readsBack above with
  | true, true =>
    if x.distance below < x.distance above then some below
    else if x.distance above < x.distance below then some above
    else if below.digits % 2 = 0 then some below else some above
  | true, false => some below
  | false, true => some above
  | false, false => none

/-- The shortest decimal that reads back as the number; seventeen digits are always enough. -/
def shortest (x : Binary64) : Decimal :=
  if x.significand = 0 then ⟨0, 0⟩
  else ((List.range 17).findSome? fun k => x.candidate? (k + 1)).getD ⟨0, 0⟩

end Binary64

namespace Decimal

def normalizeWith : Nat → Decimal → Decimal
  | 0, d => d
  | fuel + 1, d =>
    if d.digits ≠ 0 ∧ d.digits % 10 = 0 then normalizeWith fuel ⟨d.digits / 10, d.exponent + 1⟩
    else d

def normalize (d : Decimal) : Decimal :=
  normalizeWith d.digits d

def zeros (count : Nat) : List Char :=
  List.replicate count '0'

/-- The digits of a decimal, positional while the exponent of the leading digit lies from -5 to 15.
A point always separates a whole part from a fraction there; otherwise one digit stands before the
point and the exponent carries its sign. -/
def render (d : Decimal) : List Char :=
  let d := d.normalize
  let digits := Nat.toDigits 10 d.digits
  let leading := d.exponent + (digits.length : Int) - 1
  if d.digits = 0 then ['0', '.', '0']
  else if 0 ≤ d.exponent ∧ leading ≤ 15 then
    digits ++ zeros d.exponent.toNat ++ ['.', '0']
  else if 0 ≤ leading ∧ leading ≤ 15 then
    digits.take (leading.toNat + 1) ++ '.' :: digits.drop (leading.toNat + 1)
  else if -5 ≤ leading ∧ leading < 0 then
    '0' :: '.' :: zeros (-leading - 1).toNat ++ digits
  else
    let fraction := match digits.drop 1 with
      | [] => []
      | rest => '.' :: rest
    let sign := if leading < 0 then '-' else '+'
    digits.take 1 ++ fraction ++ 'e' :: sign :: Nat.toDigits 10 leading.natAbs

end Decimal

structure SignedBinary64 where
  negative : Bool
  magnitude : Binary64
  deriving DecidableEq, Repr, Inhabited

def SignedBinary64.render (x : SignedBinary64) : List Char :=
  (if x.negative then ['-'] else []) ++ x.magnitude.shortest.render

end DeployCheck
