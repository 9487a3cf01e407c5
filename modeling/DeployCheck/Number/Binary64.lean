/-!
Finite numbers of the 64-bit binary format and the rounding of exact results to them. A number that
is not negative is `significand * 2 ^ exponent`; the sign is kept beside it where one is needed.
Every operation rounds its exact result to the nearest number, ties to the even significand.
-/
namespace DeployCheck

structure Binary64 where
  significand : Nat
  exponent : Int
  deriving DecidableEq, Repr, Inhabited

namespace Binary64

def zero : Binary64 := ⟨0, 0⟩

def roundRatio (num den : Nat) : Nat :=
  let quotient := num / den
  let remainder := num % den
  if 2 * remainder > den ∨ (2 * remainder = den ∧ quotient % 2 = 1) then quotient + 1 else quotient

def scaleDown (num den : Nat) (exponent : Int) : Nat × Nat :=
  if 0 ≤ exponent then (num, den * Nat.pow 2 exponent.toNat)
  else (num * Nat.pow 2 (-exponent).toNat, den)

/-- The nearest number of the format to a ratio, or `none` beyond the largest. -/
def ofRatio (num den : Nat) : Option Binary64 :=
  if num = 0 then
    some zero
  else
    let low : Int := (Nat.log2 num : Int) - Nat.log2 den - 53
    let (lowNum, lowDen) := scaleDown num den low
    let tight := if lowNum / lowDen < Nat.pow 2 53 then low else low + 1
    let exponent := max tight (-1074)
    let (scaledNum, scaledDen) := scaleDown num den exponent
    let rounded := roundRatio scaledNum scaledDen
    let (significand, exponent) :=
      if rounded = Nat.pow 2 53 then (Nat.pow 2 52, exponent + 1) else (rounded, exponent)
    if significand = 0 then some zero
    else if exponent > 971 then none
    else some ⟨significand, exponent⟩

def ofNat? (n : Nat) : Option Binary64 :=
  ofRatio n 1

def ratio (x : Binary64) : Nat × Nat :=
  if 0 ≤ x.exponent then (x.significand * Nat.pow 2 x.exponent.toNat, 1)
  else (x.significand, Nat.pow 2 (-x.exponent).toNat)

/-- The rounded product, or `none` beyond the largest number. -/
def mul? (x y : Binary64) : Option Binary64 :=
  ofRatio (x.ratio.1 * y.ratio.1) (x.ratio.2 * y.ratio.2)

/-- The rounded quotient by a number other than zero, or `none` beyond the largest number. -/
def div? (x y : Binary64) : Option Binary64 :=
  ofRatio (x.ratio.1 * y.ratio.2) (x.ratio.2 * y.ratio.1)

def tenPower? (exponent : Nat) : Option Binary64 :=
  ofRatio (Nat.pow 10 exponent) 1

/-- The value times `10 ^ places`, rounded to a whole number. -/
def fixedPoint (x : Binary64) (places : Nat) : Nat :=
  roundRatio (x.ratio.1 * Nat.pow 10 places) x.ratio.2

end Binary64

end DeployCheck
