import DeployCheck.Error
import DeployCheck.Text.Ascii
import DeployCheck.Text.DecimalDigit
/-!
Compiler release labels such as `v0.4.24+commit.e67f0147`. Only the minor and the patch number
count; they are read from the leftmost place where a `v`, three numbers joined by points and a sign
stand.
-/
namespace DeployCheck

open Text

structure Version where
  minor : Nat
  patch : Nat
  deriving DecidableEq, Repr, Inhabited

namespace Version

/-- `minor.patch`. -/
def text (version : Version) : String :=
  showNat version.minor ++ "." ++ showNat version.patch

def order (a b : Version) : Ordering :=
  (compare a.minor b.minor).then (compare a.patch b.patch)

def digitRun? (text : List Char) : Option (List Char × List Char) :=
  match text.span isDecimalDigit with
  | ([], _) => none
  | (digits, rest) => some (digits, rest)

/-- The digits of the second and third number when a release number starts right here. -/
def numbersAt? : List Char → Option (List Char × List Char)
  | [] => none
  | v :: text =>
    if v = 'v' ∨ v = 'V' then
      match digitRun? text with
      | some (_, '.' :: text) =>
        match digitRun? text with
        | some (minor, '.' :: text) =>
          match digitRun? text with
          | some (patch, sign :: _) =>
            if sign = '+' ∨ sign = '-' then some (minor, patch) else none
          | _ => none
        | _ => none
      | _ => none
    else
      none

/-- The digits of the second and third number at the leftmost place where a release number stands.
-/
def leftmostNumbers? : List Char → Option (List Char × List Char)
  | [] => none
  | c :: rest =>
    match numbersAt? (c :: rest) with
    | some numbers => some numbers
    | none => leftmostNumbers? rest

/-- The version that a label carries. Both numbers have to be ASCII digits and fit a 64-bit word;
a later release number in the label is no substitute. -/
def ofLabel (label : String) : Except VerificationError Version :=
  match leftmostNumbers? label.toList with
  | none => .error (.malformedVersion label)
  | some (minor, patch) =>
    match word? minor, word? patch with
    | some minor, some patch => .ok ⟨minor, patch⟩
    | _, _ => .error (.malformedVersion label)

end Version

end DeployCheck
