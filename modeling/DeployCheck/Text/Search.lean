/-!
First and last occurrence of a pattern in a text, as offsets in characters. The empty pattern occurs
at every offset, also at the very end.
-/
namespace DeployCheck.Text

def OccursAt (pattern text : List Char) (offset : Nat) : Prop :=
  offset ≤ text.length ∧ pattern <+: text.drop offset

instance (pattern text : List Char) (offset : Nat) : Decidable (OccursAt pattern text offset) :=
  inferInstanceAs (Decidable (_ ∧ _))

def firstOccurrence (pattern : List Char) : List Char → Option Nat
  | [] => if pattern = [] then some 0 else none
  | c :: rest =>
    if pattern.isPrefixOf (c :: rest) then some 0
    else (firstOccurrence pattern rest).map (· + 1)

def lastOccurrence (pattern : List Char) : List Char → Option Nat
  | [] => if pattern = [] then some 0 else none
  | c :: rest =>
    match lastOccurrence pattern rest with
    | some offset => some (offset + 1)
    | none => if pattern.isPrefixOf (c :: rest) then some 0 else none

def contains (pattern text : List Char) : Bool :=
  (firstOccurrence pattern text).isSome

end DeployCheck.Text
