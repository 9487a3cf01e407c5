import DeployCheck.Number.Shortest
import DeployCheck.TextMap
/-!
JSON values. Whole numbers that fit 64 bits stay exact, every other number is one of the 64-bit
binary format. An object is a list of members in the order in which they are written.
-/
namespace DeployCheck

open Text

namespace Json

inductive Number
  /-- A whole number that is not negative. -/
  | whole (n : Nat)
  /-- The negative whole number `-n`. -/
  | negative (n : Nat)
  | binary (x : SignedBinary64)
  deriving DecidableEq, Repr, Inhabited

def Number.render : Number → List Char
  | whole n => Nat.toDigits 10 n
  | negative n => '-' :: Nat.toDigits 10 n
  | binary x => x.render

end Json

inductive Json
  | null
  | bool (b : Bool)
  | number (n : Json.Number)
  | string (s : String)
  | array (items : List Json)
  | object (members : List (String × Json))
  deriving Repr, Inhabited

namespace Json

def record (members : List (String × Json)) : Json :=
  .object (TextMap.ofList members)

def nat (n : Nat) : Json :=
  .number (.whole n)

def optionString : Option String → Json
  | some s => .string s
  | none => .null

end Json

end DeployCheck
