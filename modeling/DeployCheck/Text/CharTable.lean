import DeployCheck.Text.Ascii
import DeployCheck.Text.Pieces
/-!
Properties of characters as data. A table lists runs of neighbouring code points with the value that
they share; a code point in no run has none. Tables are written in rows of words: `first-last:value`
for a run and `code:value` for a single code point, in hexadecimal and in ascending order.
-/
namespace DeployCheck.Text

structure CharRun (α : Type) where
  first : Nat
  last : Nat
  value : α
  deriving DecidableEq, Repr

def CharRun.covers {α : Type} (run : CharRun α) (code : Nat) : Bool :=
  run.first ≤ code && code ≤ run.last

abbrev CharTable (α : Type) := List (CharRun α)

def hexNumber? (digits : List Char) : Option Nat :=
  if digits = [] then none
  else digits.foldlM (fun value digit => (hexValue? digit).map (value * 16 + ·)) 0

namespace CharTable

def readEnds? (text : List Char) : Option (Nat × Nat) :=
  match (pieces '-' text).mapM hexNumber? with
  | some [code] => some (code, code)
  | some [first, last] => some (first, last)
  | _ => none

/-- One word of a table; where no value is written, it is the empty text that is read. -/
def readRun? {α : Type} (value : List Char → Option α) (word : List Char) : Option (CharRun α) :=
  let (ends, written) := cutAt ':' word
  match readEnds? ends, value (written.getD []) with
  | some (first, last), some value => some ⟨first, last, value⟩
  | _, _ => none

def ofRows {α : Type} (value : List Char → Option α) (rows : List String) : CharTable α :=
  rows.flatMap fun row => (pieces ' ' row.toList).filterMap (readRun? value)

def find? {α : Type} (table : CharTable α) (c : Char) : Option (CharRun α) :=
  List.find? (·.covers c.toNat) table

def value? {α : Type} (table : CharTable α) (c : Char) : Option α :=
  (table.find? c).map (·.value)

end CharTable

end DeployCheck.Text
