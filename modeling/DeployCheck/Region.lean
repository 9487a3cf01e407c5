import DeployCheck.Bytecode
import DeployCheck.Policy
import DeployCheck.Text.Search
/-!
The comparable region of a bytecode: from the last start marker that begins before the end marker up
to the first end marker. A missing start marker leaves the front in place, a missing end marker the
back. Markers are found whatever the case of the letters, and the region keeps the case of its
input.
-/
namespace DeployCheck

open Text

/-- The comparable part of a bytecode, and how it was bounded. -/
structure Region where
  text : String
  policy : Option String
  startFound : Bool
  stopFound : Bool
  deriving DecidableEq, Repr

namespace Region

def bounded (region : Region) : Bool :=
  region.startFound || region.stopFound

def agrees (a b : Region) : Bool :=
  SameIgnoringCase a.text.toList b.text.toList

/-- The offsets of the markers in a text. A start marker counts only if it begins before the end
marker; it may run on past that point by all but its first character. -/
def locate (markers : Markers) (text : List Char) : Option Nat × Option Nat :=
  let lowered := lower text
  let stop := firstOccurrence markers.stop lowered
  let window :=
    match stop with
    | some offset => min (offset + markers.start.length - 1) lowered.length
    | none => lowered.length
  (lastOccurrence markers.start (lowered.take window), stop)

def slice (text : List Char) (start stop : Nat) : List Char :=
  (text.take stop).drop start

/-- The comparable region of a bytecode built by a version; all of it when no row of the table
covers the version. -/
def extract (table : Policies) (version : Version) (code : Bytecode) : Region :=
  match table.select version with
  | none => ⟨code.text, none, false, false⟩
  | some policy =>
    let text := code.text.toList
    let (start, stop) := locate policy.markers text
    { text := String.ofList (slice text (start.getD 0) (stop.getD text.length))
      policy := some policy.name
      startFound := start.isSome
      stopFound := stop.isSome }

end Region

end DeployCheck
