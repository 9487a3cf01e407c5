import DeployCheck.Network.Url.Escape
import DeployCheck.Text.Pieces
/-!
The path of a URL in normal form: segments that are points are resolved, and what has no place in a
path is escaped. Two points never lead out of a segment that names a drive.
-/
namespace DeployCheck.Url

open Text

def isDrive : List Char → Bool
  | [letter, mark] => letter.isAlpha && (mark == ':' || mark == '|')
  | _ => false

def startsWithDrive (text : List Char) : Bool :=
  isDrive (text.take 2) && (text.drop 2).head?.all (· == '\\')

/-- The name of a drive in normal form; any other segment stays as it is. -/
def normalDrive (segment : List Char) : List Char :=
  if isDrive segment then segment.take 1 ++ [':'] else segment

/-- A segment that stays where it is; the point may be escaped. -/
def isPoint (segment : List Char) : Bool :=
  lower segment ∈ [".", "%2e"].map String.toList

def isTwoPoints (segment : List Char) : Bool :=
  lower segment ∈ ["..", "%2e.", ".%2e", "%2e%2e"].map String.toList

def leaveSegment : List (List Char) → List (List Char)
  | [] => []
  | segment :: above => if startsWithDrive segment then segment :: above else above

/-- A resolved path behind its first slash: the segments that end in a slash, and what follows. -/
structure Segments where
  above : List (List Char)
  last : List Char
  deriving DecidableEq, Repr

namespace Segments

/-- Resolves points. `above` holds the segments so far, the last one first; a segment with none
above it is put into a form of its own. -/
def resolve (topForm : List Char → List Char) (above : List (List Char)) :
    List (List Char) → Segments
  | [] => ⟨above.reverse, []⟩
  | segment :: rest =>
    if isTwoPoints segment then resolve topForm (leaveSegment above) rest
    else if isPoint segment then resolve topForm above rest
    else
      let segment := if above = [] then topForm segment else segment
      if rest = [] then ⟨above.reverse, segment⟩ else resolve topForm (segment :: above) rest

def ofText (topForm : List Char → List Char) (text : List Char) : Segments :=
  resolve topForm [] ((pieces '/' text).map (escape pathSpecials))

def text (segments : Segments) : List Char :=
  '/' :: (segments.above.flatMap (· ++ ['/']) ++ segments.last)

def isOnDrive (segments : Segments) : Bool :=
  isDrive (segments.above.head?.getD segments.last)

def dropEmpty (segments : Segments) : Segments :=
  { segments with above := segments.above.dropWhile (· = []) }

end Segments

def normalPath (text : List Char) : List Char :=
  (Segments.ofText id text).text

end DeployCheck.Url
