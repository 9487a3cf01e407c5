import DeployCheck.Text.Ascii
import DeployCheck.Text.Pieces
/-!
Paths as text. Components are read off lexically: repeated slashes and points that stand for nothing
disappear, two points stay. Nothing here looks at a disk.
-/
namespace DeployCheck.Path

open Text

inductive Component
  | root
  /-- A single point at the front of a relative path. -/
  | current
  | parent
  | name (text : String)
  deriving DecidableEq, Repr

def segments (path : String) : List String :=
  ((pieces '/' path.toList).filter (· ≠ [])).map String.ofList

def isAbsolute (path : String) : Bool :=
  path.toList.head? == some '/'

def endsInSlash (path : String) : Bool :=
  path.toList.getLast? == some '/'

def step? (segment : String) : Option Component :=
  if segment = "." then none
  else if segment = ".." then some .parent
  else some (.name segment)

def components (path : String) : List Component :=
  let steps := (segments path).filterMap step?
  if isAbsolute path then .root :: steps
  else if (segments path).head? = some "." then .current :: steps
  else steps

def Component.text : Component → String
  | .root => "/"
  | .current => "."
  | .parent => ".."
  | .name text => text

def ofComponents : List Component → String
  | .root :: steps => "/" ++ "/".intercalate (steps.map Component.text)
  | steps => "/".intercalate (steps.map Component.text)

def join (directory path : String) : String :=
  if isAbsolute path then path
  else if directory = "" ∨ endsInSlash directory then directory ++ path
  else directory ++ "/" ++ path

def isPlain (path : String) : Bool :=
  (components path).all fun
    | .name _ => true
    | _ => false

end DeployCheck.Path
