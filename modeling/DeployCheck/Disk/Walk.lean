import DeployCheck.Disk.Basic
import DeployCheck.Path
/-!
Following a path through a tree. Names are looked up one after another, two points lead up, and a
symbolic link is replaced by its target. Forty links may be followed on one way.
-/
namespace DeployCheck.Disk

open Text

/-- Where a way ends: at an entry, or at a name that is free in an existing directory. -/
inductive Spot
  | found (location : Location)
  | free (directory : Location) (name : String)
  deriving DecidableEq, Repr

/-- Where a way stops for the time being: at its end, or at a link that is to be followed. -/
inductive Stop
  | spot (spot : Spot)
  | atLink (directory : Location) (target : String) (rest : List String)
  deriving DecidableEq, Repr

def maxNameLength : Nat := 255

def maxPathLength : Nat := 4095

def maxLinks : Nat := 40

/-- The steps that a path asks for. A slash at the end asks for a directory, like a point. -/
def stepsOf (path : String) : List String :=
  Path.segments path ++ if Path.endsInSlash path then ["."] else []

def advance (disk : Disk) (follow : Bool) : Location → List String → Except OsError Stop
  | here, [] => .ok (.spot (.found here))
  | here, name :: rest =>
    if name = "." then advance disk follow here rest
    else if name = ".." then advance disk follow here.dropLast rest
    else if maxNameLength < utf8Length name.toList then .error .nameTooLong
    else
      match disk.entry? (here ++ [name]) with
      | none => if rest = [] then .ok (.spot (.free here name)) else .error .notFound
      | some (.file ..) =>
        if rest = [] then .ok (.spot (.found (here ++ [name]))) else .error .notDirectory
      | some .directory => advance disk follow (here ++ [name]) rest
      | some (.link target) =>
        if rest = [] ∧ !follow then .ok (.spot (.found (here ++ [name])))
        else .ok (.atLink here target rest)

def walk (disk : Disk) (follow : Bool) : Nat → Location → List String → Except OsError Spot
  | links, here, steps =>
    match advance disk follow here steps with
    | .error reason => .error reason
    | .ok (.spot spot) => .ok spot
    | .ok (.atLink directory target rest) =>
      match links with
      | 0 => .error .linkLoop
      | links + 1 =>
        walk disk follow links (if Path.isAbsolute target then [] else directory)
          (stepsOf target ++ rest)

/-- A path that no tree can hold: one with a NUL in it, the empty path, and one that is too long. -/
def unusable? (path : String) : Option OsError :=
  if '\x00' ∈ path.toList then some .nulByte
  else if path = "" then some .notFound
  else if maxPathLength < utf8Length path.toList then some .nameTooLong
  else none

def startOf (workingDirectory : Location) (path : String) : Location :=
  if Path.isAbsolute path then [] else workingDirectory

/-- The end of a path that is read from a working directory. A link at the very end is followed on
request. -/
def locate (disk : Disk) (workingDirectory : Location) (follow : Bool) (path : String) :
    Except OsError Spot :=
  match unusable? path with
  | some reason => .error reason
  | none => walk disk follow maxLinks (startOf workingDirectory path) (stepsOf path)

def resolve (disk : Disk) (workingDirectory : Location) (path : String) :
    Except OsError Location :=
  match disk.locate workingDirectory true path with
  | .error reason => .error reason
  | .ok (.found location) => .ok location
  | .ok (.free ..) => .error .notFound

end DeployCheck.Disk
