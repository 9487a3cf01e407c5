import DeployCheck.Console.Error
import DeployCheck.Host
import DeployCheck.Verification.Report
/-!
How source files become a source tree. A file is named by the way from the base directory down to
it, and that name is what the compiler sees. Files are told apart by where they really stand, so
that a link is no second file.
-/
namespace DeployCheck

open Text

namespace Sources

/-- The part that a step of a path contributes; a point at the front contributes none. -/
def part? : Path.Component → Option String
  | .current => none
  | step => some step.text

def parts (path : String) : List String :=
  (Path.components path).filterMap part?

/-- The name of a path below a base directory, both read lexically: the parts that the path has
beyond those of the base. -/
def key (path base : String) : Except CommandError String :=
  let rest := (parts path).drop (parts base).length
  if !(parts base).isPrefixOf (parts path) ∨ rest = [] then
    .error (.source (path ++ " is not inside base directory " ++ base))
  else if ".." ∈ rest then .error (.source (path ++ " escapes the base directory"))
  else .ok ("/".intercalate rest)

def canonical (host : Host) (path : String) : Except CommandError String :=
  match host.disk.resolve host.workingDirectory path with
  | .ok location => .ok (Disk.pathOf location)
  | .error reason => .error (.unreadable path reason.message)

def add (host : Host) (base : String) (sources : SourceTree) (path : String) :
    Except CommandError SourceTree := do
  let file ← canonical host path
  let name ← key file base
  match host.readText file with
  | .error reason => .error (.unreadable path reason.message)
  | .ok text =>
    if (TextMap.find? sources name).isSome then
      .error (.source ("Source '" ++ name ++ "' supplied twice"))
    else .ok (TextMap.insert name text sources)

def read (host : Host) (paths : List String) (base : String) : Except CommandError SourceTree := do
  let base ← canonical host base
  paths.foldlM (add host base) []

def checkContractFile (sources : SourceTree) (filename : String) : Except CommandError Unit :=
  if (TextMap.find? sources filename).isSome then .ok ()
  else
    let available :=
      match sources.keys with
      | [] => "none"
      | names => ", ".intercalate names
    .error
      (.source ("'" ++ filename ++ "' is not among the supplied sources (" ++ available ++ ")"))

def request (sources : SourceTree) (label contract filename address : String) :
    Except CommandError Verification.Request := do
  checkContractFile sources filename
  return ⟨sources, label, contract, filename, address⟩

/-- The text that an argument stands for: that of a file behind `@`, else the argument itself. -/
def bytecodeText (host : Host) (argument : String) : Except CommandError String :=
  match argument.toList with
  | '@' :: path =>
    let path := String.ofList path
    match host.readText path with
    | .ok text => .ok text
    | .error reason => .error (.unreadable path reason.message)
  | _ => .ok argument

end Sources

end DeployCheck
