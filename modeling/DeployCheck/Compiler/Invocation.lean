import DeployCheck.Compiler.Artifacts
import DeployCheck.Compiler.Store
import DeployCheck.Text.Blank
/-!
One run of a compiler. The sources are written into a fresh directory under their own names, the
program is run there on those names, and its output is read. A name that could lead out of the
directory or be taken for an option is refused before anything is run.
-/
namespace DeployCheck

open Text

namespace Compiler

/-- A source name that stays inside the directory and is no option. -/
def isSafeName (name : String) : Bool :=
  name ≠ "" && Path.isPlain name && name.toList.head? != some '-'

def refusal (name : String) : VerificationError :=
  .compilationFailed ["unsupported source path '" ++ name ++ "'"]

def stagingFailure (name : String) (reason : OsError) : VerificationError :=
  .compileOutput ("cannot stage " ++ name ++ ": " ++ reason.message)

def stageOne (directory : String) (name text : String) (host : Host) :
    Except VerificationError Unit × Host :=
  if !isSafeName name then (.error (refusal name), host)
  else
    let path := Path.join directory name
    match host.makeDirectories (Path.ofComponents (Path.components path).dropLast) with
    | (.error reason, host) => (.error (stagingFailure name reason), host)
    | (.ok (), host) =>
      match host.write path (.ofText text) with
      | (.error reason, host) => (.error (stagingFailure name reason), host)
      | (.ok (), host) => (.ok (), host)

/-- Writes the sources below a directory in the order of their names. -/
def stage (directory : String) : SourceTree → Host → Except VerificationError Unit × Host
  | [], host => (.ok (), host)
  | (name, text) :: rest, host =>
    match stageOne directory name text host with
    | (.error fault, host) => (.error fault, host)
    | (.ok (), host) => stage directory rest host

/-- The arguments of a run: the output that is wanted, the optimizer, and the source names. -/
def arguments (sources : SourceTree) (optimize : Bool) : List String :=
  ["--combined-json", "bin-runtime"] ++ (if optimize then ["--optimize"] else []) ++ sources.keys

/-- What the compiler complained about: the lines of its error stream, or at least how it ended. -/
def complaints (finished : Finished) : List String :=
  match trimmedLines (Utf8.decodeLossy finished.stderr).toList with
  | [] => ["solc exited with " ++ finished.ending.text]
  | lines => lines.map String.ofList

def outcome (finished : Finished) : Except VerificationError Artifacts :=
  if finished.ending.isSuccess then CombinedOutput.artifacts (Utf8.decodeLossy finished.stdout)
  else .error (.compilationFailed (complaints finished))

def runIn (compiler : Compiler) (directory : Location) (sources : SourceTree) (optimize : Bool)
    (host : Host) : Except VerificationError Artifacts × Host :=
  match host.run directory compiler.program (arguments sources optimize) with
  | (.error reason, host) =>
    (.error (.compileOutput ("failed to run " ++ compiler.program ++ ": " ++ reason.message)), host)
  | (.ok finished, host) => (outcome finished, host)

/-- Compiles sources in a fresh directory, which is removed afterwards. -/
def compile (compiler : Compiler) (sources : SourceTree) (optimize : Bool) (host : Host) :
    Except VerificationError Artifacts × Host :=
  match host.makeScratch with
  | (.error reason, host) =>
    (.error (.compileOutput ("cannot create workdir: " ++ reason.message)), host)
  | (.ok directory, host) =>
    match stage (Disk.pathOf directory) sources host with
    | (.error fault, host) => (.error fault, host.removeScratch directory)
    | (.ok (), host) =>
      let (result, host) := compiler.runIn directory sources optimize host
      (result, host.removeScratch directory)

/-- A compilation that is refused before it has to wait for anything: a fresh directory is made at
once, nothing is written before the first name is judged, and without sources the program is started
at once. -/
def failsAtOnce (compiler : Compiler) (sources : SourceTree) (host : Host) : Bool :=
  match host.makeScratch with
  | (.error _, _) => true
  | (.ok directory, host) =>
    match sources with
    | [] => !(host.disk.programAt directory compiler.program).isOk
    | (name, _) :: _ => !isSafeName name

end Compiler

end DeployCheck
