import DeployCheck.Host
import DeployCheck.Version
/-!
The directory in which compilers are kept. A release that is missing there is fetched from a mirror:
its bytes are written beside their final place, made executable, and moved there as the last step,
so that a broken download is never taken for a compiler.
-/
namespace DeployCheck

open Text

def isLabelChar (c : Char) : Bool :=
  isAlphanumeric c || c == '.' || c == '+' || c == '-'

/-- A label names a release: it has the right characters and carries a version. -/
def checkLabel (label : String) : Except VerificationError Unit :=
  if label.toList = [] ∨ !label.toList.all isLabelChar then
    .error (.compilerLoad label "unsupported characters in version label")
  else
    match Version.ofLabel label with
    | .ok _ => .ok ()
    | .error _ => .error (.compilerLoad label "not a release label")

/-- An installed compiler: the label it was loaded for and the path of its program. -/
structure Compiler where
  label : String
  program : String
  deriving DecidableEq, Repr

structure CompilerStore where
  mirror : String
  directory : String
  deriving DecidableEq, Repr

namespace CompilerStore

/-- A store; slashes at the end of the mirror's address do not count. -/
def ofSettings (mirror directory : String) : CompilerStore :=
  ⟨String.ofList (mirror.toList.reverse.dropWhile (· = '/')).reverse, directory⟩

def releaseUrl (store : CompilerStore) (label : String) : String :=
  store.mirror ++ "/solc-linux-amd64-" ++ label

def programPath (store : CompilerStore) (label : String) : String :=
  Path.join store.directory ("solc-" ++ label)

def partialPath (store : CompilerStore) (label : String) : String :=
  store.programPath label ++ ".partial"

def install (store : CompilerStore) (label : String) (payload : Payload) (host : Host) :
    Except VerificationError Unit × Host :=
  let refuse (step : String) (reason : OsError) : VerificationError :=
    .compilerLoad label (step ++ ": " ++ reason.message)
  match host.makeDirectories store.directory with
  | (.error reason, host) => (.error (refuse "cannot create compiler dir" reason), host)
  | (.ok (), host) =>
    match host.write (store.partialPath label) payload with
    | (.error reason, host) => (.error (refuse "cannot write binary" reason), host)
    | (.ok (), host) =>
      match host.setMode (store.partialPath label) Disk.programMode with
      | (.error reason, host) => (.error (refuse "cannot mark binary executable" reason), host)
      | (.ok (), host) =>
        match host.rename (store.partialPath label) (store.programPath label) with
        | (.error reason, host) => (.error (refuse "cannot install binary" reason), host)
        | (.ok (), host) => (.ok (), host)

def fetch (store : CompilerStore) (label : String) (host : Host) :
    Except VerificationError Unit × Host :=
  let url := store.releaseUrl label
  match host.send .get url none with
  | (.error fault, host) =>
    (.error (.compilerLoad label ("request failed: " ++ fault.message)), host)
  | (.ok answer, host) =>
    if !Status.isSuccess answer.status then
      (.error (.compilerLoad label ("HTTP " ++ Status.text answer.status ++ " from " ++ url)), host)
    else
      match answer.readBody with
      | .error fault =>
        (.error (.compilerLoad label ("download interrupted: " ++ fault.message)), host)
      | .ok payload => store.install label payload host

/-- The compiler of a release, fetched if nothing is found at its path. -/
def load (store : CompilerStore) (label : String) (host : Host) :
    Except VerificationError Compiler × Host :=
  match checkLabel label with
  | .error fault => (.error fault, host)
  | .ok () =>
    let compiler : Compiler := ⟨label, store.programPath label⟩
    match host.finds (store.programPath label) with
    | (true, host) => (.ok compiler, host)
    | (false, host) =>
      match store.fetch label host with
      | (.ok (), host) => (.ok compiler, host)
      | (.error fault, host) => (.error fault, host)

end CompilerStore

end DeployCheck
