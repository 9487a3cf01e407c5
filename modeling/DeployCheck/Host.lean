import DeployCheck.Disk.Operations
import DeployCheck.Network.Transport
/-!
The computer that a command runs on, as data: its files, its network, the programs it has run, and
the mishaps that will befall it when it next looks for a file or changes one. Every effect is a
function from a host to an answer and the host after it.
-/
namespace DeployCheck

open Text

/-- A failure that no state of the files explains, such as a full device. A write that fails may
leave the first bytes of its payload behind. -/
structure Mishap where
  reason : OsError
  kept : Option Nat
  deriving DecidableEq, Repr

/-- A program that was run: where it stands, its arguments, and the files in the directory it was
run in, named from there. -/
structure Run where
  program : Location
  arguments : List String
  files : List (Location × Payload)
  deriving DecidableEq, Repr

structure Host where
  disk : Disk
  network : Network
  workingDirectory : Location
  /-- Where directories for temporary files are made. -/
  scratch : Location
  /-- What happens to the looks at files and the changes still to come, in order; after the last all
  goes well. -/
  mishaps : List (Option Mishap)
  runs : List Run
  deriving DecidableEq, Repr

namespace Host

def takeMishap (host : Host) : Option Mishap × Host :=
  (host.mishaps.head?.join, { host with mishaps := host.mishaps.drop 1 })

/-- Changes the files, unless a mishap prevents it. -/
def change (host : Host) (act : Disk → Except OsError Disk) : Except OsError Unit × Host :=
  match host.takeMishap with
  | (some mishap, host) => (.error mishap.reason, host)
  | (none, host) =>
    match act host.disk with
    | .ok disk => (.ok (), { host with disk })
    | .error reason => (.error reason, host)

def makeDirectories (host : Host) (path : String) : Except OsError Unit × Host :=
  host.change fun disk => disk.makeDirectories host.workingDirectory path

def write (host : Host) (path : String) (payload : Payload) : Except OsError Unit × Host :=
  match host.takeMishap with
  | (some mishap, host) =>
    match mishap.kept with
    | none => (.error mishap.reason, host)
    | some count =>
      match host.disk.write host.workingDirectory path ⟨payload.bytes.take count, none⟩ with
      | .ok disk => (.error mishap.reason, { host with disk })
      | .error reason => (.error reason, host)
  | (none, host) =>
    match host.disk.write host.workingDirectory path payload with
    | .ok disk => (.ok (), { host with disk })
    | .error reason => (.error reason, host)

def setMode (host : Host) (path : String) (mode : Nat) : Except OsError Unit × Host :=
  host.change fun disk => disk.setMode host.workingDirectory path mode

def rename (host : Host) (source target : String) : Except OsError Unit × Host :=
  host.change fun disk => disk.rename host.workingDirectory source target

def pathExists (host : Host) (path : String) : Bool :=
  host.disk.pathExists host.workingDirectory path

/-- Looks whether a path leads anywhere. A mishap hides what is there. -/
def finds (host : Host) (path : String) : Bool × Host :=
  match host.takeMishap with
  | (some _, host) => (false, host)
  | (none, host) => (host.pathExists path, host)

def readText (host : Host) (path : String) : Except OsError String :=
  host.disk.readText host.workingDirectory path

def send (host : Host) (method : Method) (url : String) (body : Option String) :
    Except TransportError Answer × Host :=
  let (result, network) := host.network.send method url body
  (result, { host with network })

def scratchName (index : Nat) : String :=
  ".tmp" ++ showNat index

/-- Makes an empty directory under the first name that is free, and tells where. -/
def makeScratch (host : Host) : Except OsError Location × Host :=
  if host.disk.entry? host.scratch ≠ some .directory then (.error .notFound, host)
  else
    let taken (name : String) : Bool :=
      host.disk.entries.any fun (location, _) => (host.scratch ++ [name]).isPrefixOf location
    match ((List.range (host.disk.entries.length + 1)).map scratchName).find? (!taken ·) with
    | none => (.error .exists, host)
    | some name =>
      let location := host.scratch ++ [name]
      (.ok location, { host with disk := host.disk.put location .directory })

def removeScratch (host : Host) (location : Location) : Host :=
  { host with disk := host.disk.remove location }

/-- Runs a program from inside a directory and notes the run. The path of the program is read from
that directory too. -/
def run (host : Host) (directory : Location) (program : String) (arguments : List String) :
    Except OsError Finished × Host :=
  match host.disk.programAt directory program with
  | .error reason => (.error reason, host)
  | .ok (location, finished) =>
    (.ok finished,
      { host with runs := host.runs ++ [⟨location, arguments, host.disk.filesBelow directory⟩] })

end Host

end DeployCheck
