import DeployCheck.Text.Ascii
import DeployCheck.Text.Utf8
/-!
A tree of files as data. Every entry stands at a location, the list of names from the root; a file
holds bytes and a mode, and a file that is a program also holds what it does when it runs.
-/
namespace DeployCheck

open Text

/-- Why the operating system refuses an operation on files, programs or connections. -/
inductive OsError
  | notFound
  | inputOutput
  | execFormat
  | accessDenied
  | exists
  | notDirectory
  | isDirectory
  | noSpace
  | nameTooLong
  | notEmpty
  | linkLoop
  | networkUnreachable
  | nulByte
  | nulInCommand
  | notUtf8
  deriving DecidableEq, Repr

def OsError.message : OsError → String
  | notFound => "No such file or directory (os error 2)"
  | inputOutput => "Input/output error (os error 5)"
  | execFormat => "Exec format error (os error 8)"
  | accessDenied => "Permission denied (os error 13)"
  | «exists» => "File exists (os error 17)"
  | notDirectory => "Not a directory (os error 20)"
  | isDirectory => "Is a directory (os error 21)"
  | noSpace => "No space left on device (os error 28)"
  | nameTooLong => "File name too long (os error 36)"
  | notEmpty => "Directory not empty (os error 39)"
  | linkLoop => "Too many levels of symbolic links (os error 40)"
  | networkUnreachable => "Network is unreachable (os error 101)"
  | nulByte => "file name contained an unexpected NUL byte"
  | nulInCommand => "nul byte found in provided data"
  | notUtf8 => "stream did not contain valid UTF-8"

inductive Ending
  | exited (code : Nat)
  | killed (signal : Nat)
  deriving DecidableEq, Repr

def signalNames : List String :=
  [
    "SIGHUP", "SIGINT", "SIGQUIT", "SIGILL", "SIGTRAP", "SIGABRT", "SIGBUS", "SIGFPE", "SIGKILL",
    "SIGUSR1", "SIGSEGV", "SIGUSR2", "SIGPIPE", "SIGALRM", "SIGTERM", "SIGSTKFLT", "SIGCHLD",
    "SIGCONT", "SIGSTOP", "SIGTSTP", "SIGTTIN", "SIGTTOU", "SIGURG", "SIGXCPU", "SIGXFSZ",
    "SIGVTALRM", "SIGPROF", "SIGWINCH", "SIGIO", "SIGPWR", "SIGSYS"
  ]

def Ending.text : Ending → String
  | exited code => "exit status: " ++ showNat code
  | killed signal =>
    "signal: " ++ showNat signal ++
      match signalNames[signal - 1]? with
      | some name => if signal = 0 then "" else " (" ++ name ++ ")"
      | none => ""

def Ending.isSuccess : Ending → Bool
  | exited code => code == 0
  | killed _ => false

structure Finished where
  stdout : Utf8.Bytes
  stderr : Utf8.Bytes
  ending : Ending
  deriving DecidableEq, Repr

structure Payload where
  bytes : Utf8.Bytes
  program : Option Finished
  deriving DecidableEq, Repr

def Payload.ofText (text : String) : Payload :=
  ⟨Utf8.encode text, none⟩

abbrev Location := List String

inductive Entry
  | file (payload : Payload) (mode : Nat)
  | directory
  | link (target : String)
  deriving DecidableEq, Repr

structure Disk where
  entries : List (Location × Entry)
  deriving DecidableEq, Repr

namespace Disk

def empty : Disk := ⟨[]⟩

def entry? (disk : Disk) (location : Location) : Option Entry :=
  if location = [] then some .directory else List.lookup location disk.entries

def put (disk : Disk) (location : Location) (entry : Entry) : Disk :=
  ⟨(location, entry) :: disk.entries.filter (·.1 ≠ location)⟩

def remove (disk : Disk) (location : Location) : Disk :=
  ⟨disk.entries.filter fun (other, _) => !location.isPrefixOf other⟩

def putParents (disk : Disk) (location : Location) : Disk :=
  (List.range location.length).foldl
    (fun disk count =>
      let above := location.take count
      if (disk.entry? above).isSome then disk else disk.put above .directory)
    disk

def filesBelow (disk : Disk) (location : Location) : List (Location × Payload) :=
  disk.entries.filterMap fun (other, entry) =>
    match entry with
    | .file payload _ =>
      if location.isPrefixOf other then some (other.drop location.length, payload) else none
    | _ => none

end Disk

end DeployCheck
