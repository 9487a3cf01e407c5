import DeployCheck.CommandLine.Invocation
import DeployCheck.Console.Region
import DeployCheck.Console.Report
import DeployCheck.Console.Releases
import DeployCheck.Sources
import DeployCheck.Verification.OnHost
namespace DeployCheck

open Text

namespace Program

def nameAndVersion : String := "verifier 0.1.0"

def usage : String :=
  "Usage: verifier [OPTIONS] <verify|normalize|versions|help> [ARGUMENTS]"

structure Ended where
  exitCode : Nat
  output : String
  errors : String
  deriving DecidableEq, Repr

def outputOf : Line → String
  | .print text => text ++ "\n"
  | .error _ => ""

def errorsOf : Line → String
  | .print _ => ""
  | .error text => "❌ " ++ text ++ "\n"

def Ended.ofTold (told : Told Unit) : Ended :=
  let output := String.join (told.lines.map outputOf)
  let errors := String.join (told.lines.map errorsOf)
  match told.result with
  | .ok () => ⟨0, output, errors⟩
  | .error fault => ⟨1, output, errors ++ "Error: " ++ fault.message ++ "\n"⟩

def Ended.ofRefusal : CommandLine.Refusal → Ended
  | .version => ⟨0, nameAndVersion ++ "\n", ""⟩
  | .help => ⟨0, usage ++ "\n", ""⟩
  | refusal => ⟨refusal.exitCode, "", usage ++ "\n"⟩

def silent (fault : CommandError) : Told Unit := ⟨[], .error fault⟩

def settings (invocation : CommandLine.Invocation) (home : Option String) (host : Host) :
    Except CommandError Settings := do
  let config ← Config.load host home invocation.config
  Settings.resolve config invocation.overrides home

/-- What a verification needs: the form of its report, the settings, and the request. -/
def prepare (invocation : CommandLine.Invocation) (home : Option String) (host : Host)
    (label contract file address baseDirectory : String) (sources : List String) :
    Except CommandError (Format × Settings × Verification.Request) := do
  let format ← Format.ofName invocation.format
  let settings ← settings invocation home host
  let tree ← Sources.read host sources baseDirectory
  let request ← Sources.request tree label contract file address
  return (format, settings, request)

/-- Verifies with the standard policies. A node answers or fails before a compiler that has to be
waited for is done. -/
def verify (format : Format) (settings : Settings) (request : Verification.Request) (host : Host) :
    Told Unit × Host :=
  let store := CompilerStore.ofSettings settings.mirror settings.compilerDirectory
  let (told, _, host) :=
    Verification.run (Verification.onHost store ⟨settings.rpcUrl⟩) .standard .node format request
      (.empty settings.cacheCapacity) host
  (told, host)

def perform (invocation : CommandLine.Invocation) (home : Option String) (host : Host) :
    Told Unit × Host :=
  match invocation.command with
  | .verify label contract file address baseDirectory sources =>
    match prepare invocation home host label contract file address baseDirectory sources with
    | .error fault => (silent fault, host)
    | .ok (format, settings, request) => verify format settings request host
  | .normalize label bytecode =>
    let prepared := do
      let format ← Format.ofName invocation.format
      let text ← Sources.bytecodeText host bytecode
      return (format, text)
    match prepared with
    | .error fault => (silent fault, host)
    | .ok (format, text) => (RegionView.tell text label format, host)
  | .versions limit =>
    let prepared := do
      let format ← Format.ofName invocation.format
      let settings ← settings invocation home host
      return (format, settings)
    match prepared with
    | .error fault => (silent fault, host)
    | .ok (format, settings) =>
      let (fetched, host) := ReleaseList.fetch settings.listUrl host
      (ReleaseList.run limit format fetched, host)

def pathsToRead (args : List String) (environment : List (String × String))
    (home : Option String) : List String :=
  match CommandLine.read args environment with
  | .error _ => []
  | .ok invocation =>
    (invocation.config.getD (Config.standardPath home)) ::
      match invocation.command with
      | .verify _ _ _ _ baseDirectory sources => baseDirectory :: sources
      | .normalize _ bytecode =>
        match bytecode.toList with
        | '@' :: path => [String.ofList path]
        | _ => []
      | .versions _ => []

def run (args : List String) (environment : List (String × String)) (home : Option String)
    (host : Host) : Ended × Host :=
  match CommandLine.read args environment with
  | .error refusal => (.ofRefusal refusal, host)
  | .ok invocation =>
    let (told, host) := perform invocation home host
    (.ofTold told, host)

end Program

end DeployCheck
