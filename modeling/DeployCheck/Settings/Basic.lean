import DeployCheck.Cache.Basic
import DeployCheck.Settings.Config
import DeployCheck.Text.Search
/-!
The settings of a command. What is given on the command line or in the environment comes before the
config file, and that before the defaults; the first setting that cannot be used is reported.
-/
namespace DeployCheck

open Text

structure Overrides where
  rpcUrl : Option String
  mirror : Option String
  listUrl : Option String
  compilerDirectory : Option String
  deriving DecidableEq, Repr

structure Settings where
  rpcUrl : String
  mirror : String
  listUrl : String
  compilerDirectory : String
  cacheCapacity : Nat
  timeout : Nat
  deriving DecidableEq, Repr

namespace Settings

def standardRpcUrl : String := "http://127.0.0.1:8545"

def standardMirror : String := "https://binaries.soliditylang.org/linux-amd64"

def standardListUrl : String :=
  "https://raw.githubusercontent.com/ethereum/solc-bin/gh-pages/bin/list.txt"

def standardCompilerDirectory : String := "~/.verifier/compilers"

def standardTimeout : Nat := 30

/-- What follows the first `://` of a text. -/
def afterScheme? (text : List Char) : Option (List Char) :=
  match firstOccurrence "://".toList text with
  | some offset => some (text.drop (offset + 3))
  | none => none

def checkUrl (name url : String) : Except CommandError Unit :=
  let known := ["http://", "https://"].any fun start => start.toList.isPrefixOf url.toList
  if known ∧ (afterScheme? url.toList).getD [] ≠ [] then .ok ()
  else
    .error (.setting (name ++ " must be an http:// or https:// URL, got '" ++ url ++ "'"))

def checkCapacity (capacity : Nat) : Except CommandError Nat :=
  if capacity = 0 then .error (.setting "compiler_cache_capacity must be at least 1")
  else .ok capacity

def checkTimeout (timeout : Nat) : Except CommandError Nat :=
  if timeout = 0 then .error (.setting "http_timeout_secs must be at least 1") else .ok timeout

def expandTilde (path : String) (home : Option String) : Except CommandError String :=
  if path = "" then .error (.config "Path cannot be empty")
  else
    match path.toList with
    | '~' :: '/' :: rest =>
      match home with
      | some home => .ok (Path.join home (String.ofList rest))
      | none => .error .noHome
    | ['~'] =>
      match home with
      | some home => .ok home
      | none => .error .noHome
    | _ => .ok path

def resolve (config : Config) (overrides : Overrides) (home : Option String) :
    Except CommandError Settings := do
  let rpcUrl := (overrides.rpcUrl.or config.rpcUrl).getD standardRpcUrl
  let mirror := (overrides.mirror.or config.mirror).getD standardMirror
  let listUrl := (overrides.listUrl.or config.listUrl).getD standardListUrl
  let directory :=
    (overrides.compilerDirectory.or config.compilerDirectory).getD standardCompilerDirectory
  checkUrl "rpc_url" rpcUrl
  checkUrl "solc_bin_url" mirror
  checkUrl "version_list_url" listUrl
  let compilerDirectory ← expandTilde directory home
  let cacheCapacity ← checkCapacity (config.cacheCapacity.getD Cache.standardCapacity)
  let timeout ← checkTimeout (config.timeout.getD standardTimeout)
  return { rpcUrl, mirror, listUrl, compilerDirectory, cacheCapacity, timeout }

end Settings

end DeployCheck
