import DeployCheck.Console.Error
import DeployCheck.Host
import DeployCheck.Toml.Document
namespace DeployCheck

open Text

structure Config where
  rpcUrl : Option String
  mirror : Option String
  listUrl : Option String
  compilerDirectory : Option String
  cacheCapacity : Option Nat
  timeout : Option Nat
  deriving DecidableEq, Repr

namespace Config

def empty : Config := ⟨none, none, none, none, none, none⟩

def invalid : CommandError := .config "Invalid config file"

def text (members : Toml.Members) (key : String) : Except CommandError (Option String) :=
  match List.lookup key members with
  | none => .ok none
  | some (.string s) => .ok (some s)
  | some _ => .error invalid

def count (members : Toml.Members) (key : String) : Except CommandError (Option Nat) :=
  match List.lookup key members with
  | none => .ok none
  | some (.integer n) => if 0 ≤ n then .ok (some n.toNat) else .error invalid
  | some _ => .error invalid

def ofMembers (members : Toml.Members) : Except CommandError Config := do
  return {
    rpcUrl := ← text members "rpc_url"
    mirror := ← text members "solc_bin_url"
    listUrl := ← text members "version_list_url"
    compilerDirectory := ← text members "compiler_dir"
    cacheCapacity := ← count members "compiler_cache_capacity"
    timeout := ← count members "http_timeout_secs" }

def ofText (text : String) : Except CommandError Config :=
  match Toml.ofText text with
  | some members => ofMembers members
  | none => .error invalid

def standardPath (home : Option String) : String :=
  match home with
  | some home => Path.join (Path.join home ".verifier") "config.toml"
  | none => "./verifier.toml"

def read (host : Host) (path : String) : Except CommandError Config :=
  match host.readText path with
  | .ok text => ofText text
  | .error reason => .error (.config ("Failed to read " ++ path ++ ": " ++ reason.message))

/-- Loads the config file. It may be missing at its standard place, but not at a place that was
named. -/
def load (host : Host) (home path : Option String) : Except CommandError Config :=
  match path with
  | some path =>
    if host.pathExists path then read host path
    else .error (.config ("Configuration file not found: " ++ path))
  | none =>
    if host.pathExists (standardPath home) then read host (standardPath home) else .ok empty

end Config

end DeployCheck
