import DeployCheck.CommandLine.Grammar
import DeployCheck.Settings.Basic
/-!
The command line of the verifier: options for all commands, then one of the commands `verify`,
`normalize` and `versions` with its own options. A subcommand is read to its end before the options
in front of it are judged.
-/
namespace DeployCheck

namespace CommandLine

inductive Command
  | verify (label contract file address baseDirectory : String) (sources : List String)
  | normalize (label bytecode : String)
  | versions (limit : Option Nat)
  deriving DecidableEq, Repr

structure Invocation where
  config : Option String
  verbose : Bool
  format : String
  overrides : Overrides
  command : Command
  deriving DecidableEq, Repr

def textOption (name : String) (short : Option Char) (variableName : String) : Parameter :=
  ⟨name, short, .take .text, some variableName⟩

def mainGrammar : Grammar where
  parameters :=
    [textOption "config" (some 'c') "VERIFIER_CONFIG",
      ⟨"verbose", some 'v', .flag, some "VERIFIER_VERBOSE"⟩,
      textOption "format" (some 'f') "VERIFIER_FORMAT",
      textOption "rpc-url" none "VERIFIER_RPC_URL",
      textOption "solc-bin-url" none "VERIFIER_SOLC_BIN_URL",
      textOption "version-list-url" none "VERIFIER_VERSION_LIST_URL",
      textOption "compiler-dir" none "VERIFIER_COMPILER_DIR",
      helpParameter, ⟨"version", some 'V', .stop .version, none⟩]
  operand := none
  subcommands := ["verify", "normalize", "versions", "help"]
  required := []

def verifyGrammar : Grammar where
  parameters :=
    ["compiler", "contract", "file", "address"].map (⟨·, none, .take .text, none⟩) ++
      [⟨"base-dir", none, .take .path, none⟩, helpParameter]
  operand := some ⟨"sources", .path, true⟩
  subcommands := []
  required := ["compiler", "contract", "file", "address", "sources"]

def normalizeGrammar : Grammar where
  parameters := [⟨"compiler", none, .take .text, none⟩, helpParameter]
  operand := some ⟨"bytecode", .text, false⟩
  subcommands := []
  required := ["compiler", "bytecode"]

def versionsGrammar : Grammar where
  parameters := [⟨"limit", some 'l', .take .count, none⟩, helpParameter]
  operand := none
  subcommands := []
  required := []

def Given.value? (given : Given) (name : String) : Option String :=
  (List.lookup name given).bind List.head?

def Given.value (given : Given) (name : String) : String :=
  (Given.value? given name).getD ""

/-- Reads the arguments of a subcommand. Its options are not set by the environment. -/
def readLevel (grammar : Grammar) (args : List String) : Except Refusal Given := do
  let (progress, _) ← grammar.scan args .start
  grammar.finish [] progress none

def readCommand (name : String) (args : List String) : Except Refusal Command := do
  if name = "verify" then
    let given ← readLevel verifyGrammar args
    return .verify (Given.value given "compiler") (Given.value given "contract")
      (Given.value given "file") (Given.value given "address")
      ((Given.value? given "base-dir").getD ".") ((List.lookup "sources" given).getD [])
  else if name = "normalize" then
    let given ← readLevel normalizeGrammar args
    return .normalize (Given.value given "compiler") (Given.value given "bytecode")
  else if name = "versions" then
    let given ← readLevel versionsGrammar args
    return .versions ((Given.value? given "limit").bind countOf?)
  else throw (explain mainGrammar.subcommands args)

def read (args : List String) (environment : List (String × String)) :
    Except Refusal Invocation := do
  let (progress, subcommand) ← mainGrammar.scan args .start
  let command ← subcommand.mapM fun (name, rest) => readCommand name rest
  let given ← mainGrammar.finish environment progress (subcommand.map (·.1))
  match command with
  | none => throw .missingSubcommand
  | some command =>
    return {
      config := Given.value? given "config"
      verbose := Given.value? given "verbose" = some "true"
      format := (Given.value? given "format").getD "table"
      overrides :=
        ⟨Given.value? given "rpc-url", Given.value? given "solc-bin-url",
          Given.value? given "version-list-url", Given.value? given "compiler-dir"⟩
      command }

end CommandLine

end DeployCheck
