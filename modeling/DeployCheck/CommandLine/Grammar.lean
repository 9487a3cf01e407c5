import DeployCheck.Text.Ascii
/-!
The grammar of a command line: options with a long and perhaps a short name, operands, and
subcommands with a grammar of their own. An option's value is attached to it or follows it; what
starts with a dash is no value, unless it stands behind `--`.
-/
namespace DeployCheck

open Text

namespace CommandLine

/-- Why a command line is not obeyed. Asking for help or for the version is one of the reasons. -/
inductive Refusal
  | unknownArgument
  | invalidSubcommand
  | missingSubcommand
  /-- Nothing at all was given, so help is shown. -/
  | nothingGiven
  | missingArgument
  | invalidValue
  | unreadableValue
  /-- An option that may be given once was given again. -/
  | repeated
  | tooManyValues
  | help
  | version
  deriving DecidableEq, Repr

def Refusal.exitCode : Refusal → Nat
  | help | version => 0
  | _ => 2

inductive Kind
  | text
  /-- Any text but the empty one. -/
  | path
  /-- A number that fits 64 bits. -/
  | count
  /-- `true` or `false`, from the environment only. -/
  | switch
  deriving DecidableEq, Repr

/-- The number that a value writes; a plus may stand in front. -/
def countOf? (value : String) : Option Nat :=
  match value.toList with
  | '+' :: digits => word? digits
  | digits => word? digits

def Kind.check (kind : Kind) (value : String) : Except Refusal Unit :=
  match kind with
  | text => .ok ()
  | path => if value = "" then .error .invalidValue else .ok ()
  | count => if (countOf? value).isSome then .ok () else .error .unreadableValue
  | switch => if value = "true" ∨ value = "false" then .ok () else .error .invalidValue

inductive Effect
  /-- It takes a value. -/
  | take (kind : Kind)
  /-- It is set by being given. -/
  | flag
  /-- It ends everything. -/
  | stop (refusal : Refusal)
  deriving DecidableEq, Repr

structure Parameter where
  name : String
  short : Option Char
  effect : Effect
  /-- The variable of the environment that stands in for it. -/
  variableName : Option String
  deriving DecidableEq, Repr

structure Operand where
  name : String
  kind : Kind
  many : Bool
  deriving DecidableEq, Repr

structure Grammar where
  parameters : List Parameter
  operand : Option Operand
  subcommands : List String
  /-- What has to be given at this level. -/
  required : List String
  deriving DecidableEq, Repr

def helpParameter : Parameter := ⟨"help", some 'h', .stop .help, none⟩

abbrev Given := List (String × List String)

/-- How far the reading of a level has come. Values wait to be judged until something else begins.
-/
structure Progress where
  given : Given
  pending : Option (Operand × List String)
  /-- The pending option still needs its value. -/
  awaiting : Bool
  /-- Only operands follow. -/
  trailing : Bool
  deriving DecidableEq, Repr

namespace Progress

def start : Progress := ⟨[], none, false, false⟩

def record (progress : Progress) (name : String) (values : List String) : Progress :=
  let known := (List.lookup name progress.given).getD []
  { progress with
    given := progress.given.filter (·.1 ≠ name) ++ [(name, known ++ values)] }

/-- Accepts values for a name. Only an operand of many values may be given more than once. -/
def accept (progress : Progress) (target : Operand) (values : List String) :
    Except Refusal Progress := do
  if values = [] then throw .invalidValue
  if (List.lookup target.name progress.given).isSome ∧ !target.many then throw .repeated
  values.forM target.kind.check
  return progress.record target.name values

def settle (progress : Progress) : Except Refusal Progress :=
  match progress.pending with
  | none => .ok progress
  | some (target, values) =>
    { progress with pending := none, awaiting := false }.accept target values

end Progress

def Parameter.target (parameter : Parameter) (kind : Kind) : Operand :=
  ⟨parameter.name, kind, false⟩

def Parameter.apply (parameter : Parameter) (attached : Option String) (progress : Progress) :
    Except Refusal Progress := do
  match parameter.effect, attached with
  | .take kind, some value => (← progress.settle).accept (parameter.target kind) [value]
  | .take kind, none =>
    let progress ← progress.settle
    return { progress with pending := some (parameter.target kind, []), awaiting := true }
  | _, some _ => throw .tooManyValues
  | .flag, none => (← progress.settle).accept (parameter.target .switch) ["true"]
  | .stop refusal, none =>
    let _ ← progress.settle
    throw refusal

namespace Grammar

def readLong (grammar : Grammar) (text : List Char) (progress : Progress) :
    Except Refusal Progress :=
  let name := String.ofList (text.takeWhile (· ≠ '='))
  let attached :=
    match text.dropWhile (· ≠ '=') with
    | _ :: value => some (String.ofList value)
    | [] => none
  match grammar.parameters.find? (·.name == name) with
  | some parameter => parameter.apply attached progress
  | none => .error .unknownArgument

/-- Reads options by their short names, behind one dash. What follows the name of an option that
takes a value is that value. -/
def readShort (grammar : Grammar) : List Char → Progress → Except Refusal Progress
  | [], progress => .ok progress
  | c :: rest, progress =>
    match grammar.parameters.find? (·.short == some c) with
    | none => .error .unknownArgument
    | some parameter =>
      match parameter.effect with
      | .take _ =>
        match rest with
        | [] => parameter.apply none progress
        | '=' :: value => parameter.apply (some (String.ofList value)) progress
        | value => parameter.apply (some (String.ofList value)) progress
      | _ =>
        match parameter.apply none progress with
        | .ok progress => readShort grammar rest progress
        | .error refusal => .error refusal

def isFilled (target : Operand) (progress : Progress) : Bool :=
  !target.many &&
    ((List.lookup target.name progress.given).isSome || progress.pending.any (·.1 == target))

def readOperand (grammar : Grammar) (arg : String) (progress : Progress) :
    Except Refusal Progress :=
  let misplaced : Refusal :=
    if progress.trailing ∧ arg ∈ grammar.subcommands then .unknownArgument
    else if grammar.subcommands ≠ [] ∧ grammar.operand = none then .invalidSubcommand
    else .unknownArgument
  match grammar.operand with
  | none => .error misplaced
  | some target =>
    if isFilled target progress then .error misplaced
    else
      match progress.pending with
      | some (other, values) =>
        if other = target then .ok { progress with pending := some (target, values ++ [arg]) }
        else
          match progress.settle with
          | .error refusal => .error refusal
          | .ok progress => .ok { progress with pending := some (target, [arg]) }
      | none => .ok { progress with pending := some (target, [arg]) }

def readArgument (grammar : Grammar) (arg : String) (progress : Progress) :
    Except Refusal Progress :=
  let value (progress : Progress) : Except Refusal Progress :=
    match progress.awaiting, progress.pending with
    | true, some (target, values) =>
      .ok { progress with pending := some (target, values ++ [arg]), awaiting := false }
    | _, _ => grammar.readOperand arg progress
  if progress.trailing then grammar.readOperand arg progress
  else
    match arg.toList with
    | ['-', '-'] => .ok { progress with trailing := true, awaiting := false }
    | '-' :: '-' :: text => grammar.readLong text progress
    | ['-'] => value progress
    | '-' :: text => grammar.readShort text progress
    | _ => value progress

/-- Reads arguments up to the end or to a subcommand, which is given with what follows it. -/
def scan (grammar : Grammar) : List String → Progress →
    Except Refusal (Progress × Option (String × List String))
  | [], progress => .ok (progress, none)
  | arg :: rest, progress =>
    if !progress.trailing ∧ !progress.awaiting ∧ arg ∈ grammar.subcommands then
      .ok (progress, some (arg, rest))
    else
      match grammar.readArgument arg progress with
      | .ok progress => scan grammar rest progress
      | .error refusal => .error refusal

def consult (environment : List (String × String)) (progress : Progress)
    (parameter : Parameter) : Except Refusal Progress :=
  if (List.lookup parameter.name progress.given).isSome then .ok progress
  else
    match parameter.variableName.bind fun name => List.lookup name environment with
    | none => .ok progress
    | some value =>
      match parameter.effect with
      | .take kind => progress.accept (parameter.target kind) [value]
      | .flag => progress.accept (parameter.target .switch) [value]
      | .stop _ => .ok progress

/-- Ends a level: waiting values are judged, the environment is consulted, and what is required has
to be there. -/
def finish (grammar : Grammar) (environment : List (String × String)) (progress : Progress)
    (subcommand : Option String) : Except Refusal Given := do
  let progress ← progress.settle
  let progress ← grammar.parameters.foldlM (consult environment) progress
  if grammar.subcommands ≠ [] ∧ subcommand = none then
    throw (if progress.given = [] then .nothingGiven else .missingSubcommand)
  if grammar.required.all fun name => (List.lookup name progress.given).isSome then
    return progress.given
  else throw .missingArgument

end Grammar

/-- What the subcommand that explains others does: every name has to be known, and only the first
level has names to explain. -/
def explain (subcommands : List String) : List String → Refusal
  | [] => .help
  | [name] => if name ∈ subcommands then .help else .invalidSubcommand
  | _ => .invalidSubcommand

end CommandLine

end DeployCheck
