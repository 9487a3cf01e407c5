import DeployCheck.Console.Error
import DeployCheck.Json.Printer
import DeployCheck.Text.Lowercase
namespace DeployCheck

open Text

inductive Format
  | json
  | table
  deriving DecidableEq, Repr

namespace Format

def name : Format → String
  | json => "json"
  | table => "table"

def ofName (word : String) : Except CommandError Format :=
  let lowered := lowercase word
  if lowered = "json" then .ok .json
  else if lowered = "table" then .ok .table
  else
    .error (.setting ("Unknown output format: '" ++ lowered ++ "'. Supported: json, table"))

def padRight (width : Nat) (text : String) : String :=
  text ++ String.ofList (List.replicate (width - text.length) ' ')

def cell : Json → String
  | .string s => s
  | .null => "-"
  | value => value.compact

def memberLine (member : String × Json) : String :=
  padRight 20 member.1 ++ " " ++ cell member.2 ++ "\n"

def itemLine (index : Nat) (item : Json) : String :=
  "[" ++ showNat index ++ "] " ++ cell item ++ "\n"

def render (format : Format) (value : Json) : String :=
  match format, value with
  | .json, value => value.pretty
  | .table, .object members => String.join (members.map memberLine)
  | .table, .array items => String.join (items.mapIdx itemLine)
  | .table, value => cell value

end Format

end DeployCheck
