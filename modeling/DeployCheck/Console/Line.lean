import DeployCheck.Console.Format
import DeployCheck.Text.Blank
namespace DeployCheck

open Text

inductive Line
  | print (text : String)
  | error (text : String)
  deriving DecidableEq, Repr

namespace Line

def json (value : Json) : Line :=
  .print value.pretty

def field (name value : String) : Line :=
  .print ("  " ++ Format.padRight 22 (name ++ ":") ++ " " ++ value)

def success (text : String) : Line :=
  .print ("✅ " ++ text)

def warning (text : String) : Line :=
  .print ("⚠\uFE0F  " ++ text)

def info (text : String) : Line :=
  .print ("ℹ\uFE0F  " ++ text)

def header (title : String) : Line :=
  .print ("\n" ++ title ++ "\n" ++ String.ofList (List.replicate title.length '='))

/-- A value under a title; as JSON it stands alone. -/
def display (value : Json) (title : String) : Format → List Line
  | .json => [json value]
  | .table =>
    [header title, .print (String.ofList (trimBack (Format.table.render value).toList))]

end Line

structure Told (α : Type) where
  lines : List Line
  result : Except CommandError α

end DeployCheck
