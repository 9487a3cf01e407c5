/-!
TOML values, and how tables grow as a document is read. A table remembers how it came to be, since
that decides who may still add to it: a header may define only what is new or merely implied, dotted
keys may reach only into tables that dotted keys or deeper headers made, and an inline table is
complete.
-/
namespace DeployCheck

namespace Toml

inductive Making
  | inline
  /-- By the dotted keys of its members. -/
  | dotted
  /-- By a header for a table below it. -/
  | implied
  | headed
  deriving DecidableEq, Repr

end Toml

/-- A TOML value. Of a number with a fraction and of a moment in time only the kind is kept. -/
inductive Toml
  | string (s : String)
  | integer (n : Int)
  | float
  | boolean (b : Bool)
  | moment
  | array (items : List Toml)
  | table (making : Toml.Making) (members : List (String × Toml))
  /-- The tables of an array, last first. -/
  | tables (items : List (List (String × Toml)))
  deriving Repr, Inhabited

namespace Toml

abbrev Members := List (String × Toml)

def Members.set (members : Members) (key : String) (value : Toml) : Members :=
  (key, value) :: members.filter (·.1 ≠ key)

/-- Adds a value under a key. A key of several parts makes the tables on its way; it may not end in
a table that was made otherwise, and no key may be given twice. -/
def add (making : Making) (nested : Bool) (value : Toml) : List String → Members → Option Members
  | [], _ => none
  | [key], members =>
    if (nested ∧ making ≠ .dotted) ∨ (List.lookup key members).isSome then none
    else some (members.set key value)
  | key :: rest, members =>
    match List.lookup key members with
    | none => (add .dotted true value rest []).map fun sub => members.set key (.table .dotted sub)
    | some (.table .dotted sub) =>
      (add .dotted true value rest sub).map fun sub => members.set key (.table .dotted sub)
    | some (.table .implied sub) =>
      (add .implied true value rest sub).map fun sub => members.set key (.table .implied sub)
    | some (.tables (last :: items)) =>
      (add .headed true value rest last).map fun last => members.set key (.tables (last :: items))
    | _ => none

/-- Changes the table that the parts of a header lead to, making the tables on the way that are
missing. Of an array of tables the last one is meant. -/
def reach (change : Members → Option Members) : List String → Members → Option Members
  | [], members => change members
  | key :: rest, members =>
    match List.lookup key members with
    | none => (reach change rest []).map fun sub => members.set key (.table .implied sub)
    | some (.table .inline _) => none
    | some (.table making sub) =>
      (reach change rest sub).map fun sub => members.set key (.table making sub)
    | some (.tables (last :: items)) =>
      (reach change rest last).map fun last => members.set key (.tables (last :: items))
    | _ => none

def openTable (key : String) (members : Members) : Option Members :=
  match List.lookup key members with
  | none => some (members.set key (.table .headed []))
  | some (.table .implied sub) => some (members.set key (.table .headed sub))
  | _ => none

def openItem (key : String) (members : Members) : Option Members :=
  match List.lookup key members with
  | none => some (members.set key (.tables [[]]))
  | some (.tables items) => some (members.set key (.tables ([] :: items)))
  | _ => none

end Toml

end DeployCheck
