import DeployCheck.Text.Ascii
/-!
Maps whose keys are texts, kept in the order of the keys' bytes: source trees, artifact maps and
everything else that is read back in key order.
-/
namespace DeployCheck

open Text

abbrev TextMap (α : Type) := List (String × α)

namespace TextMap

def find? {α : Type} (map : TextMap α) (key : String) : Option α :=
  List.lookup key map

def insert {α : Type} (key : String) (value : α) : TextMap α → TextMap α
  | [] => [(key, value)]
  | (other, kept) :: rest =>
    if key = other then (key, value) :: rest
    else if before key other then (key, value) :: (other, kept) :: rest
    else (other, kept) :: insert key value rest

/-- The map that the pairs build up; a later pair replaces an earlier one of the same key. -/
def ofList {α : Type} (pairs : List (String × α)) : TextMap α :=
  pairs.foldl (fun map (key, value) => map.insert key value) []

def keys {α : Type} (map : TextMap α) : List String :=
  map.map (·.1)

end TextMap

end DeployCheck
