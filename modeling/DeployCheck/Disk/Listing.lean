import DeployCheck.Disk.Operations
/-!
What a reader finds who goes through a directory and everything below it. Links are followed, so a
file is found once for each way that leads to it; a name that leads nowhere, or that cannot be read,
counts as an empty file.
-/
namespace DeployCheck.Disk

open Text

def namesIn (disk : Disk) (directory : Location) : List String :=
  disk.entries.filterMap fun (location, _) =>
    match location.getLast? with
    | some name => if location.dropLast = directory then some name else none
    | none => none

/-- What is found behind one way of names from the root, and below it as far down as allowed. -/
def contentsFrom (disk : Disk) : Nat → List String → List (List String × Utf8.Bytes)
  | depth, way =>
    match disk.walk true maxLinks [] way with
    | .ok (.found location) =>
      match disk.entry? location with
      | some (.file payload _) => [(way, payload.bytes)]
      | some .directory =>
        match depth with
        | 0 => []
        | depth + 1 =>
          (disk.namesIn location).flatMap fun name => contentsFrom disk depth (way ++ [name])
      | _ => [(way, [])]
    | _ => [(way, [])]

/-- The files that are found below a directory, named from there. A way goes down at most as far as
the tree is deep before it has to follow a link, and it may follow only so many links. -/
def contents (disk : Disk) (directory : Location) : List (List String × Utf8.Bytes) :=
  let height := disk.entries.foldl (fun height (location, _) => max height location.length) 0
  (disk.contentsFrom ((maxLinks + 1) * (height + 1)) directory).map fun (way, bytes) =>
    (way.drop directory.length, bytes)

end DeployCheck.Disk
