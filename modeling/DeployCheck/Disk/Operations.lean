import DeployCheck.Disk.Walk
namespace DeployCheck.Disk

open Text

def newFileMode : Nat := 0o644

def programMode : Nat := 0o755

def lookAt (disk : Disk) (workingDirectory : Location) (path : String) : Except OsError Entry :=
  match disk.resolve workingDirectory path with
  | .error reason => .error reason
  | .ok location =>
    match disk.entry? location with
    | some entry => .ok entry
    | none => .error .notFound

def pathExists (disk : Disk) (workingDirectory : Location) (path : String) : Bool :=
  (disk.lookAt workingDirectory path).isOk

def isDirectory (disk : Disk) (workingDirectory : Location) (path : String) : Bool :=
  match disk.lookAt workingDirectory path with
  | .ok .directory => true
  | _ => false

def pathOf (location : Location) : String :=
  "/" ++ "/".intercalate location

def readBytes (disk : Disk) (workingDirectory : Location) (path : String) :
    Except OsError Utf8.Bytes :=
  match disk.lookAt workingDirectory path with
  | .error reason => .error reason
  | .ok (.file payload _) => .ok payload.bytes
  | .ok _ => .error .isDirectory

def readText (disk : Disk) (workingDirectory : Location) (path : String) : Except OsError String :=
  match disk.readBytes workingDirectory path with
  | .error reason => .error reason
  | .ok bytes =>
    match Utf8.decode? bytes with
    | some text => .ok text
    | none => .error .notUtf8

def makeDirectory (disk : Disk) (workingDirectory : Location) (path : String) :
    Except OsError Disk :=
  match disk.locate workingDirectory false path with
  | .error reason => .error reason
  | .ok (.found _) => .error .exists
  | .ok (.free directory name) => .ok (disk.put (directory ++ [name]) .directory)

/-- Makes the directory that the steps lead to, given from the last one back, and those above it
that are missing. -/
def makeDirectoriesBack (disk : Disk) (workingDirectory : Location) :
    List Path.Component → Except OsError Disk
  | [] => .ok disk
  | last :: before =>
    let path := Path.ofComponents (last :: before).reverse
    match disk.makeDirectory workingDirectory path with
    | .ok disk => .ok disk
    | .error .notFound =>
      match makeDirectoriesBack disk workingDirectory before with
      | .error reason => .error reason
      | .ok disk =>
        match disk.makeDirectory workingDirectory path with
        | .ok disk => .ok disk
        | .error reason =>
          if disk.isDirectory workingDirectory path then .ok disk else .error reason
    | .error reason => if disk.isDirectory workingDirectory path then .ok disk else .error reason

def makeDirectories (disk : Disk) (workingDirectory : Location) (path : String) :
    Except OsError Disk :=
  disk.makeDirectoriesBack workingDirectory (Path.components path).reverse

/-- Writes a file: an existing one keeps its mode, a missing one is made in its directory. A path
that ends in a slash asks for a directory and is refused once the directory above it is reached. -/
def write (disk : Disk) (workingDirectory : Location) (path : String) (payload : Payload) :
    Except OsError Disk :=
  if Path.endsInSlash path ∧ unusable? path = none then
    match disk.walk true maxLinks (startOf workingDirectory path)
        ((Path.segments path).dropLast ++ ["."]) with
    | .error reason => .error reason
    | .ok _ => .error .isDirectory
  else
    match disk.locate workingDirectory true path with
    | .error reason => .error reason
    | .ok (.free directory name) =>
      .ok (disk.put (directory ++ [name]) (.file payload newFileMode))
    | .ok (.found location) =>
      match disk.entry? location with
      | some (.file _ mode) => .ok (disk.put location (.file payload mode))
      | _ => .error .isDirectory

def setMode (disk : Disk) (workingDirectory : Location) (path : String) (mode : Nat) :
    Except OsError Disk :=
  match disk.resolve workingDirectory path with
  | .error reason => .error reason
  | .ok location =>
    match disk.entry? location with
    | some (.file payload _) => .ok (disk.put location (.file payload mode))
    | some _ => .ok disk
    | none => .error .notFound

/-- Moves a file over a name. Links at either name are moved or replaced themselves. -/
def rename (disk : Disk) (workingDirectory : Location) (source target : String) :
    Except OsError Disk :=
  match disk.locate workingDirectory false source, disk.locate workingDirectory false target with
  | .error reason, _ => .error reason
  | _, .error reason => .error reason
  | .ok (.free ..), _ => .error .notFound
  | .ok (.found location), .ok spot =>
    match disk.entry? location, spot with
    | none, _ => .error .notFound
    | some entry, .free directory name =>
      .ok ((disk.remove location).put (directory ++ [name]) entry)
    | some entry, .found other =>
      if disk.entry? other = some .directory then .error .isDirectory
      else if other = location then .ok disk
      else .ok ((disk.remove location).put other entry)

/-- The program that a path leads to. A path without a slash is a bare command, which a system looks
for in its search path. There is no search path here, so a bare command is never found. -/
def programAt (disk : Disk) (workingDirectory : Location) (path : String) :
    Except OsError (Location × Finished) :=
  if '\x00' ∈ path.toList then .error .nulInCommand
  else if '/' ∈ path.toList then
    match disk.resolve workingDirectory path with
    | .error reason => .error reason
    | .ok location =>
      match disk.entry? location with
      | some (.file payload mode) =>
        if mode.testBit 0 ∨ mode.testBit 3 ∨ mode.testBit 6 then
          match payload.program with
          | some finished => .ok (location, finished)
          | none => .error .execFormat
        else .error .accessDenied
      | some _ => .error .accessDenied
      | none => .error .notFound
  else .error .notFound

end DeployCheck.Disk
