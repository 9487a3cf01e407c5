import DeployCheck.CommandLine.Program
/-!
The outermost layer of the program: it reads the arguments, the environment and the files that they
name, lets the library decide, and writes what it answers. Compilers and servers lie beyond this
layer, so it hands on a host without programs and with a network that nothing leads to.
-/
open DeployCheck

def variableNames : List String :=
  CommandLine.mainGrammar.parameters.filterMap (·.variableName)

def readEnvironment : IO (List (String × String)) := do
  let found ← variableNames.mapM fun name => do
    return (← IO.getEnv name).map ((name, ·))
  return found.filterMap id

/-- Adds what stands at a path to a tree of files. What cannot be read is left out. -/
def addPath (workingDirectory : String) (disk : Disk) (path : String) : IO Disk := do
  let place := Path.segments (Path.join workingDirectory path)
  let entry? : Option Entry ←
    try
      let bytes ← IO.FS.readBinFile path
      pure (some (.file ⟨bytes.toList, none⟩ Disk.newFileMode))
    catch _ =>
      try
        let _ ← IO.FS.realPath path
        pure (some .directory)
      catch _ => pure none
  return match entry? with
    | some entry => (disk.putParents place).put place entry
    | none => disk

def gatherHost (args : List String) (environment : List (String × String))
    (home : Option String) : IO Host := do
  let workingDirectory := (← IO.currentDir).toString
  let location := Path.segments workingDirectory
  let disk := (Disk.empty.putParents location).put location .directory
  let disk ← (Program.pathsToRead args environment home).foldlM (addPath workingDirectory) disk
  return {
    disk
    network := .unreachable
    workingDirectory := location
    scratch := ["tmp"]
    mishaps := []
    runs := [] }

def main (args : List String) : IO UInt32 := do
  let environment ← readEnvironment
  let home ← IO.getEnv "HOME"
  let host ← gatherHost args environment home
  let (ended, _) := Program.run args environment home host
  IO.print ended.output
  IO.eprint ended.errors
  return UInt32.ofNat ended.exitCode
