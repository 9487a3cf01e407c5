import DeployCheck.Verification.Course
namespace DeployCheck

namespace Verification

structure Script where
  unknownLabels : List String
  artifacts : Artifacts
  compileFault : Option VerificationError
  codes : TextMap String
  loaded : List String
  compiled : List (SourceTree × Bool)
  asked : List String

namespace Script

/-- Loads any label but the unknown ones; the handle is the label itself. -/
def load (label : String) (script : Script) : Except VerificationError String × Script :=
  let result :=
    if label ∈ script.unknownLabels then .error (.compilerLoad label "unknown version")
    else .ok label
  (result, { script with loaded := script.loaded ++ [label] })

/-- Compiles any sources to the one artifact map, unless the script has a fault instead. -/
def compile (_ : String) (sources : SourceTree) (optimize : Bool) (script : Script) :
    Except VerificationError Artifacts × Script :=
  let result :=
    match script.compileFault with
    | some fault => .error fault
    | none => .ok script.artifacts
  (result, { script with compiled := script.compiled ++ [(sources, optimize)] })

def code (address : String) (script : Script) : Except VerificationError String × Script :=
  let result :=
    match TextMap.find? script.codes address with
    | some code => .ok code
    | none => .error (.chainFetch address "no such account in mock chain")
  (result, { script with asked := script.asked ++ [address] })

/-- The collaborators of a script. Their compilers never wait. -/
def collaborators : Collaborators Script String :=
  ⟨load, compile, code, fun _ _ _ => true⟩

end Script

end Verification

end DeployCheck
