import DeployCheck.Error
import DeployCheck.Json.Reader
namespace DeployCheck

abbrev SourceTree := TextMap String

/-- The digits of the runtime code, without prefix, by contract key. -/
abbrev Artifacts := TextMap String

def contractKey (filename name : String) : String :=
  filename ++ ":" ++ name

def Artifacts.contract (artifacts : Artifacts) (filename name : String) :
    Except VerificationError String :=
  match TextMap.find? artifacts (contractKey filename name) with
  | some digits => .ok digits
  | none => .error (.contractNotFound (contractKey filename name))

namespace CombinedOutput

open Json

def readContract : Source → Reading String :=
  readRecord "CombinedContract" ⟨"bin-runtime", readText, none⟩

def read : Source → Reading Artifacts :=
  readRecord "CombinedJson" ⟨"contracts", readMap readContract, none⟩

def artifacts (output : String) : Except VerificationError Artifacts :=
  match finish (read (Text.Utf8.ofText output.toList)) with
  | .ok artifacts => .ok artifacts
  | .error fault => .error (.compileOutput fault.message)

end CombinedOutput

end DeployCheck
