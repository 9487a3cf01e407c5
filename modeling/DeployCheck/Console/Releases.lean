import DeployCheck.Console.Line
import DeployCheck.ReleaseList
namespace DeployCheck

open Text

namespace ReleaseList

def limited (limit : Option Nat) (releases : List String) : List String :=
  match limit with
  | some limit => releases.take limit
  | none => releases

/-- Shows releases; a table says so when it leaves some out. -/
def tell (limit : Option Nat) (format : Format) (releases : List String) : List Line :=
  let shown := limited limit releases
  let remark :=
    if format = .table ∧ shown.length < releases.length then
      [Line.info
        ("Showing " ++ showNat shown.length ++ " of " ++ showNat releases.length ++ " releases")]
    else []
  Line.display (.array (shown.map .string)) "Compiler Versions" format ++ remark

def run (limit : Option Nat) (format : Format) (fetched : Except FetchError (List String)) :
    Told Unit :=
  match fetched with
  | .error fault => ⟨[], .error (.registry fault.message)⟩
  | .ok releases => ⟨tell limit format releases, .ok ()⟩

end ReleaseList

end DeployCheck
