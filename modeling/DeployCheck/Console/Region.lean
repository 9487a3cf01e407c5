import DeployCheck.Console.Line
import DeployCheck.Verification.Report
namespace DeployCheck

open Text

structure RegionView where
  label : String
  version : Version
  totalBytes : Nat
  region : Region
  deriving DecidableEq, Repr

namespace RegionView

/-- The region of a text, from which all blanks are deleted first. The label is read before the
text. -/
def ofText (text label : String) : Except CommandError RegionView :=
  let read : Except VerificationError RegionView := do
    let version ← Version.ofLabel label
    let code ← Bytecode.ofText (String.ofList (dropBlanks text.toList)) .input
    return ⟨label, version, code.byteLength, Region.extract .standard version code⟩
  read.mapError .verification

def json (view : RegionView) : Json :=
  .record
    [("compiler_version", .string view.label),
      ("semantic_version", Verification.versionJson view.version),
      ("policy", .optionString view.region.policy),
      ("start_marker_found", .bool view.region.startFound),
      ("end_marker_found", .bool view.region.stopFound),
      ("total_bytes", .nat view.totalBytes), ("region", .string view.region.text)]

def warnings (view : RegionView) : List Line :=
  if view.region.policy.isNone then
    [.warning
      ("No normalization policy for compiler " ++ view.version.text ++
        "; the full bytecode is the comparable region")]
  else []

def tell (text label : String) (format : Format) : Told Unit :=
  match ofText text label with
  | .error fault => ⟨[], .error fault⟩
  | .ok view => ⟨view.warnings ++ Line.display view.json "Normalized Bytecode" format, .ok ()⟩

end RegionView

end DeployCheck
