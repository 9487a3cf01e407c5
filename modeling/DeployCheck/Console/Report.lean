import DeployCheck.Console.Line
import DeployCheck.Verification.Course
namespace DeployCheck

open Text

namespace Verification

def Summary.describe (summary : Summary) : String :=
  let bounds :=
    match summary.startFound, summary.stopFound with
    | true, true => "both markers"
    | true, false => "start marker only"
    | false, true => "end marker only"
    | false, false => "no markers"
  showNat (summary.regionLength / 2) ++ " of " ++ showNat summary.totalBytes ++
    " bytes compared (" ++ bounds ++ ")"

namespace Report

def warnings (report : Report) : List String :=
  (if report.policy.isNone then
    ["No normalization policy for compiler " ++ report.version.text ++
      "; full bytecode was compared"]
  else []) ++
    if report.deployed.totalBytes = 0 then ["No code is deployed at " ++ report.address] else []

def verdict (report : Report) : Line :=
  if report.verified then .success "Deployed code matches the supplied sources"
  else .error "Deployed code does not match the supplied sources"

def table (report : Report) : List Line :=
  [.header "Contract Verification", .field "Contract" report.contract,
    .field "Address" report.address, .field "Compiler" report.label,
    .field "Policy" (report.policy.getD "none"), .field "Compiled" report.compiled.describe,
    .field "Deployed" report.deployed.describe,
    .field "Compiler cache"
      (showNat report.cache.tally.hits ++ " hits, " ++ showNat report.cache.tally.loads ++
        " loads")] ++
    report.warnings.map .warning ++ [report.verdict]

def lines (report : Report) : Format → List Line
  | .json => [.json report.json]
  | .table => report.table

def tell (report : Report) (format : Format) : Told Unit :=
  ⟨report.lines format,
    if report.verified then .ok () else .error (.notVerified report.contract report.address)⟩

end Report

def run {σ κ : Type} (collaborators : Collaborators σ κ) (policies : Policies) (lead : Lead)
    (format : Format) (request : Request) (cache : Cache κ) (world : σ) :
    Told Unit × Cache κ × σ :=
  match verify collaborators policies lead request cache world with
  | (.error fault, cache, world) => (⟨[], .error (.verification fault)⟩, cache, world)
  | (.ok report, cache, world) => (report.tell format, cache, world)

end Verification

end DeployCheck
