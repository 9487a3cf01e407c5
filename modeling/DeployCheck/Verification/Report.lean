import DeployCheck.Cache.Basic
import DeployCheck.Compiler.Artifacts
import DeployCheck.Json.Basic
import DeployCheck.Region
/-!
What a verification is asked and what it reports. A report is drawn from two texts, the digits that
the compiler produced and the code that the node holds: each is cut down to its comparable region,
and the contract is verified if the regions agree.
-/
namespace DeployCheck

namespace Verification

/-- The question whether an address holds a contract built from these sources. -/
structure Request where
  sources : SourceTree
  label : String
  contract : String
  filename : String
  address : String
  deriving DecidableEq, Repr

/-- What was compared on one side: the bytes of the whole code, the characters of its region, and
the markers found. -/
structure Summary where
  totalBytes : Nat
  regionLength : Nat
  startFound : Bool
  stopFound : Bool
  deriving DecidableEq, Repr

def Summary.of (code : Bytecode) (region : Region) : Summary :=
  ⟨code.byteLength, region.text.length, region.startFound, region.stopFound⟩

/-- What the cache has counted, and how many handles it keeps. -/
structure CacheCounts where
  tally : Cache.Tally
  entryCount : Nat
  deriving DecidableEq, Repr

def CacheCounts.of {α : Type} (cache : Cache α) : CacheCounts :=
  ⟨cache.tally, cache.entries.length⟩

structure Report where
  verified : Bool
  address : String
  contract : String
  label : String
  version : Version
  policy : Option String
  compiled : Summary
  deployed : Summary
  cache : CacheCounts
  deriving DecidableEq, Repr

/-- The report on the compiler's artifacts and the node's code. The contract is looked up first,
then the compiled and the deployed code are read, then the label. -/
def report (table : Policies) (request : Request) (artifacts : Artifacts) (code : String)
    (cache : CacheCounts) : Except VerificationError Report := do
  let digits ← artifacts.contract request.filename request.contract
  let compiled ← Bytecode.ofDigits digits .compiled
  let deployed ← Bytecode.ofText code .deployed
  let version ← Version.ofLabel request.label
  let compiledRegion := Region.extract table version compiled
  let deployedRegion := Region.extract table version deployed
  return {
    verified := compiledRegion.agrees deployedRegion
    address := request.address
    contract := contractKey request.filename request.contract
    label := request.label
    version
    policy := compiledRegion.policy
    compiled := .of compiled compiledRegion
    deployed := .of deployed deployedRegion
    cache }

def versionJson (version : Version) : Json :=
  .record [("minor", .nat version.minor), ("patch", .nat version.patch)]

def Summary.json (summary : Summary) : Json :=
  .record
    [("total_bytes", .nat summary.totalBytes), ("region_len", .nat summary.regionLength),
      ("start_marker_found", .bool summary.startFound),
      ("end_marker_found", .bool summary.stopFound)]

def CacheCounts.members (stats : CacheCounts) : List (String × Json) :=
  [("hits", .nat stats.tally.hits), ("misses", .nat stats.tally.misses),
    ("loads", .nat stats.tally.loads), ("load_failures", .nat stats.tally.loadFailures),
    ("evictions", .nat stats.tally.evictions), ("entry_count", .nat stats.entryCount)]

def Report.json (report : Report) : Json :=
  .record
    [("verified", .bool report.verified), ("address", .string report.address),
      ("contract", .string report.contract), ("compiler_version", .string report.label),
      ("semantic_version", versionJson report.version), ("policy", .optionString report.policy),
      ("compiled", report.compiled.json), ("deployed", report.deployed.json),
      ("cache", .record report.cache.members)]

end Verification

end DeployCheck
