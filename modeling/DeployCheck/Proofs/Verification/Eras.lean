import DeployCheck.Proofs.Region.Exact
import DeployCheck.Proofs.Verification.Trailer
import DeployCheck.Proofs.Version.Grammar
/-!
The eras of compiler releases. The standard table has two rows whose bands overlap and are bounds on
both numbers of a version apart, so it tells three eras apart. A label counts only through the era
of its version: what stands in it besides the second and third number of its first release number is
of no account.
-/
namespace DeployCheck

inductive Era
  | from22
  | from7
  | unmarked
  deriving DecidableEq, Repr

def Version.era (version : Version) : Era :=
  if 4 ≤ version.minor ∧ 22 ≤ version.patch then .from22
  else if 4 ≤ version.minor ∧ 7 ≤ version.patch ∧ version.patch < 22 then .from7
  else .unmarked

def Era.policy? : Era → Option Policy
  | .from22 => some ⟨"solc>=0.4.22", ⟨4, 22⟩, .ofTexts "6080604052" "a165627a7a72305820"⟩
  | .from7 => some ⟨"solc>=0.4.7", ⟨4, 7⟩, .ofTexts "6060604052" "a165627a7a72305820"⟩
  | .unmarked => none

/-! ## Rows -/

theorem VersionBand.covers_iff {band : VersionBand} {version : Version} :
    band.covers version = true ↔ band.minMinor ≤ version.minor ∧ band.minPatch ≤ version.patch := by
  simp only [covers, Bool.and_eq_true, decide_eq_true_eq]

theorem Policies.select_standard (version : Version) :
    standard.select version = version.era.policy? := by
  rw [Version.era]
  split
  · rename_i newer
    have covered : (⟨4, 22⟩ : VersionBand).covers version = true :=
      VersionBand.covers_iff.mpr newer
    simp only [select, standard, List.find?_cons, covered]
    rfl
  · rename_i older
    have passed : (⟨4, 22⟩ : VersionBand).covers version = false :=
      Bool.eq_false_iff.mpr fun covered => older (VersionBand.covers_iff.mp covered)
    split
    · rename_i old
      have covered : (⟨4, 7⟩ : VersionBand).covers version = true :=
        VersionBand.covers_iff.mpr ⟨old.1, old.2.1⟩
      simp only [select, standard, List.find?_cons, passed, covered]
      rfl
    · rename_i outside
      have passedAgain : (⟨4, 7⟩ : VersionBand).covers version = false := by
        refine Bool.eq_false_iff.mpr fun covered => ?_
        obtain ⟨minor, patch⟩ := VersionBand.covers_iff.mp covered
        dsimp only at minor patch
        omega
      simp only [select, standard, List.find?_cons, List.find?_nil, passed, passedAgain]
      rfl

/-! ## Regions -/

namespace Region

variable {version first second : Version} {code : Bytecode}

theorem extract_congr {table : Policies} (same : table.select first = table.select second)
    (code : Bytecode) : extract table first code = extract table second code := by
  simp only [extract, same]

theorem extract_of_same_era (same : first.era = second.era) (code : Bytecode) :
    extract .standard first code = extract .standard second code := by
  refine extract_congr ?_ code
  rw [Policies.select_standard, Policies.select_standard, same]

/-- What the row of this name leaves of a code: the part between the start marker and the start of
the metadata. -/
def Marked (name start : String) (code : Bytecode) (region : Region) : Prop :=
  region.policy = some name ∧
    ∃ first last,
      Bounds (.ofTexts start "a165627a7a72305820") code.text.toList region first last

theorem extract_of_unmarked (era : version.era = .unmarked) :
    extract .standard version code = ⟨code.text, none, false, false⟩ := by
  have uncovered := Policies.select_standard version
  rw [era] at uncovered
  simp only [extract, uncovered, Era.policy?]

theorem marked_extract {policy : Policy} {start : String}
    (era : version.era.policy? = some policy)
    (stored : policy.markers = .ofTexts start "a165627a7a72305820") :
    Marked policy.name start code (extract .standard version code) := by
  have selected := (Policies.select_standard version).trans era
  refine ⟨?_, _, _, stored ▸ bounds_extract selected⟩
  rw [policy_extract, selected, Option.map_some]

end Region

/-! ## Reports -/

namespace Verification

variable {request : Request} {artifacts : Artifacts} {code one other : String}
  {first second : Version} {before after : CacheCounts}

def Request.relabelled (request : Request) (label : String) : Request :=
  { request with label }

def Report.withoutLabel (report : Report) : Report :=
  { report.withoutCounts with label := "", version := default }

theorem report_of_same_era (read : Version.ofLabel one = .ok first)
    (reread : Version.ofLabel other = .ok second) (same : first.era = second.era) :
    (report .standard (request.relabelled one) artifacts code before).map Report.withoutLabel =
      (report .standard (request.relabelled other) artifacts code after).map
        Report.withoutLabel := by
  have regions := Region.extract_of_same_era same
  unfold report
  change (artifacts.contract request.filename request.contract >>= _).map _ =
    (artifacts.contract request.filename request.contract >>= _).map _
  cases artifacts.contract request.filename request.contract with
  | error fault => rfl
  | ok digits =>
      simp only [bind, Except.bind]
      cases Bytecode.ofDigits digits .compiled with
      | error fault => rfl
      | ok compiled =>
          cases Bytecode.ofText code .deployed with
          | error fault => rfl
          | ok deployed =>
              simp only [Request.relabelled, read, reread, regions]
              rfl

/-- Only the era of a version counts. Labels whose versions are of the same era give the same
regions, and verifications that differ in nothing but such labels come to the same result but for
the label itself; so does whatever stands in the labels besides the second and third number. In an
era without markers the region is the whole code, in the other two it lies between the markers of
the era. -/
theorem decided_by_era :
    (∀ one other first second, Version.ofLabel one = .ok first →
      Version.ofLabel other = .ok second → first.era = second.era →
        (∀ code, Region.extract .standard first code = Region.extract .standard second code) ∧
        ∀ (request : Request) (artifacts : Artifacts) (code : String) (result answer),
          Results .standard (request.relabelled one) artifacts code result →
          Results .standard (request.relabelled other) artifacts code answer →
          result.map Report.withoutLabel = answer.map Report.withoutLabel) ∧
    (∀ (one other : String) (cut : Version.Cut one.toList) (another : Version.Cut other.toList),
      cut.IsLeftmost → another.IsLeftmost → cut.spelling.minor = another.spelling.minor →
      cut.spelling.patch = another.spelling.patch →
        (∃ version, Version.ofLabel one = .ok version ∧ Version.ofLabel other = .ok version) ∨
        Version.ofLabel one = .error (.malformedVersion one) ∧
          Version.ofLabel other = .error (.malformedVersion other)) ∧
    ∀ (version : Version) (code : Bytecode),
      (version.era = .unmarked →
        Region.extract .standard version code = ⟨code.text, none, false, false⟩) ∧
      (version.era = .from22 → Region.Marked "solc>=0.4.22" "6080604052" code
        (Region.extract .standard version code)) ∧
      (version.era = .from7 → Region.Marked "solc>=0.4.7" "6060604052" code
        (Region.extract .standard version code)) := by
  refine ⟨?_, ?_, fun version code => ⟨Region.extract_of_unmarked, fun era => ?_, fun era => ?_⟩⟩
  · intro one other first second read reread same
    refine ⟨Region.extract_of_same_era same, ?_⟩
    intro request artifacts code result answer came went
    obtain ⟨before, rfl⟩ := came.report
    obtain ⟨after, rfl⟩ := went.report
    exact report_of_same_era read reread same
  · intro one other cut another leftmost least minor patch
    apply Version.ofLabel_congr
    rw [Version.leftmostNumbers?_eq_some.mpr ⟨cut, leftmost, minor, patch⟩,
      Version.leftmostNumbers?_eq_some.mpr ⟨another, least, rfl, rfl⟩]
  · exact Region.marked_extract (congrArg Era.policy? era) rfl
  · exact Region.marked_extract (congrArg Era.policy? era) rfl

theorem decided_by_era_relabelled : ∃ report other,
    Results .standard (ownedRequest.relabelled "v0.4.24+commit.e67f0147")
      [("A.sol:A", "6080604052600435")] longCode.text (.ok report) ∧
    Results .standard (ownedRequest.relabelled "soljson-V9.77.64000-nightly.2018.6.20.js")
      [("A.sol:A", "6080604052600435")] longCode.text (.ok other) ∧
    report.withoutLabel = other.withoutLabel ∧ report.verified = true ∧
    other.version = ⟨77, 64000⟩ ∧
    (∃ version, Version.ofLabel "v0.4.24+commit.e67f0147" = .ok version ∧
      Version.ofLabel "built by V12.4.24-nightly" = .ok version) ∧
    Region.extract .standard ⟨3, 99⟩ longCode = ⟨longCode.text, none, false, false⟩ ∧
    Region.Marked "solc>=0.4.22" "6080604052" longCode
      (Region.extract .standard ⟨5, 22⟩ longCode) ∧
    Region.Marked "solc>=0.4.7" "6060604052" longCode
      (Region.extract .standard ⟨5, 21⟩ longCode) := by
  -- Two labels that have nothing in common but their era, around one deployed contract.
  obtain ⟨same, spelled, regions⟩ := decided_by_era
  have labelled : Version.ofLabel "v0.4.24+commit.e67f0147" = .ok ⟨4, 24⟩ := rfl
  have relabelled : Version.ofLabel "soljson-V9.77.64000-nightly.2018.6.20.js" =
    .ok ⟨77, 64000⟩ := rfl
  have left : verify Script.collaborators .standard .node
      (ownedRequest.relabelled "v0.4.24+commit.e67f0147") (.empty 16)
      (ownedScript "6080604052600435" longCode.text) = (.ok _, _, _) := rfl
  have right : verify Script.collaborators .standard .node
      (ownedRequest.relabelled "soljson-V9.77.64000-nightly.2018.6.20.js") (.empty 16)
      (ownedScript "6080604052600435" longCode.text) = (.ok _, _, _) := rfl
  have came : Results .standard (ownedRequest.relabelled "v0.4.24+commit.e67f0147")
      [("A.sol:A", "6080604052600435")] longCode.text _ :=
    ⟨_, _, _, _, _, _, _, _, ⟨_, _, _, rfl, rfl, rfl⟩, left⟩
  have went : Results .standard
      (ownedRequest.relabelled "soljson-V9.77.64000-nightly.2018.6.20.js")
      [("A.sol:A", "6080604052600435")] longCode.text _ :=
    ⟨_, _, _, _, _, _, _, _, ⟨_, _, _, rfl, rfl, rfl⟩, right⟩
  have equal := (same _ _ _ _ labelled relabelled (by decide)).2 _ _ _ _ _ came went
  obtain ⟨cut, leftmost, minor, patch⟩ := Version.leftmostNumbers?_eq_some.mp
    (rfl : Version.leftmostNumbers? "v0.4.24+commit.e67f0147".toList = some (['4'], ['2', '4']))
  obtain ⟨another, least, second, third⟩ := Version.leftmostNumbers?_eq_some.mp
    (rfl : Version.leftmostNumbers? "built by V12.4.24-nightly".toList = some (['4'], ['2', '4']))
  have read : ∃ version, Version.ofLabel "v0.4.24+commit.e67f0147" = .ok version ∧
      Version.ofLabel "built by V12.4.24-nightly" = .ok version := by
    rcases spelled _ _ cut another leftmost least (minor.trans second.symm)
      (patch.trans third.symm) with read | ⟨refused, -⟩
    · exact read
    · rw [labelled] at refused
      cases refused
  exact ⟨_, _, came, went, Except.ok.inj equal, rfl, rfl, read, (regions _ _).1 (by decide),
    (regions _ _).2.1 (by decide), (regions _ _).2.2 (by decide)⟩

end Verification

end DeployCheck
