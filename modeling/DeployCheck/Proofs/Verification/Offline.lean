import DeployCheck.Console.Region
import DeployCheck.Proofs.Region.Bounds
import DeployCheck.Proofs.Verification.Inquiries
/-!
The region that is shown of a text without asking anybody, compared with a verification. Of the two
texts that a report compared, blanks put in at any places, it shows the very regions that the report
tells of.
-/
namespace DeployCheck

open Text

namespace RegionView

def summary (view : RegionView) : Verification.Summary :=
  ⟨view.totalBytes, view.region.text.length, view.region.startFound, view.region.stopFound⟩

theorem ofText_of_spaced {spaced label : String} {version : Version} (code : Bytecode)
    (differ : Spaced spaced.toList code.text.toList)
    (labelled : Version.ofLabel label = .ok version) :
    ofText spaced label =
      .ok ⟨label, version, code.byteLength, Region.extract .standard version code⟩ := by
  simp only [ofText, labelled, code.ofText_dropBlanks differ, bind, Except.bind, pure, Except.pure,
    Except.mapError]

end RegionView

namespace Verification

variable {σ κ : Type} {collaborators : Collaborators σ κ} {table : Policies} {request : Request}
  {artifacts : Artifacts} {code : String} {report : Report} {inquiry : Inquiry}

structure Report.Shown (report : Report) (left right : RegionView) : Prop where
  label : left.label = report.label ∧ right.label = report.label
  version : left.version = report.version ∧ right.version = report.version
  policy : left.region.policy = report.policy ∧ right.region.policy = report.policy
  compiled : left.summary = report.compiled
  deployed : right.summary = report.deployed
  verdict : report.verified = true ↔
    SameIgnoringCase left.region.text.toList right.region.text.toList

/-- Of these digits with a prefix and of this code, whatever blanks are put into them, the regions
can be shown, and they are those that the report compared. -/
def Report.ShownOffline (report : Report) (label digits code : String) : Prop :=
  ∀ compiled deployed : String, Spaced compiled.toList ("0x" ++ digits).toList →
    Spaced deployed.toList code.toList → ∃ left right,
      RegionView.ofText compiled label = .ok left ∧ RegionView.ofText deployed label = .ok right ∧
      report.Shown left right

theorem shownOffline_of_report {counts : CacheCounts}
    (reported : Verification.report .standard request artifacts code counts = .ok report) :
    ∃ digits,
      TextMap.find? artifacts (contractKey request.filename request.contract) = some digits ∧
      report.ShownOffline request.label digits code := by
  obtain ⟨digits, compiled, deployed, version, found, produced, held, labelled, rfl⟩ :=
    report_parts reported
  refine ⟨digits, found, fun left right spacedLeft spacedRight => ?_⟩
  rw [← (Bytecode.ofDigits_eq_ok.mp produced).2] at spacedLeft
  rw [← (Bytecode.ofText_eq_ok.mp held).2] at spacedRight
  have policies : (Region.extract .standard version deployed).policy =
      (Region.extract .standard version compiled).policy := by
    rw [Region.policy_extract, Region.policy_extract]
  exact ⟨_, _, RegionView.ofText_of_spaced compiled spacedLeft labelled,
    RegionView.ofText_of_spaced deployed spacedRight labelled,
    { label := ⟨rfl, rfl⟩
      version := ⟨rfl, rfl⟩
      policy := ⟨rfl, policies⟩
      compiled := rfl
      deployed := rfl
      verdict := by simp [Region.agrees] }⟩

/-! ## Inquiries -/

theorem Inquiry.Concluded.reported {loaded : Except VerificationError κ}
    (concluded : inquiry.Concluded collaborators table loaded (.ok report)) :
    ∃ artifacts code counts, inquiry.compilation = .done (.ok artifacts) ∧
      inquiry.retrieval = .done (.ok code) ∧
      Verification.report table inquiry.request artifacts code counts = .ok report := by
  obtain ⟨artifacts, code, counts, compiled, fetched, reported⟩ := concluded.settled_outcomes.eq_ok
  exact ⟨artifacts, code, counts, Work.outcome_eq_ok.mp compiled, Work.outcome_eq_ok.mp fetched,
    reported⟩

/-- Whenever a verification by the standard table comes to a report, by itself or among others in a
service, the regions of the digits and of the code that it compared can be shown without asking
anybody, and with blanks put in anywhere. They have the version, the policy, the markers and the
lengths that the report tells, and the contract is verified exactly if they are the same up to the
case of letters. -/
theorem offline_agrees (collaborators : Collaborators σ κ) :
    (∀ lead request (cache later : Cache κ) (world after : σ) report,
      verify collaborators .standard lead request cache world = (.ok report, later, after) →
      ∃ artifacts code digits, Brings collaborators request cache world artifacts code later after ∧
        TextMap.find? artifacts (contractKey request.filename request.contract) = some digits ∧
        report.ShownOffline request.label digits code) ∧
    ∀ capacity service, Service.Reachable collaborators .standard capacity service →
      ∀ (i : Nat) (inquiry : Inquiry) report, service.inquiries[i]? = some inquiry →
        inquiry.result = some (.ok report) →
        ∃ artifacts code digits, inquiry.compilation = .done (.ok artifacts) ∧
          inquiry.retrieval = .done (.ok code) ∧
          TextMap.find? artifacts
            (contractKey inquiry.request.filename inquiry.request.contract) = some digits ∧
          report.ShownOffline inquiry.request.label digits code := by
  constructor
  · intro lead request cache later world after report verified
    obtain ⟨artifacts, code, brings, reported⟩ := brings_of_verify verified
    obtain ⟨digits, found, shown⟩ := shownOffline_of_report reported
    exact ⟨artifacts, code, digits, brings, found, shown⟩
  · intro capacity service reachable i inquiry report present decided
    obtain ⟨loaded, -, concluded⟩ :=
      (Service.orderly_reachable reachable).concluded present decided
    obtain ⟨artifacts, code, counts, compiled, fetched, reported⟩ := concluded.reported
    obtain ⟨digits, found, shown⟩ := shownOffline_of_report reported
    exact ⟨artifacts, code, digits, compiled, fetched, found, shown⟩

theorem offline_agrees_small :
    (∃ report cache left right,
      verify smallScript.silent .standard .node (smallRequest "v0.4.24+x" "0x8d12") (.empty 1) () =
        (.ok report, cache, ()) ∧
      RegionView.ofText "0\tx 60806 04052\n" "v0.4.24+x" = .ok left ∧
      RegionView.ofText " 0x6\u00A0080604052" "v0.4.24+x" = .ok right ∧
      report.Shown left right ∧ report.verified = true) ∧
    ∃ service inquiry report, Service.Reachable smallScript.silent .standard 1 service ∧
      service.inquiries[0]? = some inquiry ∧ inquiry.result = some (.ok report) ∧
      report.ShownOffline "v0.4.24+x" "6080604052" "0x6080604052" := by
  -- One request by itself and the same one in a service. The digits and the code are shown with
  -- blanks within their prefixes and between their digits.
  obtain ⟨alone, together⟩ := offline_agrees smallScript.silent
  constructor
  · obtain ⟨artifacts, code, digits, ⟨compiler, loaded, compiled, obtained, produced, fetched⟩,
      found, shown⟩ := alone .node (smallRequest "v0.4.24+x" "0x8d12") (.empty 1) _ () _ _ rfl
    cases obtained
    cases produced
    cases fetched
    cases found
    have left : Spaced "0\tx 60806 04052\n".toList ("0x" ++ "6080604052").toList := by
      repeat first | exact .nil | apply Spaced.keep | apply Spaced.blank (by decide)
    have right : Spaced " 0x6\u00A0080604052".toList "0x6080604052".toList := by
      repeat first | exact .nil | apply Spaced.keep | apply Spaced.blank (by decide)
    obtain ⟨one, two, showsOne, showsTwo, shown⟩ := shown _ _ left right
    exact ⟨_, _, one, two, rfl, showsOne, showsTwo, shown, rfl⟩
  · have ran : Service.follow? smallScript.silent .standard (.idle 1)
        (List.flatten
          [[.ask (smallRequest "v0.4.24+x" "0x8d12")], .replicate 5 (.move 0), [.load 0 ()],
            .replicate 2 (.move 0),
            [.proceed 0, .proceed 0, .fetch 0 (), .compile 0 (), .proceed 0, .proceed 0]]) =
          some _ := rfl
    have reachable := Service.reachable_follow .idle ran
    obtain ⟨artifacts, code, digits, compiled, fetched, found, shown⟩ :=
      together 1 _ reachable 0 _ _ rfl rfl
    cases compiled
    cases fetched
    cases found
    exact ⟨_, _, _, reachable, rfl, rfl, shown⟩

end Verification

end DeployCheck
