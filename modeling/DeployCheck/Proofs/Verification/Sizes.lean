import DeployCheck.Console.Report
import DeployCheck.Proofs.Region.WholeBytes
import DeployCheck.Proofs.Verification.EmptyCode
import DeployCheck.Proofs.Verification.Offline
/-!
The sizes in a report. A whole code is measured in bytes without its prefix, its region in
characters with the prefix if that is in it. So the region of a prefixed code is told to be longer
than the code itself exactly if not even two characters of it were cut away.
-/
namespace DeployCheck.Verification

open Text

variable {σ κ : Type} {collaborators : Collaborators σ κ} {table : Policies} {version : Version}
  {policy : Policy} {request : Request} {artifacts : Artifacts} {code : String} {report : Report}
  {text : List Char}

def Prefixed (text : List Char) : Prop :=
  ∃ x body, (x = 'x' ∨ x = 'X') ∧ text = '0' :: x :: body

def Summary.Overstates (summary : Summary) : Prop :=
  2 * summary.totalBytes < summary.regionLength

/-- How a summary relates to the text of the code that it is about. -/
structure Summary.Measures (summary : Summary) (table : Policies) (version : Version)
    (text : List Char) : Prop where
  prefixed : Prefixed text → text.length = 2 * summary.totalBytes + 2
  bare : ¬ Prefixed text → text.length = 2 * summary.totalBytes
  inside : summary.regionLength ≤ text.length
  overstates : summary.Overstates ↔ Prefixed text ∧ text.length ≤ summary.regionLength + 1
  shown : summary.totalBytes < summary.regionLength / 2 ↔
    Prefixed text ∧ summary.regionLength = text.length
  unmarked : (∀ policy, table.select version = some policy → policy.markers.AreDigits) →
    (summary.Overstates ↔
      Prefixed text ∧ summary.startFound = false ∧ summary.stopFound = false)

/-! ## One code -/

theorem length_body (code : Bytecode) : (hexBody code.text.toList).length = 2 * code.byteLength := by
  have even := code.wellFormed.1
  rw [Bytecode.byteLength, Bytecode.body]
  omega

theorem length_of_prefixed (code : Bytecode) (prefixed : Prefixed code.text.toList) :
    code.text.toList.length = 2 * code.byteLength + 2 := by
  obtain ⟨x, body, letter, same⟩ := prefixed
  rw [← length_body, same, Bytecode.hexBody_of_prefixed letter]
  rfl

theorem length_of_bare (code : Bytecode) (bare : ¬ Prefixed code.text.toList) :
    code.text.toList.length = 2 * code.byteLength := by
  rcases Bytecode.hexBody_cases code.text.toList with whole | ⟨x, letter, same⟩
  · rw [← length_body, whole]
  · exact absurd ⟨x, _, letter, same⟩ bare

theorem regionLength_of (table : Policies) (version : Version) (code : Bytecode) :
    (Summary.of code (Region.extract table version code)).regionLength =
      (Region.ends table version code).2 - (Region.ends table version code).1 := by
  change (Region.extract table version code).text.length = _
  rw [← String.length_toList, Region.toList_extract_ends, Region.length_slice Region.ends_inside]

theorem short_of_marked (code : Bytecode) (prefixed : Prefixed code.text.toList)
    (digital : ∀ policy, table.select version = some policy → policy.markers.AreDigits)
    (marked : (Region.extract table version code).bounded = true) :
    (Region.ends table version code).2 + 2 ≤
      code.text.toList.length + (Region.ends table version code).1 := by
  -- Runs of digits take at least the two characters away that make up for the prefix.
  obtain ⟨x, body, letter, same⟩ := prefixed
  have inside : (Region.ends table version code).2 ≤ code.text.toList.length := Region.ends_inside
  cases selected : table.select version with
  | none => simp [Region.extract, selected, Region.bounded] at marked
  | some policy =>
      have digits := digital policy selected
      simp only [Region.extract, selected, Region.bounded, Bool.or_eq_true] at marked
      rcases marked with started | stopped
      · -- The start marker begins behind the prefix.
        obtain ⟨n, found⟩ := Option.isSome_iff_exists.mp started
        have occurs := ((Region.locate_start_eq_some digits.1.ne_nil).mp found).1
        rw [same, Bytecode.lower_of_prefixed letter] at occurs
        have behind := Region.two_le_of_occursAt digits.1 occurs
        rw [Region.ends_of_selected selected] at inside ⊢
        rw [found, Option.getD_some]
        dsimp only at inside ⊢
        omega
      · -- The end marker fits in behind the region.
        obtain ⟨n, found⟩ := Option.isSome_iff_exists.mp stopped
        have fits := (firstOccurrence_least found).1.length_le
        have stop := Region.stopOffset_of_some found
        have long := digits.2.1
        rw [length_lower] at fits
        rw [Region.ends_of_selected selected, stop]
        dsimp only
        omega

theorem whole_of_unmarked (code : Bytecode)
    (unmarked : (Region.extract table version code).bounded = false) :
    Region.ends table version code = (0, code.text.toList.length) := by
  cases selected : table.select version with
  | none => exact Region.ends_of_uncovered selected
  | some policy =>
      simp only [Region.extract, selected, Region.bounded, Bool.or_eq_false_iff,
        Option.isSome_eq_false_iff, Option.isNone_iff_eq_none] at unmarked
      rw [Region.ends_of_selected selected, unmarked.1, Region.stopOffset, unmarked.2]
      rfl

theorem overstates_iff_unmarked (code : Bytecode)
    (digital : ∀ policy, table.select version = some policy → policy.markers.AreDigits)
    (prefixed : Prefixed code.text.toList) :
    (Summary.of code (Region.extract table version code)).Overstates ↔
      (Region.extract table version code).bounded = false := by
  have size := length_of_prefixed code prefixed
  rw [Summary.Overstates, regionLength_of]
  change 2 * code.byteLength < _ ↔ _
  cases marked : (Region.extract table version code).bounded with
  | false =>
      rw [whole_of_unmarked code marked]
      simp only [iff_true]
      omega
  | true =>
      have short := short_of_marked code prefixed digital marked
      simp only [Bool.true_eq_false, iff_false]
      omega

theorem measures_of (table : Policies) (version : Version) (code : Bytecode) :
    (Summary.of code (Region.extract table version code)).Measures table version
      code.text.toList := by
  have inside : (Region.ends table version code).2 ≤ code.text.toList.length := Region.ends_inside
  have length := regionLength_of table version code
  have total : (Summary.of code (Region.extract table version code)).totalBytes =
    code.byteLength := rfl
  have bounded : (Summary.of code (Region.extract table version code)).regionLength ≤
      code.text.toList.length := by omega
  by_cases prefixed : Prefixed code.text.toList
  · have size := length_of_prefixed code prefixed
    refine ⟨fun _ => size, fun bare => absurd prefixed bare, bounded, ?_, ?_, fun digital => ?_⟩
    · rw [and_iff_right prefixed, Summary.Overstates]
      omega
    · rw [and_iff_right prefixed]
      omega
    · rw [and_iff_right prefixed, overstates_iff_unmarked code digital prefixed, Region.bounded,
        Bool.or_eq_false_iff]
      rfl
  · have size := length_of_bare code prefixed
    have fits : ¬ (Summary.of code (Region.extract table version code)).Overstates := by
      rw [Summary.Overstates]
      omega
    refine ⟨fun other => absurd other prefixed, fun _ => size, bounded, ?_, ?_, fun _ => ?_⟩
    · simp only [fits, prefixed, false_and]
    · simp only [prefixed, false_and, iff_false]
      omega
    · simp only [fits, prefixed, false_and]

/-! ## Reports -/

/-- Both summaries of a report measure what they are about: the digits with their prefix, and the
code as it was held. -/
structure Report.Sized (report : Report) (table : Policies) (digits code : String) : Prop where
  compiled : report.compiled.Measures table report.version ("0x" ++ digits).toList
  deployed : report.deployed.Measures table report.version code.toList

theorem sized_of_report {counts : CacheCounts}
    (reported : Verification.report table request artifacts code counts = .ok report) :
    ∃ digits,
      TextMap.find? artifacts (contractKey request.filename request.contract) = some digits ∧
      report.Sized table digits code := by
  obtain ⟨digits, found, drawn⟩ := report_eq_ok reported
  obtain ⟨compiled, deployed, produced, held, left, right, -⟩ := drawn.readings
  refine ⟨digits, found, ?_, ?_⟩
  · rw [left, ← (Bytecode.ofDigits_eq_ok.mp produced).2]
    exact measures_of table report.version compiled
  · rw [right, ← (Bytecode.ofText_eq_ok.mp held).2]
    exact measures_of table report.version deployed

/-- When a report tells of more code than there is. Of a verification by itself and of every inquiry
of a service, each side has a region longer than its code exactly if its text has the prefix and
lost fewer than two characters, and it is shown with more bytes than the code has exactly if the
text has the prefix and lost none. Where all markers are runs of digits, the former means that a
prefixed text has neither marker. -/
theorem sizes_told (collaborators : Collaborators σ κ) (table : Policies) :
    (∀ lead request (cache later : Cache κ) (world after : σ) report,
      verify collaborators table lead request cache world = (.ok report, later, after) →
      ∃ artifacts code digits, Brings collaborators request cache world artifacts code later after ∧
        TextMap.find? artifacts (contractKey request.filename request.contract) = some digits ∧
        report.Sized table digits code) ∧
    ∀ capacity service, Service.Reachable collaborators table capacity service →
      ∀ (i : Nat) (inquiry : Inquiry) report, service.inquiries[i]? = some inquiry →
        inquiry.result = some (.ok report) →
        ∃ artifacts code digits, inquiry.compilation = .done (.ok artifacts) ∧
          inquiry.retrieval = .done (.ok code) ∧
          TextMap.find? artifacts
            (contractKey inquiry.request.filename inquiry.request.contract) = some digits ∧
          report.Sized table digits code := by
  constructor
  · intro lead request cache later world after report verified
    obtain ⟨artifacts, code, brings, reported⟩ := brings_of_verify verified
    obtain ⟨digits, found, sized⟩ := sized_of_report reported
    exact ⟨artifacts, code, digits, brings, found, sized⟩
  · intro capacity service reachable i inquiry report present decided
    obtain ⟨loaded, -, concluded⟩ :=
      (Service.orderly_reachable reachable).concluded present decided
    obtain ⟨artifacts, code, counts, compiled, fetched, reported⟩ := concluded.reported
    obtain ⟨digits, found, sized⟩ := sized_of_report reported
    exact ⟨artifacts, code, digits, compiled, fetched, found, sized⟩

theorem sizes_told_single : ∃ report later after,
    verify Script.collaborators .standard .node interfaceRequest (.empty 16)
      (interfaceScript "60" "0X60") = (.ok report, later, after) ∧
    report.compiled.Overstates ∧ report.deployed.Overstates ∧
    report.deployed.describe = "2 of 1 bytes compared (no markers)" := by
  -- The code of one byte on both sides, with no markers in it.
  have verified : verify Script.collaborators .standard .node interfaceRequest (.empty 16)
      (interfaceScript "60" "0X60") = (.ok _, _, _) := rfl
  obtain ⟨artifacts, code, digits, ⟨compiler, loaded, compiled, obtained, produced, fetched⟩, found,
    sized⟩ := (sizes_told Script.collaborators .standard).1 _ _ _ _ _ _ _ verified
  cases obtained
  cases produced
  cases fetched
  cases found
  have left : Prefixed ("0x" ++ "60").toList := ⟨'x', ['6', '0'], Or.inl rfl, rfl⟩
  have right : Prefixed "0X60".toList := ⟨'X', ['6', '0'], Or.inr rfl, rfl⟩
  exact ⟨_, _, _, verified, sized.compiled.overstates.mpr ⟨left, by decide⟩,
    sized.deployed.overstates.mpr ⟨right, by decide⟩, rfl⟩

/-- A report may well tell of more code than there is. -/
theorem overstates_single : ¬ ∀ (table : Policies) (lead : Lead) (request : Request)
    (cache later : Cache String) (script after : Script) (report : Report),
    verify Script.collaborators table lead request cache script = (.ok report, later, after) →
    report.compiled.regionLength ≤ 2 * report.compiled.totalBytes ∧
      report.deployed.regionLength ≤ 2 * report.deployed.totalBytes := by
  intro never
  have bounded := never .standard .node interfaceRequest (.empty 16) _ (interfaceScript "60" "0x60")
    _ _ rfl
  exact absurd bounded.1 (by decide)

end DeployCheck.Verification
