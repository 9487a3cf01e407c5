import DeployCheck.Proofs.Region.Prefix
import DeployCheck.Proofs.Verification.Stages
import DeployCheck.Verification.Scripted
/-!
Accounts without code. A code of no bytes is compared like any other, so it agrees with a compiled
side of which nothing but the prefix is left.
-/
namespace DeployCheck.Verification

open Text

variable {σ κ : Type} {collaborators : Collaborators σ κ} {table : Policies} {lead : Lead}
  {request : Request} {cache later : Cache κ} {world after : σ} {artifacts : Artifacts}
  {digits code : String} {report : Report}

theorem hexBody_eq_nil {text : List Char} :
    hexBody text = [] ↔ text = [] ∨ text = ['0', 'x'] ∨ text = ['0', 'X'] := by
  unfold hexBody
  split <;> simp_all

theorem lower_of_bodiless {text : List Char} (bodiless : hexBody text = []) :
    lower text = [] ∧ text = [] ∨ lower text = ['0', 'x'] ∧ text ≠ [] := by
  rcases hexBody_eq_nil.mp bodiless with rfl | rfl | rfl <;> decide

theorem length_le_of_bodiless {text : List Char} (bodiless : hexBody text = []) :
    text.length ≤ 2 := by
  rcases hexBody_eq_nil.mp bodiless with rfl | rfl | rfl <;> decide

theorem length_eq_of_agrees {a b : Region} (agree : a.agrees b = true) :
    a.text.length = b.text.length := by
  have same : lower a.text.toList = lower b.text.toList := of_decide_eq_true agree
  have lengths := congrArg List.length same
  rwa [length_lower, length_lower, String.length_toList, String.length_toList] at lengths

theorem length_extract_le (table : Policies) (version : Version) (code : Bytecode) :
    (Region.extract table version code).text.length ≤ code.text.length := by
  cases selected : table.select version with
  | none => rw [Region.extract_of_uncovered selected]
  | some policy =>
      rw [← String.length_toList, Region.toList_extract selected, ← String.length_toList]
      simp only [Region.slice, List.length_drop, List.length_take]
      omega

theorem agrees_bodiless_iff {version : Version} {compiled deployed : Bytecode}
    (made : compiled.text = "0x" ++ digits) (hex : IsHexPairs digits.toList)
    (bodiless : hexBody deployed.text.toList = [])
    (digital : ∀ policy, table.select version = some policy → policy.markers.AreDigits) :
    (Region.extract table version compiled).agrees (Region.extract table version deployed) = true ↔
      deployed.text ≠ "" ∧ (digits = "" ∨ ∃ policy, table.select version = some policy ∧
        policy.markers.stop <+: lower digits.toList) := by
  have full : deployed.text ≠ "" ↔ deployed.text.toList ≠ [] := by simp
  have prefixed : lower compiled.text.toList = '0' :: 'x' :: lower digits.toList := by
    rw [made, Bytecode.toList_ofDigits]
    rfl
  have empty : lower digits.toList = [] ↔ digits = "" := by simp [lower]
  rw [Region.agrees, decide_eq_true_iff, SameIgnoringCase, full]
  cases selected : table.select version with
  | none =>
      rw [Region.extract_of_uncovered selected, Region.extract_of_uncovered selected, prefixed]
      rcases lower_of_bodiless bodiless with ⟨bare, nothing⟩ | ⟨bare, something⟩
      · rw [bare]
        simp [nothing]
      · rw [bare]
        simp [something, ← empty]
  | some policy =>
      have runs := digital policy selected
      rw [Region.toList_extract selected, Region.toList_extract selected,
        Region.slice_of_bodiless policy.markers runs
          ((lower_of_bodiless bodiless).imp And.left And.left)]
      rcases lower_of_bodiless bodiless with ⟨bare, nothing⟩ | ⟨bare, something⟩
      · have left := Region.slice_prefixed_ne_nil runs prefixed
        simpa [bare, nothing, lower] using left
      · rw [bare, Region.lower_slice_eq_bare runs prefixed (x_not_mem_lower hex.2), empty]
        simp [something]

/-- When an account without code is verified. Under any table, it is only against a region as short
as the prefix at most. If the markers are runs of digits, it is exactly if the node writes the
prefix and the compiled code has nothing in front of its end marker, or nothing at all. -/
theorem verified_without_code_iff
    (brings : Brings collaborators request cache world artifacts code later after)
    (verified : verify collaborators table lead request cache world = (.ok report, later, after))
    (bodiless : hexBody code.toList = []) :
    ∃ digits,
      TextMap.find? artifacts (contractKey request.filename request.contract) = some digits ∧
      (report.verified = true → report.compiled.regionLength = report.deployed.regionLength ∧
        report.compiled.regionLength ≤ 2) ∧
      ((∀ policy, table.select report.version = some policy → policy.markers.AreDigits) →
        (report.verified = true ↔ code ≠ "" ∧ (digits = "" ∨
          ∃ policy, table.select report.version = some policy ∧
            policy.markers.stop <+: lower digits.toList))) := by
  rw [verify_of_brings brings, Prod.mk.injEq] at verified
  obtain ⟨digits, found, drawn⟩ := report_eq_ok verified.1
  obtain ⟨compiled, deployed, made, held, left, right, verdict⟩ := drawn.readings
  obtain ⟨hex, same⟩ := Bytecode.ofDigits_eq_ok.mp made
  obtain ⟨-, rfl⟩ := Bytecode.ofText_eq_ok.mp held
  refine ⟨digits, found, ?_, ?_⟩
  · intro agree
    rw [verdict] at agree
    have equal := length_eq_of_agrees agree
    have short := length_le_of_bodiless bodiless
    have inside := length_extract_le table report.version deployed
    rw [String.length_toList] at short
    rw [left, right]
    exact ⟨equal, Nat.le_trans (Nat.le_of_eq equal) (Nat.le_trans inside short)⟩
  · intro digital
    rw [verdict]
    exact agrees_bodiless_iff same hex bodiless digital

def interfaceRequest : Request :=
  ⟨[("A.sol", "interface A { }")], "v0.4.24+commit.e67f0147", "A", "A.sol",
    "0x8d12a197cb00d4747a1fe03395095ce2a5cc6819"⟩

def interfaceScript (digits code : String) : Script :=
  ⟨[], [("A.sol:A", digits)], none, [(interfaceRequest.address, code)], [], [], []⟩

theorem verified_without_code_metadata : ∃ report later after,
    verify Script.collaborators .standard .node interfaceRequest (.empty 16)
      (interfaceScript "A165627A7A723058200029" "0X") = (.ok report, later, after) ∧
    report.verified = true := by
  -- The metadata alone agrees with no code at all.
  have verified : verify Script.collaborators .standard .node interfaceRequest (.empty 16)
      (interfaceScript "A165627A7A723058200029" "0X") = (.ok _, _, _) := rfl
  have bodiless : hexBody "0X".toList = [] := rfl
  obtain ⟨digits, found, -, verdict⟩ :=
    verified_without_code_iff ⟨_, _, _, rfl, rfl, rfl⟩ verified bodiless
  obtain rfl := Option.some.inj found
  refine ⟨_, _, _, verified, (verdict ?_).mpr ⟨by decide, Or.inr ⟨_, rfl, by decide⟩⟩⟩
  intro policy selected
  obtain rfl := Option.some.inj selected
  decide

/-- An account without code may well be verified: an interface compiles to no digits at all. -/
theorem not_unverified_without_code : ¬ ∀ (table : Policies) (lead : Lead) (request : Request)
    (cache later : Cache String) (script after : Script) (artifacts : Artifacts) (code : String)
    (report : Report), Brings Script.collaborators request cache script artifacts code later after →
    verify Script.collaborators table lead request cache script = (.ok report, later, after) →
    hexBody code.toList = [] → report.verified = false := by
  intro never
  have verdict := never .standard .node interfaceRequest (.empty 16) _ (interfaceScript "" "0x") _
    _ "0x" _ ⟨_, _, _, rfl, rfl, rfl⟩ rfl rfl
  cases verdict

end DeployCheck.Verification
