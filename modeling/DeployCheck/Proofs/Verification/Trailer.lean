import DeployCheck.Proofs.Region.Trailer
import DeployCheck.Proofs.Verification.Stages
import DeployCheck.Verification.Scripted
/-!
Two verifications of codes that differ only from their end marker on. What they report differs in
the size of that code alone, whichever of the two sides it is on.
-/
namespace DeployCheck.Verification

open Text

variable {table : Policies} {request : Request} {version : Version} {policy : Policy}
  {artifacts first second : Artifacts} {digits code left right : String}
  {front : List Char} {counts before after : CacheCounts}
  {result other : Except VerificationError Report}

/-! ## Results -/

/-- What verifications come to whose compiler gives these artifacts and whose node gives this code,
whatever the collaborators and the cache are otherwise. -/
def Results (table : Policies) (request : Request) (artifacts : Artifacts) (code : String)
    (result : Except VerificationError Report) : Prop :=
  ∃ (σ κ : Type) (collaborators : Collaborators σ κ) (lead : Lead) (cache later : Cache κ)
    (world after : σ), Brings collaborators request cache world artifacts code later after ∧
    verify collaborators table lead request cache world = (result, later, after)

theorem Results.report (results : Results table request artifacts code result) :
    ∃ counts, Verification.report table request artifacts code counts = result := by
  obtain ⟨σ, κ, collaborators, lead, cache, later, world, after, brings, verified⟩ := results
  rw [verify_of_brings brings, Prod.mk.injEq] at verified
  exact ⟨_, verified.1⟩

def Compiled (request : Request) (artifacts : Artifacts) : Prop :=
  ∃ digits, TextMap.find? artifacts (contractKey request.filename request.contract) = some digits ∧
    IsHexPairs digits.toList

theorem report_isOk (labelled : Version.ofLabel request.label = .ok version) :
    (report table request artifacts code counts).isOk = true ↔
      Compiled request artifacts ∧ IsHexPairs (hexBody code.toList) := by
  constructor
  · intro succeeded
    cases reported : report table request artifacts code counts with
    | error fault => simp [reported, Except.isOk, Except.toBool] at succeeded
    | ok made =>
        obtain ⟨digits, found, drawn⟩ := report_eq_ok reported
        obtain ⟨compiled, deployed, produced, held, -⟩ := drawn.readings
        exact ⟨⟨digits, found, (Bytecode.ofDigits_eq_ok.mp produced).1⟩,
          (Bytecode.ofText_eq_ok.mp held).1⟩
  · rintro ⟨⟨digits, found, hex⟩, whole⟩
    obtain ⟨compiled, produced, -⟩ := Bytecode.exists_ofDigits hex .compiled
    have held : Bytecode.ofText code .deployed = .ok ⟨code, whole⟩ := dif_pos whole
    simp only [report, contract_eq_ok.mpr found, produced, held, labelled, bind, Except.bind, pure,
      Except.pure, Except.isOk, Except.toBool]

theorem report_of_deployed (table : Policies) (artifacts : Artifacts)
    (labelled : Version.ofLabel request.label = .ok version) :
    (∃ fault, ∀ (code : Bytecode) (counts : CacheCounts),
      report table request artifacts code.text counts = .error fault) ∨
    ∃ compiled, ∀ (code : Bytecode) (counts : CacheCounts),
      report table request artifacts code.text counts =
        .ok ⟨(Region.extract table version compiled).agrees (Region.extract table version code),
          request.address, contractKey request.filename request.contract, request.label, version,
          (Region.extract table version compiled).policy,
          .of compiled (Region.extract table version compiled),
          .of code (Region.extract table version code), counts⟩ := by
  cases found : artifacts.contract request.filename request.contract with
  | error fault =>
      refine .inl ⟨fault, fun code counts => ?_⟩
      simp only [report, found, bind, Except.bind]
  | ok digits =>
      cases made : Bytecode.ofDigits digits .compiled with
      | error fault =>
          refine .inl ⟨fault, fun code counts => ?_⟩
          simp only [report, found, made, bind, Except.bind]
      | ok compiled =>
          refine .inr ⟨compiled, fun code counts => ?_⟩
          simp only [report, found, made, Bytecode.ofText_text, labelled, bind, Except.bind, pure,
            Except.pure]

def Summary.withoutBytes (summary : Summary) : Summary :=
  { summary with totalBytes := 0 }

def Report.withoutDeployedBytes (report : Report) : Report :=
  { report.withoutCounts with deployed := report.deployed.withoutBytes }

def Report.withoutCompiledBytes (report : Report) : Report :=
  { report.withoutCounts with compiled := report.compiled.withoutBytes }

/-! ## Reports on codes with the same front -/

section

variable (labelled : Version.ofLabel request.label = .ok version)
  (selected : table.select version = some policy)
  (outside : ∀ n, ¬ OccursAt policy.markers.stop policy.markers.start n)

include selected outside

theorem extract_eq_of_trailed {one two : Bytecode}
    (trailed : Region.Trailed policy.markers front one.text.toList)
    (same : Region.Trailed policy.markers front two.text.toList) :
    Region.extract table version one = Region.extract table version two := by
  rw [Region.extract_of_trailed selected outside trailed,
    Region.extract_of_trailed selected outside same]

include labelled

theorem report_of_trailed_deployed {one two : Bytecode}
    (trailed : Region.Trailed policy.markers front one.text.toList)
    (same : Region.Trailed policy.markers front two.text.toList) :
    (report table request artifacts one.text before).map Report.withoutDeployedBytes =
      (report table request artifacts two.text after).map Report.withoutDeployedBytes := by
  have regions := extract_eq_of_trailed selected outside trailed same
  rcases report_of_deployed table artifacts labelled with ⟨fault, fails⟩ | ⟨compiled, succeeds⟩
  · rw [fails, fails]
  · rw [succeeds, succeeds, regions]
    rfl

theorem report_of_trailed_compiled
    (found : TextMap.find? first (contractKey request.filename request.contract) = some left)
    (given : TextMap.find? second (contractKey request.filename request.contract) = some right)
    (hexLeft : IsHexPairs left.toList) (hexRight : IsHexPairs right.toList)
    (trailed : Region.Trailed policy.markers front ("0x" ++ left).toList)
    (same : Region.Trailed policy.markers front ("0x" ++ right).toList) :
    (report table request first code before).map Report.withoutCompiledBytes =
      (report table request second code after).map Report.withoutCompiledBytes := by
  obtain ⟨one, madeOne, textOne⟩ := Bytecode.exists_ofDigits hexLeft .compiled
  obtain ⟨two, madeTwo, textTwo⟩ := Bytecode.exists_ofDigits hexRight .compiled
  rw [← textOne] at trailed
  rw [← textTwo] at same
  have regions := extract_eq_of_trailed selected outside trailed same
  simp only [report, contract_eq_ok.mpr found, contract_eq_ok.mpr given, madeOne, madeTwo, bind,
    Except.bind]
  cases held : Bytecode.ofText code .deployed with
  | error fault => rfl
  | ok deployed =>
      simp only [labelled, regions, pure, Except.pure, Except.map]
      rfl

/-- What stands in a code from its end marker on does not count. Two codes with the same front have
the same region, which is the front from some offset on. Verifications of both come to the same
report but for the bytes of that code and the cache, whether it is the deployed or the compiled one;
there is a report exactly if the other code is proper, and otherwise the same failure. -/
theorem trailer_insensitive (front : List Char) :
    (∃ offset found, ∀ code : Bytecode, Region.Trailed policy.markers front code.text.toList →
      Region.extract table version code =
        ⟨String.ofList (front.drop offset), some policy.name, found, true⟩) ∧
    (∀ (one two : Bytecode) (artifacts : Artifacts) (result other),
      Region.Trailed policy.markers front one.text.toList → Region.Trailed policy.markers front two.text.toList →
      Results table request artifacts one.text result →
      Results table request artifacts two.text other →
      result.map Report.withoutDeployedBytes = other.map Report.withoutDeployedBytes ∧
        (result.isOk = true ↔ Compiled request artifacts)) ∧
    ∀ (left right code : String) (first second : Artifacts) (result other),
      TextMap.find? first (contractKey request.filename request.contract) = some left →
      TextMap.find? second (contractKey request.filename request.contract) = some right →
      IsHexPairs left.toList → IsHexPairs right.toList →
      Region.Trailed policy.markers front ("0x" ++ left).toList →
      Region.Trailed policy.markers front ("0x" ++ right).toList →
      Results table request first code result → Results table request second code other →
      result.map Report.withoutCompiledBytes = other.map Report.withoutCompiledBytes ∧
        (result.isOk = true ↔ IsHexPairs (hexBody code.toList)) := by
  refine ⟨⟨_, _, fun code => Region.extract_of_trailed selected outside⟩, ?_, ?_⟩
  · intro one two artifacts result other trailed same came went
    obtain ⟨before, rfl⟩ := came.report
    obtain ⟨after, rfl⟩ := went.report
    refine ⟨report_of_trailed_deployed labelled selected outside trailed same, ?_⟩
    rw [report_isOk labelled]
    exact and_iff_left one.wellFormed
  · intro left right code first second result other found given hexLeft hexRight trailed same came
      went
    obtain ⟨before, rfl⟩ := came.report
    obtain ⟨after, rfl⟩ := went.report
    refine ⟨report_of_trailed_compiled labelled selected outside found given hexLeft hexRight
      trailed same, ?_⟩
    rw [report_isOk labelled]
    exact and_iff_right ⟨left, found, hexLeft⟩

end

def ownedRequest : Request :=
  ⟨[("A.sol", "contract A { }")], "v0.4.24+commit.e67f0147", "A", "A.sol",
    "0x8d12a197cb00d4747a1fe03395095ce2a5cc6819"⟩

def ownedScript (digits code : String) : Script :=
  ⟨[], [("A.sol:A", digits)], none, [(ownedRequest.address, code)], [], [], []⟩

def longCode : Bytecode :=
  ⟨"0x6080604052600435a165627a7a7230582060806040520029", by decide⟩

def shortCode : Bytecode :=
  ⟨"0x6080604052600435A165627A7A72305820", by decide⟩

theorem trailed_longCode :
    Region.Trailed (.ofTexts Policies.prologueFrom22 Policies.metadataStart)
      "0x6080604052600435".toList longCode.text.toList :=
  ⟨⟨"a165627a7a72305820".toList, "60806040520029".toList, by decide, by decide⟩, by decide⟩

theorem trailed_shortCode :
    Region.Trailed (.ofTexts Policies.prologueFrom22 Policies.metadataStart)
      "0x6080604052600435".toList shortCode.text.toList :=
  ⟨⟨"A165627A7A72305820".toList, [], by decide, by decide⟩, by decide⟩

theorem trailer_insensitive_standard : ∃ left right,
    Results .standard ownedRequest [("A.sol:A", "6080604052600435")] longCode.text (.ok left) ∧
    Results .standard ownedRequest [("A.sol:A", "6080604052600435")] shortCode.text (.ok right) ∧
    left.withoutDeployedBytes = right.withoutDeployedBytes ∧ left.verified = true ∧
    left.deployed.totalBytes = 24 ∧ right.deployed.totalBytes = 17 := by
  have outside : ∀ n, ¬ OccursAt
      (Markers.ofTexts Policies.prologueFrom22 Policies.metadataStart).stop
      (Markers.ofTexts Policies.prologueFrom22 Policies.metadataStart).start n :=
    firstOccurrence_eq_none.mp (by decide)
  have labelled : Version.ofLabel ownedRequest.label = .ok ⟨4, 24⟩ := rfl
  have selected : Policies.standard.select ⟨4, 24⟩ = some ⟨"solc>=0.4.22", ⟨4, 22⟩,
    .ofTexts Policies.prologueFrom22 Policies.metadataStart⟩ := rfl
  obtain ⟨-, same, -⟩ := trailer_insensitive labelled selected outside
    "0x6080604052600435".toList
  have left : verify Script.collaborators .standard .node ownedRequest (.empty 16)
      (ownedScript "6080604052600435" longCode.text) = (.ok _, _, _) := rfl
  have right : verify Script.collaborators .standard .node ownedRequest (.empty 16)
      (ownedScript "6080604052600435" shortCode.text) = (.ok _, _, _) := rfl
  have came : Results .standard ownedRequest [("A.sol:A", "6080604052600435")] longCode.text _ :=
    ⟨_, _, _, _, _, _, _, _, ⟨_, _, _, rfl, rfl, rfl⟩, left⟩
  have went : Results .standard ownedRequest [("A.sol:A", "6080604052600435")] shortCode.text _ :=
    ⟨_, _, _, _, _, _, _, _, ⟨_, _, _, rfl, rfl, rfl⟩, right⟩
  have equal := (same longCode shortCode _ _ _ trailed_longCode trailed_shortCode came went).1
  exact ⟨_, _, came, went, Except.ok.inj equal, rfl, rfl, rfl⟩

end DeployCheck.Verification
