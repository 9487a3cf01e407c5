import DeployCheck.Proofs.Bytecode
import DeployCheck.Proofs.Outcome
import DeployCheck.Verification.Course
namespace DeployCheck.Verification

variable {σ κ : Type} {collaborators : Collaborators σ κ} {table : Policies} {lead : Lead}
  {request : Request} {cache later : Cache κ} {world after : σ} {artifacts : Artifacts}
  {code : String} {report : Report}

/-- The cache brings a compiler, the compiler artifacts and the node a code. -/
def Brings (collaborators : Collaborators σ κ) (request : Request) (cache : Cache κ) (world : σ)
    (artifacts : Artifacts) (code : String) (later : Cache κ) (after : σ) : Prop :=
  ∃ compiler loaded compiled,
    cache.obtain collaborators.load request.label world = (.ok compiler, later, loaded) ∧
    collaborators.compile compiler request.sources optimize loaded = (.ok artifacts, compiled) ∧
    collaborators.code request.address compiled = (.ok code, after)

theorem obtain_empty_eq_ok {load : String → σ → Except VerificationError κ × σ} {label : String}
    {capacity : Nat} {compiler : κ}
    (obtained : (Cache.empty capacity).obtain load label world = (.ok compiler, later, after)) :
    load label world = (.ok compiler, after) := by
  simp only [Cache.obtain, Cache.lookUp, Cache.empty, List.lookup_nil] at obtained
  split at obtained
  · rename_i handle loaded brought
    simp only [Prod.mk.injEq, Except.ok.injEq] at obtained
    obtain ⟨rfl, -, rfl⟩ := obtained
    exact brought
  · simp at obtained

theorem gather_of_fault (lead : Lead) {compiler : κ} {fault : VerificationError} {compiled : σ}
    (failed :
      collaborators.compile compiler request.sources optimize world = (.error fault, compiled)) :
    ∃ other, (gather collaborators lead compiler request world).1 = .error other := by
  simp only [gather, failed]
  split
  · exact ⟨fault, rfl⟩
  · cases collaborators.code request.address compiled with
    | mk answer asked =>
        cases answer with
        | ok held => exact ⟨fault, rfl⟩
        | error other => exact ⟨lead.choose fault other, rfl⟩

theorem gather_eq_ok {compiler : κ} :
    gather collaborators lead compiler request world = (.ok (artifacts, code), after) ↔
      ∃ compiled,
        collaborators.compile compiler request.sources optimize world = (.ok artifacts, compiled) ∧
        collaborators.code request.address compiled = (.ok code, after) := by
  cases outcome : collaborators.compile compiler request.sources optimize world with
  | mk made compiled =>
      cases made with
      | ok produced =>
          simp only [gather, outcome]
          cases fetched : collaborators.code request.address compiled with
          | mk answer asked =>
              cases answer with
              | ok held => simp [fetched, and_assoc]
              | error fault => simp [fetched]
      | error fault =>
          obtain ⟨other, failed⟩ := gather_of_fault lead outcome
          constructor
          · intro gathered
            rw [gathered] at failed
            cases failed
          · rintro ⟨_, produced, -⟩
            cases produced

theorem verify_of_brings
    (brings : Brings collaborators request cache world artifacts code later after) :
    verify collaborators table lead request cache world =
      (Verification.report table request artifacts code (.of later), later, after) := by
  obtain ⟨compiler, loaded, compiled, obtained, produced, fetched⟩ := brings
  have gathered :
      gather collaborators lead compiler request loaded = (.ok (artifacts, code), after) :=
    gather_eq_ok.mpr ⟨compiled, produced, fetched⟩
  simp only [verify, obtained, gathered]

theorem brings_of_verify
    (verified : verify collaborators table lead request cache world = (.ok report, later, after)) :
    ∃ artifacts code, Brings collaborators request cache world artifacts code later after ∧
      Verification.report table request artifacts code (.of later) = .ok report := by
  unfold verify at verified
  cases obtained : cache.obtain collaborators.load request.label world with
  | mk outcome rest =>
      obtain ⟨kept, loaded⟩ := rest
      cases outcome with
      | error fault => simp [obtained] at verified
      | ok compiler =>
          cases gathered : gather collaborators lead compiler request loaded with
          | mk brought asked =>
              cases brought with
              | error fault => simp [obtained, gathered] at verified
              | ok pair =>
                  obtain ⟨artifacts, code⟩ := pair
                  simp only [obtained, gathered, Prod.mk.injEq] at verified
                  obtain ⟨reported, rfl, rfl⟩ := verified
                  obtain ⟨compiled, produced, fetched⟩ := gather_eq_ok.mp gathered
                  exact ⟨artifacts, code, ⟨compiler, loaded, compiled, obtained, produced, fetched⟩,
                    reported⟩

structure Report.Drawn (report : Report) (table : Policies) (request : Request)
    (digits code : String) : Prop where
  readings : ∃ compiled deployed : Bytecode,
    Bytecode.ofDigits digits .compiled = .ok compiled ∧
    Bytecode.ofText code .deployed = .ok deployed ∧
    report.compiled = .of compiled (Region.extract table report.version compiled) ∧
    report.deployed = .of deployed (Region.extract table report.version deployed) ∧
    report.verified = (Region.extract table report.version compiled).agrees
      (Region.extract table report.version deployed)
  version : Version.ofLabel request.label = .ok report.version

theorem contract_eq_ok {filename name digits : String} :
    artifacts.contract filename name = .ok digits ↔
      TextMap.find? artifacts (contractKey filename name) = some digits := by
  rw [Artifacts.contract]
  cases TextMap.find? artifacts (contractKey filename name) with
  | none => simp
  | some found => simp

theorem report_parts {counts : CacheCounts}
    (reported : Verification.report table request artifacts code counts = .ok report) :
    ∃ digits compiled deployed version,
      TextMap.find? artifacts (contractKey request.filename request.contract) = some digits ∧
      Bytecode.ofDigits digits .compiled = .ok compiled ∧
      Bytecode.ofText code .deployed = .ok deployed ∧
      Version.ofLabel request.label = .ok version ∧
      report =
        { verified := (Region.extract table version compiled).agrees
            (Region.extract table version deployed)
          address := request.address
          contract := contractKey request.filename request.contract
          label := request.label
          version
          policy := (Region.extract table version compiled).policy
          compiled := .of compiled (Region.extract table version compiled)
          deployed := .of deployed (Region.extract table version deployed)
          cache := counts } := by
  obtain ⟨digits, found, reported⟩ := bind_eq_ok.mp reported
  obtain ⟨compiled, produced, reported⟩ := bind_eq_ok.mp reported
  obtain ⟨deployed, held, reported⟩ := bind_eq_ok.mp reported
  obtain ⟨version, label, same⟩ := bind_eq_ok.mp reported
  exact ⟨digits, compiled, deployed, version, contract_eq_ok.mp found, produced, held, label,
    (Except.ok.inj same).symm⟩

theorem report_eq_ok {counts : CacheCounts}
    (reported : Verification.report table request artifacts code counts = .ok report) :
    ∃ digits,
      TextMap.find? artifacts (contractKey request.filename request.contract) = some digits ∧
      report.Drawn table request digits code := by
  obtain ⟨digits, compiled, deployed, version, found, produced, held, label, rfl⟩ :=
    report_parts reported
  exact ⟨digits, found, ⟨compiled, deployed, produced, held, rfl, rfl, rfl⟩, label⟩

/-! ## Reports but for the cache -/

def Report.withoutCounts (report : Report) : Report :=
  { report with cache := ⟨.zero, 0⟩ }

theorem report_withoutCounts (table : Policies) (request : Request) (artifacts : Artifacts)
    (code : String) (counts other : CacheCounts) :
    (Verification.report table request artifacts code counts).map Report.withoutCounts =
      (Verification.report table request artifacts code other).map Report.withoutCounts := by
  unfold Verification.report
  cases artifacts.contract request.filename request.contract with
  | error fault => rfl
  | ok digits =>
      simp only [bind, Except.bind]
      cases Bytecode.ofDigits digits .compiled with
      | error fault => rfl
      | ok compiled =>
          cases Bytecode.ofText code .deployed with
          | error fault => rfl
          | ok deployed =>
              cases Version.ofLabel request.label with
              | error fault => rfl
              | ok version => rfl

end DeployCheck.Verification
