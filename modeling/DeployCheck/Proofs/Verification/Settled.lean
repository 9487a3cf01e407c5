import DeployCheck.Proofs.Verification.Stages
namespace DeployCheck.Verification

open Text

variable {σ κ : Type} {collaborators : Collaborators σ κ} {table : Policies} {lead : Lead}
  {request : Request} {cache later : Cache κ} {world begun : σ} {artifacts : Artifacts}
  {code : String} {counts : CacheCounts}

/-- What is to be said of artifacts and a code: the first of four complaints that applies, or else a
report, whose verdict is that the two regions are the same up to the case of letters. -/
inductive Judged (table : Policies) (request : Request) (artifacts : Artifacts) (code : String) :
    Except VerificationError Report → Prop
  | absent
    (missing : TextMap.find? artifacts (contractKey request.filename request.contract) = none) :
    Judged table request artifacts code
      (.error (.contractNotFound (contractKey request.filename request.contract)))
  | uncompiled {digits : String}
    (found : TextMap.find? artifacts (contractKey request.filename request.contract) = some digits)
    (malformed : ¬ IsHexPairs digits.toList) :
    Judged table request artifacts code
      (.error (.invalidBytecode "compiled" (Bytecode.fault digits.toList)))
  | undeployed {digits : String}
    (found : TextMap.find? artifacts (contractKey request.filename request.contract) = some digits)
    (hex : IsHexPairs digits.toList) (malformed : ¬ IsHexPairs (hexBody code.toList)) :
    Judged table request artifacts code
      (.error (.invalidBytecode "deployed" (Bytecode.fault (hexBody code.toList))))
  | unlabelled {digits : String}
    (found : TextMap.find? artifacts (contractKey request.filename request.contract) = some digits)
    (hex : IsHexPairs digits.toList) (whole : IsHexPairs (hexBody code.toList))
    (unread : ∀ version, Version.ofLabel request.label ≠ .ok version) :
    Judged table request artifacts code (.error (.malformedVersion request.label))
  | compared {digits : String} {compiled deployed : Bytecode} {version : Version} {report : Report}
    (found : TextMap.find? artifacts (contractKey request.filename request.contract) = some digits)
    (left : compiled.text = "0x" ++ digits) (right : deployed.text = code)
    (labelled : Version.ofLabel request.label = .ok version)
    (verdict : report.verified = true ↔
      SameIgnoringCase (Region.extract table version compiled).text.toList
        (Region.extract table version deployed).text.toList) :
    Judged table request artifacts code (.ok report)

/-- How the answer to a request depends on what became of the load, of the compilation and of the
node's answer, whichever of the last two came first. -/
def Settled (table : Policies) (request : Request) (loaded : Except VerificationError κ)
    (compiled : Except VerificationError Artifacts) (fetched : Except VerificationError String)
    (result : Except VerificationError Report) : Prop :=
  match loaded with
  | .error fault => result = .error fault
  | .ok _ =>
    match compiled, fetched with
    | .error fault, .ok _ => result = .error fault
    | .ok _, .error fault => result = .error fault
    | .error fault, .error other => result = .error fault ∨ result = .error other
    | .ok artifacts, .ok code =>
      Judged table request artifacts code result ∧
        ∃ counts, report table request artifacts code counts = result

theorem ofLabel_eq_error {label : String} {fault : VerificationError}
    (unread : Version.ofLabel label = .error fault) : fault = .malformedVersion label := by
  unfold Version.ofLabel at unread
  split at unread
  · exact (Except.error.inj unread).symm
  · split at unread
    · cases unread
    · exact (Except.error.inj unread).symm

theorem judged_report (table : Policies) (request : Request) (artifacts : Artifacts) (code : String)
    (counts : CacheCounts) :
    Judged table request artifacts code (report table request artifacts code counts) := by
  unfold report
  cases found : TextMap.find? artifacts (contractKey request.filename request.contract) with
  | none =>
      simp only [Artifacts.contract, found, bind, Except.bind]
      exact .absent found
  | some digits =>
      simp only [contract_eq_ok.mpr found, bind, Except.bind]
      -- The compiled side is read first, then the deployed one, and the label last.
      by_cases hex : IsHexPairs digits.toList
      · obtain ⟨compiled, made, left⟩ := Bytecode.exists_ofDigits hex .compiled
        by_cases whole : IsHexPairs (hexBody code.toList)
        · have held : Bytecode.ofText code .deployed = .ok ⟨code, whole⟩ := dif_pos whole
          cases labelled : Version.ofLabel request.label with
          | error fault =>
              obtain rfl := ofLabel_eq_error labelled
              simp only [made, held]
              exact .unlabelled found hex whole (by simp [labelled])
          | ok version =>
              simp only [made, held, pure, Except.pure]
              have right : (⟨code, whole⟩ : Bytecode).text = code := rfl
              exact .compared found left right labelled (by simp [Region.agrees])
        · have refused : Bytecode.ofText code .deployed = .error _ := dif_neg whole
          simp only [made, refused]
          exact .undeployed found hex whole
      · have prefixed := Bytecode.toList_ofDigits digits
        have refused : Bytecode.ofDigits digits .compiled =
            .error (.invalidBytecode "compiled" (Bytecode.fault digits.toList)) := by
          have malformed : ¬ IsHexPairs (hexBody ("0x" ++ digits).toList) := by rwa [prefixed]
          rw [Bytecode.ofDigits, Bytecode.ofText, dif_neg malformed, prefixed]
          rfl
        simp only [refused]
        exact .uncompiled found hex

theorem verify_of_unloaded {fault : VerificationError}
    (obtained : cache.obtain collaborators.load request.label world = (.error fault, later, begun)) :
    verify collaborators table lead request cache world = (.error fault, later, begun) := by
  simp only [verify, obtained]

theorem verify_settled (table : Policies) (lead : Lead) {compiler : κ}
    (obtained : cache.obtain collaborators.load request.label world = (.ok compiler, later, begun)) :
    Settled table request (.ok compiler : Except VerificationError κ)
      (collaborators.compile compiler request.sources optimize begun).1
      (collaborators.code request.address
        (collaborators.compile compiler request.sources optimize begun).2).1
      (verify collaborators table lead request cache world).1 := by
  simp only [verify, obtained, gather]
  cases produced : collaborators.compile compiler request.sources optimize begun with
  | mk compiled after =>
      cases fetched : collaborators.code request.address after with
      | mk answer asked =>
          cases compiled with
          | ok artifacts =>
              simp only [fetched]
              cases answer with
              | ok code => exact ⟨judged_report table request artifacts code _, _, rfl⟩
              | error other => rfl
          | error fault =>
              cases collaborators.failsAtOnce compiler request.sources begun with
              | true => cases answer <;> simp [Settled]
              | false => cases answer <;> cases lead <;> simp [Settled, Lead.choose, fetched]

theorem Settled.eq_ok {report : Report} {loaded : Except VerificationError κ}
    {compiled : Except VerificationError Artifacts} {fetched : Except VerificationError String}
    (settled : Settled table request loaded compiled fetched (.ok report)) :
    ∃ artifacts code counts, compiled = .ok artifacts ∧ fetched = .ok code ∧
      Verification.report table request artifacts code counts = .ok report := by
  cases loaded with
  | error fault => cases settled
  | ok compiler =>
      cases compiled with
      | error fault => cases fetched <;> simp [Settled] at settled
      | ok artifacts =>
          cases fetched with
          | error missing => cases settled
          | ok code =>
              obtain ⟨-, counts, reported⟩ := settled
              exact ⟨artifacts, code, counts, rfl, rfl, reported⟩

theorem Settled.eq_error {compiler : κ} {fault : VerificationError}
    {compiled : Except VerificationError Artifacts} {fetched : Except VerificationError String}
    (settled : Settled table request (.ok compiler : Except VerificationError κ) compiled fetched
      (.error fault)) :
    compiled = .error fault ∨ fetched = .error fault ∨
      ∃ artifacts code, Judged table request artifacts code (.error fault) := by
  cases compiled with
  | error failure =>
      cases fetched with
      | error missing =>
          rcases settled with same | same
          · exact .inl (congrArg _ (Except.error.inj same).symm)
          · exact .inr (.inl (congrArg _ (Except.error.inj same).symm))
      | ok code => exact .inl (congrArg _ (Except.error.inj settled).symm)
  | ok artifacts =>
      cases fetched with
      | error missing => exact .inr (.inl (congrArg _ (Except.error.inj settled).symm))
      | ok code => exact .inr (.inr ⟨artifacts, code, settled.1⟩)

theorem Judged.unreadable {label : String}
    (judged : Judged table request artifacts code (.error (.malformedVersion label))) :
    ∀ version, Version.ofLabel request.label ≠ .ok version := by
  cases judged with
  | unlabelled _ _ _ unread => exact unread

theorem Settled.alike {loaded : Except VerificationError κ}
    {compiled : Except VerificationError Artifacts} {fetched : Except VerificationError String}
    {result other : Except VerificationError Report}
    (settled : Settled table request loaded compiled fetched result)
    (again : Settled table request loaded compiled fetched other) :
    result.map Report.withoutCounts = other.map Report.withoutCounts ∨
      ∃ compiler fault missing, loaded = .ok compiler ∧ compiled = .error fault ∧
        fetched = .error missing ∧ (result = .error fault ∨ result = .error missing) ∧
        (other = .error fault ∨ other = .error missing) := by
  cases loaded with
  | error fault =>
      obtain rfl : result = .error fault := settled
      obtain rfl : other = .error fault := again
      exact Or.inl rfl
  | ok compiler =>
      cases compiled with
      | error fault =>
          cases fetched with
          | error missing =>
              exact Or.inr ⟨compiler, fault, missing, rfl, rfl, rfl, settled, again⟩
          | ok code =>
              obtain rfl : result = .error fault := settled
              obtain rfl : other = .error fault := again
              exact Or.inl rfl
      | ok artifacts =>
          cases fetched with
          | error missing =>
              obtain rfl : result = .error missing := settled
              obtain rfl : other = .error missing := again
              exact Or.inl rfl
          | ok code =>
              obtain ⟨-, counts, rfl⟩ := settled
              obtain ⟨-, others, rfl⟩ := again
              exact Or.inl (report_withoutCounts table request artifacts code counts others)

end DeployCheck.Verification
