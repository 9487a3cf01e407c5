import DeployCheck.Proofs.Verification.Trailer
/-!
Codes that differ only in the case of their letters. Markers are looked for in small letters, so
such codes are cut at the same offsets, and what is left of them differs only in case again. Whether
they agree with another code, and what is reported of them, is the same.
-/
namespace DeployCheck

open Text

/-! ## Regions -/

namespace Region

variable {table : Policies} {version : Version} {code other : Bytecode} {markers : Markers}
  {text recased : List Char} {left right one another : Region}

structure Recased (left right : Region) : Prop where
  policy : left.policy = right.policy
  startFound : left.startFound = right.startFound
  stopFound : left.stopFound = right.stopFound
  text : SameIgnoringCase left.text.toList right.text.toList

theorem Recased.agrees_eq (recased : left.Recased right) (other : one.Recased another) :
    left.agrees one = right.agrees another := by
  rw [agrees, agrees, decide_eq_decide, SameIgnoringCase, recased.text, other.text]
  rfl

theorem locate_congr (same : SameIgnoringCase text recased) :
    locate markers text = locate markers recased := by
  have lowered : lower text = lower recased := same
  simp only [locate, lowered]

section

variable (same : SameIgnoringCase code.text.toList other.text.toList)

include same

theorem ends_congr : ends table version code = ends table version other := by
  simp only [ends, stopOffset, locate_congr same, same.length_eq]

theorem sameIgnoringCase_slice (first last : Nat) :
    SameIgnoringCase (slice code.text.toList first last) (slice other.text.toList first last) := by
  rw [SameIgnoringCase, lower_slice, same, lower_slice]

theorem recased_extract :
    (extract table version code).Recased (extract table version other) := by
  have text : SameIgnoringCase (extract table version code).text.toList
      (extract table version other).text.toList := by
    rw [toList_extract_ends, toList_extract_ends, ends_congr same]
    exact sameIgnoringCase_slice same _ _
  cases selected : table.select version with
  | none => exact ⟨by simp [extract, selected], by simp [extract, selected],
      by simp [extract, selected], text⟩
  | some policy => exact ⟨by simp [extract, selected],
      by simp [extract, selected, locate_congr same],
      by simp [extract, selected, locate_congr same], text⟩

end

end Region

/-! ## Reports -/

namespace Bytecode

variable {text recased : String} {origin : Origin} {code other : Bytecode}

theorem ofText_of_malformed (malformed : ¬ IsHexPairs (hexBody text.toList)) (origin : Origin) :
    ofText text origin = .error (.invalidBytecode origin.name (fault (hexBody text.toList))) :=
  dif_neg malformed

theorem byteLength_congr (same : SameIgnoringCase code.text.toList other.text.toList) :
    code.byteLength = other.byteLength := by
  rw [byteLength, byteLength, body, body, (sameIgnoringCase_hexBody same).length_eq]

theorem ofText_recased (same : SameIgnoringCase text.toList recased.toList) (origin : Origin) :
    (∃ code other : Bytecode, ofText text origin = .ok code ∧ ofText recased origin = .ok other ∧
      SameIgnoringCase code.text.toList other.text.toList) ∨
    (¬ IsHexPairs (hexBody text.toList)) ∧ ∃ reason complaint,
      ofText text origin = .error (.invalidBytecode origin.name reason) ∧
      ofText recased origin = .error (.invalidBytecode origin.name complaint) := by
  by_cases hex : IsHexPairs (hexBody text.toList)
  · have hexAgain := (isHexPairs_congr same).mp hex
    exact .inl ⟨⟨text, hex⟩, ⟨recased, hexAgain⟩, dif_pos hex, dif_pos hexAgain, same⟩
  · have malformed := mt (isHexPairs_congr same).mpr hex
    exact .inr ⟨hex, _, _, ofText_of_malformed hex origin, ofText_of_malformed malformed origin⟩

end Bytecode

namespace Verification

variable {table : Policies} {request : Request} {first second : Artifacts} {code held : String}
  {before after : CacheCounts} {result answer : Except VerificationError Report}

/-- The digits of the contract that is asked for differ at most in case, or neither map has any. -/
def SameDigits (request : Request) (first second : Artifacts) : Prop :=
  Option.Rel (fun left right : String => SameIgnoringCase left.toList right.toList)
    (TextMap.find? first (contractKey request.filename request.contract))
    (TextMap.find? second (contractKey request.filename request.contract))

theorem SameDigits.cases (digits : SameDigits request first second) :
    (TextMap.find? first (contractKey request.filename request.contract) = none ∧
      TextMap.find? second (contractKey request.filename request.contract) = none) ∨
    ∃ left right,
      TextMap.find? first (contractKey request.filename request.contract) = some left ∧
      TextMap.find? second (contractKey request.filename request.contract) = some right ∧
      SameIgnoringCase left.toList right.toList := by
  unfold SameDigits at digits
  generalize TextMap.find? first (contractKey request.filename request.contract) = one at digits
  generalize TextMap.find? second (contractKey request.filename request.contract) = other at digits
  cases digits with
  | none => exact .inl ⟨rfl, rfl⟩
  | some same => exact .inr ⟨_, _, rfl, rfl, same⟩

def Respelled (readable : Prop) (result answer : Except VerificationError Report) : Prop :=
  result.map Report.withoutCounts = answer.map Report.withoutCounts ∨
    ¬ readable ∧ ∃ (origin : Origin) (reason complaint : String),
      result = .error (.invalidBytecode origin.name reason) ∧
      answer = .error (.invalidBytecode origin.name complaint)

theorem summary_congr {one other : Bytecode} {left right : Region}
    (same : SameIgnoringCase one.text.toList other.text.toList) (recased : left.Recased right) :
    Summary.of one left = Summary.of other right := by
  have length := recased.text.length_eq
  rw [String.length_toList, String.length_toList] at length
  rw [Summary.of, Summary.of, Bytecode.byteLength_congr same, length, recased.startFound,
    recased.stopFound]

theorem report_of_recased {left right : String} {compiled produced deployed fetched : Bytecode}
    (found : TextMap.find? first (contractKey request.filename request.contract) = some left)
    (given : TextMap.find? second (contractKey request.filename request.contract) = some right)
    (made : Bytecode.ofDigits left .compiled = .ok compiled)
    (remade : Bytecode.ofDigits right .compiled = .ok produced)
    (read : Bytecode.ofText code .deployed = .ok deployed)
    (reread : Bytecode.ofText held .deployed = .ok fetched)
    (same : SameIgnoringCase compiled.text.toList produced.text.toList)
    (alike : SameIgnoringCase deployed.text.toList fetched.text.toList) :
    (report table request first code before).map Report.withoutCounts =
      (report table request second held after).map Report.withoutCounts := by
  cases labelled : Version.ofLabel request.label with
  | error fault =>
      simp only [report, contract_eq_ok.mpr found, contract_eq_ok.mpr given, made, remade, read,
        reread, labelled, bind, Except.bind, Except.map]
  | ok version =>
      have one : (Region.extract table version compiled).Recased
          (Region.extract table version produced) := Region.recased_extract same
      have other : (Region.extract table version deployed).Recased
          (Region.extract table version fetched) := Region.recased_extract alike
      simp only [report, contract_eq_ok.mpr found, contract_eq_ok.mpr given, made, remade, read,
        reread, labelled, bind, Except.bind, pure, Except.pure, Except.map, Report.withoutCounts,
        one.agrees_eq other, one.policy, summary_congr same one, summary_congr alike other]

theorem report_of_missing
    (missing : TextMap.find? first (contractKey request.filename request.contract) = none) :
    report table request first code before =
      .error (.contractNotFound (contractKey request.filename request.contract)) := by
  simp only [report, Artifacts.contract, missing, bind, Except.bind]

theorem report_recased (digits : SameDigits request first second)
    (codes : SameIgnoringCase code.toList held.toList) :
    Respelled (Compiled request first ∧ IsHexPairs (hexBody code.toList))
      (report table request first code before) (report table request second held after) := by
  rcases digits.cases with ⟨missing, absent⟩ | ⟨left, right, found, given, same⟩
  · rw [report_of_missing missing, report_of_missing absent]
    exact .inl rfl
  have prefixed : SameIgnoringCase ("0x" ++ left).toList ("0x" ++ right).toList := by
    rw [Bytecode.toList_ofDigits, Bytecode.toList_ofDigits]
    exact congrArg (fun small => '0' :: 'x' :: small) same
  rcases Bytecode.ofText_recased prefixed .compiled with
    ⟨compiled, produced, made, remade, recased⟩ | ⟨malformed, reason, complaint, refused, declined⟩
  · rcases Bytecode.ofText_recased codes .deployed with
      ⟨deployed, fetched, read, reread, alike⟩ | ⟨malformed, reason, complaint, refused, declined⟩
    · exact .inl (report_of_recased found given made remade read reread recased alike)
    · refine .inr ⟨fun readable => malformed readable.2, .deployed, reason, complaint, ?_, ?_⟩
      · simp only [report, contract_eq_ok.mpr found, Bytecode.ofDigits, made, refused, bind,
          Except.bind]
      · simp only [report, contract_eq_ok.mpr given, Bytecode.ofDigits, remade, declined, bind,
          Except.bind]
  · refine .inr ⟨fun readable => ?_, .compiled, reason, complaint, ?_, ?_⟩
    · obtain ⟨⟨digits, stored, hex⟩, -⟩ := readable
      obtain rfl := Option.some.inj (found.symm.trans stored)
      rw [Bytecode.toList_ofDigits] at malformed
      exact malformed hex
    · simp only [report, contract_eq_ok.mpr found, Bytecode.ofDigits, refused, bind, Except.bind]
    · simp only [report, contract_eq_ok.mpr given, Bytecode.ofDigits, declined, bind, Except.bind]

/-- The case of letters does not count. Codes that differ only in it are cut at the same offsets of
their own texts, by the same policy and with the same markers found, and their regions agree with
the same regions. Verifications in which the contract's digits and the code at the address are
spelled with other letters come to the same result but for the cache; only a text that is no
bytecode is complained of in its own spelling. -/
theorem recasing_insensitive (table : Policies) :
    (∀ (version : Version) (one other : Bytecode),
      SameIgnoringCase one.text.toList other.text.toList →
      Region.ends table version one = Region.ends table version other ∧
        (Region.extract table version one).Recased (Region.extract table version other)) ∧
    (∀ (version : Version) (code : Bytecode), (Region.extract table version code).text.toList =
      Region.slice code.text.toList (Region.ends table version code).1
        (Region.ends table version code).2) ∧
    (∀ (version : Version) (one other code held : Bytecode),
      SameIgnoringCase one.text.toList other.text.toList →
      SameIgnoringCase code.text.toList held.text.toList →
      (Region.extract table version one).agrees (Region.extract table version code) =
        (Region.extract table version other).agrees (Region.extract table version held)) ∧
    ∀ (request : Request) (first second : Artifacts) (code held : String) (result answer),
      SameDigits request first second → SameIgnoringCase code.toList held.toList →
      Results table request first code result → Results table request second held answer →
      Respelled (Compiled request first ∧ IsHexPairs (hexBody code.toList)) result answer := by
  refine ⟨?_, fun version code => Region.toList_extract_ends, ?_, ?_⟩
  · intro version one other same
    exact ⟨Region.ends_congr same, Region.recased_extract same⟩
  · intro version one other code held same alike
    exact (Region.recased_extract same).agrees_eq (Region.recased_extract alike)
  · intro request first second code held result answer digits codes came went
    obtain ⟨before, rfl⟩ := came.report
    obtain ⟨after, rfl⟩ := went.report
    exact report_recased digits codes

theorem recasing_insensitive_capitals : ∃ report other,
    Results .standard ownedRequest [("A.sol:A", "6080604052ab")] "0x6080604052ab" (.ok report) ∧
    Results .standard ownedRequest [("A.sol:A", "6080604052AB")] "0X6080604052aB" (.ok other) ∧
    report.withoutCounts = other.withoutCounts ∧ report.verified = true := by
  -- Capitals on one side and in the prefix of the other leave a contract verified.
  have left : verify Script.collaborators .standard .node ownedRequest (.empty 16)
      (ownedScript "6080604052ab" "0x6080604052ab") = (.ok _, _, _) := rfl
  have right : verify Script.collaborators .standard .node ownedRequest (.empty 16)
      (ownedScript "6080604052AB" "0X6080604052aB") = (.ok _, _, _) := rfl
  have came : Results .standard ownedRequest [("A.sol:A", "6080604052ab")] "0x6080604052ab" _ :=
    ⟨_, _, _, _, _, _, _, _, ⟨_, _, _, rfl, rfl, rfl⟩, left⟩
  have went : Results .standard ownedRequest [("A.sol:A", "6080604052AB")] "0X6080604052aB" _ :=
    ⟨_, _, _, _, _, _, _, _, ⟨_, _, _, rfl, rfl, rfl⟩, right⟩
  obtain ⟨-, -, -, insensitive⟩ := recasing_insensitive .standard
  have digits : SameDigits ownedRequest [("A.sol:A", "6080604052ab")]
      [("A.sol:A", "6080604052AB")] := .some (by decide)
  rcases insensitive _ _ _ _ _ _ _ digits (by decide) came went with same | ⟨unreadable, -⟩
  · exact ⟨_, _, came, went, Except.ok.inj same, rfl⟩
  · exact absurd ⟨⟨_, rfl, by decide⟩, by decide⟩ unreadable

end Verification

end DeployCheck
