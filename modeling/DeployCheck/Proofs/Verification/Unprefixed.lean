import DeployCheck.Proofs.Region.WholeBytes
import DeployCheck.Proofs.Verification.Trailer
/-!
Codes that a node gives without the prefix. No marker reaches into a prefix, so the markers of a
code stand two characters further on behind one, and nowhere else. A region that begins at a start
marker is the same with and without the prefix, and so is the verdict.
-/
namespace DeployCheck.Verification

open Text

variable {table : Policies} {request : Request} {version : Version} {artifacts : Artifacts}
  {before after : CacheCounts} {bare code : Bytecode} {lead : String}

theorem byteLength_prefixed {x : Char} (letter : x = 'x' ∨ x = 'X')
    (spelled : lead.toList = ['0', x]) (hex : IsHexPairs bare.text.toList)
    (same : code.text = lead ++ bare.text) : code.byteLength = bare.byteLength := by
  have chars : code.text.toList = '0' :: x :: bare.text.toList := by
    rw [same, String.toList_append, spelled]
    rfl
  rw [Bytecode.byteLength, Bytecode.byteLength, Bytecode.body, Bytecode.body, chars,
    Bytecode.hexBody_of_prefixed letter, Bytecode.hexBody_of_digits hex.2]

theorem report_congr_deployed (labelled : Version.ofLabel request.label = .ok version)
    (region : Region.extract table version code = Region.extract table version bare)
    (size : code.byteLength = bare.byteLength) :
    (report table request artifacts bare.text before).map Report.withoutCounts =
      (report table request artifacts code.text after).map Report.withoutCounts := by
  rcases report_of_deployed table artifacts labelled with ⟨fault, fails⟩ | ⟨compiled, succeeds⟩
  · rw [fails, fails]
  · have summary : Summary.of code (Region.extract table version bare) =
        Summary.of bare (Region.extract table version bare) := by
      rw [Summary.of, size, Summary.of]
    rw [succeeds, succeeds, region, summary]
    rfl

/-- What a prefix in front of digits changes, under markers of at least two digits. Both spellings
are read; the same policy applies and the same markers are found. From a start marker on the regions
are the same, and otherwise the one begins with the prefix. So where a start marker is found a
verification comes to the same result but for the cache, whether or not the node writes the
prefix. -/
theorem prefix_insensitive
    (digital : ∀ policy, table.select version = some policy → policy.markers.AreDigits)
    (known : lead = "0x" ∨ lead = "0X") {digits : String} (hex : IsHexPairs digits.toList) :
    ∃ bare code : Bytecode, bare.text = digits ∧ code.text = lead ++ digits ∧
      Region.Prefixed lead (Region.extract table version bare)
        (Region.extract table version code) ∧
      ∀ (request : Request) (artifacts : Artifacts) (result answer),
        Version.ofLabel request.label = .ok version →
        (Region.extract table version bare).startFound = true →
        Results table request artifacts digits result →
        Results table request artifacts (lead ++ digits) answer →
        result.map Report.withoutCounts = answer.map Report.withoutCounts := by
  obtain ⟨x, letter, spelled⟩ : ∃ x, (x = 'x' ∨ x = 'X') ∧ lead.toList = ['0', x] := by
    rcases known with rfl | rfl
    · exact ⟨'x', .inl rfl, rfl⟩
    · exact ⟨'X', .inr rfl, rfl⟩
  have whole : IsHexPairs (hexBody digits.toList) := by
    rwa [Bytecode.hexBody_of_digits hex.2]
  have prefixedWhole : IsHexPairs (hexBody (lead ++ digits).toList) := by
    rw [String.toList_append, spelled]
    exact (Bytecode.hexBody_of_prefixed letter).symm ▸ hex
  obtain ⟨bare, rfl⟩ : ∃ bare : Bytecode, bare.text = digits := ⟨⟨digits, whole⟩, rfl⟩
  obtain ⟨code, written⟩ : ∃ code : Bytecode, code.text = lead ++ bare.text :=
    ⟨⟨lead ++ bare.text, prefixedWhole⟩, rfl⟩
  have prefixed := Region.prefixed_extract letter spelled digital written
  refine ⟨bare, code, rfl, written, prefixed, ?_⟩
  intro request artifacts result answer labelled started came went
  obtain ⟨before, rfl⟩ := came.report
  obtain ⟨after, rfl⟩ := went.report
  rw [← written]
  exact report_congr_deployed labelled (prefixed.eq_of_started started)
    (byteLength_prefixed letter spelled hex written)

theorem prefix_insensitive_standard : ∃ left right,
    Results .standard ownedRequest [("A.sol:A", "6080604052ab")] "6080604052ab" (.ok left) ∧
    Results .standard ownedRequest [("A.sol:A", "6080604052ab")] "0X6080604052ab" (.ok right) ∧
    left.withoutCounts = right.withoutCounts ∧ left.verified = true := by
  -- A node that leaves out the prefix does not keep a contract from being verified.
  have left : verify Script.collaborators .standard .node ownedRequest (.empty 16)
      (ownedScript "6080604052ab" "6080604052ab") = (.ok _, _, _) := rfl
  have right : verify Script.collaborators .standard .node ownedRequest (.empty 16)
      (ownedScript "6080604052ab" "0X6080604052ab") = (.ok _, _, _) := rfl
  have came : Results .standard ownedRequest [("A.sol:A", "6080604052ab")] "6080604052ab" _ :=
    ⟨_, _, _, _, _, _, _, _, ⟨_, _, _, rfl, rfl, rfl⟩, left⟩
  have went : Results .standard ownedRequest [("A.sol:A", "6080604052ab")] "0X6080604052ab" _ :=
    ⟨_, _, _, _, _, _, _, _, ⟨_, _, _, rfl, rfl, rfl⟩, right⟩
  obtain ⟨bare, code, written, -, -, insensitive⟩ :=
    prefix_insensitive Region.areDigits_of_standard (.inr rfl)
      (by decide : IsHexPairs "6080604052ab".toList)
  have started : (Region.extract .standard ⟨4, 24⟩ bare).startFound = true := by
    rw [Region.extract, written]
    decide
  have same := insensitive ownedRequest _ _ _ rfl started came went
  exact ⟨_, _, came, went, Except.ok.inj same, rfl⟩

end DeployCheck.Verification
