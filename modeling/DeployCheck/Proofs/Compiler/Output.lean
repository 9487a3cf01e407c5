import DeployCheck.Compiler.Artifacts
import DeployCheck.Proofs.Json.Printing
import DeployCheck.Proofs.Json.Records
import DeployCheck.Proofs.TextMap
/-!
The compiler's record of a compilation. Of a record that is printed from a map of artifacts this map
is read back, whatever else stands in the record and in whichever order; a record that lacks the
contracts, or the runtime code of one of them, is refused.
-/
namespace DeployCheck.CombinedOutput

open Text Json

variable {source value : Source} {output : String} {found map : Artifacts}

/-! ## What is read -/

def codeField : Json.Field String :=
  ⟨"bin-runtime", readText, none⟩

def contractsField : Json.Field Artifacts :=
  ⟨"contracts", readMap readContract, none⟩

def ContractShape : Source → String → Prop :=
  RecordShape codeField fun value text => Literal text value

def OutputShape : Source → Artifacts → Prop :=
  RecordShape contractsField (MapShape ContractShape)

theorem exact_readContract : Exact readContract ContractShape fun _ => True := by
  have code : Exact codeField.read _ _ := exact_text
  exact code.record

theorem exact_read : Exact read OutputShape fun _ => True := by
  have contracts : Exact contractsField.read _ _ := exact_readContract.map
  exact contracts.record

theorem artifacts_eq_ok_iff : artifacts output = .ok found ↔
    Padded (OutputShape · found) (Utf8.ofText output.toList) := by
  rw [← exact_read.finish_iff trivial, artifacts]
  split <;> simp_all

theorem artifacts_eq_error (refused : ∀ found, artifacts output ≠ .ok found) :
    ∃ message, artifacts output = .error (.compileOutput message) := by
  unfold artifacts at refused ⊢
  split
  · rename_i found read
    exact absurd (by rw [read]) (refused found)
  · exact ⟨_, rfl⟩

/-! ## What is printed -/

def IsContract (code : String) (value : Json) : Prop :=
  ∃ members, value = .object members ∧
    members.filter (·.1 = "bin-runtime") = [("bin-runtime", .string code)]

/-- An object whose contracts have the runtime code of these artifacts, in any order, among members
of other names. -/
def IsOutput (map : Artifacts) (value : Json) : Prop :=
  ∃ members contracts listed, value = .object members ∧
    members.filter (·.1 = "contracts") = [("contracts", .object contracts)] ∧
    listed.Perm map ∧
    List.Forall₂
      (fun contract artifact => contract.1 = artifact.1 ∧ IsContract artifact.2 contract.2)
      contracts listed

theorem IsContract.shape {code : String} {contract : Json} (written : IsContract code contract)
    (printed : Printed contract source) : ContractShape source code := by
  obtain ⟨members, rfl, only⟩ := written
  obtain ⟨write, writes, object⟩ := printed.isObject
  refine .inl ⟨_, object, ?_⟩
  rw [codeField, named_map, only]
  exact .once (writes (.string code)).literal

theorem IsOutput.shape {value : Json} (ascending : TextMap.Ascending map)
    (written : IsOutput map value) (printed : Printed value source) : OutputShape source map := by
  obtain ⟨members, contracts, listed, rfl, only, same, all⟩ := written
  obtain ⟨write, writes, object⟩ := printed.isObject
  obtain ⟨write', writes', contractsObject⟩ := (writes (.object contracts)).isObject
  refine .inl ⟨_, object, ?_⟩
  rw [contractsField, named_map, only]
  refine .once ⟨_, listed, contractsObject, ?_, ?_⟩
  · rw [List.forall₂_map_left_iff]
    exact all.imp fun contract artifact ⟨key, code⟩ => ⟨key, code.shape (writes' contract.2)⟩
  · have distinct : (listed.map Prod.fst).Nodup :=
      (same.map Prod.fst).nodup_iff.mpr ascending.nodup_keys
    exact ascending.eq_of_perm (TextMap.ascending_ofList listed)
      ((TextMap.ofList_perm distinct).trans same).symm

/-! ## What is refused -/

/-- Among the members of a record there are no contracts, or one of the contracts is an object
without a text for its runtime code. -/
def Lacking (members : List (String × Source)) : Prop :=
  "contracts" ∉ members.map Prod.fst ∨
    ∃ contracts entries key contract fields, ("contracts", contracts) ∈ members ∧
      IsObject entries contracts ∧ (key, contract) ∈ entries ∧ IsObject fields contract ∧
      ∀ value, ("bin-runtime", value) ∈ fields → ∀ code, ¬ Literal code value

theorem not_lacking {members : List (String × Source)} (object : IsObject members value)
    (shaped : OutputShape value found) : ¬ Lacking members := by
  obtain ⟨contracts, only, mapped⟩ := (RecordShape.given shaped object).exists_of_required rfl
  have inside : ("contracts", contracts) ∈ members := mem_named.mp (only ▸ List.mem_cons_self)
  rintro (missing | ⟨again, entries, key, contract, fields, member, entriesObject, entry,
    fieldsObject, bare⟩)
  · exact missing (List.mem_map.mpr ⟨_, inside, rfl⟩)
  · have same : again ∈ named contractsField.name members := mem_named.mpr member
    rw [only, List.mem_singleton] at same
    subst same
    obtain ⟨code, contractShaped⟩ := mapped.exists_of_mem entriesObject entry
    obtain ⟨text, listed, literal⟩ :=
      (RecordShape.given contractShaped fieldsObject).exists_of_required rfl
    exact bare text (mem_named.mp (listed ▸ List.mem_cons_self)) code literal

/-- A record that is printed from a map of artifacts is read back as this map; one that lacks
contracts, or the runtime code of one of them, is refused. -/
theorem artifacts_read_back :
    (∀ map value output, TextMap.Ascending map → IsOutput map value →
      output ∈ [compact value, pretty value] → artifacts output = .ok map) ∧
    ∀ output members, Padded (IsObject members) (Utf8.ofText output.toList) → Lacking members →
      ∃ message, artifacts output = .error (.compileOutput message) := by
  constructor
  · intro map value output ascending written printed
    have source : Printed value (Utf8.ofText output.toList) := by
      rcases List.mem_pair.mp printed with rfl | rfl
      · rw [compact, String.toList_ofList]
        exact .compact
      · rw [pretty, String.toList_ofList]
        exact .pretty 0
    exact artifacts_eq_ok_iff.mpr (.bare (written.shape ascending source))
  · intro output members document lacking
    refine artifacts_eq_error fun found read => ?_
    obtain ⟨value, object, shaped⟩ := document.both (artifacts_eq_ok_iff.mp read)
      (fun _ => IsObject.value) fun _ shaped => exact_read.value shaped
    exact not_lacking object shaped lacking

def gemArtifacts : Artifacts :=
  [("a\"b.sol:T", "60"), ("💎.sol:U", "")]

def gemOutput : Json :=
  .object
    [("version", .string "0.8"),
      ("contracts", .object
        [("💎.sol:U", .object [("bin-runtime", .string ""), ("bin", .null)]),
          ("a\"b.sol:T", .object
            [("abi", .array [.bool true, .object []]), ("bin-runtime", .string "60")])]),
      ("version", .object [])]

def bareOutput : Json :=
  .object [("contracts", .object [("a.sol:T", .object [])])]

theorem artifacts_read_back_gem :
    TextMap.Ascending gemArtifacts ∧ IsOutput gemArtifacts gemOutput ∧
      artifacts (compact gemOutput) = .ok gemArtifacts ∧
      artifacts (pretty gemOutput) = .ok gemArtifacts ∧
      ∃ members, Padded (IsObject members) (Utf8.ofText (compact bareOutput).toList) ∧
        Lacking members ∧ ∃ message, artifacts (compact bareOutput) =
          .error (.compileOutput message) := by
  -- Two contracts that come in reverse order among other members, and one without its code.
  have ascending : TextMap.Ascending gemArtifacts := by
    simp only [TextMap.Ascending, gemArtifacts, TextMap.keys]
    decide
  have written : IsOutput gemArtifacts gemOutput := by
    refine ⟨_, _, [("💎.sol:U", ""), ("a\"b.sol:T", "60")], rfl, rfl, .swap _ _ _, ?_⟩
    exact .cons ⟨rfl, _, rfl, rfl⟩ (.cons ⟨rfl, _, rfl, rfl⟩ .nil)
  have printed : Printed bareOutput (Utf8.ofText (compact bareOutput).toList) := by
    rw [compact, String.toList_ofList]
    exact .compact
  obtain ⟨write, writes, object⟩ := printed.isObject
  obtain ⟨write', writes', entries⟩ := (writes (.object [("a.sol:T", .object [])])).isObject
  obtain ⟨_, -, fields⟩ := (writes' (.object [])).isObject
  have document : Padded (IsObject _) (Utf8.ofText (compact bareOutput).toList) := .bare object
  have lacking : Lacking [("contracts", write (.object [("a.sol:T", .object [])]))] :=
    .inr ⟨_, _, _, _, _, List.mem_cons_self, entries, List.mem_cons_self, fields, by simp⟩
  exact ⟨ascending, written,
    artifacts_read_back.1 gemArtifacts gemOutput _ ascending written List.mem_cons_self,
    artifacts_read_back.1 gemArtifacts gemOutput _ ascending written
      (List.mem_cons_of_mem _ List.mem_cons_self),
    _, document, lacking, artifacts_read_back.2 _ _ document lacking⟩

end DeployCheck.CombinedOutput
