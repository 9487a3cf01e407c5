import DeployCheck.Compiler.Store
import DeployCheck.Proofs.Path
namespace DeployCheck.CompilerStore

open Text

variable {store : CompilerStore} {label other : String} {compiler : Compiler} {host after : Host}

/-! ## Labels -/

theorem load_of_refused {fault : VerificationError} (refused : checkLabel label = .error fault) :
    store.load label host = (.error fault, host) := by
  simp only [load, refused]

theorem checkLabel_of_load (loaded : store.load label host = (.ok compiler, after)) :
    checkLabel label = .ok () := by
  cases accepted : checkLabel label with
  | ok => rfl
  | error fault =>
      rw [load_of_refused accepted] at loaded
      cases loaded

theorem accepted_iff : checkLabel label = .ok () ↔
    (∀ c ∈ label.toList, isLabelChar c = true) ∧ ∃ version, Version.ofLabel label = .ok version := by
  rw [checkLabel]
  cases carried : Version.ofLabel label with
  | error fault => split <;> simp
  | ok version =>
      have something : label.toList ≠ [] := by
        intro empty
        rw [Version.ofLabel, empty] at carried
        cases carried
      simp [something, ← List.all_eq_true]

theorem checkLabel_eq_ok (accepted : checkLabel label = .ok ()) :
    ∀ c ∈ label.toList, isLabelChar c = true :=
  (accepted_iff.mp accepted).1

theorem checkLabel_eq_error {fault : VerificationError}
    (refused : checkLabel label = .error fault) :
    ∃ reason, fault = .compilerLoad label reason := by
  rw [checkLabel] at refused
  split at refused
  · exact ⟨_, (Except.error.inj refused).symm⟩
  · split at refused
    · cases refused
    · exact ⟨_, (Except.error.inj refused).symm⟩

theorem slash_not_mem (accepted : checkLabel label = .ok ()) : '/' ∉ label.toList :=
  fun member => absurd (checkLabel_eq_ok accepted '/' member) (by decide)

/-! ## Names -/

def programName (label : String) : String :=
  "solc-" ++ label

def partialName (label : String) : String :=
  programName label ++ ".partial"

theorem isName_append {back : String} (clean : '/' ∉ back.toList) :
    Path.IsName ("solc-" ++ back) := by
  have chars : ("solc-" ++ back).toList = 's' :: 'o' :: 'l' :: 'c' :: '-' :: back.toList := by
    rw [String.toList_append]
    rfl
  have differs (short : String) (few : short.toList.length < 5) : "solc-" ++ back ≠ short := by
    rintro rfl
    rw [chars] at few
    simp only [List.length_cons] at few
    omega
  exact ⟨⟨differs "" (by decide), by rw [chars]; simpa using clean⟩, differs "." (by decide),
    differs ".." (by decide)⟩

theorem isName_programName (accepted : checkLabel label = .ok ()) :
    Path.IsName (programName label) :=
  isName_append (slash_not_mem accepted)

theorem isName_partialName (accepted : checkLabel label = .ok ()) :
    Path.IsName (partialName label) := by
  rw [partialName, programName, String.append_assoc]
  refine isName_append fun member => ?_
  rw [String.toList_append] at member
  rcases List.mem_append.mp member with inside | suffix
  · exact slash_not_mem accepted inside
  · exact absurd suffix (by decide)

theorem partialPath_eq (store : CompilerStore) (label : String) :
    store.partialPath label = Path.join store.directory (partialName label) := by
  have relative (back : String) : Path.isAbsolute ("solc-" ++ back) = false := by
    rw [Path.isAbsolute, String.toList_append]
    rfl
  have left := relative label
  have right := relative (label ++ ".partial")
  rw [← String.append_assoc] at right
  simp only [partialPath, programPath, partialName, programName, Path.join, left, right,
    Bool.false_eq_true, if_false]
  split <;> simp only [String.append_assoc]

theorem programName_ne_partialName (label : String) : programName label ≠ partialName label := by
  intro same
  have lengths := congrArg (fun text => text.toList.length) same
  simp [partialName] at lengths

theorem programName_ne (differs : other ≠ label) : programName label ≠ programName other := by
  intro same
  exact differs (String.append_right_inj "solc-" |>.mp same).symm

theorem programName_ne_partialName_of (apart : other ++ ".partial" ≠ label) :
    programName label ≠ partialName other := by
  rw [partialName, programName, programName, String.append_assoc]
  intro same
  exact apart (String.append_right_inj "solc-" |>.mp same).symm

end DeployCheck.CompilerStore
