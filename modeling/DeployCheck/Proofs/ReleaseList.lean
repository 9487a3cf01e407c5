import DeployCheck.Policy
import DeployCheck.Proofs.Compiler.Names
import DeployCheck.Proofs.Text.Affixes
import DeployCheck.Proofs.Version
import DeployCheck.ReleaseList
/-!
An entry of the published list and the label made of it. What is taken off carries no part of a
release number and only characters that a label may have, so both are accepted or neither is, and
they name the same version.
-/
namespace DeployCheck.ReleaseList

open Text

variable {front : String} {entry text : List Char}

theorem plain_of_mem_decorations (listed : front ∈ decorations) :
    ∀ c ∈ front.toList, (c ≠ 'v' ∧ c ≠ 'V') ∧ isLabelChar c = true := by
  -- A decoration has no `v`, so no release number starts in it.
  have all : (decorations.all fun front => front.toList.all fun c =>
      decide (c ≠ 'v' ∧ c ≠ 'V') && isLabelChar c) = true := by decide
  have each := List.all_eq_true.mp all front listed
  exact fun c inside => by simpa using List.all_eq_true.mp each c inside

/-- The label of an entry stands between a decoration and `.js`. Either may be missing, but neither is
left once the label is read. -/
def Shows (entry listed : List Char) : Prop :=
  ∃ front back, entry = front ++ listed ++ back ∧
    ((∃ decoration ∈ decorations, front = decoration.toList) ∨
      front = [] ∧ ∀ decoration ∈ decorations, ¬ decoration.toList <+: entry) ∧
    (back = ".js".toList ∨ back = [] ∧ ¬ ".js".toList <:+ listed)

theorem shows_label (entry : List Char) : Shows entry (label entry) := by
  obtain ⟨front, bare, split, decorated, same⟩ : ∃ front bare, entry = front ++ bare ∧
      ((∃ decoration ∈ decorations, front = decoration.toList) ∨
        front = [] ∧ ∀ decoration ∈ decorations, ¬ decoration.toList <+: entry) ∧
      (decorations.findSome? fun front => dropFront? front.toList entry).getD entry = bare := by
    cases found : decorations.findSome? fun front => dropFront? front.toList entry with
    | none =>
      refine ⟨[], entry, rfl, .inr ⟨rfl, fun decoration member starts => ?_⟩, rfl⟩
      obtain ⟨rest, joined⟩ := starts
      have dropped := List.findSome?_eq_none_iff.mp found decoration member
      rw [dropFront?_eq_some.mpr joined.symm] at dropped
      cases dropped
    | some bare =>
      obtain ⟨decoration, member, dropped⟩ := List.exists_of_findSome?_eq_some found
      exact ⟨decoration.toList, bare, dropFront?_eq_some.mp dropped,
        .inl ⟨decoration, member, rfl⟩, rfl⟩
  rw [label, same]
  cases found : dropBack? ".js".toList bare with
  | none =>
    refine ⟨front, [], by simpa using split, decorated, .inr ⟨rfl, fun ends => ?_⟩⟩
    obtain ⟨stem, joined⟩ := ends
    have dropped := dropBack?_eq_some.mpr joined.symm
    rw [Option.getD_none, found] at dropped
    cases dropped
  | some stem =>
    refine ⟨front, ".js".toList, ?_, decorated, .inl rfl⟩
    rw [split, dropBack?_eq_some.mp found, Option.getD_some, List.append_assoc]

theorem leftmostNumbers?_label (entry : List Char) :
    Version.leftmostNumbers? (label entry) = Version.leftmostNumbers? entry := by
  obtain ⟨front, back, split, decorated, suffix⟩ := shows_label entry
  have plain : ∀ c ∈ front, c ≠ 'v' ∧ c ≠ 'V' := by
    rcases decorated with ⟨decoration, member, rfl⟩ | ⟨rfl, -⟩
    · exact fun c inside => (plain_of_mem_decorations member c inside).1
    · simp
  rw [split, List.append_assoc, Version.leftmostNumbers?_of_front plain, ← List.append_assoc,
    ← split]
  rcases suffix with rfl | ⟨rfl, -⟩
  · exact (Version.leftmostNumbers?_append (by decide) (by decide)).symm
  · rw [List.append_nil]

theorem all_isLabelChar_label (entry : List Char) :
    (∀ c ∈ label entry, isLabelChar c = true) ↔ ∀ c ∈ entry, isLabelChar c = true := by
  obtain ⟨front, back, split, decorated, suffix⟩ := shows_label entry
  have proper_front : ∀ c ∈ front, isLabelChar c = true := by
    rcases decorated with ⟨decoration, member, rfl⟩ | ⟨rfl, -⟩
    · exact fun c inside => (plain_of_mem_decorations member c inside).2
    · simp
  have proper_back : ∀ c ∈ back, isLabelChar c = true := by
    rcases suffix with rfl | ⟨rfl, -⟩
    · have all : ".js".toList.all isLabelChar = true := by decide
      exact List.all_eq_true.mp all
    · simp
  constructor
  · intro proper c inside
    rw [split, List.mem_append, List.mem_append] at inside
    rcases inside with (inside | inside) | inside
    · exact proper_front c inside
    · exact proper c inside
    · exact proper_back c inside
  · intro proper c inside
    refine proper c ?_
    rw [split]
    simp [inside]

/-- An entry and its label carry the same version or neither carries one, a store accepts both or
neither, and every table selects the same policy for them. -/
theorem label_agrees (entry : String) (table : Policies) :
    let bare := String.ofList (label entry.toList)
    ((∃ version, Version.ofLabel entry = .ok version ∧ Version.ofLabel bare = .ok version) ∨
      Version.ofLabel entry = .error (.malformedVersion entry) ∧
        Version.ofLabel bare = .error (.malformedVersion bare)) ∧
    (checkLabel entry = .ok () ↔ checkLabel bare = .ok ()) ∧
    (Version.ofLabel entry).toOption.bind table.select =
      (Version.ofLabel bare).toOption.bind table.select := by
  intro bare
  have chars : bare.toList = label entry.toList := String.toList_ofList
  have same : Version.leftmostNumbers? entry.toList = Version.leftmostNumbers? bare.toList := by
    rw [chars, leftmostNumbers?_label]
  have proper : (∀ c ∈ entry.toList, isLabelChar c = true) ↔
      ∀ c ∈ bare.toList, isLabelChar c = true := by
    rw [chars, all_isLabelChar_label]
  have carried := Version.ofLabel_congr same
  refine ⟨carried, ?_, ?_⟩
  · rw [CompilerStore.accepted_iff, CompilerStore.accepted_iff, proper]
    rcases carried with ⟨version, first, second⟩ | ⟨first, second⟩
    · rw [first, second]
    · simp [first, second]
  · rcases carried with ⟨version, first, second⟩ | ⟨first, second⟩
    · rw [first, second]
    · simp [first, second, Except.toOption]

end DeployCheck.ReleaseList
