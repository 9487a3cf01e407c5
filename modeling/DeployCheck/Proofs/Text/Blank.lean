import DeployCheck.Text.Blank
namespace DeployCheck.Text

variable {spaced text : List Char}

/-- The first text is the second one with blanks put in at any places. -/
inductive Spaced : List Char → List Char → Prop
  | nil : Spaced [] []
  | keep (c : Char) {spaced text : List Char} :
    Spaced spaced text → Spaced (c :: spaced) (c :: text)
  | blank {c : Char} {spaced text : List Char} :
    isBlank c = true → Spaced spaced text → Spaced (c :: spaced) text

theorem Spaced.dropBlanks_eq (differ : Spaced spaced text) :
    dropBlanks spaced = dropBlanks text := by
  induction differ with
  | nil => rfl
  | keep c _ ih => rw [dropBlanks, dropBlanks, List.filter_cons, List.filter_cons, ← dropBlanks,
      ← dropBlanks, ih]
  | blank isBlank _ ih => rwa [dropBlanks, List.filter_cons_of_neg (by simpa using isBlank)]

theorem dropBlanks_of_solid (solid : ∀ c ∈ text, isBlank c = false) : dropBlanks text = text :=
  List.filter_eq_self.mpr fun c inside => by rw [solid c inside, Bool.not_false]

/-! ## Trimmed lines -/

theorem exists_solid_of_trim (full : trim text ≠ []) : ∃ c ∈ trim text, isBlank c = false := by
  rw [trim, trimBack] at *
  have kept : (trimFront text).reverse.dropWhile isBlank ≠ [] := by simpa using full
  exact ⟨_, List.mem_reverse.mpr (List.head_mem kept), List.head_dropWhile_not isBlank kept⟩

theorem exists_solid_of_mem_trimmedLines {line : List Char} (member : line ∈ trimmedLines text) :
    ∃ c ∈ line, isBlank c = false := by
  obtain ⟨inside, full⟩ := List.mem_filter.mp member
  obtain ⟨raw, -, rfl⟩ := List.mem_map.mp inside
  exact exists_solid_of_trim (by simpa using full)

end DeployCheck.Text
