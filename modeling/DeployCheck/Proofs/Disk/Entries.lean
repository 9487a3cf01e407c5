import DeployCheck.Disk.Basic
import DeployCheck.Proofs.Lookup
namespace DeployCheck.Disk

variable {disk : Disk} {location other dir : Location} {entry found : Entry}

@[simp] theorem entry?_root : disk.entry? [] = some .directory :=
  rfl

theorem entry?_of_ne_nil (below : location ≠ []) :
    disk.entry? location = List.lookup location disk.entries :=
  if_neg below

theorem entry?_put_self (below : location ≠ []) :
    entry? (disk.put location entry) location = some entry := by
  rw [entry?_of_ne_nil below, put, List.lookup_cons_self]

theorem entry?_put_ne (differs : other ≠ location) :
    entry? (disk.put location entry) other = disk.entry? other := by
  by_cases top : other = []
  · rw [top]
    rfl
  · rw [entry?_of_ne_nil top, entry?_of_ne_nil top]
    change List.lookup other ((location, entry) :: disk.entries.filter (·.1 ≠ location)) = _
    rw [lookup_cons_filter_ne, if_neg differs]

theorem entry?_remove_below (below : location <+: other) (inner : other ≠ []) :
    entry? (disk.remove location) other = none := by
  rw [entry?_of_ne_nil inner]
  change List.lookup other (disk.entries.filter fun pair => !location.isPrefixOf pair.1) = none
  rw [lookup_filter_key (fun other => !location.isPrefixOf other), if_neg]
  simpa using below

theorem entry?_remove_beside (beside : ¬ location <+: other) :
    entry? (disk.remove location) other = disk.entry? other := by
  by_cases top : other = []
  · rw [top]
    rfl
  · rw [entry?_of_ne_nil top, entry?_of_ne_nil top]
    change List.lookup other (disk.entries.filter fun pair => !location.isPrefixOf pair.1) = _
    rw [lookup_filter_key (fun other => !location.isPrefixOf other), if_pos]
    cases leads : location.isPrefixOf other with
    | true => exact absurd (by simpa using leads) beside
    | false => rfl

theorem entry?_of_remove (stands : entry? (disk.remove location) other = some entry) :
    disk.entry? other = some entry := by
  by_cases top : other = []
  · rw [top] at stands ⊢
    exact stands
  · by_cases below : location <+: other
    · rw [entry?_remove_below below top] at stands
      cases stands
    · rwa [entry?_remove_beside below] at stands

theorem mem_put {pair : Location × Entry} (member : pair ∈ (disk.put location entry).entries) :
    pair = (location, entry) ∨ (pair ∈ disk.entries ∧ pair.1 ≠ location) := by
  rcases List.mem_cons.mp member with same | older
  · exact Or.inl same
  · obtain ⟨inside, differs⟩ := List.mem_filter.mp older
    exact Or.inr ⟨inside, by simpa using differs⟩

theorem mem_entries_of_entry? (inner : location ≠ []) (found : disk.entry? location = some entry) :
    (location, entry) ∈ disk.entries := by
  rw [entry?_of_ne_nil inner] at found
  exact mem_of_lookup found

/-! ## Files below a directory -/

theorem mem_filesBelow {payload : Payload} :
    (other, payload) ∈ disk.filesBelow dir ↔
      ∃ mode, (dir ++ other, Entry.file payload mode) ∈ disk.entries := by
  rw [filesBelow, List.mem_filterMap]
  constructor
  · rintro ⟨⟨place, stands⟩, member, chosen⟩
    cases stands with
    | directory | link => simp at chosen
    | file content mode =>
        simp only [Option.ite_none_right_eq_some, Option.some.injEq, Prod.mk.injEq] at chosen
        obtain ⟨inside, rfl, rfl⟩ := chosen
        obtain ⟨rest, rfl⟩ : dir <+: place := by simpa using inside
        exact ⟨mode, by simpa using member⟩
  · rintro ⟨mode, member⟩
    exact ⟨_, member, by simp⟩

end DeployCheck.Disk
