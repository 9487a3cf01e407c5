import DeployCheck.Text.Ascii
namespace DeployCheck.Text

variable {affix text rest : List Char}

theorem dropFront?_eq_some : dropFront? affix text = some rest ↔ text = affix ++ rest := by
  induction affix generalizing text with
  | nil => simp [dropFront?]
  | cons p affix ih =>
    cases text with
    | nil => simp [dropFront?]
    | cons c text =>
      rw [dropFront?]
      split
      next same => simp [ih, same]
      next other => simp [Ne.symm other]

theorem dropBack?_eq_some : dropBack? affix text = some rest ↔ text = rest ++ affix := by
  simp only [dropBack?, Option.map_eq_some_iff, dropFront?_eq_some]
  constructor
  · rintro ⟨reversed, same, rfl⟩
    rw [← List.reverse_reverse text, same, List.reverse_append, List.reverse_reverse]
  · rintro rfl
    exact ⟨rest.reverse, by simp, by simp⟩

end DeployCheck.Text
