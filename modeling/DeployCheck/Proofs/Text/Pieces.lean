import DeployCheck.Text.Pieces
namespace DeployCheck.Text

variable {separator : Char} {text front back : List Char} {parts : List (List Char)}

theorem pieces_eq_splitOn (separator : Char) (text : List Char) :
    pieces separator text = text.splitOn separator := by
  induction text with
  | nil => rfl
  | cons c rest ih =>
      rw [pieces, List.splitOn_cons_eq_if_modifyHead, ← ih]
      simp only [beq_iff_eq]
      split
      · rfl
      · cases cut : pieces separator rest with
        | nil => exact absurd cut (pieces_ne_nil separator rest)
        | cons piece more => rfl

theorem pieces_of_not_mem (absent : separator ∉ text) : pieces separator text = [text] := by
  rw [pieces_eq_splitOn, List.splitOn_eq_singleton absent]

theorem pieces_append (separator : Char) (front back : List Char) :
    pieces separator (front ++ separator :: back) =
      pieces separator front ++ pieces separator back := by
  simp only [pieces_eq_splitOn, List.splitOn_append_cons_self]

theorem not_mem_of_mem_pieces {piece : List Char} (member : piece ∈ pieces separator text) :
    separator ∉ piece := by
  induction text generalizing piece with
  | nil =>
      rw [List.mem_singleton.mp member]
      exact List.not_mem_nil
  | cons c rest ih =>
      rw [pieces] at member
      split at member
      · rcases List.mem_cons.mp member with rfl | later
        · exact List.not_mem_nil
        · exact ih later
      · rename_i differs
        cases cut : pieces separator rest with
        | nil => exact absurd cut (pieces_ne_nil separator rest)
        | cons head more =>
            rw [cut] at member ih
            rcases List.mem_cons.mp member with rfl | later
            · intro inside
              rcases List.mem_cons.mp inside with same | deeper
              · exact differs same.symm
              · exact ih List.mem_cons_self deeper
            · exact ih (List.mem_cons_of_mem head later)

end DeployCheck.Text
