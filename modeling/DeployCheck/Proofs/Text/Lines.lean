import DeployCheck.Proofs.Text.Blank
import DeployCheck.Proofs.Text.Occurrences
import DeployCheck.Proofs.Text.Pieces
import Mathlib.Data.List.Forall2
import Mathlib.Data.List.TakeWhile
import Mathlib.Logic.Relation
namespace DeployCheck.Text

variable {text other line pattern blanks front back : List Char} {c : Char}

/-! ## Trimming -/

def AllBlank (text : List Char) : Prop :=
  ∀ c ∈ text, isBlank c = true

instance (text : List Char) : Decidable (AllBlank text) :=
  decidable_of_iff (text.all isBlank = true) (by simp [AllBlank])

theorem trim_append_left (blank : AllBlank front) : trim (front ++ text) = trim text := by
  rw [trim, trimFront, List.dropWhile_append_of_pos blank]
  rfl

theorem trim_append_right (blank : AllBlank back) : trim (text ++ back) = trim text := by
  have turned : ∀ c ∈ back.reverse, isBlank c = true := fun c inside =>
    blank c (List.mem_reverse.mp inside)
  simp only [trim, trimFront, List.dropWhile_append]
  split
  · rename_i emptied
    rw [List.isEmpty_iff.mp emptied, List.dropWhile_eq_nil_iff.mpr blank]
  · rw [trimBack, trimBack, List.reverse_append, List.dropWhile_append_of_pos turned]

theorem parts_of_trim (text : List Char) :
    ∃ front back, text = front ++ trim text ++ back ∧ AllBlank front ∧ AllBlank back := by
  refine ⟨text.takeWhile isBlank, ((trimFront text).reverse.takeWhile isBlank).reverse, ?_, ?_, ?_⟩
  · rw [trim, trimBack, List.append_assoc, ← List.reverse_append, List.takeWhile_append_dropWhile,
      List.reverse_reverse, trimFront, List.takeWhile_append_dropWhile]
  · exact fun c inside => List.mem_takeWhile_imp inside
  · exact fun c inside => List.mem_takeWhile_imp (List.mem_reverse.mp inside)

theorem trim_eq_nil : trim text = [] ↔ AllBlank text := by
  constructor
  · intro emptied
    obtain ⟨front, back, split, before, behind⟩ := parts_of_trim text
    rw [split, emptied, List.append_nil]
    exact fun c inside => (List.mem_append.mp inside).elim (before c) (behind c)
  · intro blank
    rw [← List.append_nil text, trim_append_left blank]
    rfl

/-! ## Cutting at a line feed -/

theorem pieces_feed_cases (text : List Char) :
    pieces '\n' text = lines text ∨ pieces '\n' text = lines text ++ [[]] := by
  induction text with
  | nil => exact .inr rfl
  | cons c rest ih =>
    rw [pieces, lines]
    split
    · simpa using ih
    · rcases ih with same | longer
      · rw [same]
        cases cut : lines rest with
        | nil => exact absurd (same.trans cut) (pieces_ne_nil '\n' rest)
        | cons line more => exact .inl rfl
      · rw [longer]
        cases lines rest with
        | nil => exact .inl rfl
        | cons line more => exact .inr rfl

theorem trimmedLines_eq (text : List Char) :
    trimmedLines text = ((pieces '\n' text).map trim).filter (· ≠ []) := by
  rw [trimmedLines]
  rcases pieces_feed_cases text with same | longer
  · rw [same]
  · rw [longer, List.map_append, List.filter_append]
    have dropped : ([[]].map trim).filter (· ≠ []) = [] := rfl
    rw [dropped, List.append_nil]

theorem trimmedLines_append_feed (front back : List Char) :
    trimmedLines (front ++ '\n' :: back) = trimmedLines front ++ trimmedLines back := by
  -- All that is said of trimmed lines follows from this equation and the next one.
  simp only [trimmedLines_eq, pieces_append, List.map_append, List.filter_append]

theorem trimmedLines_of_line (whole : '\n' ∉ line) :
    trimmedLines line = [trim line].filter (· ≠ []) := by
  rw [trimmedLines_eq, pieces_of_not_mem whole, List.map_singleton]

@[simp] theorem trimmedLines_nil : trimmedLines [] = [] :=
  rfl

theorem trimmedLines_cons_feed (text : List Char) :
    trimmedLines ('\n' :: text) = trimmedLines text := by
  simpa using trimmedLines_append_feed [] text

theorem trimmedLines_concat_feed (text : List Char) :
    trimmedLines (text ++ ['\n']) = trimmedLines text := by
  simpa using trimmedLines_append_feed text []

/-! ## The first line and the last one -/

theorem first_line (text : List Char) :
    '\n' ∉ text ∨ ∃ line rest, text = line ++ '\n' :: rest ∧ '\n' ∉ line := by
  by_cases member : '\n' ∈ text
  · exact .inr (List.eq_append_cons_of_mem member)
  · exact .inl member

theorem last_line (text : List Char) :
    '\n' ∉ text ∨ ∃ front line, text = front ++ '\n' :: line ∧ '\n' ∉ line := by
  rcases first_line text.reverse with whole | ⟨line, rest, turned, whole⟩
  · exact .inl (by simpa using whole)
  · refine .inr ⟨rest.reverse, line.reverse, ?_, by simpa using whole⟩
    rw [← List.reverse_reverse text, turned]
    simp

theorem trimmedLines_cons_blank (blank : isBlank c = true) (text : List Char) :
    trimmedLines (c :: text) = trimmedLines text := by
  by_cases feed : c = '\n'
  · rw [feed, trimmedLines_cons_feed]
  have alone (line : List Char) (whole : '\n' ∉ line) :
      trimmedLines (c :: line) = trimmedLines line := by
    have longer : '\n' ∉ c :: line := by simp [Ne.symm feed, whole]
    have kept : trim ([c] ++ line) = trim line := trim_append_left (by simpa [AllBlank] using blank)
    rw [trimmedLines_of_line whole, trimmedLines_of_line longer, ← kept, List.singleton_append]
  rcases first_line text with whole | ⟨line, rest, rfl, whole⟩
  · exact alone text whole
  · rw [← List.cons_append, trimmedLines_append_feed, trimmedLines_append_feed, alone line whole]

theorem trimmedLines_concat_blank (text : List Char) (blank : isBlank c = true) :
    trimmedLines (text ++ [c]) = trimmedLines text := by
  by_cases feed : c = '\n'
  · rw [feed, trimmedLines_concat_feed]
  have alone (line : List Char) (whole : '\n' ∉ line) :
      trimmedLines (line ++ [c]) = trimmedLines line := by
    have longer : '\n' ∉ line ++ [c] := by simp [Ne.symm feed, whole]
    have kept : trim (line ++ [c]) = trim line :=
      trim_append_right (by simpa [AllBlank] using blank)
    rw [trimmedLines_of_line whole, trimmedLines_of_line longer, kept]
  rcases last_line text with whole | ⟨front, line, rfl, whole⟩
  · exact alone text whole
  · rw [List.append_assoc, List.cons_append, trimmedLines_append_feed, trimmedLines_append_feed,
      alone line whole]

theorem trimmedLines_append_left (blank : AllBlank blanks) (text : List Char) :
    trimmedLines (blanks ++ text) = trimmedLines text := by
  induction blanks with
  | nil => rfl
  | cons c blanks ih =>
    rw [List.cons_append, trimmedLines_cons_blank (blank c List.mem_cons_self)]
    exact ih fun d inside => blank d (List.mem_cons_of_mem c inside)

theorem trimmedLines_append_right (text : List Char) (blank : AllBlank blanks) :
    trimmedLines (text ++ blanks) = trimmedLines text := by
  induction blanks generalizing text with
  | nil => rw [List.append_nil]
  | cons c blanks ih =>
    rw [List.append_cons, ih _ fun d inside => blank d (List.mem_cons_of_mem c inside),
      trimmedLines_concat_blank text (blank c List.mem_cons_self)]

/-! ## Changes of layout -/

/-- One change of a text that leaves what stands on its lines: a line feed gets a carriage return in
front, or blanks are put at the start or at the end of a line, be these line feeds themselves. -/
inductive Relaid : List Char → List Char → Prop
  | carriage (front back : List Char) :
    Relaid (front ++ '\n' :: back) (front ++ '\r' :: '\n' :: back)
  | before {front blanks : List Char} (back : List Char) :
    front = [] ∨ ['\n'] <:+ front → AllBlank blanks →
    Relaid (front ++ back) (front ++ blanks ++ back)
  | behind (front : List Char) {blanks back : List Char} :
    back = [] ∨ ['\n'] <+: back ∨ ['\r', '\n'] <+: back → AllBlank blanks →
    Relaid (front ++ back) (front ++ blanks ++ back)

theorem allBlank_return : AllBlank ['\r'] := by
  decide

theorem trimmedLines_carriage (front back : List Char) :
    trimmedLines (front ++ '\r' :: '\n' :: back) = trimmedLines (front ++ '\n' :: back) := by
  rw [List.append_cons, trimmedLines_append_feed, trimmedLines_append_feed,
    trimmedLines_append_right front allBlank_return]

theorem Relaid.trimmedLines_eq (relaid : Relaid text other) :
    trimmedLines other = trimmedLines text := by
  cases relaid with
  | carriage front back => exact trimmedLines_carriage front back
  | before back start blank =>
    rw [List.append_assoc]
    rcases start with rfl | ⟨front, rfl⟩
    · exact trimmedLines_append_left blank back
    · simp only [List.append_assoc, List.singleton_append, trimmedLines_append_feed,
        trimmedLines_append_left blank]
  | behind front stop blank =>
    rcases stop with rfl | ⟨rest, rfl⟩ | ⟨rest, rfl⟩
    · simp only [List.append_nil, trimmedLines_append_right front blank]
    · simp only [List.singleton_append, trimmedLines_append_feed,
        trimmedLines_append_right front blank]
    · simp only [List.cons_append, List.nil_append, trimmedLines_carriage,
        trimmedLines_append_feed, trimmedLines_append_right front blank]

theorem trimmedLines_of_relaid (relaid : Relation.ReflTransGen Relaid text other) :
    trimmedLines other = trimmedLines text := by
  induction relaid with
  | refl => rfl
  | tail _ last ih => rw [last.trimmedLines_eq, ih]

/-! ## Lines without their ends -/

/-- The lines of a text, without the line feed that ends a line and without one carriage return in
front of it. -/
def unendedLines : List Char → List (List Char)
  | [] => []
  | '\n' :: rest => [] :: unendedLines rest
  | '\r' :: '\n' :: rest => [] :: unendedLines rest
  | c :: rest =>
    match unendedLines rest with
    | [] => [[c]]
    | line :: more => (c :: line) :: more

theorem forall₂_unendedLines (text : List Char) :
    List.Forall₂ (fun line kept => kept = line ∨ kept = line ++ ['\r'])
      (unendedLines text) (lines text) := by
  fun_induction unendedLines text with
  | case1 => exact .nil
  | case2 rest ih => exact .cons (.inl rfl) ih
  | case3 rest ih => exact .cons (.inr rfl) ih
  | case4 c rest feed _ none ih =>
    rw [none, List.forall₂_nil_left_iff] at ih
    rw [lines, if_neg feed, ih]
    exact .cons (.inl rfl) .nil
  | case5 c rest feed _ line more some ih =>
    rw [some, List.forall₂_cons_left_iff] at ih
    obtain ⟨kept, others, same, alike, split⟩ := ih
    rw [lines, if_neg feed, split]
    refine .cons ?_ alike
    rcases same with rfl | rfl
    · exact .inl rfl
    · exact .inr rfl

theorem map_trim_unendedLines (text : List Char) :
    (unendedLines text).map trim = (lines text).map trim := by
  have alike := forall₂_unendedLines text
  generalize unendedLines text = bare, lines text = kept at alike ⊢
  induction alike with
  | nil => rfl
  | cons same _ ih =>
    rw [List.map_cons, List.map_cons, ih]
    rcases same with rfl | rfl
    · rfl
    · rw [trim_append_right allBlank_return]

/-! ## Parts of a line -/

theorem contains_iff : contains pattern text = true ↔ pattern <:+: text := by
  induction text with
  | nil => simp [contains, firstOccurrence]
  | cons c rest ih =>
    rw [List.infix_cons_iff, ← ih, contains, contains, firstOccurrence]
    split
    · rename_i here
      simpa using .inl (List.isPrefixOf_iff_prefix.mp here)
    · rename_i absent
      rw [List.isPrefixOf_iff_prefix] at absent
      simp [absent]

theorem infix_append_left (solid : ∀ c ∈ pattern, isBlank c = false) (full : pattern ≠ [])
    (blank : AllBlank blanks) : pattern <:+: blanks ++ text ↔ pattern <:+: text := by
  induction blanks with
  | nil => rfl
  | cons c blanks ih =>
    rw [List.cons_append, List.infix_cons_iff,
      ih fun d inside => blank d (List.mem_cons_of_mem c inside)]
    -- The part does not start with a blank, so it cannot start at this one.
    refine or_iff_right fun starts => ?_
    obtain ⟨first, others, rfl⟩ := List.exists_cons_of_ne_nil full
    have same : first = c := (List.cons_prefix_cons.mp starts).1
    have dark := solid first List.mem_cons_self
    rw [same, blank c List.mem_cons_self] at dark
    cases dark

theorem infix_append_right (solid : ∀ c ∈ pattern, isBlank c = false) (full : pattern ≠ [])
    (blank : AllBlank blanks) : pattern <:+: text ++ blanks ↔ pattern <:+: text := by
  have turned : AllBlank blanks.reverse := fun c inside => blank c (List.mem_reverse.mp inside)
  rw [← List.reverse_infix, List.reverse_append, infix_append_left (by simpa using solid)
    (by simpa using full) turned, List.reverse_infix]

theorem infix_trim (solid : ∀ c ∈ pattern, isBlank c = false) (full : pattern ≠ []) :
    pattern <:+: trim text ↔ pattern <:+: text := by
  obtain ⟨front, back, split, before, behind⟩ := parts_of_trim text
  conv_rhs => rw [split]
  rw [infix_append_right solid full behind, infix_append_left solid full before]

end DeployCheck.Text
