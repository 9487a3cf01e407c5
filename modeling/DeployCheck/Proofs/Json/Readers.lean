import DeployCheck.Proofs.Json.Members
import DeployCheck.Proofs.Outcome
namespace DeployCheck.Json

open Text Utf8

variable {α : Type} {source rest front gap pad value : Source} {a : α} {text : String}
  {reader : Source → Reading α} {shape : Source → α → Prop} {wanted : α → Prop}

structure Exact (reader : Source → Reading α) (shape : Source → α → Prop) (wanted : α → Prop) :
    Prop where
  value : ∀ ⦃value a⦄, shape value a → Value value
  complete : ∀ ⦃value a front rest⦄, shape value a → Blanks front → Ends rest →
    reader (front ++ (value ++ rest)) = .ok (a, rest)
  sound : ∀ ⦃source a rest⦄, reader source = .ok (a, rest) → wanted a →
    ∃ front value, Blanks front ∧ shape value a ∧ source = front ++ (value ++ rest)

theorem blanks_of_skipBlanks (skipped : skipBlanks source = []) : Blanks source := by
  obtain ⟨front, blanks, rfl⟩ := exists_blanks_of_skipBlanks skipped
  rwa [List.append_nil]

theorem Exact.finish_of_padded (exact : Exact reader shape wanted)
    (document : Padded (shape · a) source) : finish (reader source) = .ok a := by
  obtain ⟨front, value, back, blanks, shaped, blanksBack, rfl⟩ := document
  rw [exact.complete shaped blanks (.of_blanks blanksBack), finish,
    if_pos (skipBlanks_of_blanks blanksBack)]

theorem Exact.finish_iff (exact : Exact reader shape wanted) (fine : wanted a) :
    finish (reader source) = .ok a ↔ Padded (shape · a) source := by
  refine ⟨fun finished => ?_, exact.finish_of_padded⟩
  unfold finish at finished
  split at finished
  · cases finished
  · rename_i b rest read
    split at finished
    · rename_i ended
      obtain rfl := Except.ok.inj finished
      obtain ⟨front, value, blanks, shaped, rfl⟩ := exact.sound read fine
      exact ⟨front, value, rest, blanks, shaped, blanks_of_skipBlanks ended, rfl⟩
    · cases finished

theorem Exact.into {β : Type} {wantedThen : β → Prop} (exact : Exact reader shape wanted)
    (f : α → β) (fine : ∀ a, wantedThen (f a) → wanted a) :
    Exact (fun source => (reader source).map fun (a, rest) => (f a, rest))
      (fun value b => ∃ a, shape value a ∧ b = f a) wantedThen where
  value := by
    rintro value _ ⟨a, shaped, -⟩
    exact exact.value shaped
  complete := by
    rintro value _ front rest ⟨a, shaped, rfl⟩ blanks ends
    exact map_eq_ok.mpr ⟨(a, rest), exact.complete shaped blanks ends, rfl⟩
  sound := by
    intro source b rest read wantedB
    obtain ⟨⟨a, later⟩, given, same⟩ := map_eq_ok.mp read
    obtain ⟨rfl, rfl⟩ := Prod.mk.inj same
    obtain ⟨front, value, blanks, shaped, split⟩ := exact.sound given (fine a wantedB)
    exact ⟨front, value, blanks, ⟨a, shaped, rfl⟩, split⟩

/-! ## Texts and what may be null -/

theorem exact_text : Exact readText (fun value text => Literal text value) fun _ => True where
  value _ _ literal := literal.value
  complete := by
    rintro value text front rest ⟨inner, spells, rfl⟩ blanks ends
    have read : readString (inner ++ some '"' :: rest) = .ok (text, rest) :=
      readString_iff.mpr ⟨inner, spells, rfl⟩
    rw [quotes, List.cons_append, List.append_assoc, List.singleton_append, readText,
      skipBlanks_append_cons blanks (by decide)]
    exact read
  sound := by
    intro source text rest read _
    unfold readText at read
    split at read
    · cases read
    · rename_i quote
      obtain ⟨front, blanks, rfl⟩ := exists_blanks_of_skipBlanks quote
      obtain ⟨inner, spells, rfl⟩ := readString_iff.mp read
      exact ⟨front, quotes inner, blanks, ⟨inner, spells, rfl⟩, by simp [quotes]⟩
    · cases read

theorem Value.eq_append_of_skipBlanks (shaped : Value value) (blanks : Blanks front)
    (split : skipBlanks source = front ++ (value ++ rest)) : skipBlanks source = value ++ rest := by
  rw [← skipBlanks_skipBlanks, split, shaped.skipBlanks_append blanks]

inductive OptionShape (shape : Source → α → Prop) (value : Source) : Option α → Prop
  | null : value = Utf8.ofText "null".toList → OptionShape shape value none
  | some {a : α} : shape value a → value.head? ≠ some (some 'n') → OptionShape shape value (some a)

theorem Exact.option (exact : Exact reader shape wanted) :
    Exact (readOption reader) (OptionShape shape) fun found => ∀ a ∈ found, wanted a where
  value := by
    rintro value _ (rfl | ⟨shaped, -⟩)
    · exact .word List.mem_cons_self
    · exact exact.value shaped
  complete := by
    rintro value _ front rest (rfl | ⟨shaped, apart⟩) blanks ends
    · have word := readWord_append "ull".toList rest
      have start : skipBlanks (front ++ (Utf8.ofText "null".toList ++ rest)) =
          some 'n' :: (Utf8.ofText "ull".toList ++ rest) :=
        skipBlanks_append_cons blanks (by decide)
      simp only [readOption, start, word]
      rfl
    · have start : skipBlanks (front ++ (_ ++ rest)) = _ ++ rest :=
        (exact.value shaped).skipBlanks_append blanks
      have read := exact.complete shaped blanks_nil ends
      obtain ⟨c, more, rfl, -⟩ := (exact.value shaped).start
      simp only [readOption, start]
      split
      · contradiction
      · rename_i null
        exact absurd (congrArg List.head? null) apart
      · rw [List.nil_append] at read
        rw [read]
        rfl
  sound := by
    intro source found rest read fine
    unfold readOption at read
    split at read
    · cases read
    · rename_i more null
      obtain ⟨front, blanks, rfl⟩ := exists_blanks_of_skipBlanks null
      obtain ⟨behind, word, same⟩ := map_eq_ok.mp read
      obtain ⟨rfl, rfl⟩ := Prod.mk.inj same
      obtain rfl := readWord_eq_ok word
      exact ⟨front, _, blanks, .null rfl, rfl⟩
    · rename_i filled apart
      obtain ⟨⟨a, behind⟩, given, same⟩ := map_eq_ok.mp read
      obtain ⟨rfl, rfl⟩ := Prod.mk.inj same
      obtain ⟨pad, value, blanksPad, shaped, split⟩ := exact.sound given (fine a rfl)
      have start := (exact.value shaped).eq_append_of_skipBlanks blanksPad split
      obtain ⟨front, blanks, whole⟩ := exists_blanks_of_skipBlanks start
      refine ⟨front, value, blanks, .some shaped fun null => ?_, whole⟩
      obtain ⟨more, rfl⟩ := List.head?_eq_some_iff.mp null
      exact apart _ start

/-! ## Maps -/

def MapShape (shape : Source → α → Prop) (value : Source) (map : TextMap α) : Prop :=
  ∃ members pairs, IsObject members value ∧
    List.Forall₂ (fun member pair => member.1 = pair.1 ∧ shape member.2 pair.2) members pairs ∧
    map = TextMap.ofList pairs

def MapStep (shape : Source → α → Prop) (before : TextMap α) (member : String × Source)
    (after : TextMap α) : Prop :=
  ∃ a, shape member.2 a ∧ after = before.insert member.1 a

theorem run_mapStep_iff {members : List (String × Source)} {before after : TextMap α} :
    Run (MapStep shape) before members after ↔ ∃ pairs,
      List.Forall₂ (fun member pair => member.1 = pair.1 ∧ shape member.2 pair.2) members pairs ∧
      after = pairs.foldl (fun map (key, value) => map.insert key value) before := by
  constructor
  · intro run
    induction run with
    | nil => exact ⟨[], .nil, rfl⟩
    | @cons _ _ _ member _ step _ ih =>
        obtain ⟨a, shaped, rfl⟩ := step
        obtain ⟨pairs, all, rfl⟩ := ih
        exact ⟨(member.1, a) :: pairs, .cons ⟨rfl, shaped⟩ all, rfl⟩
  · rintro ⟨pairs, all, rfl⟩
    induction all generalizing before with
    | nil => exact .nil
    | @cons member pair _ _ first _ ih =>
        exact .cons ⟨pair.2, first.2, by rw [first.1]⟩ ih

theorem Run.imp {σ : Type} {step other : σ → String × Source → σ → Prop} {before after : σ}
    {members : List (String × Source)} (run : Run step before members after)
    (carries : ∀ before after, ∀ member ∈ members, step before member after →
      other before member after) : Run other before members after := by
  induction run with
  | nil => exact .nil
  | cons first _ ih =>
      exact .cons (carries _ _ _ List.mem_cons_self first)
        (ih fun before after member inside =>
          carries before after member (List.mem_cons_of_mem _ inside))

theorem MapShape.exists_of_mem {map : TextMap α} {entries : List (String × Source)}
    {entry : String × Source} (shaped : MapShape shape value map) (object : IsObject entries value)
    (member : entry ∈ entries) : ∃ a, shape entry.2 a := by
  obtain ⟨_, pairs, same, all, -⟩ := shaped
  obtain rfl := object.unique same
  clear object same
  induction all with
  | nil => cases member
  | @cons _ pair _ _ first _ ih =>
      rcases List.mem_cons.mp member with rfl | later
      · exact ⟨pair.2, first.2⟩
      · exact ih later

def readEntry (reader : Source → Reading α) (map : TextMap α) (key : String) (source : Source) :
    Reading (TextMap α) :=
  match passColon source with
  | .error fault => .error fault
  | .ok source => (reader source).map fun (value, rest) => (map.insert key value, rest)

theorem Exact.takes_entry (exact : Exact reader shape wanted) {before after : TextMap α}
    {member : String × Source} (step : MapStep shape before member after) :
    Takes (readEntry reader) before member after := by
  intro gap pad rest blanks blanksPad ends
  obtain ⟨a, shaped, rfl⟩ := step
  simp only [readEntry, passColon_append blanks, exact.complete shaped blanksPad ends]
  rfl

theorem Exact.follows_entry (exact : Exact reader shape fun _ => True) :
    Follows (readEntry reader) (MapStep shape) fun _ => True := by
  intro before name source after rest read _
  unfold readEntry at read
  split at read
  · cases read
  · rename_i behind colon
    obtain ⟨gap, blanks, rfl⟩ := passColon_eq_ok colon
    obtain ⟨⟨a, later⟩, given, same⟩ := map_eq_ok.mp read
    obtain ⟨rfl, rfl⟩ := Prod.mk.inj same
    obtain ⟨pad, value, blanksPad, shaped, rfl⟩ := exact.sound given trivial
    exact ⟨trivial, gap, pad, value, blanks, blanksPad, exact.value shaped, ⟨a, shaped, rfl⟩, rfl⟩

theorem Exact.map (exact : Exact reader shape fun _ => True) :
    Exact (readMap reader) (MapShape shape) fun _ => True where
  value := by
    rintro value map ⟨members, pairs, object, -⟩
    exact object.value
  complete := by
    rintro value map front rest ⟨members, pairs, ⟨inner, listed, values, rfl⟩, all, rfl⟩ blanks ends
    have run : Run (Takes (readEntry reader)) [] members (TextMap.ofList pairs) :=
      (run_mapStep_iff.mpr ⟨pairs, all, rfl⟩).imp fun _ _ _ _ => exact.takes_entry
    rw [List.cons_append, List.append_assoc, List.singleton_append, readMap,
      skipBlanks_append_cons blanks (by decide)]
    exact readMembers_append listed run (Nat.lt_succ_self _)
  sound := by
    intro source map rest read _
    unfold readMap at read
    split at read
    · cases read
    · rename_i more brace
      obtain ⟨front, blanks, rfl⟩ := exists_blanks_of_skipBlanks brace
      obtain ⟨-, members, inner, listed, values, run, rfl⟩ :=
        readMembers_eq_ok exact.follows_entry read trivial
      obtain ⟨pairs, all, rfl⟩ := run_mapStep_iff.mp run
      exact ⟨front, _, blanks, ⟨members, pairs, ⟨inner, listed, values, rfl⟩, all, rfl⟩, by simp⟩
    · cases read

end DeployCheck.Json
