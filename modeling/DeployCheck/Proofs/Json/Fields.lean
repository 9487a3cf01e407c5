import DeployCheck.Proofs.Json.Readers
namespace DeployCheck.Json

open Text Utf8

variable {α β : Type} {source rest gap pad front inner value : Source} {a : α} {b : β}
  {field : Field α} {shape : Source → α → Prop} {wanted : α → Prop} {seen after : Option α}
  {members : List (String × Source)} {items : List Source} {name title : String}

def named (name : String) (members : List (String × Source)) : List Source :=
  (members.filter (·.1 = name)).map Prod.snd

inductive Field.Given (field : Field α) (shape : Source → α → Prop) : List Source → α → Prop
  | once {value : Source} {a : α} : shape value a → Given field shape [value] a
  | absent {a : α} : field.default = some a → Given field shape [] a

theorem mem_named : value ∈ named name members ↔ (name, value) ∈ members := by
  simp [named]

theorem named_map {γ : Type} (name : String) (members : List (String × γ)) (write : γ → Source) :
    named name (members.map fun member => (member.1, write member.2)) =
      (members.filter (·.1 = name)).map fun member => write member.2 := by
  simp [named, List.filter_map, Function.comp_def]

theorem Field.Given.exists_of_required {values : List Source} (given : field.Given shape values a)
    (required : field.default = none) : ∃ value, values = [value] ∧ shape value a := by
  cases given with
  | once shaped => exact ⟨_, rfl, shaped⟩
  | absent default => simp [required] at default

/-! ## Members that are no fields -/

section

variable {σ : Type} {state : σ}

theorem takes_skipMember (shaped : Value value) :
    Takes (fun state _ source => skipMember state source) state (name, value) state := by
  intro gap pad rest blanks blanksPad ends
  have passed := shaped.skipped blanksPad ends
    (show 2 * value.length ≤ 2 * (pad ++ (value ++ rest)).length + 2 by
      simp only [List.length_append]
      omega)
  simp only [skipMember, passColon_append blanks, passed]
  rfl

theorem skipMember_eq_ok {later : σ} (skipped : skipMember state source = .ok (later, rest)) :
    later = state ∧ ∃ gap pad value, Blanks gap ∧ Blanks pad ∧ Value value ∧
      source = gap ++ some ':' :: (pad ++ (value ++ rest)) := by
  unfold skipMember at skipped
  split at skipped
  · cases skipped
  · rename_i behind colon
    obtain ⟨gap, blanks, rfl⟩ := passColon_eq_ok colon
    obtain ⟨after, passed, same⟩ := map_eq_ok.mp skipped
    obtain ⟨rfl, rfl⟩ := Prod.mk.inj same
    obtain ⟨pad, value, blanksPad, shaped, rfl⟩ := (passesValues _).value passed
    exact ⟨rfl, gap, pad, value, blanks, blanksPad, shaped, rfl⟩

end

/-! ## Members that are fields -/

def FieldStep (field : Field α) (shape : Source → α → Prop) (seen : Option α)
    (member : String × Source) (after : Option α) : Prop :=
  if member.1 = field.name then seen = none ∧ ∃ a, shape member.2 a ∧ after = some a
  else after = seen

theorem Exact.readMember_append (exact : Exact field.read shape wanted) (shaped : shape value a)
    (blanks : Blanks gap) (blanksPad : Blanks pad) (ends : Ends rest) :
    field.readMember none (gap ++ some ':' :: (pad ++ (value ++ rest))) = .ok (some a, rest) := by
  simp only [Field.readMember, passColon_append blanks, exact.complete shaped blanksPad ends]
  rfl

theorem Exact.readMember_eq_ok (exact : Exact field.read shape wanted)
    (read : field.readMember seen source = .ok (after, rest)) (fine : ∀ a ∈ after, wanted a) :
    seen = none ∧ ∃ gap pad value a, Blanks gap ∧ Blanks pad ∧ shape value a ∧ after = some a ∧
      source = gap ++ some ':' :: (pad ++ (value ++ rest)) := by
  unfold Field.readMember at read
  split at read
  · cases read
  · split at read
    · cases read
    · rename_i behind colon
      obtain ⟨gap, blanks, rfl⟩ := passColon_eq_ok colon
      obtain ⟨⟨a, later⟩, given, same⟩ := map_eq_ok.mp read
      obtain ⟨rfl, rfl⟩ := Prod.mk.inj same
      obtain ⟨pad, value, blanksPad, shaped, rfl⟩ := exact.sound given (fine a rfl)
      exact ⟨rfl, gap, pad, value, a, blanks, blanksPad, shaped, rfl, rfl⟩

theorem run_fieldStep_iff : Run (FieldStep field shape) seen members after ↔
    named field.name members = [] ∧ after = seen ∨
      ∃ value a, named field.name members = [value] ∧ shape value a ∧ seen = none ∧
        after = some a := by
  constructor
  · intro run
    induction run with
    | nil => exact .inl ⟨rfl, rfl⟩
    | @cons before between after member others step run ih =>
        rw [FieldStep] at step
        split at step
        · rename_i same
          obtain ⟨rfl, a, shaped, rfl⟩ := step
          rcases ih with ⟨none, rfl⟩ | ⟨_, _, -, -, started, -⟩
          · exact .inr ⟨member.2, a, by simpa [named, same] using none, shaped, rfl, rfl⟩
          · cases started
        · rename_i differs
          subst step
          have others : named field.name (member :: others) = named field.name others := by
            simp [named, differs]
          rw [others]
          exact ih
  · intro given
    induction members generalizing seen with
    | nil =>
        rcases given with ⟨-, rfl⟩ | ⟨value, a, none, -⟩
        · exact .nil
        · cases none
    | cons member others ih =>
        by_cases same : member.1 = field.name
        · rcases given with ⟨none, -⟩ | ⟨value, a, once, shaped, rfl, rfl⟩
          · simp [named, same] at none
          · have only : member.2 = value ∧ named field.name others = [] := by
              simpa [named, same] using once
            have step : FieldStep field shape none member (some a) :=
              (if_pos same).mpr ⟨rfl, a, only.1 ▸ shaped, rfl⟩
            exact .cons step (ih (.inl ⟨only.2, rfl⟩))
        · have rest : named field.name (member :: others) = named field.name others := by
            simp [named, same]
          rw [rest] at given
          have step : FieldStep field shape seen member seen := (if_neg same).mpr rfl
          exact .cons step (ih given)

theorem settle_iff : (∃ seen, Run (FieldStep field shape) none members seen ∧
    field.settle seen = .ok a) ↔ field.Given shape (named field.name members) a := by
  constructor
  · rintro ⟨seen, run, settled⟩
    rcases run_fieldStep_iff.mp run with ⟨none, rfl⟩ | ⟨value, b, once, shaped, -, rfl⟩
    · rw [none]
      cases given : field.default with
      | none => simp [Field.settle, given] at settled
      | some b =>
          simp only [Field.settle, given, Except.ok.injEq] at settled
          exact .absent (settled ▸ given)
    · rw [once]
      obtain rfl := Except.ok.inj settled
      exact .once shaped
  · intro given
    generalize listed : named field.name members = values at given
    cases given with
    | @once value _ shaped =>
        exact ⟨some a, run_fieldStep_iff.mpr (.inr ⟨value, a, listed, shaped, rfl, rfl⟩), rfl⟩
    | absent default =>
        refine ⟨none, run_fieldStep_iff.mpr (.inl ⟨listed, rfl⟩), ?_⟩
        simp [Field.settle, default]

/-! ## Items that are fields -/

def Items (first : Bool) (items : List Source) (source : Source) : Prop :=
  if first then Listed Item items source else Tail Item items source

theorem nextItem_close {first : Bool} (blanks : Blanks gap) :
    nextItem first (gap ++ some ']' :: rest) = .ok none := by
  rw [nextItem, skipBlanks_append_cons blanks (by decide)]
  rfl

theorem nextItem_first (shaped : Value value) (blanks : Blanks front) :
    nextItem true (front ++ (value ++ rest)) = .ok (some (value ++ rest)) := by
  rw [nextItem, shaped.skipBlanks_append blanks]
  obtain ⟨c, more, rfl, -, apart⟩ := shaped.start
  split
  · contradiction
  · rename_i closing
    obtain rfl := Option.some.inj (List.cons.inj closing).1
    exact absurd List.mem_cons_self apart
  · rename_i start
    rw [if_pos rfl, start]

theorem nextItem_next (shaped : Value value) (blanks : Blanks gap) (blanksFront : Blanks front) :
    nextItem false (gap ++ some ',' :: (front ++ (value ++ rest))) =
      .ok (some (value ++ rest)) := by
  have comma : skipBlanks (gap ++ some ',' :: (front ++ (value ++ rest))) =
      some ',' :: (front ++ (value ++ rest)) := skipBlanks_append_cons blanks (by decide)
  have start : skipBlanks (front ++ (value ++ rest)) = value ++ rest :=
    shaped.skipBlanks_append blanksFront
  obtain ⟨c, more, rfl, -, apart⟩ := shaped.start
  have item : some c ≠ some ']' := fun closing =>
    apart (Option.some.inj closing ▸ List.mem_cons_self)
  simp_all [nextItem]

theorem nextItem_eq_none {first : Bool} (closed : nextItem first source = .ok none) :
    ∃ gap rest, Blanks gap ∧ source = gap ++ some ']' :: rest := by
  unfold nextItem at closed
  split at closed
  · cases closed
  · rename_i rest skipped
    obtain ⟨gap, blanks, split⟩ := exists_blanks_of_skipBlanks skipped
    exact ⟨gap, rest, blanks, split⟩
  · split at closed
    · cases closed
    · split at closed
      · split at closed <;> cases closed
      · cases closed

theorem nextItem_eq_first (found : nextItem true source = .ok (some rest)) :
    ∃ front, Blanks front ∧ source = front ++ rest := by
  unfold nextItem at found
  split at found
  · cases found
  · cases found
  · rename_i skipped
    rw [if_pos rfl] at found
    obtain rfl := Option.some.inj (Except.ok.inj found)
    exact exists_blanks_of_skipBlanks skipped

theorem nextItem_eq_next (found : nextItem false source = .ok (some rest)) :
    ∃ gap front, Blanks gap ∧ Blanks front ∧ source = gap ++ some ',' :: (front ++ rest) := by
  unfold nextItem at found
  split at found
  · cases found
  · cases found
  · rename_i skipped
    simp only [Bool.false_eq_true, if_false] at found
    split at found
    · rename_i comma
      obtain ⟨gap, blanks, rfl⟩ := exists_blanks_of_skipBlanks (comma ▸ skipped)
      split at found
      · cases found
      · cases found
      · rename_i filled
        obtain rfl := Option.some.inj (Except.ok.inj found)
        obtain ⟨front, blanksFront, split⟩ := exists_blanks_of_skipBlanks (rfl : skipBlanks _ = _)
        exact ⟨gap, front, blanks, blanksFront, by rw [← split]⟩
    · cases found

theorem closeArray_append (blanks : Blanks gap) :
    closeArray (gap ++ some ']' :: rest) = .ok rest := by
  rw [closeArray, skipBlanks_append_cons blanks (by decide)]
  rfl

theorem closeArray_eq_ok (closed : closeArray source = .ok rest) :
    ∃ gap, Blanks gap ∧ source = gap ++ some ']' :: rest := by
  unfold closeArray at closed
  split at closed
  · cases closed
  · rename_i skipped
    obtain rfl := Except.ok.inj closed
    exact exists_blanks_of_skipBlanks skipped
  · split at closed <;> cases closed
  · cases closed

section

variable {index fields : Nat} {inner tail : Source}

theorem readItem_given (exact : Exact field.read shape wanted) {item : Source}
    (found : nextItem (index == 0) source = .ok (some (item ++ rest))) (shaped : shape item a)
    (ends : Ends rest) : field.readItem title index fields source = .ok (a, rest) := by
  have read := exact.complete shaped blanks_nil ends
  rw [List.nil_append] at read
  rw [Field.readItem, found]
  exact read

theorem Exact.readItem_append (exact : Exact field.read shape wanted) (title : String)
    (index fields : Nat) (rest : Source)
    (listed : Items (index == 0) items inner) (given : field.Given shape (items.take 1) a) :
    ∃ tail, Tail Item (items.drop 1) tail ∧
      field.readItem title index fields (inner ++ some ']' :: rest) =
        .ok (a, tail ++ some ']' :: rest) := by
  have absent {gap : Source} (blanks : Blanks gap) (given : field.Given shape [] a) :
      field.readItem title index fields (gap ++ some ']' :: rest) =
        .ok (a, gap ++ some ']' :: rest) := by
    cases given with
    | absent default => simp only [Field.readItem, nextItem_close blanks, default]
  unfold Items at listed
  split at listed
  · rename_i first
    cases listed with
    | empty blanks => exact ⟨_, .close blanks, absent blanks given⟩
    | @full item others head tail entry listed =>
        obtain ⟨front, blanks, rfl⟩ := entry
        cases given with
        | once shaped =>
            refine ⟨tail, listed, readItem_given exact ?_ shaped
              (listed.ends (ends_cons (.inr (by simp))))⟩
            rw [first, List.append_assoc, List.append_assoc]
            exact nextItem_first (exact.value shaped) blanks
  · rename_i later
    rw [Bool.not_eq_true] at later
    cases listed with
    | close blanks => exact ⟨_, .close blanks, absent blanks given⟩
    | @next item others gap head tail blanks entry listed =>
        obtain ⟨front, blanksFront, rfl⟩ := entry
        cases given with
        | once shaped =>
            refine ⟨tail, listed, readItem_given exact ?_ shaped
              (listed.ends (ends_cons (.inr (by simp))))⟩
            rw [later, List.append_assoc, List.cons_append, List.append_assoc, List.append_assoc]
            exact nextItem_next (exact.value shaped) blanks blanksFront

theorem Exact.readItem_eq_ok (exact : Exact field.read shape wanted)
    (read : field.readItem title index fields source = .ok (a, tail ++ some ']' :: rest))
    (fine : wanted a) (listed : Tail Item items tail) (values : ∀ item ∈ items, Value item) :
    ∃ all inner, Items (index == 0) all inner ∧ (∀ item ∈ all, Value item) ∧
      all.drop 1 = items ∧ field.Given shape (all.take 1) a ∧
      source = inner ++ some ']' :: rest := by
  unfold Field.readItem at read
  split at read
  · cases read
  · rename_i closed
    split at read
    · rename_i default
      obtain ⟨rfl, rfl⟩ := Prod.mk.inj (Except.ok.inj read)
      obtain ⟨gap, after, blanks, same⟩ := nextItem_eq_none closed
      cases listed with
      | close blanksTail =>
          refine ⟨[], tail, ?_, by simp, rfl, .absent default, rfl⟩
          cases index
          · exact .empty blanksTail
          · exact .close blanksTail
      | next blanksTail _ _ =>
          -- A comma is no closing bracket.
          have skipped := congrArg skipBlanks same
          rw [skipBlanks_append_cons blanks (by decide), List.append_assoc, List.cons_append,
            skipBlanks_append_cons blanksTail (by decide)] at skipped
          cases skipped
    · cases read
  · rename_i start found
    obtain ⟨pad, value, blanksPad, shaped, rfl⟩ := exact.sound read fine
    have all : ∀ item ∈ value :: items, Value item :=
      List.forall_mem_cons.mpr ⟨exact.value shaped, values⟩
    cases index with
    | zero =>
        obtain ⟨front, blanks, rfl⟩ := nextItem_eq_first found
        have item : Item value (front ++ (pad ++ value)) :=
          ⟨front ++ pad, blanks.append blanksPad, (List.append_assoc _ _ _).symm⟩
        exact ⟨value :: items, _, .full item listed, all, rfl, .once shaped, by simp⟩
    | succ index =>
        obtain ⟨gap, front, blanksGap, blanks, rfl⟩ := nextItem_eq_next found
        have item : Item value (front ++ (pad ++ value)) :=
          ⟨front ++ pad, blanks.append blanksPad, (List.append_assoc _ _ _).symm⟩
        exact ⟨value :: items, _, .next blanksGap item listed, all, rfl, .once shaped, by simp⟩

end

end DeployCheck.Json
