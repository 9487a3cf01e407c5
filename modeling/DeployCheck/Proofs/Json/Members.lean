import DeployCheck.Proofs.Json.Passing
namespace DeployCheck.Json

open Text Utf8

variable {σ : Type} {source rest gap front inner value : Source} {fuel : Nat} {first : Bool}
  {members others : List (String × Source)} {before between after : σ}
  {read : σ → String → Source → Reading σ} {step : σ → String × Source → σ → Prop}
  {good : σ → Prop}

inductive Run (step : σ → String × Source → σ → Prop) : σ → List (String × Source) → σ → Prop
  | nil {state : σ} : Run step state [] state
  | cons {before between after : σ} {member : String × Source}
    {others : List (String × Source)} : step before member between →
    Run step between others after → Run step before (member :: others) after

def Takes (read : σ → String → Source → Reading σ) (before : σ) (member : String × Source)
    (after : σ) : Prop :=
  ∀ ⦃gap pad rest : Source⦄, Blanks gap → Blanks pad → Ends rest →
    read before member.1 (gap ++ some ':' :: (pad ++ (member.2 ++ rest))) = .ok (after, rest)

/-! ## Keys -/

theorem nextKey_first (blanks : Blanks front) :
    nextKey true (front ++ some '"' :: rest) = .ok (some rest) := by
  rw [nextKey, skipBlanks_append_cons blanks (by decide)]
  rfl

theorem nextKey_next (blanks : Blanks gap) (blanksFront : Blanks front) :
    nextKey false (gap ++ some ',' :: (front ++ some '"' :: rest)) = .ok (some rest) := by
  have comma : skipBlanks (gap ++ some ',' :: (front ++ some '"' :: rest)) =
      some ',' :: (front ++ some '"' :: rest) := skipBlanks_append_cons blanks (by decide)
  have quote : skipBlanks (front ++ some '"' :: rest) = some '"' :: rest :=
    skipBlanks_append_cons blanksFront (by decide)
  simp [nextKey, comma, quote]

theorem nextKey_close (blanks : Blanks gap) :
    nextKey first (gap ++ some '\x7d' :: rest) = .ok none := by
  rw [nextKey, skipBlanks_append_cons blanks (by decide)]
  rfl

theorem nextKey_eq_none (closed : nextKey first source = .ok none) :
    ∃ gap rest, Blanks gap ∧ source = gap ++ some '\x7d' :: rest := by
  unfold nextKey at closed
  split at closed
  · cases closed
  · rename_i rest skipped
    obtain ⟨gap, blanks, split⟩ := exists_blanks_of_skipBlanks skipped
    exact ⟨gap, rest, blanks, split⟩
  · split at closed
    · split at closed <;> cases closed
    · split at closed
      · split at closed <;> cases closed
      · cases closed

theorem nextKey_eq_first (found : nextKey true source = .ok (some rest)) :
    ∃ front, Blanks front ∧ source = front ++ some '"' :: rest := by
  unfold nextKey at found
  split at found
  · cases found
  · cases found
  · rename_i skipped
    simp only [if_true] at found
    split at found
    · rename_i quote
      obtain rfl := Option.some.inj (Except.ok.inj found)
      exact exists_blanks_of_skipBlanks (quote ▸ skipped)
    · cases found

theorem nextKey_eq_next (found : nextKey false source = .ok (some rest)) :
    ∃ gap front, Blanks gap ∧ Blanks front ∧
      source = gap ++ some ',' :: (front ++ some '"' :: rest) := by
  unfold nextKey at found
  split at found
  · cases found
  · cases found
  · rename_i skipped
    simp only [Bool.false_eq_true, if_false] at found
    split at found
    · rename_i comma
      obtain ⟨gap, blanks, rfl⟩ := exists_blanks_of_skipBlanks (comma ▸ skipped)
      split at found
      · cases found
      · rename_i quote
        obtain rfl := Option.some.inj (Except.ok.inj found)
        obtain ⟨front, blanksFront, rfl⟩ := exists_blanks_of_skipBlanks quote
        exact ⟨gap, front, blanks, blanksFront, rfl⟩
      · cases found
      · cases found
    · cases found

/-! ## Every object is read -/

theorem readMembers_member {member : String × Source} {key pad : Source}
    (found : nextKey first source =
      .ok (some (key ++ some '"' :: (gap ++ some ':' :: (pad ++ (member.2 ++ rest))))))
    (spells : Spells key (Utf8.ofText member.1.toList)) (blanks : Blanks gap)
    (blanksPad : Blanks pad) (takes : Takes read before member after) (ends : Ends rest) :
    readMembers read (fuel + 1) first before source = readMembers read fuel false after rest := by
  have name : readString (key ++ some '"' :: (gap ++ some ':' :: (pad ++ (member.2 ++ rest)))) =
      .ok (member.1, gap ++ some ':' :: (pad ++ (member.2 ++ rest))) :=
    readString_iff.mpr ⟨key, spells, rfl⟩
  rw [readMembers]
  simp only [found, name, takes blanks blanksPad ends]

theorem readMembers_tail {tail : Source} (listed : Tail Member members tail)
    (run : Run (Takes read) before members after) (enough : members.length < fuel) :
    readMembers read fuel false before (tail ++ some '\x7d' :: rest) = .ok (after, rest) := by
  induction listed generalizing before fuel with
  | close blanks =>
      obtain ⟨fuel, rfl⟩ := Nat.exists_eq_add_one.mpr enough
      cases run
      rw [readMembers]
      simp only [nextKey_close blanks,
        skipBlanks_append_cons blanks (show isJsonBlank '\x7d' = false by decide)]
      rfl
  | @next member others gap head tail blanks entry listed ih =>
      obtain ⟨fuel, rfl⟩ := Nat.exists_eq_add_one.mpr (Nat.zero_lt_of_lt enough)
      obtain ⟨key, spells, front, gapKey, pad, blanksFront, blanksGap, blanksPad, rfl⟩ := entry
      cases run with
      | cons takes run =>
          have ends : Ends (tail ++ some '\x7d' :: rest) :=
            listed.ends (ends_cons (.inr (by simp)))
          simp only [quotes, List.append_assoc, List.cons_append, List.nil_append]
          rw [readMembers_member (nextKey_next blanks blanksFront) spells blanksGap blanksPad takes
            ends]
          exact ih run (Nat.lt_of_succ_lt_succ enough)

theorem Tail.length_le {α : Type} {entry : α → Source → Prop} {entries : List α} {tail : Source}
    (listed : Tail entry entries tail) : entries.length ≤ tail.length := by
  induction listed with
  | close _ => exact Nat.zero_le _
  | next _ _ _ ih =>
      simp only [List.length_cons, List.length_append]
      omega

theorem readMembers_append (listed : Listed Member members inner)
    (run : Run (Takes read) before members after)
    (enough : (inner ++ some '\x7d' :: rest).length < fuel) :
    readMembers read fuel true before (inner ++ some '\x7d' :: rest) = .ok (after, rest) := by
  obtain ⟨fuel, rfl⟩ := Nat.exists_eq_add_one.mpr (Nat.zero_lt_of_lt enough)
  cases listed with
  | empty blanks =>
      cases run
      rw [readMembers]
      simp only [nextKey_close blanks,
        skipBlanks_append_cons blanks (show isJsonBlank '\x7d' = false by decide)]
      rfl
  | @full member others head tail entry listed =>
      obtain ⟨key, spells, front, gap, pad, blanksFront, blanksGap, blanksPad, rfl⟩ := entry
      cases run with
      | cons takes run =>
          have ends : Ends (tail ++ some '\x7d' :: rest) :=
            listed.ends (ends_cons (.inr (by simp)))
          have shorter := listed.length_le
          simp only [quotes, List.append_assoc, List.cons_append, List.nil_append] at enough ⊢
          rw [readMembers_member (nextKey_first blanksFront) spells blanksGap blanksPad takes ends]
          refine readMembers_tail listed run ?_
          simp only [List.length_append, List.length_cons] at enough
          omega

/-! ## Nothing else is read -/

def Follows (read : σ → String → Source → Reading σ) (step : σ → String × Source → σ → Prop)
    (good : σ → Prop) : Prop :=
  ∀ ⦃before name source after rest⦄, read before name source = .ok (after, rest) → good after →
    good before ∧ ∃ gap pad value, Blanks gap ∧ Blanks pad ∧ Value value ∧
      step before (name, value) after ∧ source = gap ++ some ':' :: (pad ++ (value ++ rest))

def Entries (first : Bool) (members : List (String × Source)) (source : Source) : Prop :=
  if first then Listed Member members source else Tail Member members source

theorem readMembers_eq_ok (follows : Follows read step good)
    (done : readMembers read fuel first before source = .ok (after, rest)) (fine : good after) :
    good before ∧ ∃ members inner, Entries first members inner ∧
      (∀ member ∈ members, Value member.2) ∧ Run step before members after ∧
      source = inner ++ some '\x7d' :: rest := by
  induction fuel generalizing first before source with
  | zero => cases done
  | succ fuel ih =>
      rw [readMembers] at done
      split at done
      · cases done
      · rename_i closed
        obtain ⟨gap, others, blanks, rfl⟩ := nextKey_eq_none closed
        rw [skipBlanks_append_cons blanks (by decide), List.drop_one, List.tail_cons] at done
        obtain ⟨rfl, rfl⟩ := Prod.mk.inj (Except.ok.inj done)
        refine ⟨fine, [], gap, ?_, by simp, .nil, rfl⟩
        cases first
        · exact .close blanks
        · exact .empty blanks
      · rename_i keyed found
        split at done
        · cases done
        · rename_i name behind spelled
          obtain ⟨key, spells, rfl⟩ := readString_iff.mp spelled
          split at done
          · cases done
          · rename_i between later taken
            obtain ⟨good, members, tail, listed, values, run, rfl⟩ := ih done
            obtain ⟨earlier, gap, pad, value, blanks, blanksPad, shaped, stepped, rfl⟩ :=
              follows taken good
            have all : ∀ member ∈ (name, value) :: members, Value member.2 :=
              List.forall_mem_cons.mpr ⟨shaped, values⟩
            refine ⟨earlier, (name, value) :: members, ?_⟩
            cases first with
            | true =>
                obtain ⟨front, blanksFront, rfl⟩ := nextKey_eq_first found
                have member : Member (name, value) _ :=
                  ⟨key, spells, front, gap, pad, blanksFront, blanks, blanksPad, rfl⟩
                exact ⟨_, .full member listed, all, .cons stepped run, by simp [quotes]⟩
            | false =>
                obtain ⟨comma, front, blanksComma, blanksFront, rfl⟩ := nextKey_eq_next found
                have member : Member (name, value) _ :=
                  ⟨key, spells, front, gap, pad, blanksFront, blanks, blanksPad, rfl⟩
                exact ⟨_, .next blanksComma member listed, all, .cons stepped run,
                  by simp [quotes]⟩

/-! ## An object has one list of members -/

def collect (members : List (String × Source)) (name : String) (source : Source) :
    Reading (List (String × Source)) :=
  match passColon source with
  | .error fault => .error fault
  | .ok source =>
    let value := skipBlanks source
    (skipValue (2 * value.length) value).map fun rest =>
      (members ++ [(name, value.take (value.length - rest.length))], rest)

theorem takes_collect {name : String} (shaped : Value value) :
    Takes collect members (name, value) (members ++ [(name, value)]) := by
  intro gap pad rest blanks blanksPad ends
  have passed : skipValue (2 * (value ++ rest).length) ([] ++ (value ++ rest)) = .ok rest :=
    shaped.skipped blanks_nil ends (by rw [List.length_append]; omega)
  rw [List.nil_append] at passed
  simp only [collect, passColon_append blanks, shaped.skipBlanks_append blanksPad, passed]
  simp [Except.map]

theorem run_collect (members : List (String × Source))
    (values : ∀ member ∈ others, Value member.2) :
    Run (Takes collect) members others (members ++ others) := by
  induction others generalizing members with
  | nil =>
      rw [List.append_nil]
      exact .nil
  | cons member others ih =>
      obtain ⟨shaped, rest⟩ := List.forall_mem_cons.mp values
      have run := ih (members ++ [member]) rest
      rw [List.append_assoc, List.singleton_append] at run
      exact .cons (takes_collect shaped) run

theorem readMembers_collect (listed : Listed Member members inner)
    (values : ∀ member ∈ members, Value member.2) :
    readMembers collect ((inner ++ [some '\x7d']).length + 1) true [] (inner ++ [some '\x7d']) =
      .ok (members, []) :=
  readMembers_append listed (run_collect [] values) (Nat.lt_succ_self _)

theorem IsObject.unique (one : IsObject members source) (another : IsObject others source) :
    members = others := by
  obtain ⟨inner, listed, values, rfl⟩ := one
  obtain ⟨again, listedAgain, valuesAgain, same⟩ := another
  obtain rfl := List.append_cancel_right (List.cons.inj same).2
  have collected := readMembers_collect listed values
  rw [readMembers_collect listedAgain valuesAgain] at collected
  exact (Prod.mk.inj (Except.ok.inj collected)).1.symm

theorem IsObject.not_isArray {items : List Source} (object : IsObject members source) :
    ¬ IsArray items source := by
  rintro ⟨again, -, -, same⟩
  obtain ⟨inner, -, -, rfl⟩ := object
  cases (List.cons.inj same).1

/-! ## A document is one value -/

theorem Ends.of_blanks (blanks : Blanks source) : Ends source := by
  have ends := ends_nil.append blanks
  rwa [List.append_nil] at ends

theorem Padded.bare {shape : Source → Prop} (shaped : shape source) : Padded shape source :=
  ⟨[], source, [], blanks_nil, shaped, blanks_nil, by simp⟩

theorem Padded.both {shape other : Source → Prop} (one : Padded shape source)
    (another : Padded other source) (shaped : ∀ value, shape value → Value value)
    (shapedOther : ∀ value, other value → Value value) : ∃ value, shape value ∧ other value := by
  obtain ⟨front, value, back, blanks, first, blanksBack, rfl⟩ := one
  obtain ⟨front', value', back', blanks', second, blanksBack', same⟩ := another
  have start : value ++ back = value' ++ back' := by
    rw [← (shaped value first).skipBlanks_append blanks, same,
      (shapedOther value' second).skipBlanks_append blanks']
  -- Passing over the value is what tells where it ends.
  have passed := (shaped value first).skipped blanks_nil (.of_blanks blanksBack)
    (Nat.le_max_left (2 * value.length) (2 * value'.length))
  have passed' := (shapedOther value' second).skipped blanks_nil (.of_blanks blanksBack')
    (Nat.le_max_right (2 * value.length) (2 * value'.length))
  rw [start, passed'] at passed
  obtain rfl := Except.ok.inj passed
  obtain rfl := List.append_cancel_right start
  exact ⟨value, first, second⟩

end DeployCheck.Json
