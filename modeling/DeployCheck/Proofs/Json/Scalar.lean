import DeployCheck.Proofs.Json.Grammar
import DeployCheck.Proofs.Text.Utf8
namespace DeployCheck.Json

open Text Utf8

variable {source rest inner front gap : Source} {c : Char} {text : String} {chars : List Char}

/-! ## Blanks -/

theorem blanks_nil : Blanks [] := by
  simp [Blanks]

theorem Blanks.append (blanks : Blanks front) (others : Blanks gap) : Blanks (front ++ gap) := by
  intro symbol member
  rcases List.mem_append.mp member with first | second
  · exact blanks symbol first
  · exact others symbol second

theorem skipBlanks_append (blanks : Blanks front) :
    skipBlanks (front ++ rest) = skipBlanks rest := by
  induction front with
  | nil => rfl
  | cons symbol front ih =>
      obtain ⟨c, rfl, blank⟩ := blanks symbol List.mem_cons_self
      rw [List.cons_append, skipBlanks, if_pos blank]
      exact ih fun other member => blanks other (List.mem_cons_of_mem _ member)

theorem skipBlanks_cons (solid : isJsonBlank c = false) :
    skipBlanks (some c :: rest) = some c :: rest := by
  rw [skipBlanks, if_neg (by simp [solid])]

theorem skipBlanks_append_cons (blanks : Blanks front) (solid : isJsonBlank c = false) :
    skipBlanks (front ++ some c :: rest) = some c :: rest := by
  rw [skipBlanks_append blanks, skipBlanks_cons solid]

theorem skipBlanks_of_blanks (blanks : Blanks front) : skipBlanks front = [] := by
  have skipped : skipBlanks (front ++ []) = skipBlanks [] := skipBlanks_append blanks
  rwa [List.append_nil] at skipped

theorem exists_blanks (source : Source) :
    ∃ front, Blanks front ∧ source = front ++ skipBlanks source := by
  induction source with
  | nil => exact ⟨[], blanks_nil, rfl⟩
  | cons symbol rest ih =>
      obtain ⟨front, blanks, split⟩ := ih
      cases symbol with
      | none => exact ⟨[], blanks_nil, rfl⟩
      | some c =>
          rw [skipBlanks]
          split
          · rename_i blank
            refine ⟨some c :: front, ?_, by rw [List.cons_append, ← split]⟩
            intro symbol member
            rcases List.mem_cons.mp member with rfl | later
            · exact ⟨c, rfl, blank⟩
            · exact blanks symbol later
          · exact ⟨[], blanks_nil, rfl⟩

theorem exists_blanks_of_skipBlanks (skipped : skipBlanks source = rest) :
    ∃ front, Blanks front ∧ source = front ++ rest := by
  obtain ⟨front, blanks, split⟩ := exists_blanks source
  exact ⟨front, blanks, skipped ▸ split⟩

theorem skipBlanks_skipBlanks (source : Source) :
    skipBlanks (skipBlanks source) = skipBlanks source := by
  obtain ⟨front, blanks, split⟩ := exists_blanks source
  have skipped : skipBlanks (front ++ skipBlanks source) = _ := skipBlanks_append blanks
  rw [← split] at skipped
  exact skipped.symm

theorem ends_nil : Ends [] := by
  simp [Ends]

theorem ends_cons (ending : isJsonBlank c = true ∨ c ∈ [',', ']', '\x7d']) :
    Ends (some c :: rest) := by
  intro symbol member
  obtain rfl := Option.some.inj member
  exact ⟨c, rfl, ending⟩

theorem Ends.append (ends : Ends rest) (blanks : Blanks gap) : Ends (gap ++ rest) := by
  cases gap with
  | nil => exact ends
  | cons symbol gap =>
      obtain ⟨c, rfl, blank⟩ := blanks symbol List.mem_cons_self
      exact ends_cons (.inl blank)

/-! ## Words -/

theorem readWord_append (word : List Char) (rest : Source) :
    readWord word (Utf8.ofText word ++ rest) = .ok rest := by
  induction word with
  | nil => rfl
  | cons c word ih => rw [ofText_cons, List.cons_append, readWord, if_pos rfl, ih]

theorem readWord_eq_ok {word : List Char} (read : readWord word source = .ok rest) :
    source = Utf8.ofText word ++ rest := by
  induction word generalizing source with
  | nil => exact Except.ok.inj read
  | cons c word ih =>
      cases source with
      | nil => cases read
      | cons symbol source =>
          rw [readWord] at read
          split at read
          · rename_i same
            rw [same, ih read]
            rfl
          · cases read

/-! ## Escapes -/

theorem readHexQuad_iff {n : Nat} : readHexQuad source = .ok (n, rest) ↔
    ∃ quad, Quad quad n ∧ source = quad ++ rest := by
  constructor
  · intro read
    unfold readHexQuad at read
    split at read
    · rename_i a b c d more
      split at read
      · rename_i p q r s first second third fourth
        obtain ⟨rfl, rfl⟩ := Prod.mk.inj (Except.ok.inj read)
        exact ⟨_, .digits first second third fourth, rfl⟩
      · cases read
    · split at read <;> cases read
  · rintro ⟨quad, ⟨first, second, third, fourth⟩, rfl⟩
    simp [readHexQuad, first, second, third, fourth]

theorem readEscape_append {code : Source} (escape : Escape code c) :
    readEscape (code ++ rest) = .ok (c, rest) := by
  cases escape with
  | @short letter plain found =>
      have differs : letter ≠ 'u' := by
        rintro rfl
        cases found
      simp only [List.singleton_append, readEscape, found]
  | @unit quad n digits single =>
      have read : readHexQuad (quad ++ rest) = .ok (n, rest) := readHexQuad_iff.mpr ⟨_, digits, rfl⟩
      simp only [List.cons_append, readEscape, readUnicodeEscape, read]
      rw [if_neg (by omega), if_pos (by omega)]
  | @pair first second high low digits digitsLow leastHigh mostHigh leastLow mostLow =>
      have readHigh : readHexQuad (first ++ some '\\' :: some 'u' :: (second ++ rest)) =
          .ok (high, some '\\' :: some 'u' :: (second ++ rest)) :=
        readHexQuad_iff.mpr ⟨_, digits, rfl⟩
      have readLow : readHexQuad (second ++ rest) = .ok (low, rest) :=
        readHexQuad_iff.mpr ⟨_, digitsLow, rfl⟩
      simp only [List.cons_append, List.append_assoc, readEscape, readUnicodeEscape, readHigh,
        readLow]
      rw [if_neg (by omega), if_neg (by omega), if_neg (by omega)]

theorem readUnicodeEscape_eq_ok (read : readUnicodeEscape source = .ok (c, rest)) :
    ∃ code, Escape (some 'u' :: code) c ∧ source = code ++ rest := by
  unfold readUnicodeEscape at read
  split at read
  · cases read
  · rename_i high more first
    obtain ⟨quad, digits, rfl⟩ := readHexQuad_iff.mp first
    split at read
    · cases read
    · split at read
      · obtain ⟨rfl, rfl⟩ := Prod.mk.inj (Except.ok.inj read)
        exact ⟨quad, .unit digits (by omega), rfl⟩
      · split at read
        · cases read
        · cases read
        · rename_i later
          split at read
          · cases read
          · rename_i low others second
            obtain ⟨quadLow, digitsLow, rfl⟩ := readHexQuad_iff.mp second
            split at read
            · cases read
            · obtain ⟨rfl, rfl⟩ := Prod.mk.inj (Except.ok.inj read)
              refine ⟨_, .pair digits digitsLow (by omega) (by omega) (by omega) (by omega), ?_⟩
              simp
        · cases read

theorem readEscape_eq_ok (read : readEscape source = .ok (c, rest)) :
    ∃ code, Escape code c ∧ source = code ++ rest := by
  unfold readEscape at read
  split at read
  · cases read
  · obtain ⟨code, escape, rfl⟩ := readUnicodeEscape_eq_ok read
    exact ⟨_, escape, rfl⟩
  · split at read
    · rename_i found
      obtain ⟨rfl, rfl⟩ := Prod.mk.inj (Except.ok.inj read)
      exact ⟨_, .short found, rfl⟩
    · cases read
  · cases read

/-! ## Strings -/

theorem plain_none : Plain none := by
  simp [Plain]

theorem plain_some (unquoted : c ≠ '"') (unescaped : c ≠ '\\') (shown : ¬ c.toNat < 0x20) :
    Plain (some c) := by
  rintro d same
  obtain rfl := Option.some.inj same
  exact ⟨unquoted, unescaped, not_lt.mp shown⟩

theorem readStringFrom_append {symbols done : List Symbol} (spells : Spells inner symbols)
    {fuel : Nat} (enough : inner.length < fuel) :
    readStringFrom fuel done (inner ++ some '"' :: rest) =
      .ok (done.reverse ++ symbols, rest) := by
  induction spells generalizing fuel done with
  | nil =>
      obtain ⟨fuel, rfl⟩ := Nat.exists_eq_add_one_of_ne_zero (Nat.ne_of_gt enough)
      rw [List.nil_append, readStringFrom, if_pos rfl, List.append_nil]
  | @plain symbol inner symbols plain _ ih =>
      obtain ⟨fuel, rfl⟩ := Nat.exists_eq_add_one.mpr (Nat.zero_lt_of_lt enough)
      have further : readStringFrom fuel (symbol :: done) (inner ++ some '"' :: rest) =
          .ok (done.reverse ++ symbol :: symbols, rest) := by
        rw [ih (Nat.lt_of_succ_lt_succ enough), List.reverse_cons, List.append_assoc,
          List.singleton_append]
      cases symbol with
      | none => rw [List.cons_append, readStringFrom, further]
      | some c =>
          obtain ⟨unquoted, unescaped, shown⟩ := plain c rfl
          rw [List.cons_append, readStringFrom, if_neg unquoted, if_neg unescaped,
            if_neg (not_lt.mpr shown), further]
  | @escape code inner c symbols escape _ ih =>
      obtain ⟨fuel, rfl⟩ := Nat.exists_eq_add_one.mpr (Nat.zero_lt_of_lt enough)
      have shorter : inner.length < fuel := by
        simp only [List.length_cons, List.length_append] at enough
        omega
      rw [List.cons_append, List.append_assoc, readStringFrom, if_neg (by decide), if_pos rfl,
        readEscape_append escape]
      simp only [ih shorter, List.reverse_cons, List.append_assoc, List.singleton_append]

theorem readStringFrom_eq_ok {symbols done : List Symbol} {fuel : Nat}
    (read : readStringFrom fuel done source = .ok (symbols, rest)) :
    ∃ inner spelled, Spells inner spelled ∧ symbols = done.reverse ++ spelled ∧
      source = inner ++ some '"' :: rest := by
  induction fuel generalizing done source with
  | zero => cases read
  | succ fuel ih =>
      rcases source with _ | ⟨_ | c, more⟩
      · cases read
      · rw [readStringFrom] at read
        obtain ⟨inner, spelled, spells, rfl, rfl⟩ := ih read
        exact ⟨_, _, .plain plain_none spells, by simp, rfl⟩
      · rw [readStringFrom] at read
        split at read
        · rename_i quote
          obtain ⟨rfl, rfl⟩ := Prod.mk.inj (Except.ok.inj read)
          exact ⟨[], [], .nil, by simp, by rw [quote]; rfl⟩
        · rename_i unquoted
          split at read
          · rename_i slash
            split at read
            · cases read
            · rename_i plain others escaped
              obtain ⟨code, escape, rfl⟩ := readEscape_eq_ok escaped
              obtain ⟨inner, spelled, spells, rfl, rfl⟩ := ih read
              exact ⟨_, _, .escape escape spells, by simp, by simp [slash]⟩
          · rename_i unescaped
            split at read
            · cases read
            · rename_i shown
              obtain ⟨inner, spelled, spells, rfl, rfl⟩ := ih read
              exact ⟨_, _, .plain (plain_some unquoted unescaped shown) spells, by simp, rfl⟩

theorem readString_iff : readString source = .ok (text, rest) ↔
    ∃ inner, Spells inner (Utf8.ofText text.toList) ∧ source = inner ++ some '"' :: rest := by
  constructor
  · intro read
    unfold readString at read
    split at read
    · cases read
    · rename_i symbols more collected
      split at read
      · rename_i chars decoded
        obtain ⟨rfl, rfl⟩ := Prod.mk.inj (Except.ok.inj read)
        obtain ⟨inner, spelled, spells, same, rfl⟩ := readStringFrom_eq_ok collected
        rw [List.reverse_nil, List.nil_append] at same
        have decoded : symbols = Utf8.ofText chars := mapM_id_eq_some.mp decoded
        rw [String.toList_ofList, ← decoded, same]
        exact ⟨inner, spells, rfl⟩
      · cases read
  · rintro ⟨inner, spells, rfl⟩
    have enough : inner.length < (inner ++ some '"' :: rest).length + 1 := by
      rw [List.length_append]
      omega
    have collected : readStringFrom _ [] (inner ++ some '"' :: rest) =
        .ok ([].reverse ++ Utf8.ofText text.toList, rest) := readStringFrom_append spells enough
    have decoded : (Utf8.ofText text.toList).mapM id = some text.toList := mapM_id_eq_some.mpr rfl
    simp only [readString, collected, List.reverse_nil, List.nil_append, decoded,
      String.ofList_toList]

/-! ## Strings passed over -/

theorem skipStringFrom_append (passable : Passable inner) {fuel : Nat}
    (enough : inner.length < fuel) :
    skipStringFrom fuel (inner ++ some '"' :: rest) = .ok rest := by
  induction passable generalizing fuel with
  | nil =>
      obtain ⟨fuel, rfl⟩ := Nat.exists_eq_add_one_of_ne_zero (Nat.ne_of_gt enough)
      simp only [List.nil_append, skipStringFrom, if_true]
  | @plain symbol inner plain _ ih =>
      obtain ⟨fuel, rfl⟩ := Nat.exists_eq_add_one.mpr (Nat.zero_lt_of_lt enough)
      have further := ih (Nat.lt_of_succ_lt_succ enough)
      cases symbol with
      | none => rw [List.cons_append, skipStringFrom, further]
      | some c =>
          obtain ⟨unquoted, unescaped, shown⟩ := plain c rfl
          simp only [List.cons_append, skipStringFrom, if_neg unquoted, if_neg unescaped,
            if_neg (not_lt.mpr shown), further]
  | @short letter plain inner found _ ih =>
      obtain ⟨fuel, rfl⟩ := Nat.exists_eq_add_one.mpr (Nat.zero_lt_of_lt enough)
      have shorter : inner.length < fuel := by
        simp only [List.length_cons] at enough
        omega
      have differs : letter ≠ 'u' := by
        rintro rfl
        cases found
      simp only [List.cons_append, skipStringFrom, found, Option.isSome_some, if_true, ih shorter]
      rfl
  | @unicode quad inner n digits _ ih =>
      obtain ⟨fuel, rfl⟩ := Nat.exists_eq_add_one.mpr (Nat.zero_lt_of_lt enough)
      have shorter : inner.length < fuel := by
        simp only [List.length_cons, List.length_append] at enough
        omega
      have read : readHexQuad (quad ++ (inner ++ some '"' :: rest)) =
          .ok (n, inner ++ some '"' :: rest) := readHexQuad_iff.mpr ⟨_, digits, rfl⟩
      simp only [List.cons_append, List.append_assoc, skipStringFrom, read, ih shorter]
      rfl

theorem skipStringFrom_eq_ok {fuel : Nat} (skipped : skipStringFrom fuel source = .ok rest) :
    ∃ inner, Passable inner ∧ source = inner ++ some '"' :: rest := by
  induction fuel generalizing source with
  | zero => cases skipped
  | succ fuel ih =>
      rcases source with _ | ⟨_ | c, more⟩
      · cases skipped
      · rw [skipStringFrom] at skipped
        obtain ⟨inner, passable, rfl⟩ := ih skipped
        exact ⟨_, .plain plain_none passable, rfl⟩
      · rw [skipStringFrom.eq_def] at skipped
        simp only at skipped
        split at skipped
        · rename_i quote
          obtain rfl := Except.ok.inj skipped
          exact ⟨[], .nil, by rw [quote]; rfl⟩
        · rename_i unquoted
          split at skipped
          · rename_i slash
            split at skipped
            · cases skipped
            · split at skipped
              · cases skipped
              · rename_i n others read
                obtain ⟨quad, digits, rfl⟩ := readHexQuad_iff.mp read
                obtain ⟨inner, passable, rfl⟩ := ih skipped
                exact ⟨_, .unicode digits passable, by simp [slash]⟩
            · split at skipped
              · rename_i found
                obtain ⟨plain, found⟩ := Option.isSome_iff_exists.mp found
                obtain ⟨inner, passable, rfl⟩ := ih skipped
                exact ⟨_, .short found passable, by simp [slash]⟩
              · cases skipped
            · cases skipped
          · rename_i unescaped
            split at skipped
            · cases skipped
            · rename_i shown
              obtain ⟨inner, passable, rfl⟩ := ih skipped
              exact ⟨_, .plain (plain_some unquoted unescaped shown) passable, rfl⟩

theorem skipString_iff : skipString source = .ok rest ↔
    ∃ inner, Passable inner ∧ source = inner ++ some '"' :: rest := by
  constructor
  · exact skipStringFrom_eq_ok
  · rintro ⟨inner, passable, rfl⟩
    exact skipStringFrom_append passable (by rw [List.length_append]; omega)

end DeployCheck.Json
