import DeployCheck.Proofs.Json.Scalar
import DeployCheck.Proofs.Outcome
namespace DeployCheck.Json

open Text Utf8

variable {source rest : Source} {c : Char} {text chars : List Char} {count : Nat}

/-! ## Digits -/

theorem digit?_cons (digit : c.isDigit = true) :
    digit? (some c :: rest) = some (c.toNat - '0'.toNat) :=
  if_pos digit

theorem digit?_eq_none : digit? rest = none ↔
    ∀ c, rest.head? = some (some c) → c.isDigit = false := by
  rcases rest with _ | ⟨_ | c, rest⟩ <;> simp [digit?]

theorem digit?_eq_some {d : Nat} (found : digit? source = some d) :
    ∃ c rest, c.isDigit = true ∧ source = some c :: rest := by
  rcases source with _ | ⟨_ | c, rest⟩
  · cases found
  · cases found
  · rw [digit?] at found
    split at found
    · rename_i digit
      exact ⟨c, rest, digit, rfl⟩
    · cases found

theorem not_isDigit_of_ends (ending : isJsonBlank c = true ∨ c ∈ [',', ']', '\x7d']) :
    c.isDigit = false ∧ c ≠ '.' ∧ c ≠ 'e' ∧ c ≠ 'E' := by
  rcases ending with blank | listed
  · simp only [isJsonBlank, Bool.or_eq_true, beq_iff_eq] at blank
    rcases blank with ((rfl | rfl) | rfl) | rfl <;> decide
  · simp only [List.mem_cons, List.not_mem_nil, or_false] at listed
    rcases listed with rfl | rfl | rfl <;> decide

theorem Ends.digit? (ends : Ends rest) : digit? rest = none := by
  refine digit?_eq_none.mpr fun c head => ?_
  obtain ⟨d, same, ending⟩ := ends (some c) head
  obtain rfl := Option.some.inj same
  exact (not_isDigit_of_ends ending).1

theorem dropDigits_append (all : ∀ c ∈ text, c.isDigit = true) (stops : digit? rest = none) :
    (dropDigits count (Utf8.ofText text ++ rest)).2 = rest := by
  induction text generalizing count with
  | nil =>
      rcases rest with _ | ⟨_ | c, rest⟩
      · rfl
      · rfl
      · have apart : c.isDigit = false := digit?_eq_none.mp stops c rfl
        simp [dropDigits, apart]
  | cons c text ih =>
      rw [ofText_cons, List.cons_append, dropDigits, if_pos (all c List.mem_cons_self)]
      exact ih fun d member => all d (List.mem_cons_of_mem c member)

theorem exists_dropDigits (source : Source) (count : Nat) : ∃ text,
    (∀ c ∈ text, c.isDigit = true) ∧ source = Utf8.ofText text ++ (dropDigits count source).2 := by
  induction source generalizing count with
  | nil => exact ⟨[], by simp, rfl⟩
  | cons symbol source ih =>
      cases symbol with
      | none => exact ⟨[], by simp, rfl⟩
      | some c =>
          rw [dropDigits]
          split
          · rename_i digit
            obtain ⟨text, all, split⟩ := ih (count + 1)
            refine ⟨c :: text, List.forall_mem_cons.mpr ⟨digit, all⟩, ?_⟩
            rw [ofText_cons, List.cons_append, ← split]
          · exact ⟨[], by simp, rfl⟩

/-! ## Numbers passed over -/

def skipDigits (source : Source) : Except Fault Source :=
  match digit? source with
  | some _ => .ok (dropDigits 0 source).2
  | none => .error .invalidNumber

theorem skipDigits_append (digits : Digits text) (stops : digit? rest = none) :
    skipDigits (Utf8.ofText text ++ rest) = .ok rest := by
  obtain ⟨full, all⟩ := digits
  obtain ⟨c, more, rfl⟩ := List.exists_cons_of_ne_nil full
  have found : digit? (Utf8.ofText (c :: more) ++ rest) = some _ :=
    digit?_cons (all c List.mem_cons_self)
  simp only [skipDigits, found, dropDigits_append all stops]

theorem skipDigits_eq_ok (skipped : skipDigits source = .ok rest) :
    ∃ text, Digits text ∧ source = Utf8.ofText text ++ rest := by
  unfold skipDigits at skipped
  split at skipped
  · rename_i found
    obtain ⟨c, more, digit, rfl⟩ := digit?_eq_some found
    obtain ⟨text, all, split⟩ := exists_dropDigits more 1
    rw [dropDigits, if_pos digit, Except.ok.injEq] at skipped
    refine ⟨c :: text, ⟨List.cons_ne_nil c text, List.forall_mem_cons.mpr ⟨digit, all⟩⟩, ?_⟩
    rw [ofText_cons, List.cons_append, ← skipped, ← split]
  · cases skipped

theorem skipExponent_sign (signed : c ∈ ['+', '-']) :
    skipExponent (some c :: source) = skipDigits source := by
  simp only [List.mem_cons, List.not_mem_nil, or_false] at signed
  rcases signed with rfl | rfl <;> rfl

theorem skipExponent_of_unsigned
    (unsigned : ∀ c, source.head? = some (some c) → c ∉ ['+', '-']) :
    skipExponent source = skipDigits source := by
  rcases source with _ | ⟨_ | c, more⟩
  · rfl
  · rfl
  · have plus : c ≠ '+' := fun same => unsigned c rfl (by simp [same])
    have minus : c ≠ '-' := fun same => unsigned c rfl (by simp [same])
    simp [skipExponent, plus, minus]
    rfl

theorem Digits.unsigned (digits : Digits (c :: text)) : c ∉ ['+', '-'] := by
  have digit := digits.2 c List.mem_cons_self
  intro signed
  simp only [List.mem_cons, List.not_mem_nil, or_false] at signed
  rcases signed with rfl | rfl <;> exact absurd digit (by decide)

theorem skipExponent_append {sign : List Char} (signed : sign ∈ [[], ['+'], ['-']])
    (digits : Digits text) (stops : digit? rest = none) :
    skipExponent (Utf8.ofText (sign ++ text) ++ rest) = .ok rest := by
  have skipped := skipDigits_append digits stops
  simp only [List.mem_cons, List.not_mem_nil, or_false] at signed
  rcases signed with rfl | rfl | rfl
  · obtain ⟨c, more, rfl⟩ := List.exists_cons_of_ne_nil digits.1
    rw [List.nil_append, skipExponent_of_unsigned ?_, skipped]
    rintro d ⟨⟩
    exact digits.unsigned
  · exact (skipExponent_sign (by simp)).trans skipped
  · exact (skipExponent_sign (by simp)).trans skipped

theorem skipExponent_eq_ok (skipped : skipExponent source = .ok rest) :
    ∃ sign text, sign ∈ [[], ['+'], ['-']] ∧ Digits text ∧
      source = Utf8.ofText (sign ++ text) ++ rest := by
  by_cases signed : ∃ c more, c ∈ ['+', '-'] ∧ source = some c :: more
  · obtain ⟨c, more, sign, rfl⟩ := signed
    rw [skipExponent_sign sign] at skipped
    obtain ⟨text, digits, rfl⟩ := skipDigits_eq_ok skipped
    exact ⟨[c], text, by simpa using sign, digits, rfl⟩
  · rw [skipExponent_of_unsigned ?_] at skipped
    · obtain ⟨text, digits, rfl⟩ := skipDigits_eq_ok skipped
      exact ⟨[], text, by simp, digits, rfl⟩
    · intro c head sign
      obtain ⟨more, rfl⟩ := List.head?_eq_some_iff.mp head
      exact signed ⟨c, more, sign, rfl⟩

def skipTail (source : Source) : Except Fault Source :=
  match source with
  | some 'e' :: rest => skipExponent rest
  | some 'E' :: rest => skipExponent rest
  | rest => .ok rest

theorem skipTail_append {exponent : List Char} (shaped : Exponent exponent) (ends : Ends rest) :
    skipTail (Utf8.ofText exponent ++ rest) = .ok rest := by
  cases shaped with
  | absent =>
      rw [ofText_nil, List.nil_append]
      unfold skipTail
      split
      · rename_i more
        obtain ⟨c, same, ending⟩ := ends (some 'e') rfl
        obtain rfl := Option.some.inj same
        exact absurd rfl (not_isDigit_of_ends ending).2.2.1
      · rename_i more
        obtain ⟨c, same, ending⟩ := ends (some 'E') rfl
        obtain rfl := Option.some.inj same
        exact absurd rfl (not_isDigit_of_ends ending).2.2.2
      · rfl
  | digits letter signed digits =>
      have skipped := skipExponent_append signed digits ends.digit?
      simp only [List.mem_cons, List.not_mem_nil, or_false] at letter
      rcases letter with rfl | rfl <;> exact skipped

theorem skipTail_eq_ok (skipped : skipTail source = .ok rest) :
    ∃ exponent, Exponent exponent ∧ source = Utf8.ofText exponent ++ rest := by
  unfold skipTail at skipped
  split at skipped
  · obtain ⟨sign, text, signed, digits, rfl⟩ := skipExponent_eq_ok skipped
    exact ⟨_, .digits (List.mem_cons_self) signed digits, rfl⟩
  · obtain ⟨sign, text, signed, digits, rfl⟩ := skipExponent_eq_ok skipped
    exact ⟨_, .digits (by simp : 'E' ∈ ['e', 'E']) signed digits, rfl⟩
  · exact ⟨[], .absent, Except.ok.inj skipped⟩

theorem digit?_exponent {exponent : List Char} (shaped : Exponent exponent) (ends : Ends rest) :
    digit? (Utf8.ofText exponent ++ rest) = none := by
  cases shaped with
  | absent => exact ends.digit?
  | digits letter _ _ =>
      simp only [List.mem_cons, List.not_mem_nil, or_false] at letter
      rcases letter with rfl | rfl <;> rfl

theorem skipAfterWhole_point : skipAfterWhole (some '.' :: source) =
    (skipDigits source).bind skipTail := by
  simp only [skipAfterWhole, skipDigits]
  cases digit? source <;> rfl

theorem skipAfterWhole_of_pointless (pointless : source.head? ≠ some (some '.')) :
    skipAfterWhole source = skipTail source := by
  unfold skipAfterWhole
  split
  · exact absurd rfl pointless
  · rfl
  · rfl
  · rename_i small large
    unfold skipTail
    split
    · exact absurd rfl (small _)
    · exact absurd rfl (large _)
    · rfl

theorem skipAfterWhole_append {fraction exponent : List Char} (shaped : Fraction fraction)
    (shapedTail : Exponent exponent) (ends : Ends rest) :
    skipAfterWhole (Utf8.ofText (fraction ++ exponent) ++ rest) = .ok rest := by
  have skipped := skipTail_append shapedTail ends
  cases shaped with
  | absent =>
      rw [List.nil_append, skipAfterWhole_of_pointless ?_, skipped]
      cases shapedTail with
      | absent =>
          intro head
          obtain ⟨c, same, ending⟩ := ends (some '.') head
          obtain rfl := Option.some.inj same
          exact absurd rfl (not_isDigit_of_ends ending).2.1
      | digits letter _ _ =>
          simp only [List.mem_cons, List.not_mem_nil, or_false] at letter
          rcases letter with rfl | rfl <;> simp
  | digits digits =>
      rw [List.cons_append, ofText_cons, List.cons_append, skipAfterWhole_point, ofText_append,
        List.append_assoc, skipDigits_append digits (digit?_exponent shapedTail ends)]
      exact skipped

theorem skipAfterWhole_eq_ok (skipped : skipAfterWhole source = .ok rest) :
    ∃ fraction exponent, Fraction fraction ∧ Exponent exponent ∧
      source = Utf8.ofText (fraction ++ exponent) ++ rest := by
  by_cases pointed : source.head? = some (some '.')
  · obtain ⟨more, rfl⟩ := List.head?_eq_some_iff.mp pointed
    rw [skipAfterWhole_point] at skipped
    obtain ⟨between, first, second⟩ := bind_eq_ok.mp skipped
    obtain ⟨text, digits, rfl⟩ := skipDigits_eq_ok first
    obtain ⟨exponent, shaped, rfl⟩ := skipTail_eq_ok second
    exact ⟨_, exponent, .digits digits, shaped, by simp⟩
  · rw [skipAfterWhole_of_pointless pointed] at skipped
    obtain ⟨exponent, shaped, rfl⟩ := skipTail_eq_ok skipped
    exact ⟨[], exponent, .absent, shaped, rfl⟩

theorem digit?_fraction {fraction exponent : List Char} (shaped : Fraction fraction)
    (shapedTail : Exponent exponent) (ends : Ends rest) :
    digit? (Utf8.ofText (fraction ++ exponent) ++ rest) = none := by
  cases shaped with
  | absent => exact digit?_exponent shapedTail ends
  | digits _ => rfl

theorem skipNumber_zero (stops : digit? rest = none) :
    skipNumber (some '0' :: rest) = skipAfterWhole rest := by
  simp only [skipNumber, stops]

theorem skipNumber_of_ne_zero (differs : source.head? ≠ some (some '0')) :
    skipNumber source = (skipDigits source).bind skipAfterWhole := by
  unfold skipNumber skipDigits
  split
  · exact absurd rfl differs
  · split <;> simp_all [Except.bind]

theorem skipNumber_append {text : List Char} (shaped : Unsigned text) (ends : Ends rest) :
    skipNumber (Utf8.ofText text ++ rest) = .ok rest := by
  obtain ⟨whole, fraction, exponent⟩ := shaped
  have stops := digit?_fraction fraction exponent ends
  have skipped := skipAfterWhole_append fraction exponent ends
  cases whole with
  | zero => exact (skipNumber_zero stops).trans skipped
  | digits differs digits =>
      rw [ofText_append, List.append_assoc, skipNumber_of_ne_zero (by simpa using differs),
        skipDigits_append digits stops]
      exact skipped

theorem skipNumber_eq_ok (skipped : skipNumber source = .ok rest) :
    ∃ text, Unsigned text ∧ source = Utf8.ofText text ++ rest := by
  by_cases zero : source.head? = some (some '0')
  · obtain ⟨more, rfl⟩ := List.head?_eq_some_iff.mp zero
    cases stops : digit? more with
    | some d => simp [skipNumber, stops] at skipped
    | none =>
        rw [skipNumber_zero stops] at skipped
        obtain ⟨fraction, exponent, shaped, shapedTail, rfl⟩ := skipAfterWhole_eq_ok skipped
        exact ⟨_, .parts .zero shaped shapedTail, rfl⟩
  · rw [skipNumber_of_ne_zero zero] at skipped
    obtain ⟨between, first, second⟩ := bind_eq_ok.mp skipped
    obtain ⟨text, digits, rfl⟩ := skipDigits_eq_ok first
    obtain ⟨fraction, exponent, shaped, shapedTail, rfl⟩ := skipAfterWhole_eq_ok second
    obtain ⟨c, more, rfl⟩ := List.exists_cons_of_ne_nil digits.1
    refine ⟨_, .parts (.digits (by simpa using zero) digits) shaped shapedTail, ?_⟩
    simp

end DeployCheck.Json
