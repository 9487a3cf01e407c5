import DeployCheck.Proofs.Json.Numerals
import DeployCheck.Proofs.Json.Readers
namespace DeployCheck.Json

open Text Utf8

variable {rest : Source} {text : List Char} {significand count n : Nat} {positive : Bool}

/-! ## Digits -/

theorem le_ofDigitChars (text : List Char) (n : Nat) : n ≤ Nat.ofDigitChars 10 text n := by
  induction text generalizing n with
  | nil => exact Nat.le_refl n
  | cons c text ih =>
      have step := ih (10 * n + (c.toNat - '0'.toNat))
      rw [Nat.ofDigitChars_cons]
      omega

theorem takeDigits_append (all : ∀ c ∈ text, c.isDigit = true) (stops : digit? rest = none)
    (fits : Nat.ofDigitChars 10 text significand ≤ maxWord) :
    takeDigits significand count (Utf8.ofText text ++ rest) =
      (Nat.ofDigitChars 10 text significand, count + text.length, rest) := by
  induction text generalizing significand count with
  | nil =>
      rcases rest with _ | ⟨_ | c, rest⟩
      · rfl
      · rfl
      · have apart : c.isDigit = false := digit?_eq_none.mp stops c rfl
        simp [takeDigits, apart]
  | cons c text ih =>
      obtain ⟨digit, others⟩ := List.forall_mem_cons.mp all
      rw [Nat.ofDigitChars_cons, Nat.mul_comm] at fits ⊢
      have first := (le_ofDigitChars text _).trans fits
      rw [ofText_cons, List.cons_append, takeDigits, if_pos ⟨digit, first⟩, ih others fits,
        List.length_cons, Nat.add_assoc, Nat.add_comm 1]

/-! ## Numbers -/

theorem readAfterWhole_ends (ends : Ends rest) : readAfterWhole positive n rest =
    if positive then .ok (.whole n, rest)
    else if n = 0 then .ok (.binary ⟨true, .zero⟩, rest)
    else if n ≤ Nat.pow 2 63 then .ok (.negative n, rest)
    else (assemble false n 0).map fun number => (number, rest) := by
  unfold readAfterWhole
  rcases rest with _ | ⟨symbol, rest⟩
  · rfl
  · obtain ⟨c, rfl, ending⟩ := ends symbol rfl
    obtain ⟨-, point, lower, upper⟩ := not_isDigit_of_ends ending
    split
    · rename_i same
      exact absurd (Option.some.inj (List.cons.inj same).1) point
    · rename_i same
      exact absurd (Option.some.inj (List.cons.inj same).1) lower
    · rename_i same
      exact absurd (Option.some.inj (List.cons.inj same).1) upper
    · rfl

theorem readNumber_toDigits (fits : n ≤ maxWord) (ends : Ends rest) :
    readNumber positive (Utf8.ofText (Nat.toDigits 10 n) ++ rest) =
      readAfterWhole positive n rest := by
  rcases Nat.eq_zero_or_pos n with rfl | above
  · change readNumber positive (some '0' :: rest) = _
    simp only [readNumber, ends.digit?]
  · have value : Nat.ofDigitChars 10 (Nat.toDigits 10 n) 0 = n :=
      Nat.ofDigitChars_toDigits (by decide) (by decide)
    have taken : takeDigits 0 0 (Utf8.ofText (Nat.toDigits 10 n) ++ rest) =
        (n, 0 + (Nat.toDigits 10 n).length, rest) := by
      rw [takeDigits_append (fun _ => isDigit_toDigits) ends.digit? (value.symm ▸ fits), value]
    have digits := digits_toDigits n
    obtain ⟨c, more, split, apart⟩ := toDigits_eq_cons above
    rw [split] at taken digits ⊢
    rw [ofText_cons, List.cons_append] at taken ⊢
    unfold readNumber
    split
    · contradiction
    · rename_i zero
      exact absurd (Option.some.inj (List.cons.inj zero).1) apart
    · simp only [digit?_cons (digits.2 c List.mem_cons_self), taken, ends.digit?]

/-! ## Integers -/

inductive IntegerShape (value : Source) : Int → Prop
  | positive {n : Nat} : n < Nat.pow 2 63 → value = Utf8.ofText (Nat.toDigits 10 n) →
    IntegerShape value n
  | negative {n : Nat} : 0 < n → n ≤ Nat.pow 2 63 →
    value = Utf8.ofText ('-' :: Nat.toDigits 10 n) → IntegerShape value (-n)

theorem exact_integer : Exact readInteger IntegerShape fun _ => False where
  value := by
    rintro value n (⟨-, rfl⟩ | ⟨-, -, rfl⟩)
    · exact value_render (.whole _)
    · exact value_render (.negative _)
  complete := by
    rintro value _ front rest (@⟨n, small, rfl⟩ | @⟨n, above, small, rfl⟩) blanks ends
    · have fits : n ≤ maxWord := small.le.trans (by decide)
      have number : readNumber true (Utf8.ofText (Nat.toDigits 10 n) ++ rest) = _ :=
        readNumber_toDigits fits ends
      have shaped : Value (Utf8.ofText (Nat.toDigits 10 n)) := value_render (.whole n)
      rw [readInteger, shaped.skipBlanks_append blanks]
      have digits := digits_toDigits n
      cases split : Nat.toDigits 10 n with
      | nil => exact absurd split digits.1
      | cons c more =>
          rw [split] at number digits
          have digit := digits.2 c List.mem_cons_self
          rw [ofText_cons, List.cons_append] at number ⊢
          dsimp only
          split
          · contradiction
          · rename_i minus
            obtain rfl := Option.some.inj (List.cons.inj minus).1
            exact absurd digit (by decide)
          · simp only [digit?_cons digit, number, readAfterWhole_ends ends, if_true, if_pos small]
    · have fits : n ≤ maxWord := small.trans (by decide)
      have number : readNumber false (Utf8.ofText (Nat.toDigits 10 n) ++ rest) = _ :=
        readNumber_toDigits fits ends
      rw [readInteger, ofText_cons, List.cons_append, skipBlanks_append_cons blanks (by decide)]
      simp only [number, readAfterWhole_ends ends, Bool.false_eq_true, if_false,
        if_neg (Nat.ne_of_gt above), if_pos small]
  sound _ _ _ _ impossible := impossible.elim

end DeployCheck.Json
