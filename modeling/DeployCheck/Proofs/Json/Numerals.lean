import DeployCheck.Json.Basic
import DeployCheck.Proofs.Json.Grammar
namespace DeployCheck.Json

open Text Utf8

variable {n count : Nat} {text more : List Char}

/-! ## Digits -/

theorem Digits.append (digits : Digits text) (all : ∀ c ∈ more, c.isDigit = true) :
    Digits (text ++ more) := by
  refine ⟨by simp [digits.1], fun c member => ?_⟩
  rcases List.mem_append.mp member with first | later
  · exact digits.2 c first
  · exact all c later

theorem isDigit_zeros {c : Char} (member : c ∈ Decimal.zeros count) : c.isDigit = true := by
  rw [List.eq_of_mem_replicate member]
  decide

theorem digits_zero : Digits ['0'] :=
  ⟨List.cons_ne_nil _ _, List.forall_mem_singleton.mpr rfl⟩

theorem isDigit_toDigits {c : Char} (member : c ∈ Nat.toDigits 10 n) : c.isDigit = true :=
  Nat.isDigit_of_mem_toDigits (by decide) (by decide) member

theorem digits_toDigits (n : Nat) : Digits (Nat.toDigits 10 n) :=
  ⟨List.ne_nil_of_length_pos Nat.length_toDigits_pos, fun _ => isDigit_toDigits⟩

theorem toDigits_eq_cons (positive : 0 < n) :
    ∃ c rest, Nat.toDigits 10 n = c :: rest ∧ c ≠ '0' := by
  induction n using Nat.strongRecOn with
  | ind n ih =>
      rw [Nat.toDigits_eq_if (by decide)]
      split
      · rename_i small
        refine ⟨_, [], rfl, ?_⟩
        have cases : ∀ k < 10, 0 < k → Nat.digitChar k ≠ '0' := by decide
        exact cases n small positive
      · rename_i large
        obtain ⟨c, rest, split, apart⟩ := ih (n / 10) (by omega) (by omega)
        exact ⟨c, rest ++ [Nat.digitChar (n % 10)], by rw [split, List.cons_append], apart⟩

theorem whole_append (positive : 0 < n) (all : ∀ c ∈ more, c.isDigit = true) :
    Whole (Nat.toDigits 10 n ++ more) := by
  have digits := (digits_toDigits n).append all
  obtain ⟨c, rest, split, apart⟩ := toDigits_eq_cons positive
  rw [split, List.cons_append] at digits ⊢
  exact .digits apart digits

theorem whole_toDigits (n : Nat) : Whole (Nat.toDigits 10 n) := by
  rcases Nat.eq_zero_or_pos n with rfl | positive
  · exact .zero
  · have whole : Whole (Nat.toDigits 10 n ++ []) := whole_append positive (by simp)
    rwa [List.append_nil] at whole

theorem whole_take (positive : 0 < n) (count : Nat) :
    Whole ((Nat.toDigits 10 n).take (count + 1)) := by
  have digits := digits_toDigits n
  obtain ⟨c, rest, split, apart⟩ := toDigits_eq_cons positive
  rw [split, List.take_succ_cons]
  rw [split] at digits
  refine .digits apart ⟨by simp, fun digit member => digits.2 digit ?_⟩
  rcases List.mem_cons.mp member with rfl | later
  · exact List.mem_cons_self
  · exact List.mem_cons_of_mem c (List.mem_of_mem_take later)

theorem digits_drop (fewer : count < (Nat.toDigits 10 n).length) :
    Digits ((Nat.toDigits 10 n).drop count) :=
  ⟨by simpa using fewer, fun _ member => isDigit_toDigits (List.mem_of_mem_drop member)⟩

/-! ## Decimals -/

theorem unsigned_whole {whole : List Char} (shaped : Whole whole) : Unsigned whole := by
  have unsigned := Unsigned.parts shaped .absent .absent
  rwa [List.append_nil, List.append_nil] at unsigned

theorem unsigned_fraction {whole digits : List Char} (shaped : Whole whole)
    (behind : Digits digits) : Unsigned (whole ++ '.' :: digits) := by
  have unsigned := Unsigned.parts shaped (.digits behind) .absent
  rwa [List.append_nil] at unsigned

theorem exponent_toDigits {sign : Char} (signed : sign = '-' ∨ sign = '+') (power : Nat) :
    Exponent ('e' :: sign :: Nat.toDigits 10 power) := by
  have listed : [sign] ∈ [[], ['+'], ['-']] := by
    rcases signed with rfl | rfl <;> simp
  exact .digits (by simp) listed (digits_toDigits power)

theorem unsigned_render (d : Decimal) : Unsigned d.render := by
  unfold Decimal.render
  dsimp only
  generalize d.normalize = d
  have digits := digits_toDigits d.digits
  split_ifs with zero plain pointed small
  · exact unsigned_fraction .zero digits_zero
  · have positive : 0 < d.digits := Nat.pos_of_ne_zero zero
    exact unsigned_fraction (whole_append positive fun _ => isDigit_zeros) digits_zero
  · have positive : 0 < d.digits := Nat.pos_of_ne_zero zero
    exact unsigned_fraction (whole_take positive _) (digits_drop (by omega))
  · refine unsigned_fraction .zero ⟨by simp [digits.1], fun c member => ?_⟩
    rcases List.mem_append.mp member with first | later
    · exact isDigit_zeros first
    · exact isDigit_toDigits later
  all_goals
    have positive : 0 < d.digits := Nat.pos_of_ne_zero zero
    have whole := whole_take positive 0
    rw [List.append_assoc]
    refine .parts whole ?_ (exponent_toDigits (by simp) _)
    split
    · exact .absent
    · rename_i filled
      exact .digits ⟨filled, fun c member => isDigit_toDigits (List.mem_of_mem_drop member)⟩

theorem value_render (n : Number) : Value (Utf8.ofText n.render) := by
  cases n with
  | whole n => exact .number List.mem_cons_self (unsigned_whole (whole_toDigits n))
  | negative n =>
      exact .number (List.mem_cons_of_mem [] List.mem_cons_self)
        (unsigned_whole (whole_toDigits n))
  | binary x =>
      refine .number ?_ (unsigned_render x.magnitude.shortest)
      split <;> simp

end DeployCheck.Json
