import DeployCheck.Bytecode
import DeployCheck.Proofs.Text.Blank
import DeployCheck.Proofs.Text.Digits
import DeployCheck.Proofs.Text.Offsets
namespace DeployCheck.Bytecode

open Text

variable {text digits : String} {origin : Origin} {code : Bytecode}

theorem ofText_eq_ok :
    ofText text origin = .ok code ↔ IsHexPairs (hexBody text.toList) ∧ code.text = text := by
  unfold ofText
  split
  · rename_i wellFormed
    rw [Except.ok.injEq]
    constructor
    · rintro rfl
      exact ⟨wellFormed, rfl⟩
    · rintro ⟨-, rfl⟩
      rfl
  · rename_i malformed
    simp [malformed]

theorem toList_ofDigits (digits : String) :
    ("0x" ++ digits).toList = '0' :: 'x' :: digits.toList := by
  rw [String.toList_append]
  rfl

theorem ofDigits_eq_ok :
    ofDigits digits origin = .ok code ↔ IsHexPairs digits.toList ∧ code.text = "0x" ++ digits := by
  -- The prefix is put in front once, so the digits themselves must not carry one.
  rw [ofDigits, ofText_eq_ok, toList_ofDigits]
  rfl

theorem ofText_text (code : Bytecode) (origin : Origin) : ofText code.text origin = .ok code :=
  ofText_eq_ok.mpr ⟨code.wellFormed, rfl⟩

theorem exists_ofDigits (hex : IsHexPairs digits.toList) (origin : Origin) :
    ∃ code, ofDigits digits origin = .ok code ∧ code.text = "0x" ++ digits := by
  have wellFormed : IsHexPairs (hexBody ("0x" ++ digits).toList) := by
    rwa [toList_ofDigits]
  exact ⟨⟨"0x" ++ digits, wellFormed⟩, ofDigits_eq_ok.mpr ⟨hex, rfl⟩, rfl⟩

/-! ## Prefixes and characters -/

theorem hexBody_cases (text : List Char) :
    hexBody text = text ∨ ∃ x, (x = 'x' ∨ x = 'X') ∧ text = '0' :: x :: hexBody text := by
  unfold hexBody
  split
  · exact .inr ⟨_, .inl rfl, rfl⟩
  · exact .inr ⟨_, .inr rfl, rfl⟩
  · exact .inl rfl

theorem hexBody_of_prefixed {x : Char} {body : List Char} (letter : x = 'x' ∨ x = 'X') :
    hexBody ('0' :: x :: body) = body := by
  rcases letter with rfl | rfl <;> rfl

theorem hexBody_of_digits {text : List Char} (digits : ∀ c ∈ text, isHexDigit c = true) :
    hexBody text = text := by
  rcases hexBody_cases text with whole | ⟨x, letter, prefixed⟩
  · exact whole
  · have digit := digits x (by rw [prefixed]; simp)
    rcases letter with rfl | rfl <;> cases digit

theorem even_length (code : Bytecode) : code.text.toList.length % 2 = 0 := by
  have even := code.wellFormed.1
  rcases hexBody_cases code.text.toList with whole | ⟨x, -, prefixed⟩
  · rwa [whole] at even
  · rw [prefixed, List.length_cons, List.length_cons]
    omega

theorem mem_text {c : Char} (code : Bytecode) (member : c ∈ code.text.toList) :
    c = 'x' ∨ c = 'X' ∨ isHexDigit c = true := by
  have digits := code.wellFormed.2
  rcases hexBody_cases code.text.toList with whole | ⟨x, letter, prefixed⟩
  · rw [whole] at digits
    exact .inr (.inr (digits c member))
  · rw [prefixed] at member
    rcases List.mem_cons.mp member with rfl | behind
    · exact .inr (.inr (by decide))
    · rcases List.mem_cons.mp behind with rfl | inside
      · exact letter.imp_right .inl
      · exact .inr (.inr (digits c inside))

theorem singleBytes (code : Bytecode) : SingleBytes code.text.toList := by
  intro c member
  rcases code.mem_text member with rfl | rfl | digit
  · decide
  · decide
  · exact utf8Size_of_isHexDigit digit

/-! ## Case of letters -/

theorem lower_of_prefixed {x : Char} {body : List Char} (letter : x = 'x' ∨ x = 'X') :
    lower ('0' :: x :: body) = '0' :: 'x' :: lower body := by
  rcases letter with rfl | rfl <;> rfl

theorem lower_hexBody_of_prefixed {text small : List Char}
    (lowered : lower text = '0' :: 'x' :: small) : lower (hexBody text) = small := by
  match text, lowered with
  | [_], lowered => cases (List.cons.inj lowered).2
  | zero :: x :: body, lowered =>
      obtain ⟨first, behind⟩ := List.cons.inj lowered
      obtain ⟨second, last⟩ := List.cons.inj behind
      rw [toLower_eq_zero.mp first, hexBody_of_prefixed (toLower_eq_x.mp second)]
      exact last

theorem sameIgnoringCase_hexBody {one other : List Char} (same : SameIgnoringCase one other) :
    SameIgnoringCase (hexBody one) (hexBody other) := by
  rcases hexBody_cases one with whole | ⟨x, letter, prefixed⟩
  · rcases hexBody_cases other with full | ⟨x, letter, prefixed⟩
    · rwa [whole, full]
    · have lowered := prefixed ▸ lower_of_prefixed letter
      exact lower_hexBody_of_prefixed (same.trans lowered)
  · have lowered := prefixed ▸ lower_of_prefixed letter
    exact (lower_hexBody_of_prefixed (same.symm.trans lowered)).symm

theorem isHexPairs_congr {one other : List Char} (same : SameIgnoringCase one other) :
    IsHexPairs (hexBody one) ↔ IsHexPairs (hexBody other) := by
  have bodies := sameIgnoringCase_hexBody same
  rw [IsHexPairs, IsHexPairs, ← all_isHexDigit_lower, bodies, all_isHexDigit_lower,
    bodies.length_eq]

/-! ## Blanks -/

theorem solid (code : Bytecode) : ∀ c ∈ code.text.toList, isBlank c = false := by
  intro c member
  rcases code.mem_text member with rfl | rfl | digit
  · decide
  · decide
  · have solid := forall_isHexDigit (fun c => !isBlank c) (by decide) digit
    simpa using solid

theorem ofText_dropBlanks {spaced : String} (code : Bytecode)
    (differ : Spaced spaced.toList code.text.toList) (origin : Origin) :
    ofText (String.ofList (dropBlanks spaced.toList)) origin = .ok code := by
  rw [differ.dropBlanks_eq, dropBlanks_of_solid code.solid, String.ofList_toList, ofText_text]

end DeployCheck.Bytecode
