import DeployCheck.Text.Utf8
import Mathlib.Tactic.IntervalCases
namespace DeployCheck.Text.Utf8

variable {bytes rest : Bytes} {chars : List Char} {b : UInt8} {c : Char}
  {owed low high code byte n : Nat}

/-! ## What a character is written as -/

theorem valid (c : Char) : c.val.toNat < 0xD800 ∨ 0xDFFF < c.val.toNat ∧ c.val.toNat < 0x110000 :=
  c.valid

theorem toNat_val_ofNat (valid : n.isValidChar) : (Char.ofNat n).val.toNat = n := by
  rw [Char.ofNat, dif_pos valid]
  rfl

theorem encodeChar_one (number : c.val.toNat = n) (most : n < 0x80) :
    String.utf8EncodeChar c = [UInt8.ofNat n] := by
  rw [String.utf8EncodeChar, number, if_pos (by omega)]

theorem encodeChar_two (number : c.val.toNat = n) (least : 0x80 ≤ n) (most : n < 0x800) :
    String.utf8EncodeChar c = [UInt8.ofNat (0xC0 + n / 64), UInt8.ofNat (0x80 + n % 64)] := by
  rw [String.utf8EncodeChar, number, if_neg (by omega), if_pos (by omega),
    Nat.mod_eq_of_lt (a := n / 64) (by omega), Nat.add_comm 0xC0, Nat.add_comm 0x80]

theorem encodeChar_three (number : c.val.toNat = n) (least : 0x800 ≤ n) (most : n < 0x10000) :
    String.utf8EncodeChar c = [UInt8.ofNat (0xE0 + n / 4096), UInt8.ofNat (0x80 + n / 64 % 64),
      UInt8.ofNat (0x80 + n % 64)] := by
  rw [String.utf8EncodeChar, number, if_neg (by omega), if_neg (by omega), if_pos (by omega),
    Nat.mod_eq_of_lt (a := n / 4096) (by omega), Nat.add_comm 0xE0, Nat.add_comm 0x80,
    Nat.add_comm 0x80]

theorem encodeChar_four (number : c.val.toNat = n) (least : 0x10000 ≤ n) (most : n < 0x110000) :
    String.utf8EncodeChar c = [UInt8.ofNat (0xF0 + n / 262144), UInt8.ofNat (0x80 + n / 4096 % 64),
      UInt8.ofNat (0x80 + n / 64 % 64), UInt8.ofNat (0x80 + n % 64)] := by
  rw [String.utf8EncodeChar, number, if_neg (by omega), if_neg (by omega), if_neg (by omega),
    Nat.mod_eq_of_lt (a := n / 262144) (by omega), Nat.add_comm 0xF0, Nat.add_comm 0x80,
    Nat.add_comm 0x80, Nat.add_comm 0x80]

/-! ## The first byte -/

def Leads (byte owed low high code : Nat) : Prop :=
  0x80 ≤ low ∧ high ≤ 0xBF ∧
    ((owed = 1 ∧ byte = 0xC0 + code ∧ 2 ≤ code ∧ code < 32 ∧ low = 0x80 ∧ high = 0xBF) ∨
      (owed = 2 ∧ byte = 0xE0 + code ∧ code < 16 ∧ (low = if code = 0 then 0xA0 else 0x80) ∧
        high = if code = 13 then 0x9F else 0xBF) ∨
      (owed = 3 ∧ byte = 0xF0 + code ∧ code < 5 ∧ (low = if code = 0 then 0x90 else 0x80) ∧
        high = if code = 4 then 0x8F else 0xBF))

theorem firstByte_of_ascii (ascii : byte < 0x80) :
    firstByte byte = ([some (Char.ofNat byte)], .between) :=
  if_pos ascii

theorem firstByte_of_leads (leads : Leads byte owed low high code) :
    firstByte byte = ([], .inside owed low high code) := by
  obtain ⟨-, -, ⟨rfl, rfl, two, few, rfl, rfl⟩ | ⟨rfl, rfl, few, rfl, rfl⟩ |
    ⟨rfl, rfl, few, rfl, rfl⟩⟩ := leads
  · rw [firstByte, if_neg (by omega), if_pos (by omega), Nat.add_sub_cancel_left]
  · interval_cases code <;> rfl
  · interval_cases code <;> rfl

theorem leads_two (least : 2 ≤ code) (most : code < 32) : Leads (0xC0 + code) 1 0x80 0xBF code :=
  ⟨by decide, by decide, .inl ⟨rfl, rfl, least, most, rfl, rfl⟩⟩

theorem leads_three (most : code < 16) : Leads (0xE0 + code) 2 (if code = 0 then 0xA0 else 0x80)
    (if code = 13 then 0x9F else 0xBF) code :=
  ⟨by split <;> decide, by split <;> decide, .inr (.inl ⟨rfl, rfl, most, rfl, rfl⟩)⟩

theorem leads_four (most : code < 5) : Leads (0xF0 + code) 3 (if code = 0 then 0x90 else 0x80)
    (if code = 4 then 0x8F else 0xBF) code :=
  ⟨by split <;> decide, by split <;> decide, .inr (.inr ⟨rfl, rfl, most, rfl, rfl⟩)⟩

theorem firstByte_cases (byte : Nat) : byte < 0x80 ∨
    (∃ owed low high code, Leads byte owed low high code) ∨
    firstByte byte = ([none], .between) := by
  have ranges : byte < 0x80 ∨ (0xC2 ≤ byte ∧ byte ≤ 0xDF) ∨ (0xE0 ≤ byte ∧ byte ≤ 0xEF) ∨
      (0xF0 ≤ byte ∧ byte ≤ 0xF4) ∨ (0x80 ≤ byte ∧ byte < 0xC2) ∨ 0xF4 < byte := by
    omega
  rcases ranges with ascii | ⟨least, most⟩ | ⟨least, most⟩ | ⟨least, most⟩ | stray
  · exact .inl ascii
  · obtain ⟨code, rfl⟩ : ∃ code, byte = 0xC0 + code := ⟨byte - 0xC0, by omega⟩
    exact .inr (.inl ⟨_, _, _, _, leads_two (by omega) (by omega)⟩)
  · obtain ⟨code, rfl⟩ : ∃ code, byte = 0xE0 + code := ⟨byte - 0xE0, by omega⟩
    exact .inr (.inl ⟨_, _, _, _, leads_three (by omega)⟩)
  · obtain ⟨code, rfl⟩ : ∃ code, byte = 0xF0 + code := ⟨byte - 0xF0, by omega⟩
    exact .inr (.inl ⟨_, _, _, _, leads_four (by omega)⟩)
  · refine .inr (.inr ?_)
    unfold firstByte
    repeat rw [if_neg (by omega)]

/-! ## Reading -/

theorem symbolsFrom_cons (progress : Progress) (b : UInt8) (rest : Bytes) :
    symbolsFrom progress (b :: rest) =
      (step progress b.toNat).1 ++ symbolsFrom (step progress b.toNat).2 rest := by
  cases progress <;> rfl

theorem step_last (within : low ≤ byte ∧ byte ≤ high) :
    step (.inside 1 low high code) byte =
      ([some (Char.ofNat (code * 64 + (byte - 0x80)))], .between) := by
  simp [step, within]

theorem step_further (within : low ≤ byte ∧ byte ≤ high) :
    step (.inside (owed + 2) low high code) byte =
      ([], .inside (owed + 1) 0x80 0xBF (code * 64 + (byte - 0x80))) := by
  simp [step, within]

theorem toNat_ofNat (small : n < 256) : (UInt8.ofNat n).toNat = n :=
  UInt8.toNat_ofNat_of_lt' small

theorem symbolsFrom_encodeChar (c : Char) (rest : Bytes) :
    symbolsFrom .between (String.utf8EncodeChar c ++ rest) =
      some c :: symbolsFrom .between rest := by
  obtain ⟨n, number⟩ : ∃ n, c.val.toNat = n := ⟨_, rfl⟩
  have read : Char.ofNat n = c := number ▸ Char.ofNat_toNat c
  have scalar := valid c
  rw [number] at scalar
  have widths : n < 0x80 ∨ (0x80 ≤ n ∧ n < 0x800) ∨ (0x800 ≤ n ∧ n < 0x10000) ∨
      (0x10000 ≤ n ∧ n < 0x110000) := by
    omega
  rcases widths with most | ⟨least, most⟩ | ⟨least, most⟩ | ⟨least, most⟩
  · rw [encodeChar_one number most, List.singleton_append, symbolsFrom_cons,
      toNat_ofNat (by omega), step, firstByte_of_ascii most, read]
    rfl
  · have bits : n / 64 * 64 + (0x80 + n % 64 - 0x80) = n := by omega
    rw [encodeChar_two number least most, List.cons_append, List.singleton_append,
      symbolsFrom_cons, toNat_ofNat (by omega), step,
      firstByte_of_leads (leads_two (by omega) (by omega)), List.nil_append, symbolsFrom_cons,
      toNat_ofNat (by omega), step_last (by omega), bits, read]
    rfl
  · have bits :
        (n / 4096 * 64 + (0x80 + n / 64 % 64 - 0x80)) * 64 + (0x80 + n % 64 - 0x80) = n := by
      omega
    rw [encodeChar_three number least most, List.cons_append, List.cons_append,
      List.singleton_append, symbolsFrom_cons, toNat_ofNat (by omega), step,
      firstByte_of_leads (leads_three (by omega)), List.nil_append, symbolsFrom_cons,
      toNat_ofNat (by omega), step_further (by split <;> split <;> omega), List.nil_append,
      symbolsFrom_cons, toNat_ofNat (by omega), step_last (by omega), bits, read]
    rfl
  · have bits : ((n / 262144 * 64 + (0x80 + n / 4096 % 64 - 0x80)) * 64 +
        (0x80 + n / 64 % 64 - 0x80)) * 64 + (0x80 + n % 64 - 0x80) = n := by
      omega
    rw [encodeChar_four number least most, List.cons_append, List.cons_append, List.cons_append,
      List.singleton_append, symbolsFrom_cons, toNat_ofNat (by omega), step,
      firstByte_of_leads (leads_four (by omega)), List.nil_append, symbolsFrom_cons,
      toNat_ofNat (by omega), step_further (by split <;> split <;> omega), List.nil_append,
      symbolsFrom_cons, toNat_ofNat (by omega), step_further (by omega), List.nil_append,
      symbolsFrom_cons, toNat_ofNat (by omega), step_last (by omega), bits, read]
    rfl

theorem symbols_encode (chars : List Char) :
    symbolsFrom .between (chars.flatMap String.utf8EncodeChar) = chars.map some := by
  induction chars with
  | nil => rfl
  | cons c chars ih => rw [List.flatMap_cons, symbolsFrom_encodeChar, ih, List.map_cons]

/-! ## Reading without gaps -/

theorem not_gap_first {symbols : List Symbol} : none :: symbols ≠ chars.map some := by
  cases chars <;> simp

theorem step_outside (outside : ¬ (low ≤ byte ∧ byte ≤ high)) :
    step (.inside owed low high code) byte = (none :: (firstByte byte).1, (firstByte byte).2) := by
  rw [step, if_neg outside]

theorem last_of_symbolsFrom
    (read : symbolsFrom (.inside 1 low high code) bytes = chars.map some) :
    ∃ b rest others, bytes = b :: rest ∧ low ≤ b.toNat ∧ b.toNat ≤ high ∧
      chars = Char.ofNat (code * 64 + (b.toNat - 0x80)) :: others ∧
      symbolsFrom .between rest = others.map some := by
  cases bytes with
  | nil => exact absurd read not_gap_first
  | cons b rest =>
    rw [symbolsFrom_cons] at read
    by_cases within : low ≤ b.toNat ∧ b.toNat ≤ high
    · rw [step_last within, List.singleton_append] at read
      obtain ⟨first, others, rfl, same, further⟩ := List.map_eq_cons_iff.mp read.symm
      rw [Option.some.injEq] at same
      exact ⟨b, rest, others, rfl, within.1, within.2, same ▸ rfl, further.symm⟩
    · rw [step_outside within] at read
      exact absurd read not_gap_first

theorem further_of_symbolsFrom
    (read : symbolsFrom (.inside (owed + 2) low high code) bytes = chars.map some) :
    ∃ b rest, bytes = b :: rest ∧ low ≤ b.toNat ∧ b.toNat ≤ high ∧
      symbolsFrom (.inside (owed + 1) 0x80 0xBF (code * 64 + (b.toNat - 0x80))) rest =
        chars.map some := by
  cases bytes with
  | nil => exact absurd read not_gap_first
  | cons b rest =>
    rw [symbolsFrom_cons] at read
    by_cases within : low ≤ b.toNat ∧ b.toNat ≤ high
    · rw [step_further within, List.nil_append] at read
      exact ⟨b, rest, rfl, within.1, within.2, read⟩
    · rw [step_outside within] at read
      exact absurd read not_gap_first

theorem ofNat_eq (number : n = b.toNat) : UInt8.ofNat n = b := by
  rw [number, UInt8.ofNat_toNat]

theorem first_of_symbolsFrom (read : symbolsFrom .between (b :: bytes) = chars.map some) :
    ∃ c rest others, b :: bytes = String.utf8EncodeChar c ++ rest ∧ chars = c :: others ∧
      symbolsFrom .between rest = others.map some := by
  rw [symbolsFrom_cons, step] at read
  rcases firstByte_cases b.toNat with ascii | ⟨owed, low, high, code, leads⟩ | stray
  · rw [firstByte_of_ascii ascii, List.singleton_append] at read
    obtain ⟨first, others, rfl, same, further⟩ := List.map_eq_cons_iff.mp read.symm
    obtain rfl := Option.some.inj same
    refine ⟨_, bytes, others, ?_, rfl, further.symm⟩
    rw [encodeChar_one (toNat_val_ofNat (.inl (by omega))) ascii, UInt8.ofNat_toNat]
    rfl
  · rw [firstByte_of_leads leads, List.nil_append] at read
    obtain ⟨floor, ceiling, ⟨rfl, byte, two, few, rfl, rfl⟩ | ⟨rfl, byte, few, rfl, rfl⟩ |
      ⟨rfl, byte, few, rfl, rfl⟩⟩ := leads
    · obtain ⟨d, rest, others, rfl, least, most, rfl, further⟩ := last_of_symbolsFrom read
      refine ⟨_, rest, others, ?_, rfl, further⟩
      rw [encodeChar_two (toNat_val_ofNat (.inl (by omega))) (by omega) (by omega),
        ofNat_eq (b := b) (by omega), ofNat_eq (b := d) (by omega)]
      rfl
    · obtain ⟨d, left, rfl, least, most, read⟩ := further_of_symbolsFrom read
      obtain ⟨e, rest, others, rfl, lower, upper, rfl, further⟩ := last_of_symbolsFrom read
      have bounds : 0x800 ≤ (code * 64 + (d.toNat - 0x80)) * 64 + (e.toNat - 0x80) ∧
          (code * 64 + (d.toNat - 0x80)) * 64 + (e.toNat - 0x80) < 0x10000 ∧
          ((code * 64 + (d.toNat - 0x80)) * 64 + (e.toNat - 0x80) < 0xD800 ∨
            0xDFFF < (code * 64 + (d.toNat - 0x80)) * 64 + (e.toNat - 0x80)) := by
        split at least <;> split at most <;> omega
      refine ⟨_, rest, others, ?_, rfl, further⟩
      rw [encodeChar_three (toNat_val_ofNat (by unfold Nat.isValidChar; omega)) bounds.1 bounds.2.1,
        ofNat_eq (b := b) (by omega), ofNat_eq (b := d) (by omega), ofNat_eq (b := e) (by omega)]
      rfl
    · obtain ⟨d, left, rfl, least, most, read⟩ := further_of_symbolsFrom read
      obtain ⟨e, left, rfl, low, high, read⟩ := further_of_symbolsFrom read
      obtain ⟨f, rest, others, rfl, lower, upper, rfl, further⟩ := last_of_symbolsFrom read
      refine ⟨_, rest, others, ?_, rfl, further⟩
      have bounds : 0x10 ≤ code * 64 + (d.toNat - 0x80) ∧
          code * 64 + (d.toNat - 0x80) < 0x110 := by
        split at least <;> split at most <;> omega
      rw [encodeChar_four (toNat_val_ofNat (.inr (by omega))) (by omega) (by omega),
        ofNat_eq (b := b) (by omega), ofNat_eq (b := d) (by omega), ofNat_eq (b := e) (by omega),
        ofNat_eq (b := f) (by omega)]
      rfl
  · rw [stray] at read
    exact absurd read not_gap_first

theorem flatMap_of_symbolsFrom (read : symbolsFrom .between bytes = chars.map some) :
    chars.flatMap String.utf8EncodeChar = bytes := by
  induction chars generalizing bytes with
  | nil =>
    cases bytes with
    | nil => rfl
    | cons b bytes =>
      obtain ⟨c, rest, others, -, same, -⟩ := first_of_symbolsFrom read
      cases same
  | cons c chars ih =>
    cases bytes with
    | nil => cases read
    | cons b bytes =>
      obtain ⟨first, rest, others, split, same, further⟩ := first_of_symbolsFrom read
      obtain ⟨rfl, rfl⟩ := List.cons.inj same
      rw [List.flatMap_cons, split, ih further]

/-! ## Texts -/

@[simp] theorem ofText_nil : ofText [] = [] :=
  rfl

@[simp] theorem ofText_cons (c : Char) (chars : List Char) :
    ofText (c :: chars) = some c :: ofText chars :=
  rfl

@[simp] theorem ofText_append (chars others : List Char) :
    ofText (chars ++ others) = ofText chars ++ ofText others :=
  List.map_append

theorem mapM_id_eq_some {symbols : List Symbol} :
    symbols.mapM id = some chars ↔ symbols = chars.map some := by
  induction symbols generalizing chars with
  | nil => cases chars <;> simp
  | cons symbol symbols ih =>
    cases symbol with
    | none => cases chars <;> simp
    | some c =>
      simp only [List.mapM_cons, id_eq, Option.bind_eq_bind, Option.bind_some, Option.pure_def,
        Option.bind_eq_some_iff, Option.some.injEq, ih]
      constructor
      · rintro ⟨others, rfl, rfl⟩
        rfl
      · intro same
        obtain ⟨first, others, rfl, head, rest⟩ := List.map_eq_cons_iff.mp same.symm
        exact ⟨others, rest.symm, by rw [Option.some.inj head]⟩

theorem decode?_eq_some {text : String} : decode? bytes = some text ↔ encode text = bytes := by
  rw [decode?, Option.map_eq_some_iff, encode]
  constructor
  · rintro ⟨chars, read, rfl⟩
    rw [String.toList_ofList]
    exact flatMap_of_symbolsFrom (mapM_id_eq_some.mp read)
  · rintro rfl
    exact ⟨text.toList, mapM_id_eq_some.mpr (symbols_encode _), String.ofList_toList⟩

end DeployCheck.Text.Utf8
