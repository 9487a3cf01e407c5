import DeployCheck.Proofs.Bytecode
import DeployCheck.Proofs.Text.ByteOrder
/-!
The grammar of bytecode, told by the bytes of the text: what is read, and of what is not read which
of its faults is reported.
-/
namespace DeployCheck.Bytecode

open Text

variable {text body : String} {digits front rest : List Char} {c : Char}
  {bytes : Utf8.Bytes} {byte b : UInt8} {index lead owed : Nat} {origin : Origin} {code : Bytecode}

/-! ## Bytes that are digits -/

def isHexByte (b : UInt8) : Bool :=
  isHexDigit (Char.ofNat b.toNat)

theorem isHexDigit_of_wide (wide : 0x80 ≤ c.toNat) : isHexDigit c = false := by
  by_contra digit
  have narrow := toNat_lt_of_isHexDigit (Bool.eq_true_of_not_eq_false digit)
  omega

theorem isHexDigit_lead (begins : Utf8.Begins c.toNat lead owed) :
    isHexDigit (Char.ofNat lead) = isHexDigit c := by
  have small := begins.lead_lt
  have same : (Char.ofNat lead).toNat = lead := Utf8.toNat_val_ofNat (.inl (by omega))
  rcases begins with ⟨-, rfl, -⟩ | begins
  · rw [Char.ofNat_toNat]
  · rw [isHexDigit_of_wide (c := c) (by omega), isHexDigit_of_wide (by omega)]

theorem leadByte_of_begins (begins : Utf8.Begins c.toNat lead owed) :
    leadByte c = Char.ofNat lead := by
  rw [leadByte]
  rcases begins with ⟨-, rfl, most⟩ | ⟨-, rfl, least, most⟩ | ⟨-, rfl, least, most⟩ |
    ⟨-, rfl, least, most⟩
  · rw [if_pos most, Char.ofNat_toNat]
  · rw [if_neg (by omega), if_pos most]
  · rw [if_neg (by omega), if_neg (by omega), if_pos most]
  · rw [if_neg (by omega), if_neg (by omega), if_neg (by omega)]

theorem exists_first_byte (c : Char) : ∃ byte rest, String.utf8EncodeChar c = byte :: rest ∧
    leadByte c = Char.ofNat byte.toNat ∧ isHexByte byte = isHexDigit c := by
  obtain ⟨lead, owed, begins, written⟩ := Utf8.encodeChar_eq c
  have number : (UInt8.ofNat lead).toNat = lead := UInt8.toNat_ofNat_of_lt' begins.lead_lt
  refine ⟨_, _, written, ?_, ?_⟩
  · rw [number, leadByte_of_begins begins]
  · rw [isHexByte, number, isHexDigit_lead begins]

theorem encodeChar_of_isHexDigit (digit : isHexDigit c = true) :
    ∃ byte, String.utf8EncodeChar c = [byte] ∧ isHexByte byte = true := by
  obtain ⟨byte, rest, written, -, same⟩ := exists_first_byte c
  have single := Utf8.encodeChar_one rfl (toNat_lt_of_isHexDigit digit)
  rw [single] at written
  obtain ⟨rfl, -⟩ := List.cons.inj written
  exact ⟨_, single, same.trans digit⟩

theorem length_encode (text : List Char) :
    (text.flatMap String.utf8EncodeChar).length = utf8Length text := by
  induction text with
  | nil => rfl
  | cons c rest ih =>
    rw [List.flatMap_cons, List.length_append, ih, String.length_utf8EncodeChar]
    rfl

/-! ## The first byte that is no digit -/

/-- At this index stands the first of the bytes that is no digit. -/
structure FirstForeign (bytes : Utf8.Bytes) (index : Nat) (byte : UInt8) : Prop where
  stands : bytes[index]? = some byte
  foreign : isHexByte byte = false
  least : ∀ i < index, ∀ b, bytes[i]? = some b → isHexByte b = true

theorem FirstForeign.cons (first : FirstForeign bytes index byte) (digit : isHexByte b = true) :
    FirstForeign (b :: bytes) (index + 1) byte where
  stands := first.stands
  foreign := first.foreign
  least := by
    intro i before d here
    cases i with
    | zero => rwa [Option.some.inj here] at digit
    | succ i => exact first.least i (Nat.lt_of_succ_lt_succ before) d here

theorem FirstForeign.unique {other : Nat} {d : UInt8} (first : FirstForeign bytes index byte)
    (second : FirstForeign bytes other d) : index = other ∧ byte = d := by
  have same : index = other := by
    rcases Nat.lt_trichotomy index other with before | same | behind
    · have digit := second.least index before byte first.stands
      rw [first.foreign] at digit
      cases digit
    · exact same
    · have digit := first.least other behind d second.stands
      rw [second.foreign] at digit
      cases digit
  subst same
  exact ⟨rfl, Option.some.inj (first.stands.symm.trans second.stands)⟩

theorem firstForeign_encode (digits : ∀ d ∈ front, isHexDigit d = true)
    (foreign : isHexDigit c = false) (rest : List Char) :
    ∃ byte, leadByte c = Char.ofNat byte.toNat ∧
      FirstForeign ((front ++ c :: rest).flatMap String.utf8EncodeChar) front.length byte := by
  induction front with
  | nil =>
    obtain ⟨byte, tail, written, led, same⟩ := exists_first_byte c
    refine ⟨byte, led, ?_, same.trans foreign, fun i before => absurd before (Nat.not_lt_zero i)⟩
    rw [List.nil_append, List.flatMap_cons, written]
    rfl
  | cons d front ih =>
    -- A digit is one byte, so the offset grows by one in characters and in bytes.
    obtain ⟨byte, led, first⟩ := ih fun e inside => digits e (List.mem_cons_of_mem d inside)
    obtain ⟨b, single, digit⟩ := encodeChar_of_isHexDigit (digits d List.mem_cons_self)
    refine ⟨byte, led, ?_⟩
    rw [List.cons_append, List.flatMap_cons, single]
    exact first.cons digit

theorem FirstForeign.not_digits
    (first : FirstForeign (digits.flatMap String.utf8EncodeChar) index byte) :
    ¬ ∀ c ∈ digits, isHexDigit c = true := by
  intro all
  have member := List.mem_of_getElem? first.stands
  obtain ⟨c, inside, written⟩ := List.mem_flatMap.mp member
  obtain ⟨b, single, digit⟩ := encodeChar_of_isHexDigit (all c inside)
  rw [single, List.mem_singleton] at written
  rw [← written, first.foreign] at digit
  cases digit

/-! ## The grammar -/

/-- The body of a text is what follows a prefix, or all of a text that has none. -/
inductive HasBody : String → String → Prop
  | small (body : String) : HasBody ("0x" ++ body) body
  | capital (body : String) : HasBody ("0X" ++ body) body
  | bare {text : String} : ¬ "0x".toList <+: text.toList → ¬ "0X".toList <+: text.toList →
    HasBody text text

def IsHex (body : String) : Prop :=
  (Utf8.encode body).length % 2 = 0 ∧ ∀ c ∈ body.toList, isHexDigit c = true

/-- How a text with this body is judged. The number of bytes counts before what they are. -/
inductive Judged (text body : String) (origin : Origin) :
    Except VerificationError Bytecode → Prop
  | accepted {code : Bytecode} : IsHex body → code.text = text → code.body = body.toList →
    code.byteLength = (Utf8.encode body).length / 2 → Judged text body origin (.ok code)
  | odd : (Utf8.encode body).length % 2 = 1 →
    Judged text body origin (.error (.invalidBytecode origin.name
      ("odd number of hex digits (" ++ showNat (Utf8.encode body).length ++ ")")))
  | foreign {index : Nat} {byte : UInt8} : (Utf8.encode body).length % 2 = 0 →
    FirstForeign (Utf8.encode body) index byte →
    Judged text body origin (.error (.invalidBytecode origin.name
      ("non-hex character '" ++ String.singleton (Char.ofNat byte.toNat) ++ "' at offset " ++
        showNat index)))

theorem hasBody_iff : HasBody text body ↔ hexBody text.toList = body.toList := by
  constructor
  · intro parts
    cases parts with
    | small => simp [hexBody]
    | capital => simp [hexBody]
    | bare small capital =>
      rcases hexBody_cases text.toList with whole | ⟨x, rfl | rfl, prefixed⟩
      · exact whole
      · exact absurd ⟨_, prefixed.symm⟩ small
      · exact absurd ⟨_, prefixed.symm⟩ capital
  · intro same
    rcases hexBody_cases text.toList with whole | ⟨x, letter, prefixed⟩
    · have full : text = body := String.toList_inj.mp (whole.symm.trans same)
      have unprefixed (x : Char) (letter : x = 'x' ∨ x = 'X') : ¬ ['0', x] <+: text.toList := by
        rintro ⟨rest, joined⟩
        rw [← joined, List.cons_append, List.singleton_append, hexBody_of_prefixed letter] at whole
        have sizes := congrArg List.length whole
        rw [List.length_cons, List.length_cons] at sizes
        omega
      exact full ▸ .bare (unprefixed 'x' (.inl rfl)) (unprefixed 'X' (.inr rfl))
    · rw [same] at prefixed
      rcases letter with rfl | rfl
      · have joined : text = "0x" ++ body := String.toList_inj.mp (by simpa using prefixed)
        exact joined ▸ .small body
      · have joined : text = "0X" ++ body := String.toList_inj.mp (by simpa using prefixed)
        exact joined ▸ .capital body

theorem singleBytes_of_digits (all : ∀ c ∈ digits, isHexDigit c = true) : SingleBytes digits :=
  fun c inside => utf8Size_of_isHexDigit (all c inside)

theorem isHex_iff : IsHex body ↔ IsHexPairs body.toList := by
  rw [IsHex, IsHexPairs, Utf8.encode, length_encode]
  refine and_congr_left fun digits => ?_
  rw [(singleBytes_of_digits digits).utf8Length_eq]

/-! ## What is reported -/

theorem fault_of_odd (odd : utf8Length digits % 2 = 1) :
    fault digits = "odd number of hex digits (" ++ showNat (utf8Length digits) ++ ")" :=
  if_pos odd

theorem fault_of_foreign (even : utf8Length (front ++ c :: rest) % 2 = 0)
    (digits : ∀ d ∈ front, isHexDigit d = true) (foreign : isHexDigit c = false) :
    fault (front ++ c :: rest) = "non-hex character '" ++ String.singleton (leadByte c) ++
      "' at offset " ++ showNat front.length := by
  have stops : ¬ isHexDigit c = true := by simp [foreign]
  rw [fault, if_neg (by omega), List.dropWhile_append_of_pos digits,
    List.dropWhile_cons_of_neg stops, List.takeWhile_append_of_pos digits,
    List.takeWhile_cons_of_neg stops, List.append_nil]

theorem exists_foreign (malformed : ¬ ∀ c ∈ digits, isHexDigit c = true) :
    ∃ front c rest, digits = front ++ c :: rest ∧ (∀ d ∈ front, isHexDigit d = true) ∧
      isHexDigit c = false := by
  push Not at malformed
  obtain ⟨d, inside, foreign⟩ := malformed
  cases found : digits.find? (!isHexDigit ·) with
  | none => simpa [foreign] using List.find?_eq_none.mp found d inside
  | some c =>
    obtain ⟨foreign, front, rest, split, before⟩ := List.find?_eq_some_iff_append.mp found
    exact ⟨front, c, rest, split, by simpa using before, by simpa using foreign⟩

theorem judged_ofText (parts : HasBody text body) (origin : Origin) :
    Judged text body origin (ofText text origin) := by
  have same : hexBody text.toList = body.toList := hasBody_iff.mp parts
  have size : (Utf8.encode body).length = utf8Length body.toList := length_encode body.toList
  by_cases hex : IsHex body
  · have wellFormed : IsHexPairs (hexBody text.toList) := same ▸ isHex_iff.mp hex
    have read : ofText text origin = .ok ⟨text, wellFormed⟩ := dif_pos wellFormed
    have narrow : (Utf8.encode body).length = body.toList.length := by
      rw [size, (singleBytes_of_digits hex.2).utf8Length_eq]
    rw [read]
    refine .accepted hex rfl same ?_
    rw [byteLength, narrow]
    exact congrArg (·.length / 2) same
  · have malformed : ¬ IsHexPairs (hexBody text.toList) := same ▸ mt isHex_iff.mpr hex
    have refused : ofText text origin = .error (.invalidBytecode origin.name (fault body.toList)) :=
      same ▸ dif_neg malformed
    rw [refused]
    rcases Nat.mod_two_eq_zero_or_one (Utf8.encode body).length with even | odd
    · obtain ⟨front, c, rest, split, digits, foreign⟩ := exists_foreign fun all => hex ⟨even, all⟩
      obtain ⟨byte, led, first⟩ := firstForeign_encode digits foreign rest
      rw [split, fault_of_foreign (split ▸ size ▸ even) digits foreign, led]
      refine .foreign even ?_
      rwa [Utf8.encode, split]
    · rw [fault_of_odd (size ▸ odd), ← size]
      exact .odd odd

theorem eq_of_text {one two : Bytecode} (same : one.text = two.text) : one = two := by
  cases one
  cases two
  cases same
  rfl

theorem Judged.unique {one two : Except VerificationError Bytecode}
    (first : Judged text body origin one) (second : Judged text body origin two) : one = two := by
  cases first with
  | accepted hex kept =>
    cases second with
    | accepted _ alike => rw [eq_of_text (kept.trans alike.symm)]
    | odd odd => exact absurd (hex.1.symm.trans odd) (by decide)
    | foreign _ place => exact absurd hex.2 place.not_digits
  | odd odd =>
    cases second with
    | accepted hex => exact absurd (hex.1.symm.trans odd) (by decide)
    | odd => rfl
    | foreign even => exact absurd (even.symm.trans odd) (by decide)
  | foreign even place =>
    cases second with
    | accepted hex => exact absurd hex.2 place.not_digits
    | odd odd => exact absurd (even.symm.trans odd) (by decide)
    | foreign _ other =>
      obtain ⟨rfl, rfl⟩ := place.unique other
      rfl

theorem exists_hasBody (text : String) : ∃ body, HasBody text body :=
  ⟨String.ofList (hexBody text.toList), hasBody_iff.mpr String.toList_ofList.symm⟩

theorem ofText_eq_iff {answer : Except VerificationError Bytecode} :
    ofText text origin = answer ↔ ∃ body, HasBody text body ∧ Judged text body origin answer := by
  constructor
  · rintro rfl
    obtain ⟨body, parts⟩ := exists_hasBody text
    exact ⟨body, parts, judged_ofText parts origin⟩
  · rintro ⟨body, parts, judged⟩
    exact (judged_ofText parts origin).unique judged

theorem exists_ofText_iff :
    (∃ code, ofText text origin = .ok code) ↔ ∃ body, HasBody text body ∧ IsHex body := by
  constructor
  · rintro ⟨code, read⟩
    obtain ⟨body, parts, judged⟩ := ofText_eq_iff.mp read
    cases judged with
    | accepted hex => exact ⟨body, parts, hex⟩
  · rintro ⟨body, parts, hex⟩
    have wellFormed : IsHexPairs (hexBody text.toList) := hasBody_iff.mp parts ▸ isHex_iff.mp hex
    exact ⟨⟨text, wellFormed⟩, dif_pos wellFormed⟩

/-! ## Digits without a prefix -/

theorem ofDigits_eq_iff : ofDigits text origin = .ok code ↔
    IsHex text ∧ code.text = "0x" ++ text ∧ code.body = text.toList := by
  rw [ofDigits_eq_ok, isHex_iff]
  refine and_congr_right fun _ => (and_iff_left_of_imp fun kept => ?_).symm
  rw [Bytecode.body, kept, toList_ofDigits]
  rfl

theorem exists_ofDigits_iff : (∃ code, ofDigits text origin = .ok code) ↔ IsHex text := by
  constructor
  · rintro ⟨code, read⟩
    exact (ofDigits_eq_iff.mp read).1
  · intro hex
    obtain ⟨code, read, -⟩ := exists_ofDigits (isHex_iff.mp hex) origin
    exact ⟨code, read⟩

theorem ofDigits_ne_ok (foreign : c ∈ text.toList) (other : isHexDigit c = false) :
    ofDigits text origin ≠ .ok code := by
  intro read
  have digit := (ofDigits_eq_iff.mp read).1.2 c foreign
  rw [other] at digit
  cases digit

/-- A text is read exactly if what stands behind at most one prefix is an even run of digits, and
then nothing is lost; otherwise its first fault is reported, with offsets in bytes. Digits that are
given without a prefix may not have one. -/
theorem ofText_grammar (text : String) (origin : Origin) :
    ((∃ code, ofText text origin = .ok code) ↔ ∃ body, HasBody text body ∧ IsHex body) ∧
    (∀ answer, ofText text origin = answer ↔
      ∃ body, HasBody text body ∧ Judged text body origin answer) ∧
    ((∃ code, ofDigits text origin = .ok code) ↔ IsHex text) ∧
    (∀ code, ofDigits text origin = .ok code ↔
      IsHex text ∧ code.text = "0x" ++ text ∧ code.body = text.toList) ∧
    ∀ code, ofDigits ("0x" ++ text) origin ≠ .ok code ∧
      ofDigits ("0X" ++ text) origin ≠ .ok code := by
  refine ⟨exists_ofText_iff, fun _ => ofText_eq_iff, exists_ofDigits_iff,
    fun _ => ofDigits_eq_iff, fun code => ⟨?_, ?_⟩⟩
  · exact ofDigits_ne_ok (c := 'x') (by simp) (by decide)
  · exact ofDigits_ne_ok (c := 'X') (by simp) (by decide)

/-- A character of two bytes is an even number of bytes, so the first of them is reported. -/
example : ofText "0xé" .deployed =
    .error (.invalidBytecode "deployed" "non-hex character 'Ã' at offset 0") := by
  decide

end DeployCheck.Bytecode
