import DeployCheck.Proofs.Json.Integers
import DeployCheck.Proofs.Json.Records
import DeployCheck.Proofs.Node
namespace DeployCheck.Node

open Text Json

variable {source value rest front : Source} {text message : String} {code : Int} {fuel depth : Nat}

/-! ## Results -/

theorem readValue_string (literal : Literal text value) (blanks : Blanks front) :
    readValue (fuel + 1) depth (front ++ (value ++ rest)) = .ok (.string text, rest) := by
  obtain ⟨inner, spells, rfl⟩ := literal
  have read : readString (inner ++ some '"' :: rest) = .ok (text, rest) :=
    readString_iff.mpr ⟨inner, spells, rfl⟩
  have start : skipBlanks (front ++ (quotes inner ++ rest)) =
      some '"' :: (inner ++ some '"' :: rest) := by
    rw [quotes, List.cons_append, skipBlanks_append_cons blanks (by decide), List.append_assoc,
      List.singleton_append]
  rw [readValue, start]
  simp [read, Except.map]

theorem readValue_eq_string (read : readValue fuel depth source = .ok (.string text, rest)) :
    ∃ front value, Blanks front ∧ Literal text value ∧ source = front ++ (value ++ rest) := by
  cases fuel with
  | zero => cases read
  | succ fuel =>
      rw [readValue] at read
      split at read
      · cases read
      · cases read
      · rename_i c more start
        obtain ⟨front, blanks, rfl⟩ := exists_blanks_of_skipBlanks start
        -- Words and numbers are no strings.
        iterate 5
          rcases ite_eq_iff.mp read with ⟨-, read⟩ | ⟨-, read⟩
          · obtain ⟨_, -, same⟩ := map_eq_ok.mp read
            cases same
        rcases ite_eq_iff.mp read with ⟨quote, read⟩ | ⟨-, read⟩
        · obtain ⟨_, given, same⟩ := map_eq_ok.mp read
          cases same
          obtain ⟨inner, spells, rfl⟩ := readString_iff.mp given
          exact ⟨front, quotes inner, blanks, ⟨inner, spells, rfl⟩, by simp [quotes, quote]⟩
        -- Neither are arrays and objects.
        iterate 2
          rcases ite_eq_iff.mp read with ⟨-, read⟩ | ⟨-, read⟩
          · split at read
            · cases read
            · obtain ⟨_, -, same⟩ := map_eq_ok.mp read
              cases same
        cases read

def readResult (source : Source) : Reading Json :=
  readValue (source.length + 1) (nestingLimit - 1) source

/-- A value that is kept, wherever it stands. -/
def Kept (value : Source) (json : Json) : Prop :=
  Value value ∧ ∀ ⦃front rest : Source⦄, Blanks front → Ends rest →
    readResult (front ++ (value ++ rest)) = .ok (json, rest)

theorem kept_string_iff : Kept value (.string text) ↔ Literal text value := by
  refine ⟨fun ⟨shaped, read⟩ => ?_, fun literal =>
    ⟨literal.value, fun _ _ blanks _ => readValue_string literal blanks⟩⟩
  obtain ⟨front, found, blanks, literal, split⟩ := readValue_eq_string (read blanks_nil ends_nil)
  -- A value starts behind all blanks.
  have start := congrArg skipBlanks split
  rw [shaped.skipBlanks_append blanks_nil, literal.value.skipBlanks_append blanks,
    List.append_nil, List.append_nil] at start
  exact start ▸ literal

theorem exact_readResult : Exact readResult Kept fun json => ∃ text, json = .string text where
  value _ _ kept := kept.1
  complete _ _ _ _ kept blanks ends := kept.2 blanks ends
  sound := by
    rintro source _ rest read ⟨text, rfl⟩
    obtain ⟨front, value, blanks, literal, split⟩ := readValue_eq_string read
    exact ⟨front, value, blanks, kept_string_iff.mpr literal, split⟩

/-! ## Errors -/

def codeField : Json.Field Int :=
  ⟨"code", readInteger, none⟩

def messageField : Json.Field String :=
  ⟨"message", readText, none⟩

def ComplaintShape (value : Source) (complaint : Complaint) : Prop :=
  ∃ pair, PairShape codeField messageField IntegerShape (fun value text => Literal text value)
    value pair ∧ complaint = ⟨pair.1, pair.2⟩

theorem exact_readComplaint : Exact readComplaint ComplaintShape fun _ => False := by
  have code : Exact codeField.read _ _ := exact_integer
  have message : Exact messageField.read _ _ := exact_text
  exact (code.pair message (by decide)).into (fun pair : Int × String =>
    (⟨pair.1, pair.2⟩ : Complaint)) fun _ impossible => impossible.elim

/-! ## Responses -/

def resultField : Json.Field (Option Json) :=
  ⟨"result", readOption readResult, some none⟩

def errorField : Json.Field (Option Complaint) :=
  ⟨"error", readOption readComplaint, some none⟩

def ResponseShape (value : Source) (response : Response) : Prop :=
  ∃ pair, PairShape resultField errorField (OptionShape Kept) (OptionShape ComplaintShape)
    value pair ∧ response = ⟨pair.1, pair.2⟩

theorem exact_readResponse : Exact readResponse ResponseShape fun response =>
    response.complaint = none ∧ ∃ text, response.result = some (.string text) := by
  have result : Exact resultField.read _ _ := exact_readResult.option
  have error : Exact errorField.read _ _ := exact_readComplaint.option
  refine (result.pair error (by decide)).into (fun pair : Option Json × Option Complaint =>
    (⟨pair.1, pair.2⟩ : Response)) ?_
  rintro ⟨_, _⟩ ⟨rfl, text, rfl⟩
  exact ⟨fun _ same => ⟨text, (Option.some.inj same).symm⟩, fun _ same => by cases same⟩

/-! ## Responses that bear a text -/

def nullText : Source :=
  Utf8.ofText "null".toList

/-- A response whose one result is a string that spells a text, beside no error or a null one. The
other members of an object may be any, and all may come in any order; an array has no others. -/
inductive Bears (text : String) (source : Source) : Prop
  | object {members : List (String × Source)} {result : Source} : IsObject members source →
    named "result" members = [result] → Literal text result →
    named "error" members ∈ [[], [nullText]] → Bears text source
  | array {result : Source} {others : List Source} : IsArray (result :: others) source →
    Literal text result → others ∈ [[], [nullText]] → Bears text source

theorem optionShape_string_iff :
    OptionShape Kept value (some (.string text)) ↔ Literal text value := by
  constructor
  · rintro (_ | ⟨kept, -⟩)
    exact kept_string_iff.mp kept
  · intro literal
    refine .some (kept_string_iff.mpr literal) ?_
    obtain ⟨inner, -, rfl⟩ := literal
    exact fun null => absurd (Option.some.inj (Option.some.inj null)) (by decide)

theorem given_result_iff {values : List Source} :
    resultField.Given (OptionShape Kept) values (some (.string text)) ↔
      ∃ result, values = [result] ∧ Literal text result := by
  constructor
  · rintro (⟨shaped⟩ | ⟨default⟩)
    · exact ⟨_, rfl, optionShape_string_iff.mp shaped⟩
    · cases default
  · rintro ⟨result, rfl, literal⟩
    exact .once (optionShape_string_iff.mpr literal)

theorem given_no_error_iff {values : List Source} :
    errorField.Given (OptionShape ComplaintShape) values none ↔ values ∈ [[], [nullText]] := by
  rw [List.mem_pair]
  constructor
  · rintro (⟨⟨null⟩⟩ | -)
    · exact .inr (congrArg (fun value => [value]) null)
    · exact .inl rfl
  · rintro (rfl | rfl)
    · exact .absent rfl
    · exact .once (.null rfl)

theorem bears_iff : Bears text source ↔ ResponseShape source ⟨some (.string text), none⟩ := by
  constructor
  · rintro (⟨object, only, literal, harmless⟩ | ⟨array, literal, harmless⟩)
    · exact ⟨(_, _), .inl ⟨_, object, given_result_iff.mpr ⟨_, only, literal⟩,
        given_no_error_iff.mpr harmless⟩, rfl⟩
    · exact ⟨(_, _), .inr ⟨_, array, given_result_iff.mpr ⟨_, rfl, literal⟩,
        given_no_error_iff.mpr harmless⟩, rfl⟩
  · rintro ⟨⟨found, complaint⟩, shaped, same⟩
    obtain ⟨rfl, rfl⟩ := Response.mk.inj same
    rcases shaped with ⟨members, object, result, error⟩ | ⟨items, array, result, error⟩
    · obtain ⟨value, only, literal⟩ := given_result_iff.mp result
      exact .object object only literal (given_no_error_iff.mp error)
    · obtain ⟨value, first, literal⟩ := given_result_iff.mp result
      cases items with
      | nil => cases first
      | cons item others =>
          obtain rfl := (List.cons.inj first).1
          exact .array array literal (given_no_error_iff.mp error)

theorem finish_readResponse_iff :
    finish (readResponse source) = .ok ⟨some (.string text), none⟩ ↔
      Padded (Bears text) source := by
  rw [exact_readResponse.finish_iff ⟨rfl, text, rfl⟩]
  simp only [Padded, bears_iff]

/-! ## Responses with an error -/

/-- An object with an error that says this, and with any result that can be kept or none. -/
def Faults (code : Int) (message : String) (source : Source) : Prop :=
  ∃ members error fields spelled, IsObject members source ∧ named "error" members = [error] ∧
    IsObject fields error ∧ named "code" fields = [Utf8.ofText (signedText code).toList] ∧
    named "message" fields = [spelled] ∧ Literal message spelled ∧
    (named "result" members = [] ∨
      ∃ result json, named "result" members = [result] ∧ Kept result json)

theorem integerShape_signedText (low : -2 ^ 63 ≤ code) (high : code < 2 ^ 63) :
    IntegerShape (Utf8.ofText (signedText code).toList) code := by
  have bound : Nat.pow 2 63 = 9223372036854775808 := by decide
  unfold signedText
  split
  · rename_i negative
    have value : code = -(code.natAbs : Int) := by omega
    rw [value, Int.natAbs_neg, Int.natAbs_natCast]
    refine .negative (by omega) (by omega) ?_
    simp [showNat]
  · rename_i positive
    have value : code = (code.natAbs : Int) := by omega
    rw [value, Int.natAbs_natCast]
    refine .positive (by omega) ?_
    simp [showNat]

theorem eq_null_of_head (shaped : Value value) (null : value.head? = some (some 'n')) :
    value = nullText := by
  cases shaped with
  | word listed =>
      simp only [List.mem_cons, List.not_mem_nil, or_false] at listed
      rcases listed with rfl | rfl | rfl
      · rfl
      · cases null
      · cases null
  | number signed unsigned =>
      obtain ⟨whole, -, -⟩ := unsigned
      rcases List.mem_pair.mp signed with rfl | rfl
      · cases whole with
        | zero => cases null
        | digits _ digits =>
            obtain rfl := Option.some.inj (Option.some.inj null)
            exact absurd (digits.2 'n' List.mem_cons_self) (by decide)
      · cases null
  | string _ => cases null
  | array _ _ => cases null
  | object _ _ => cases null

theorem exists_optionShape {json : Json} (kept : Kept value json) :
    ∃ found, OptionShape Kept value found := by
  by_cases null : value.head? = some (some 'n')
  · exact ⟨none, .null (eq_null_of_head kept.1 null)⟩
  · exact ⟨some json, .some kept null⟩

theorem codeOfBody_of_faults {body : Payload} (low : -2 ^ 63 ≤ code) (high : code < 2 ^ 63)
    (document : Padded (Faults code message) (Utf8.symbols body.bytes)) : codeOfBody body =
      .error ("RPC error " ++ signedText code ++ ": " ++ message) := by
  obtain ⟨front, value, back, blanks, ⟨members, error, fields, spelled, object, only, errorObject,
    number, listed, literal, beside⟩, blanksBack, whole⟩ := document
  have complaint : ComplaintShape error ⟨code, message⟩ :=
    ⟨(code, message), .inl ⟨fields, errorObject,
      number ▸ .once (integerShape_signedText low high), listed ▸ .once literal⟩, rfl⟩
  have filled : error.head? ≠ some (some 'n') := by
    obtain ⟨inner, -, -, rfl⟩ := errorObject
    exact fun null => absurd (Option.some.inj (Option.some.inj null)) (by decide)
  have result : ∃ found,
      resultField.Given (OptionShape Kept) (named resultField.name members) found := by
    rcases beside with empty | ⟨result, json, one, kept⟩
    · exact ⟨none, empty ▸ .absent rfl⟩
    · obtain ⟨found, shaped⟩ := exists_optionShape kept
      exact ⟨found, one ▸ .once shaped⟩
  obtain ⟨found, given⟩ := result
  have shaped : ResponseShape value ⟨found, some ⟨code, message⟩⟩ :=
    ⟨(found, some ⟨code, message⟩), .inl ⟨members, object, given,
      only ▸ .once (.some complaint filled)⟩, rfl⟩
  rw [codeOfBody, exact_readResponse.finish_of_padded
    ⟨front, value, back, blanks, shaped, blanksBack, whole⟩]
  rfl

end DeployCheck.Node
