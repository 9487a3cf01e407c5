import DeployCheck.Json.Scalar
import Mathlib.Data.List.Forall2
namespace DeployCheck.Json

open Text Utf8

/-! ## Blanks -/

def Blanks (source : Source) : Prop :=
  ∀ symbol ∈ source, ∃ c, symbol = some c ∧ isJsonBlank c = true

/-- What may stand behind a value: nothing, a blank, or what ends the value's place. -/
def Ends (rest : Source) : Prop :=
  ∀ symbol ∈ rest.head?, ∃ c, symbol = some c ∧ (isJsonBlank c = true ∨ c ∈ [',', ']', '\x7d'])

def Padded (shape : Source → Prop) (source : Source) : Prop :=
  ∃ front inner back, Blanks front ∧ shape inner ∧ Blanks back ∧ source = front ++ (inner ++ back)

/-! ## Numbers -/

def Digits (text : List Char) : Prop :=
  text ≠ [] ∧ ∀ c ∈ text, c.isDigit = true

inductive Whole : List Char → Prop
  | zero : Whole ['0']
  | digits {c : Char} {rest : List Char} : c ≠ '0' → Digits (c :: rest) → Whole (c :: rest)

inductive Fraction : List Char → Prop
  | absent : Fraction []
  | digits {text : List Char} : Digits text → Fraction ('.' :: text)

inductive Exponent : List Char → Prop
  | absent : Exponent []
  | digits {letter : Char} {sign text : List Char} : letter ∈ ['e', 'E'] →
    sign ∈ [[], ['+'], ['-']] → Digits text → Exponent (letter :: (sign ++ text))

inductive Unsigned : List Char → Prop
  | parts {whole fraction exponent : List Char} : Whole whole → Fraction fraction →
    Exponent exponent → Unsigned (whole ++ (fraction ++ exponent))

/-! ## Strings -/

inductive Quad : Source → Nat → Prop
  | digits {a b c d : Char} {p q r s : Nat} : hexValue? a = some p → hexValue? b = some q →
    hexValue? c = some r → hexValue? d = some s →
    Quad [some a, some b, some c, some d] (((p * 16 + q) * 16 + r) * 16 + s)

inductive Escape : Source → Char → Prop
  | short {c plain : Char} : shortEscape? c = some plain → Escape [some c] plain
  | unit {quad : Source} {n : Nat} : Quad quad n → n < 0xD800 ∨ 0xDFFF < n →
    Escape (some 'u' :: quad) (Char.ofNat n)
  | pair {first second : Source} {high low : Nat} : Quad first high → Quad second low →
    0xD800 ≤ high → high ≤ 0xDBFF → 0xDC00 ≤ low → low ≤ 0xDFFF →
    Escape (some 'u' :: (first ++ some '\\' :: some 'u' :: second))
      (Char.ofNat ((high - 0xD800) * 0x400 + (low - 0xDC00) + 0x10000))

/-- A symbol that stands for itself inside a string. -/
def Plain (symbol : Symbol) : Prop :=
  ∀ c, symbol = some c → c ≠ '"' ∧ c ≠ '\\' ∧ 0x20 ≤ c.toNat

/-- What stands between two quotes, and the symbols that it spells. -/
inductive Spells : Source → List Symbol → Prop
  | nil : Spells [] []
  | plain {symbol : Symbol} {inner : Source} {symbols : List Symbol} : Plain symbol →
    Spells inner symbols → Spells (symbol :: inner) (symbol :: symbols)
  | escape {code inner : Source} {c : Char} {symbols : List Symbol} : Escape code c →
    Spells inner symbols → Spells (some '\\' :: (code ++ inner)) (some c :: symbols)

/-- What may stand between two quotes where nobody asks what it spells: halves of pairs may stand
alone there. -/
inductive Passable : Source → Prop
  | nil : Passable []
  | plain {symbol : Symbol} {inner : Source} : Plain symbol → Passable inner →
    Passable (symbol :: inner)
  | short {c plain : Char} {inner : Source} : shortEscape? c = some plain → Passable inner →
    Passable (some '\\' :: some c :: inner)
  | unicode {quad inner : Source} {n : Nat} : Quad quad n → Passable inner →
    Passable (some '\\' :: some 'u' :: (quad ++ inner))

def quotes (inner : Source) : Source :=
  some '"' :: (inner ++ [some '"'])

def Literal (text : String) (source : Source) : Prop :=
  ∃ inner, Spells inner (Utf8.ofText text.toList) ∧ source = quotes inner

/-! ## Lists -/

section

variable {α : Type}

/-- The entries behind the first one of a list, each after a comma. -/
inductive Tail (entry : α → Source → Prop) : List α → Source → Prop
  | close {gap : Source} : Blanks gap → Tail entry [] gap
  | next {first : α} {others : List α} {gap head rest : Source} : Blanks gap → entry first head →
    Tail entry others rest → Tail entry (first :: others) (gap ++ some ',' :: (head ++ rest))

/-- A list of entries as it stands between its brackets. -/
inductive Listed (entry : α → Source → Prop) : List α → Source → Prop
  | empty {gap : Source} : Blanks gap → Listed entry [] gap
  | full {first : α} {others : List α} {head rest : Source} : entry first head →
    Tail entry others rest → Listed entry (first :: others) (head ++ rest)

end

def Item (value source : Source) : Prop :=
  ∃ front, Blanks front ∧ source = front ++ value

def Keyed (key value source : Source) : Prop :=
  ∃ front gap pad, Blanks front ∧ Blanks gap ∧ Blanks pad ∧
    source = front ++ (quotes key ++ (gap ++ some ':' :: (pad ++ value)))

/-! ## Values -/

inductive Value : Source → Prop
  | word {text : String} : text ∈ ["null", "true", "false"] → Value (Utf8.ofText text.toList)
  | number {sign text : List Char} : sign ∈ [[], ['-']] → Unsigned text →
    Value (Utf8.ofText (sign ++ text))
  | string {inner : Source} : Passable inner → Value (quotes inner)
  | array {items : List Source} {inner : Source} : Listed Item items inner →
    (∀ item ∈ items, Value item) → Value (some '[' :: (inner ++ [some ']']))
  | object {values : List Source} {inner : Source} :
    Listed (fun value source => ∃ key, Passable key ∧ Keyed key value source) values inner →
    (∀ value ∈ values, Value value) → Value (some '\x7b' :: (inner ++ [some '\x7d']))

def Member (member : String × Source) (source : Source) : Prop :=
  ∃ key, Spells key (Utf8.ofText member.1.toList) ∧ Keyed key member.2 source

/-- An object with these members: their names, and their values as they are written. -/
def IsObject (members : List (String × Source)) (source : Source) : Prop :=
  ∃ inner, Listed Member members inner ∧ (∀ member ∈ members, Value member.2) ∧
    source = some '\x7b' :: (inner ++ [some '\x7d'])

def IsArray (items : List Source) (source : Source) : Prop :=
  ∃ inner, Listed Item items inner ∧ (∀ item ∈ items, Value item) ∧
    source = some '[' :: (inner ++ [some ']'])

/-! ## Strings and objects among the values -/

theorem Escape.passable {code inner : Source} {c : Char} (escape : Escape code c)
    (passable : Passable inner) : Passable (some '\\' :: (code ++ inner)) := by
  cases escape with
  | short found => exact .short found passable
  | unit quad _ => exact .unicode quad passable
  | pair first second =>
      rw [List.cons_append, List.append_assoc]
      exact .unicode first (.unicode second passable)

theorem Spells.passable {inner : Source} {symbols : List Symbol} (spells : Spells inner symbols) :
    Passable inner := by
  induction spells with
  | nil => exact .nil
  | plain plain _ ih => exact .plain plain ih
  | escape escape _ ih => exact escape.passable ih

theorem Literal.value {text : String} {source : Source} (literal : Literal text source) :
    Value source := by
  obtain ⟨inner, spells, rfl⟩ := literal
  exact .string spells.passable

theorem Tail.map {α β : Type} {entry : α → Source → Prop} {entry' : β → Source → Prop}
    {f : α → β} (carries : ∀ a source, entry a source → entry' (f a) source) {entries : List α}
    {source : Source} (tail : Tail entry entries source) : Tail entry' (entries.map f) source := by
  induction tail with
  | close gap => exact .close gap
  | next gap head _ ih => exact .next gap (carries _ _ head) ih

theorem Listed.map {α β : Type} {entry : α → Source → Prop} {entry' : β → Source → Prop}
    {f : α → β} (carries : ∀ a source, entry a source → entry' (f a) source) {entries : List α}
    {source : Source} (listed : Listed entry entries source) :
    Listed entry' (entries.map f) source := by
  cases listed with
  | empty gap => exact .empty gap
  | full head tail => exact .full (carries _ _ head) (tail.map carries)

theorem IsObject.value {members : List (String × Source)} {source : Source}
    (object : IsObject members source) : Value source := by
  obtain ⟨inner, listed, values, rfl⟩ := object
  refine .object (listed.map fun member source ⟨key, spells, keyed⟩ =>
    ⟨key, spells.passable, keyed⟩) ?_
  exact List.forall_mem_map.mpr values

theorem IsArray.value {items : List Source} {source : Source} (array : IsArray items source) :
    Value source := by
  obtain ⟨inner, listed, values, rfl⟩ := array
  exact .array listed values

end DeployCheck.Json
