import DeployCheck.Json.Scalar
import DeployCheck.TextMap
/-!
Reading JSON. A text is read from left to right and the first fault met is the answer, whether it is
one of syntax or of type. Besides whole values there are readers for texts, integers, maps and
records, since a record reader judges the type of a field before it looks at what follows.
-/
namespace DeployCheck.Json

open Text Utf8

def nestingLimit : Nat := 128

/-! ### Punctuation -/

/-- The start of the next item of an array, or `none` at the closing bracket. -/
def nextItem (first : Bool) (source : Source) : Except Fault (Option Source) :=
  match skipBlanks source with
  | [] => .error .endOfList
  | some ']' :: _ => .ok none
  | symbol :: rest =>
    if first then .ok (some (symbol :: rest))
    else if symbol = some ',' then
      match skipBlanks rest with
      | [] => .error .endOfValue
      | some ']' :: _ => .error .trailingComma
      | rest => .ok (some rest)
    else .error .expectedCommaOrBracket

/-- The source behind the opening quote of the next key of an object, or `none` at the closing
brace. -/
def nextKey (first : Bool) (source : Source) : Except Fault (Option Source) :=
  match skipBlanks source with
  | [] => .error .endOfObject
  | some '\x7d' :: _ => .ok none
  | symbol :: rest =>
    if first then
      if symbol = some '"' then .ok (some rest) else .error .keyNotString
    else if symbol = some ',' then
      match skipBlanks rest with
      | [] => .error .endOfValue
      | some '"' :: rest => .ok (some rest)
      | some '\x7d' :: _ => .error .trailingComma
      | _ => .error .keyNotString
    else .error .expectedCommaOrBrace

def passColon (source : Source) : Except Fault Source :=
  match skipBlanks source with
  | [] => .error .endOfObject
  | some ':' :: rest => .ok rest
  | _ => .error .expectedColon

def closeArray (source : Source) : Except Fault Source :=
  match skipBlanks source with
  | [] => .error .endOfList
  | some ']' :: rest => .ok rest
  | some ',' :: rest =>
    match skipBlanks rest with
    | some ']' :: _ => .error .trailingComma
    | _ => .error .trailingCharacters
  | _ => .error .trailingCharacters

def readItems {σ : Type} (item : σ → Source → Reading σ) : Nat → Bool → σ → Source → Reading σ
  | 0, _, _, _ => .error .endOfList
  | fuel + 1, first, state, source =>
    match nextItem first source with
    | .error fault => .error fault
    | .ok none => .ok (state, (skipBlanks source).drop 1)
    | .ok (some source) =>
      match item state source with
      | .error fault => .error fault
      | .ok (state, source) => readItems item fuel false state source

/-- Reads the members of an object one after another and passes the closing brace. The reader of a
member is given its key and starts at the colon. -/
def readMembers {σ : Type} (member : σ → String → Source → Reading σ) :
    Nat → Bool → σ → Source → Reading σ
  | 0, _, _, _ => .error .endOfObject
  | fuel + 1, first, state, source =>
    match nextKey first source with
    | .error fault => .error fault
    | .ok none => .ok (state, (skipBlanks source).drop 1)
    | .ok (some source) =>
      match readString source with
      | .error fault => .error fault
      | .ok (key, source) =>
        match member state key source with
        | .error fault => .error fault
        | .ok (state, source) => readMembers member fuel false state source

/-! ### Values that are kept -/

def readValue : Nat → Nat → Source → Reading Json
  | 0, _, _ => .error .endOfValue
  | fuel + 1, depth, source =>
    match skipBlanks source with
    | [] => .error .endOfValue
    | none :: _ => .error .expectedValue
    | some c :: rest =>
      if c = 'n' then (readWord "ull".toList rest).map (.null, ·)
      else if c = 't' then (readWord "rue".toList rest).map (.bool true, ·)
      else if c = 'f' then (readWord "alse".toList rest).map (.bool false, ·)
      else if c = '-' then (readNumber false rest).map fun (n, rest) => (.number n, rest)
      else if c.isDigit then
        (readNumber true (some c :: rest)).map fun (n, rest) => (.number n, rest)
      else if c = '"' then (readString rest).map fun (s, rest) => (.string s, rest)
      else if c = '[' then
        if depth ≤ 1 then .error .tooDeep
        else
          let item (items : List Json) (source : Source) :=
            (readValue fuel (depth - 1) source).map fun (value, rest) => (value :: items, rest)
          (readItems item (rest.length + 1) true [] rest).map fun (items, rest) =>
            (.array items.reverse, rest)
      else if c = '\x7b' then
        if depth ≤ 1 then .error .tooDeep
        else
          let member (members : TextMap Json) (key : String) (source : Source) :=
            match passColon source with
            | .error fault => .error fault
            | .ok source =>
              (readValue fuel (depth - 1) source).map fun (value, rest) =>
                (members.insert key value, rest)
          (readMembers member (rest.length + 1) true [] rest).map fun (members, rest) =>
            (.object members, rest)
      else .error .expectedValue

/-! ### Values that are passed over -/

mutual

/-- Passes over any value. Only its syntax counts: numbers may be of any size, nesting of any
depth. -/
def skipValue : Nat → Source → Except Fault Source
  | 0, _ => .error .endOfValue
  | fuel + 1, source =>
    match skipBlanks source with
    | [] => .error .endOfValue
    | none :: _ => .error .expectedValue
    | some c :: rest =>
      if c = 'n' then readWord "ull".toList rest
      else if c = 't' then readWord "rue".toList rest
      else if c = 'f' then readWord "alse".toList rest
      else if c = '-' then skipNumber rest
      else if c.isDigit then skipNumber (some c :: rest)
      else if c = '"' then skipString rest
      else if c = '[' then
        match skipBlanks rest with
        | [] => .error .endOfList
        | some ']' :: rest => .ok rest
        | rest => skipItems fuel rest
      else if c = '\x7b' then
        match skipBlanks rest with
        | [] => .error .endOfObject
        | some '\x7d' :: rest => .ok rest
        | rest => skipMembers fuel rest
      else .error .expectedValue

def skipItems : Nat → Source → Except Fault Source
  | 0, _ => .error .endOfList
  | fuel + 1, source =>
    match skipValue fuel source with
    | .error fault => .error fault
    | .ok source =>
      match skipBlanks source with
      | [] => .error .endOfList
      | some ',' :: rest => skipItems fuel rest
      | some ']' :: rest => .ok rest
      | _ => .error .expectedCommaOrBracket

def skipMembers : Nat → Source → Except Fault Source
  | 0, _ => .error .endOfObject
  | fuel + 1, source =>
    match skipBlanks source with
    | [] => .error .endOfObject
    | some '"' :: rest =>
      match skipString rest with
      | .error fault => .error fault
      | .ok source =>
        match passColon source with
        | .error fault => .error fault
        | .ok source =>
          match skipValue fuel source with
          | .error fault => .error fault
          | .ok source =>
            match skipBlanks source with
            | [] => .error .endOfObject
            | some ',' :: rest => skipMembers fuel rest
            | some '\x7d' :: rest => .ok rest
            | _ => .error .expectedCommaOrBrace
    | _ => .error .keyNotString

end

/-! ### Values of a known type -/

/-- The fault of a value that is not of the expected type. A scalar is read first, and a fault in it
comes before the complaint. -/
def mismatch (expected : String) (source : Source) : Fault :=
  let complain (found : Except Fault Found) : Fault :=
    match found with
    | .ok found => .wrongType found expected
    | .error fault => fault
  match source with
  | some 'n' :: rest => complain ((readWord "ull".toList rest).map fun _ => .null)
  | some 't' :: rest => complain ((readWord "rue".toList rest).map fun _ => .bool true)
  | some 'f' :: rest => complain ((readWord "alse".toList rest).map fun _ => .bool false)
  | some '-' :: rest => complain ((readNumber false rest).map fun (n, _) => .number n)
  | some '"' :: rest => complain ((readString rest).map fun (s, _) => .string s)
  | some '[' :: _ => .wrongType .sequence expected
  | some '\x7b' :: _ => .wrongType .map expected
  | source =>
    match digit? source with
    | some _ => complain ((readNumber true source).map fun (n, _) => .number n)
    | none => .expectedValue

def readText (source : Source) : Reading String :=
  match skipBlanks source with
  | [] => .error .endOfValue
  | some '"' :: rest => readString rest
  | source => .error (mismatch "a string" source)

def readInteger (source : Source) : Reading Int :=
  let judge (reading : Reading Number) : Reading Int :=
    match reading with
    | .error fault => .error fault
    | .ok (.whole n, rest) =>
      if n < Nat.pow 2 63 then .ok (n, rest) else .error (.wrongValue (.number (.whole n)) "i64")
    | .ok (.negative n, rest) => .ok (-n, rest)
    | .ok (.binary x, _) => .error (.wrongType (.number (.binary x)) "i64")
  match skipBlanks source with
  | [] => .error .endOfValue
  | some '-' :: rest => judge (readNumber false rest)
  | source =>
    match digit? source with
    | some _ => judge (readNumber true source)
    | none => .error (mismatch "i64" source)

/-- Reads an object as a map whose values share a type; a key given twice keeps its last value. -/
def readMap {α : Type} (value : Source → Reading α) (source : Source) : Reading (TextMap α) :=
  match skipBlanks source with
  | [] => .error .endOfValue
  | some '\x7b' :: rest =>
    let member (map : TextMap α) (key : String) (source : Source) :=
      match passColon source with
      | .error fault => .error fault
      | .ok source => (value source).map fun (value, rest) => (map.insert key value, rest)
    readMembers member (rest.length + 1) true [] rest
  | source => .error (mismatch "a map" source)

/-- Reads null as `none` and any other value with a reader. -/
def readOption {α : Type} (value : Source → Reading α) (source : Source) : Reading (Option α) :=
  match skipBlanks source with
  | [] => .error .endOfValue
  | some 'n' :: rest => (readWord "ull".toList rest).map (none, ·)
  | source => (value source).map fun (value, rest) => (some value, rest)

/-- A field of a record: its name, the reader of its value, and the value that stands in for a
missing one. -/
structure Field (α : Type) where
  name : String
  read : Source → Reading α
  default : Option α

def Field.settle {α : Type} (field : Field α) (seen : Option α) : Except Fault α :=
  match seen, field.default with
  | some value, _ => .ok value
  | none, some value => .ok value
  | none, none => .error (.missingField field.name)

def Field.readMember {α : Type} (field : Field α) (seen : Option α) (source : Source) :
    Reading (Option α) :=
  match seen with
  | some _ => .error (.duplicateField field.name)
  | none =>
    match passColon source with
    | .error fault => .error fault
    | .ok source => (field.read source).map fun (value, rest) => (some value, rest)

/-- Passes over a member that is no field. A level of nesting takes one character and two steps: one
for the value and one for what stands in it. -/
def skipMember {σ : Type} (state : σ) (source : Source) : Reading σ :=
  match passColon source with
  | .error fault => .error fault
  | .ok source => (skipValue (2 * source.length + 2) source).map (state, ·)

def Field.readItem {α : Type} (field : Field α) (record : String) (index fields : Nat)
    (source : Source) : Reading α :=
  match nextItem (index == 0) source with
  | .error fault => .error fault
  | .ok none =>
    match field.default with
    | some value => .ok (value, source)
    | none => .error (.wrongLength index record fields)
  | .ok (some source) => field.read source

def readRecord {α : Type} (record : String) (field : Field α) (source : Source) : Reading α :=
  match skipBlanks source with
  | [] => .error .endOfValue
  | some '[' :: rest =>
    match field.readItem record 0 1 rest with
    | .error fault => .error fault
    | .ok (value, rest) => (closeArray rest).map (value, ·)
  | some '\x7b' :: rest =>
    let member (seen : Option α) (key : String) (source : Source) :=
      if key = field.name then field.readMember seen source else skipMember seen source
    match readMembers member (rest.length + 1) true none rest with
    | .error fault => .error fault
    | .ok (seen, rest) => (field.settle seen).map (·, rest)
  | source => .error (mismatch ("struct " ++ record) source)

def readRecordOfTwo {α β : Type} (record : String) (left : Field α) (right : Field β)
    (source : Source) : Reading (α × β) :=
  match skipBlanks source with
  | [] => .error .endOfValue
  | some '[' :: rest =>
    match left.readItem record 0 2 rest with
    | .error fault => .error fault
    | .ok (a, rest) =>
      match right.readItem record 1 2 rest with
      | .error fault => .error fault
      | .ok (b, rest) => (closeArray rest).map ((a, b), ·)
  | some '\x7b' :: rest =>
    let member (seen : Option α × Option β) (key : String) (source : Source) :=
      if key = left.name then
        (left.readMember seen.1 source).map fun (a, rest) => ((a, seen.2), rest)
      else if key = right.name then
        (right.readMember seen.2 source).map fun (b, rest) => ((seen.1, b), rest)
      else skipMember seen source
    match readMembers member (rest.length + 1) true (none, none) rest with
    | .error fault => .error fault
    | .ok (seen, rest) =>
      match left.settle seen.1, right.settle seen.2 with
      | .ok a, .ok b => .ok ((a, b), rest)
      | .error fault, _ => .error fault
      | _, .error fault => .error fault
  | source => .error (mismatch ("struct " ++ record) source)

def finish {α : Type} (reading : Reading α) : Except Fault α :=
  match reading with
  | .error fault => .error fault
  | .ok (value, rest) => if skipBlanks rest = [] then .ok value else .error .trailingCharacters

def ofSource (source : Source) : Except Fault Json :=
  finish (readValue (source.length + 1) nestingLimit source)

def ofText (text : String) : Except Fault Json :=
  ofSource (Utf8.ofText text.toList)

end DeployCheck.Json
