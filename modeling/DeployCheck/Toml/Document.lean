import DeployCheck.Toml.Scalar
/-!
Whole TOML documents: lines that give a key its value, and headers that open a table. A document is
either read as the members of its root table or refused.
-/
namespace DeployCheck

open Text

namespace Toml

def nestingLimit : Nat := 80

/-! ### Keys -/

def isBareKeyChar (c : Char) : Bool :=
  isAlphanumeric c || c == '-' || c == '_'

def readKeyPart (text : List Char) : Reading String :=
  match text with
  | '"' :: rest => readBasic rest
  | '\'' :: rest => readLiteral rest
  | text =>
    match text.span isBareKeyChar with
    | ([], _) => none
    | (part, rest) => some (String.ofList part, rest)

def readKeyParts : Nat → List Char → Reading (List String)
  | 0, _ => none
  | fuel + 1, text =>
    match readKeyPart (skipSpaces text) with
    | none => none
    | some (part, rest) =>
      match skipSpaces rest with
      | '.' :: rest =>
        (readKeyParts fuel rest).map fun (parts, rest) => (part :: parts, rest)
      | rest => some ([part], rest)

def readKey (text : List Char) : Reading (List String) :=
  match readKeyParts (text.length + 1) text with
  | some (parts, rest) => if parts.length < nestingLimit then some (parts, rest) else none
  | none => none

def readKeyAndSign (text : List Char) : Reading (List String) :=
  match readKey text with
  | some (parts, '=' :: rest) => some (parts, skipSpaces rest)
  | _ => none

/-! ### Values -/

mutual

def readValue : Nat → Nat → List Char → Reading Toml
  | 0, _, _ => none
  | fuel + 1, depth, text =>
    match text with
    | '[' :: rest =>
      if depth + 1 < nestingLimit then
        match skipLines rest with
        | some (']' :: rest) => some (.array [], rest)
        | some rest => readItems fuel (depth + 1) [] rest
        | none => none
      else none
    | '\x7b' :: rest =>
      if depth + 1 < nestingLimit then
        match skipSpaces rest with
        | '\x7d' :: rest => some (.table .inline [], rest)
        | rest => readPairs fuel (depth + 1) [] rest
      else none
    | 't' :: 'r' :: 'u' :: 'e' :: rest => some (.boolean true, rest)
    | 'f' :: 'a' :: 'l' :: 's' :: 'e' :: rest => some (.boolean false, rest)
    | text =>
      match readString text with
      | some (s, rest) => some (.string s, rest)
      | none => ((readMoment text).or (readFloat text)).or (readInteger text)

def readItems : Nat → Nat → List Toml → List Char → Reading Toml
  | 0, _, _, _ => none
  | fuel + 1, depth, done, text =>
    match readValue fuel depth text with
    | none => none
    | some (value, rest) =>
      match skipLines rest with
      | some (']' :: rest) => some (.array (value :: done).reverse, rest)
      | some (',' :: rest) =>
        match skipLines rest with
        | some (']' :: rest) => some (.array (value :: done).reverse, rest)
        | some rest => readItems fuel depth (value :: done) rest
        | none => none
      | _ => none

/-- Reads a pair of an inline table and all that follow it up to the closing brace. -/
def readPairs : Nat → Nat → Members → List Char → Reading Toml
  | 0, _, _, _ => none
  | fuel + 1, depth, done, text =>
    match readKeyAndSign text with
    | none => none
    | some (key, rest) =>
      match readValue fuel depth rest with
      | none => none
      | some (value, rest) =>
        match add .inline false value key done, skipSpaces rest with
        | some members, '\x7d' :: rest => some (.table .inline members, rest)
        | some members, ',' :: rest => readPairs fuel depth members rest
        | _, _ => none

end

/-! ### Documents -/

/-- What has been read of a document: the root table, and the header that is in force. -/
structure Draft where
  root : Members
  header : List String

/-- Reads the parts of a header up to its closing brackets and the end of its line. -/
def readHeader (closing : List Char) (text : List Char) : Reading (List String) :=
  match readKey text with
  | none => none
  | some (parts, rest) =>
    match dropFront? closing rest with
    | none => none
    | some rest => (passLineEnd rest).map (parts, ·)

def Draft.open (draft : Draft) (change : String → Members → Option Members)
    (parts : List String) : Option Draft :=
  match parts.getLast? with
  | none => none
  | some key => (reach (change key) parts.dropLast draft.root).map (⟨·, parts⟩)

def readLine (draft : Draft) (text : List Char) : Reading Draft :=
  match text with
  | '[' :: '[' :: rest =>
    match readHeader [']', ']'] rest with
    | some (parts, rest) => (draft.open openItem parts).map (·, rest)
    | none => none
  | '[' :: rest =>
    match readHeader [']'] rest with
    | some (parts, rest) => (draft.open openTable parts).map (·, rest)
    | none => none
  | text =>
    match readKeyAndSign text with
    | none => none
    | some (key, rest) =>
      match readValue (rest.length + 1) 0 rest with
      | none => none
      | some (value, rest) =>
        match reach (add .headed false value key) draft.header draft.root, passLineEnd rest with
        | some root, some rest => some ({ draft with root }, rest)
        | _, _ => none

def readLines : Nat → Draft → List Char → Option Members
  | 0, _, _ => none
  | fuel + 1, draft, text =>
    match skipSpaces text with
    | [] => some draft.root
    | '#' :: rest => readLines fuel draft (rest.dropWhile isPrintable)
    | text =>
      match passBreak text with
      | some rest => readLines fuel draft rest
      | none =>
        match readLine draft text with
        | some (draft, rest) => readLines fuel draft rest
        | none => none

/-- The root table of a document. A byte order mark may stand in front. -/
def ofText (text : String) : Option Members :=
  let body :=
    match text.toList with
    | '\uFEFF' :: rest => rest
    | rest => rest
  readLines (body.length + 1) ⟨[], []⟩ body

end Toml

end DeployCheck
