import DeployCheck.Json.Fault
import DeployCheck.Text.Utf8
/-!
Reading the parts of JSON that have no parts of their own: blanks, words, strings and numbers. The
source is a list of symbols, so that a gap in the UTF-8 of a message is found where a reader meets
it.
-/
namespace DeployCheck.Json

open Text Utf8

abbrev Source := List Symbol

abbrev Reading (α : Type) := Except Fault (α × Source)

def isJsonBlank (c : Char) : Bool :=
  c == ' ' || c == '\n' || c == '\t' || c == '\r'

def skipBlanks : Source → Source
  | some c :: rest => if isJsonBlank c then skipBlanks rest else some c :: rest
  | source => source

def readWord : List Char → Source → Except Fault Source
  | [], source => .ok source
  | _ :: _, [] => .error .endOfValue
  | c :: word, symbol :: rest =>
    if symbol = some c then readWord word rest else .error .expectedWord

/-! ### Strings -/

def byteCount (source : Source) : Nat :=
  source.foldr
    (fun symbol bytes =>
      match symbol with
      | some c => c.utf8Size + bytes
      | none => 1 + bytes)
    0

/-- Four hexadecimal digits. A source of fewer than four bytes ends too early. -/
def readHexQuad : Source → Reading Nat
  | some a :: some b :: some c :: some d :: rest =>
    match hexValue? a, hexValue? b, hexValue? c, hexValue? d with
    | some a, some b, some c, some d => .ok (((a * 16 + b) * 16 + c) * 16 + d, rest)
    | _, _, _, _ => .error .invalidEscape
  | source => if byteCount source < 4 then .error .endOfString else .error .invalidEscape

/-- The character after a backslash and a `u`: one group of digits, or two that form a pair. -/
def readUnicodeEscape (source : Source) : Reading Char :=
  match readHexQuad source with
  | .error fault => .error fault
  | .ok (high, rest) =>
    if 0xDC00 ≤ high ∧ high ≤ 0xDFFF then .error .loneSurrogate
    else if high < 0xD800 ∨ 0xDBFF < high then .ok (Char.ofNat high, rest)
    else
      match rest with
      | [] => .error .endOfString
      | [some '\\'] => .error .endOfString
      | some '\\' :: some 'u' :: rest =>
        match readHexQuad rest with
        | .error fault => .error fault
        | .ok (low, rest) =>
          if low < 0xDC00 ∨ 0xDFFF < low then .error .loneSurrogate
          else .ok (Char.ofNat ((high - 0xD800) * 0x400 + (low - 0xDC00) + 0x10000), rest)
      | _ => .error .brokenSurrogatePair

def shortEscape? (c : Char) : Option Char :=
  if c = '"' then some '"'
  else if c = '\\' then some '\\'
  else if c = '/' then some '/'
  else if c = 'b' then some '\x08'
  else if c = 'f' then some '\x0c'
  else if c = 'n' then some '\n'
  else if c = 'r' then some '\r'
  else if c = 't' then some '\t'
  else none

def readEscape : Source → Reading Char
  | [] => .error .endOfString
  | some 'u' :: rest => readUnicodeEscape rest
  | some c :: rest =>
    match shortEscape? c with
    | some plain => .ok (plain, rest)
    | none => .error .invalidEscape
  | none :: _ => .error .invalidEscape

/-- The symbols up to the closing quote; `done` holds those already read, last first. -/
def readStringFrom : Nat → List Symbol → Source → Reading (List Symbol)
  | 0, _, _ => .error .endOfString
  | _ + 1, _, [] => .error .endOfString
  | fuel + 1, done, none :: rest => readStringFrom fuel (none :: done) rest
  | fuel + 1, done, some c :: rest =>
    if c = '"' then .ok (done.reverse, rest)
    else if c = '\\' then
      match readEscape rest with
      | .error fault => .error fault
      | .ok (plain, rest) => readStringFrom fuel (some plain :: done) rest
    else if c.toNat < 0x20 then .error .controlCharacter
    else readStringFrom fuel (some c :: done) rest

def readString (source : Source) : Reading String :=
  match readStringFrom (source.length + 1) [] source with
  | .error fault => .error fault
  | .ok (symbols, rest) =>
    match symbols.mapM id with
    | some text => .ok (String.ofList text, rest)
    | none => .error .invalidCodePoint

/-- Passes over a string from behind its opening quote. Escapes need their form, and no more. -/
def skipStringFrom : Nat → Source → Except Fault Source
  | 0, _ => .error .endOfString
  | _ + 1, [] => .error .endOfString
  | fuel + 1, none :: rest => skipStringFrom fuel rest
  | fuel + 1, some c :: rest =>
    if c = '"' then .ok rest
    else if c = '\\' then
      match rest with
      | [] => .error .endOfString
      | some 'u' :: rest =>
        match readHexQuad rest with
        | .error fault => .error fault
        | .ok (_, rest) => skipStringFrom fuel rest
      | some c :: rest =>
        if (shortEscape? c).isSome then skipStringFrom fuel rest else .error .invalidEscape
      | none :: _ => .error .invalidEscape
    else if c.toNat < 0x20 then .error .controlCharacter
    else skipStringFrom fuel rest

def skipString (source : Source) : Except Fault Source :=
  skipStringFrom (source.length + 1) source

/-! ### Numbers -/

def digit? : Source → Option Nat
  | some c :: _ => if c.isDigit then some (c.toNat - '0'.toNat) else none
  | _ => none

/-- Digits at the front of a source that still fit the significand: the significand with them, their
number, and the rest. A digit that would pass the 64-bit word stays in the rest. -/
def takeDigits (significand count : Nat) : Source → Nat × Nat × Source
  | some c :: rest =>
    if c.isDigit ∧ significand * 10 + (c.toNat - '0'.toNat) ≤ maxWord then
      takeDigits (significand * 10 + (c.toNat - '0'.toNat)) (count + 1) rest
    else (significand, count, some c :: rest)
  | source => (significand, count, source)

def dropDigits (count : Nat) : Source → Nat × Source
  | some c :: rest => if c.isDigit then dropDigits (count + 1) rest else (count, some c :: rest)
  | source => (count, source)

/-- Divides by `10 ^ 308` while the exponent lies below the table of powers. -/
def scaleUp : Nat → Binary64 → Int → Option (Binary64 × Int)
  | 0, x, exponent => some (x, exponent)
  | fuel + 1, x, exponent =>
    if exponent < -308 ∧ x.significand ≠ 0 then
      match Binary64.tenPower? 308 with
      | some power => (x.div? power).bind fun x => scaleUp fuel x (exponent + 308)
      | none => none
    else some (x, exponent)

/-- The number `significand * 10 ^ exponent`: the significand is rounded, then scaled by rounded
powers of ten, one rounding for each step. -/
def assemble (positive : Bool) (significand : Nat) (exponent : Int) : Except Fault Number :=
  let scaled : Option Binary64 :=
    (Binary64.ofNat? significand).bind fun x =>
      if x.significand = 0 then some x
      else if 308 < exponent then none
      else
        (scaleUp exponent.natAbs x exponent).bind fun (x, exponent) =>
          if x.significand = 0 then some x
          else
            (Binary64.tenPower? exponent.natAbs).bind fun power =>
              if 0 ≤ exponent then x.mul? power else x.div? power
  match scaled with
  | some x => .ok (.binary ⟨!positive, x⟩)
  | none => .error .numberOutOfRange

/-- The exponent of a number, read from behind the `e`. -/
def readExponent (positive : Bool) (significand : Nat) (start : Int) (source : Source) :
    Reading Number :=
  let (positiveExponent, source) :=
    match source with
    | some '+' :: rest => (true, rest)
    | some '-' :: rest => (false, rest)
    | source => (true, source)
  match source with
  | [] => .error .endOfValue
  | _ :: _ =>
    match digit? source with
    | none => .error .invalidNumber
    | some _ =>
      let (count, rest) := dropDigits 0 source
      let exponent := decimalValue ((source.take count).filterMap id)
      if Nat.pow 2 31 - 1 < exponent then
        if significand ≠ 0 ∧ positiveExponent then .error .numberOutOfRange
        else .ok (.binary ⟨!positive, .zero⟩, rest)
      else
        let exponent : Int := if positiveExponent then start + exponent else start - exponent
        (assemble positive significand exponent).map fun n => (n, rest)

def readTail (positive : Bool) (significand : Nat) (exponent : Int) (source : Source) :
    Reading Number :=
  match source with
  | some 'e' :: rest => readExponent positive significand exponent rest
  | some 'E' :: rest => readExponent positive significand exponent rest
  | source => (assemble positive significand exponent).map fun n => (n, source)

/-- The digits behind the point. Those that no longer fit the significand are passed over. -/
def readFraction (positive : Bool) (significand : Nat) (exponent : Int) (source : Source) :
    Reading Number :=
  let (significand, count, rest) := takeDigits significand 0 source
  match digit? rest with
  | some _ => readTail positive significand (exponent - count) (dropDigits 0 rest).2
  | none =>
    if count = 0 then
      match rest with
      | [] => .error .endOfValue
      | _ :: _ => .error .invalidNumber
    else readTail positive significand (exponent - count) rest

def readAfterWhole (positive : Bool) (significand : Nat) (source : Source) : Reading Number :=
  match source with
  | some '.' :: rest => readFraction positive significand 0 rest
  | some 'e' :: rest => readExponent positive significand 0 rest
  | some 'E' :: rest => readExponent positive significand 0 rest
  | source =>
    if positive then .ok (.whole significand, source)
    else if significand = 0 then .ok (.binary ⟨true, .zero⟩, source)
    else if significand ≤ Nat.pow 2 63 then .ok (.negative significand, source)
    else (assemble false significand 0).map fun n => (n, source)

/-- A whole part that has outgrown the 64-bit word: further digits only raise the exponent. -/
def readLongWhole (positive : Bool) (significand : Nat) (source : Source) : Reading Number :=
  let (count, rest) := dropDigits 0 source
  match rest with
  | some '.' :: rest => readFraction positive significand count rest
  | rest => readTail positive significand count rest

def readNumber (positive : Bool) (source : Source) : Reading Number :=
  match source with
  | [] => .error .endOfValue
  | some '0' :: rest =>
    match digit? rest with
    | some _ => .error .invalidNumber
    | none => readAfterWhole positive 0 rest
  | source =>
    match digit? source with
    | none => .error .invalidNumber
    | some _ =>
      let (significand, _, rest) := takeDigits 0 0 source
      match digit? rest with
      | some _ => readLongWhole positive significand rest
      | none => readAfterWhole positive significand rest

/-- Passes over the exponent of a number, from behind the `e`. -/
def skipExponent (source : Source) : Except Fault Source :=
  let source :=
    match source with
    | some '+' :: rest => rest
    | some '-' :: rest => rest
    | source => source
  match digit? source with
  | some _ => .ok (dropDigits 0 source).2
  | none => .error .invalidNumber

def skipAfterWhole (source : Source) : Except Fault Source :=
  match source with
  | some '.' :: rest =>
    match digit? rest with
    | none => .error .invalidNumber
    | some _ =>
      match (dropDigits 0 rest).2 with
      | some 'e' :: rest => skipExponent rest
      | some 'E' :: rest => skipExponent rest
      | rest => .ok rest
  | some 'e' :: rest => skipExponent rest
  | some 'E' :: rest => skipExponent rest
  | source => .ok source

def skipNumber (source : Source) : Except Fault Source :=
  match source with
  | some '0' :: rest =>
    match digit? rest with
    | some _ => .error .invalidNumber
    | none => skipAfterWhole rest
  | source =>
    match digit? source with
    | none => .error .invalidNumber
    | some _ => skipAfterWhole (dropDigits 0 source).2

end DeployCheck.Json
