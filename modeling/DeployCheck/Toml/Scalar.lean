import DeployCheck.Number.Binary64
import DeployCheck.Text.Ascii
import DeployCheck.Toml.Table
/-!
The parts of a TOML document that hold no values of their own: blanks and comments, strings, numbers
and moments in time. A reader answers with what it read and what follows, or with nothing if no such
part stands at the front.
-/
namespace DeployCheck

open Text

namespace Toml

abbrev Reading (α : Type) := Option (α × List Char)

/-! ### Blanks and comments -/

def isSpace (c : Char) : Bool :=
  c == ' ' || c == '\t'

def skipSpaces (text : List Char) : List Char :=
  text.dropWhile isSpace

/-- A character that may stand in a comment: a tab, or anything that is no control character. -/
def isPrintable (c : Char) : Bool :=
  c == '\t' || (0x20 ≤ c.toNat && c.toNat ≠ 0x7F)

def passBreak : List Char → Option (List Char)
  | '\n' :: rest => some rest
  | '\r' :: '\n' :: rest => some rest
  | _ => none

def skipComment : List Char → List Char
  | '#' :: rest => rest.dropWhile isPrintable
  | text => text

def passLineEnd (text : List Char) : Option (List Char) :=
  match skipComment (skipSpaces text) with
  | [] => some []
  | rest => passBreak rest

/-- Passes blanks, comments and line breaks; a number of lines is the fuel. -/
def skipLinesFrom : Nat → List Char → Option (List Char)
  | 0, text => some text
  | fuel + 1, text =>
    match skipSpaces text with
    | '#' :: rest => (passBreak (rest.dropWhile isPrintable)).bind (skipLinesFrom fuel)
    | rest =>
      match passBreak rest with
      | some rest => skipLinesFrom fuel rest
      | none => some rest

/-- Passes blanks, comments and line breaks. A comment has to end in a line break. -/
def skipLines (text : List Char) : Option (List Char) :=
  skipLinesFrom (text.length + 1) text

/-! ### Strings -/

def hexNumber (digits : List Char) : Option Nat :=
  digits.foldl (fun value digit => do return (← value) * 16 + (← hexValue? digit)) (some 0)

def readCode (count : Nat) (text : List Char) : Reading Char :=
  match hexNumber (text.take count) with
  | some code =>
    if (text.take count).length = count ∧ code.isValidChar then
      some (Char.ofNat code, text.drop count)
    else none
  | none => none

def readEscape : List Char → Reading Char
  | 'b' :: rest => some ('\x08', rest)
  | 't' :: rest => some ('\t', rest)
  | 'n' :: rest => some ('\n', rest)
  | 'f' :: rest => some ('\x0c', rest)
  | 'r' :: rest => some ('\r', rest)
  | '"' :: rest => some ('"', rest)
  | '\\' :: rest => some ('\\', rest)
  | 'u' :: rest => readCode 4 rest
  | 'U' :: rest => readCode 8 rest
  | _ => none

def readLiteral (text : List Char) : Reading String :=
  match text.span fun c => isPrintable c && c != '\'' with
  | (body, '\'' :: rest) => some (String.ofList body, rest)
  | _ => none

/-- Reads the rest of a string between double quotes, with what was read of it so far. -/
def readBasicFrom : Nat → List Char → List Char → Reading String
  | 0, _, _ => none
  | fuel + 1, done, text =>
    match text with
    | '"' :: rest => some (String.ofList done.reverse, rest)
    | '\\' :: rest =>
      match readEscape rest with
      | some (c, rest) => readBasicFrom fuel (c :: done) rest
      | none => none
    | c :: rest => if isPrintable c then readBasicFrom fuel (c :: done) rest else none
    | [] => none

def readBasic (text : List Char) : Reading String :=
  readBasicFrom (text.length + 1) [] text

/-- Passes the blanks and line breaks that a backslash at the end of a line swallows. -/
def skipFold : List Char → List Char
  | ' ' :: rest => skipFold rest
  | '\t' :: rest => skipFold rest
  | '\n' :: rest => skipFold rest
  | '\r' :: '\n' :: rest => skipFold rest
  | text => text

/-- Passes the end of a string of several lines. Up to two quotes before the closing ones belong to
the string. -/
def passClosing (quote : Char) (text : List Char) : Option (List Char × List Char) :=
  let run := text.takeWhile (· == quote)
  if run.length < 3 then none
  else
    let inside := min (run.length - 3) 2
    some (List.replicate inside quote, text.drop (inside + 3))

/-- Reads the rest of a string of several lines. Every line break in it is read as a line feed. -/
def readLongFrom (quote : Char) (escapes : Bool) : Nat → List Char → List Char → Reading String
  | 0, _, _ => none
  | fuel + 1, done, text =>
    match passClosing quote text with
    | some (inside, rest) => some (String.ofList (done.reverse ++ inside), rest)
    | none =>
      match passBreak text with
      | some rest => readLongFrom quote escapes fuel ('\n' :: done) rest
      | none =>
        match text with
        | [] => none
        | c :: rest =>
          if escapes ∧ c = '\\' then
            match passBreak (skipSpaces rest) with
            | some rest => readLongFrom quote escapes fuel done (skipFold rest)
            | none =>
              match readEscape rest with
              | some (c, rest) => readLongFrom quote escapes fuel (c :: done) rest
              | none => none
          else if isPrintable c then readLongFrom quote escapes fuel (c :: done) rest
          else none

/-- Reads the rest of a string of several lines. A line break right behind the opening quotes does
not count. -/
def readLong (quote : Char) (escapes : Bool) (text : List Char) : Reading String :=
  let body := (passBreak text).getD text
  readLongFrom quote escapes (body.length + 1) [] body

def readString : List Char → Reading String
  | '"' :: '"' :: '"' :: rest => readLong '"' true rest
  | '"' :: rest => readBasic rest
  | '\'' :: '\'' :: '\'' :: rest => readLong '\'' false rest
  | '\'' :: rest => readLiteral rest
  | _ => none

/-! ### Numbers -/

def readDigits (isDigit : Char → Bool) : List Char → Reading (List Char)
  | c :: '_' :: rest =>
    if isDigit c then
      match readDigits isDigit rest with
      | some (digits, rest) => some (c :: digits, rest)
      | none => none
    else none
  | c :: rest =>
    if isDigit c then
      match readDigits isDigit rest with
      | some (digits, rest) => some (c :: digits, rest)
      | none => some ([c], rest)
    else none
  | [] => none

/-- Reads a sign if there is one; a minus is true. -/
def readSign : List Char → Bool × List Char
  | '-' :: rest => (true, rest)
  | '+' :: rest => (false, rest)
  | text => (false, text)

/-- Reads the digits of a whole number. Only zero itself starts with a zero. -/
def readWhole : List Char → Reading (List Char)
  | '0' :: rest => some (['0'], rest)
  | text => readDigits Char.isDigit text

def signed? (negative : Bool) (n : Nat) : Option Int :=
  if negative then if n ≤ Nat.pow 2 63 then some (-n) else none
  else if n < Nat.pow 2 63 then some n else none

def inBase (base : Nat) (digits : List Char) : Nat :=
  digits.foldl (fun value digit => value * base + (hexValue? digit).getD 0) 0

def readMarked (base : Nat) (isDigit : Char → Bool) (text : List Char) : Reading Toml :=
  match readDigits isDigit text with
  | some (digits, rest) => (signed? false (inBase base digits)).map fun n => (.integer n, rest)
  | none => none

def readInteger : List Char → Reading Toml
  | '0' :: 'x' :: rest => readMarked 16 isHexDigit rest
  | '0' :: 'o' :: rest => readMarked 8 (fun c => '0' ≤ c && c ≤ '7') rest
  | '0' :: 'b' :: rest => readMarked 2 (fun c => c == '0' || c == '1') rest
  | text =>
    let (negative, text) := readSign text
    match readWhole text with
    | some (digits, rest) =>
      (signed? negative (decimalValue digits)).map fun n => (.integer n, rest)
    | none => none

def readExponent : List Char → Reading Int
  | c :: rest =>
    if c = 'e' ∨ c = 'E' then
      let (negative, rest) := readSign rest
      (readDigits Char.isDigit rest).map fun (digits, rest) =>
        (if negative then -(decimalValue digits : Int) else decimalValue digits, rest)
    else none
  | [] => none

def overflows (digits : List Char) (exponent : Int) : Bool :=
  let significant := digits.dropWhile (· == '0')
  if significant = [] ∨ significant.length + exponent < 300 then false
  else if significant.length + exponent > 320 then true
  else
    let (num, den) : Nat × Nat :=
      if 0 ≤ exponent then (decimalValue significant * Nat.pow 10 exponent.toNat, 1)
      else (decimalValue significant, Nat.pow 10 (-exponent).toNat)
    (Binary64.ofRatio num den).isNone

/-- Reads a number with a fraction or an exponent. One too large for the 64-bit format is refused.
-/
def readFloat (text : List Char) : Reading Toml :=
  let (negative, text) := readSign text
  match text with
  | 'i' :: 'n' :: 'f' :: rest => some (.float, rest)
  | 'n' :: 'a' :: 'n' :: rest => some (.float, rest)
  | text =>
    match readWhole text with
    | none => none
    | some (whole, rest) =>
      let judge (digits : List Char) (exponent : Int) (rest : List Char) : Reading Toml :=
        if !negative ∧ overflows digits exponent then none else some (.float, rest)
      match rest with
      | '.' :: rest =>
        match readDigits Char.isDigit rest with
        | none => none
        | some (fraction, rest) =>
          let digits := whole ++ fraction
          match readExponent rest with
          | some (exponent, rest) => judge digits (exponent - fraction.length) rest
          | none => judge digits (-fraction.length) rest
      | rest =>
        match readExponent rest with
        | some (exponent, rest) => judge whole exponent rest
        | none => none

/-! ### Moments in time -/

def readField (count low high : Nat) (text : List Char) : Reading Nat :=
  let digits := text.take count
  if digits.length = count ∧ digits.all Char.isDigit ∧ low ≤ decimalValue digits ∧
      decimalValue digits ≤ high then
    some (decimalValue digits, text.drop count)
  else none

def passChar (c : Char) : List Char → Option (List Char)
  | d :: rest => if d = c then some rest else none
  | [] => none

def daysOf (year month : Nat) : Nat :=
  if month = 2 then
    if year % 4 = 0 ∧ (year % 100 ≠ 0 ∨ year % 400 = 0) then 29 else 28
  else if month ∈ [4, 6, 9, 11] then 30
  else 31

def passDate (text : List Char) : Option (List Char) := do
  let (year, text) ← readField 4 0 9999 text
  let text ← passChar '-' text
  let (month, text) ← readField 2 1 12 text
  let text ← passChar '-' text
  let (_, text) ← readField 2 1 (daysOf year month) text
  return text

def passFraction (text : List Char) : Option (List Char) :=
  match text with
  | '.' :: c :: rest => if c.isDigit then some (rest.dropWhile Char.isDigit) else none
  | '.' :: [] => none
  | _ => some text

def passTime (text : List Char) : Option (List Char) := do
  let (_, text) ← readField 2 0 23 text
  let text ← passChar ':' text
  let (_, text) ← readField 2 0 59 text
  let text ← passChar ':' text
  let (_, text) ← readField 2 0 60 text
  passFraction text

def passOffset (text : List Char) : Option (List Char) :=
  match text with
  | c :: rest =>
    if c = 'Z' ∨ c = 'z' then some rest
    else if c = '+' ∨ c = '-' then do
      let (_, rest) ← readField 2 0 23 rest
      let rest ← passChar ':' rest
      let (_, rest) ← readField 2 0 59 rest
      return rest
    else some text
  | [] => some []

def readMoment (text : List Char) : Reading Toml :=
  match passDate text with
  | none => (passTime text).map (.moment, ·)
  | some rest =>
    match rest with
    | c :: after =>
      if c = 'T' ∨ c = 't' ∨ c = ' ' then
        match passTime after with
        | some rest => (passOffset rest).map (.moment, ·)
        | none => some (.moment, rest)
      else some (.moment, rest)
    | [] => some (.moment, [])

end Toml

end DeployCheck
