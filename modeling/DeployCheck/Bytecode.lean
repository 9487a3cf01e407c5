import DeployCheck.Error
import DeployCheck.Text.Ascii
/-!
Bytecode written in hexadecimal. The text is kept as it was given, prefix and case included; the
type holds the proof that the part after an optional `0x` is an even run of hexadecimal digits.
-/
namespace DeployCheck

open Text

inductive Origin
  | compiled
  | deployed
  | input
  deriving DecidableEq, Repr

def Origin.name : Origin → String
  | .compiled => "compiled"
  | .deployed => "deployed"
  | .input => "input"

/-- The text after one leading `0x` or `0X`. -/
def hexBody : List Char → List Char
  | '0' :: 'x' :: body => body
  | '0' :: 'X' :: body => body
  | text => text

def IsHexPairs (body : List Char) : Prop :=
  body.length % 2 = 0 ∧ ∀ c ∈ body, isHexDigit c = true

instance (body : List Char) : Decidable (IsHexPairs body) :=
  decidable_of_iff (body.length % 2 = 0 ∧ body.all isHexDigit = true) (by simp [IsHexPairs])

structure Bytecode where
  text : String
  wellFormed : IsHexPairs (hexBody text.toList)
  deriving DecidableEq

namespace Bytecode

def body (code : Bytecode) : List Char :=
  hexBody code.text.toList

def byteLength (code : Bytecode) : Nat :=
  code.body.length / 2

/-- No code at all. -/
def isEmpty (code : Bytecode) : Bool :=
  code.body.isEmpty

/-- The character whose code point is the first byte of `c` in UTF-8. -/
def leadByte (c : Char) : Char :=
  let n := c.toNat
  if n < 0x80 then c
  else if n < 0x800 then Char.ofNat (0xC0 + n / 0x40)
  else if n < 0x10000 then Char.ofNat (0xE0 + n / 0x1000)
  else Char.ofNat (0xF0 + n / 0x40000)

/-- What is wrong with a body that is not made of pairs of digits. The length in bytes is judged
first; a foreign character is reported by the byte it starts with. -/
def fault (body : List Char) : String :=
  if utf8Length body % 2 = 1 then
    "odd number of hex digits (" ++ showNat (utf8Length body) ++ ")"
  else
    match body.dropWhile isHexDigit with
    | c :: _ =>
      "non-hex character '" ++ String.singleton (leadByte c) ++ "' at offset " ++
        showNat (body.takeWhile isHexDigit).length
    | [] => ""

/-- Bytecode from a text with or without prefix. -/
def ofText (text : String) (origin : Origin) : Except VerificationError Bytecode :=
  if wellFormed : IsHexPairs (hexBody text.toList) then
    .ok ⟨text, wellFormed⟩
  else
    .error (.invalidBytecode origin.name (fault (hexBody text.toList)))

def ofDigits (digits : String) (origin : Origin) : Except VerificationError Bytecode :=
  ofText ("0x" ++ digits) origin

end Bytecode

end DeployCheck
