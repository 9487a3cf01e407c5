import DeployCheck.Text.Ascii
import DeployCheck.Text.Blank
import DeployCheck.Text.Pieces
import DeployCheck.Text.Utf8
namespace DeployCheck.Charset

open Text

inductive Encoding
  | utf8
  | utf16 (bigEndian : Bool)
  | windows1252
  deriving DecidableEq, Repr

def westernNames : List String :=
  ["ansi_x3.4-1968", "ascii", "cp1252", "cp819", "csisolatin1", "ibm819", "iso-8859-1",
    "iso-ir-100", "iso8859-1", "iso88591", "iso_8859-1", "iso_8859-1:1987", "l1", "latin1",
    "us-ascii", "windows-1252", "x-cp1252"]

def lowByteFirstNames : List String :=
  ["csunicode", "iso-10646-ucs-2", "ucs-2", "unicode", "unicodefeff", "utf-16", "utf-16le"]

def highByteFirstNames : List String := ["unicodefffe", "utf-16be"]

/-- The encoding of a name; an unknown name leaves UTF-8. -/
def Encoding.ofName (name : List Char) : Encoding :=
  let name := String.ofList (lower (trim name))
  if name ∈ westernNames then .windows1252
  else if name ∈ lowByteFirstNames then .utf16 false
  else if name ∈ highByteFirstNames then .utf16 true
  else .utf8

def charsetOf? (parameter : List Char) : Option (List Char) :=
  (dropFront? "charset=".toList (lower (trim parameter))).map (·.filter (· ≠ '"'))

def charset? (contentType : List Char) : Option (List Char) :=
  (pieces ';' contentType).tail.findSome? charsetOf?

def westernSpecials : List Nat :=
  [0x20AC, 0x81, 0x201A, 0x0192, 0x201E, 0x2026, 0x2020, 0x2021, 0x02C6, 0x2030, 0x0160, 0x2039,
    0x0152, 0x8D, 0x017D, 0x8F, 0x90, 0x2018, 0x2019, 0x201C, 0x201D, 0x2022, 0x2013, 0x2014,
    0x02DC, 0x2122, 0x0161, 0x203A, 0x0153, 0x9D, 0x017E, 0x0178]

def westernChar (b : UInt8) : Char :=
  let n := b.toNat
  if 0x80 ≤ n ∧ n ≤ 0x9F then Char.ofNat (westernSpecials[n - 0x80]?.getD n) else Char.ofNat n

/-- The units of 16 bits; `none` stands for a byte left over. -/
def units (bigEndian : Bool) : Utf8.Bytes → List (Option Nat)
  | [] => []
  | [_] => [none]
  | a :: b :: rest =>
    let unit := if bigEndian then a.toNat * 256 + b.toNat else b.toNat * 256 + a.toNat
    some unit :: units bigEndian rest

def isHighHalf (unit : Nat) : Bool :=
  0xD800 ≤ unit && unit < 0xDC00

def isLowHalf (unit : Nat) : Bool :=
  0xDC00 ≤ unit && unit < 0xE000

/-- The characters that units of 16 bits spell, after the first half of one if that is given. -/
def ofUnits : Option Nat → List (Option Nat) → List Char
  | none, [] => []
  | some _, [] => ['\uFFFD']
  | none, none :: rest => '\uFFFD' :: ofUnits none rest
  | some _, none :: rest => '\uFFFD' :: '\uFFFD' :: ofUnits none rest
  | none, some unit :: rest =>
    if isHighHalf unit then ofUnits (some unit) rest
    else if isLowHalf unit then '\uFFFD' :: ofUnits none rest
    else Char.ofNat unit :: ofUnits none rest
  | some high, some unit :: rest =>
    if isLowHalf unit then
      Char.ofNat (0x10000 + (high - 0xD800) * 0x400 + (unit - 0xDC00)) :: ofUnits none rest
    else if isHighHalf unit then '\uFFFD' :: ofUnits (some unit) rest
    else '\uFFFD' :: Char.ofNat unit :: ofUnits none rest

def Encoding.decode : Encoding → Utf8.Bytes → String
  | utf8, bytes => Utf8.decodeLossy bytes
  | utf16 bigEndian, bytes => String.ofList (ofUnits none (units bigEndian bytes))
  | windows1252, bytes => String.ofList (bytes.map westernChar)

def decode (contentType : Option String) : Utf8.Bytes → String
  | 0xEF :: 0xBB :: 0xBF :: bytes => Encoding.utf8.decode bytes
  | 0xFF :: 0xFE :: bytes => (Encoding.utf16 false).decode bytes
  | 0xFE :: 0xFF :: bytes => (Encoding.utf16 true).decode bytes
  | bytes =>
    match contentType.bind fun contentType => charset? contentType.toList with
    | some name => (Encoding.ofName name).decode bytes
    | none => Encoding.utf8.decode bytes

end DeployCheck.Charset
