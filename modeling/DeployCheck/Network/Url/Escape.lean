import DeployCheck.Text.Ascii
import DeployCheck.Text.Utf8
namespace DeployCheck

open Text

namespace Url

def escapeByte (b : UInt8) : List Char :=
  ['%', (Nat.digitChar (b.toNat / 16)).toUpper, (Nat.digitChar (b.toNat % 16)).toUpper]

def escape (special : List Char) (text : List Char) : List Char :=
  text.flatMap fun c =>
    if c.toNat < 0x20 ∨ 0x7E < c.toNat ∨ c ∈ special then
      (String.utf8EncodeChar c).flatMap escapeByte
    else [c]

def unescape : List Char → Utf8.Bytes
  | '%' :: a :: b :: rest =>
    match hexValue? a, hexValue? b with
    | some high, some low => UInt8.ofNat (high * 16 + low) :: unescape rest
    | _, _ => String.utf8EncodeChar '%' ++ unescape (a :: b :: rest)
  | c :: rest => String.utf8EncodeChar c ++ unescape rest
  | [] => []

def fragmentSpecials : List Char := [' ', '"', '<', '>', '`']

def pathSpecials : List Char := fragmentSpecials ++ ['#', '?', '\x7b', '\x7d']

def userSpecials : List Char := pathSpecials ++ ['/', ':', ';', '=', '@', '[', '\\', ']', '^', '|']

def querySpecials : List Char := [' ', '"', '#', '<', '>']

end Url

end DeployCheck
