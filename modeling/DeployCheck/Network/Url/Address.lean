import DeployCheck.Text.Ascii
import DeployCheck.Text.Pieces
/-!
Addresses as hosts: four bytes, written as one to four numbers between points, and eight groups of
16 bits, written between colons with at most one run of zeros left out.
-/
namespace DeployCheck

open Text

namespace Url

/-! ### Four bytes -/

/-- The number that digits write in a base; no digits write zero. -/
def digitsIn? (base : Nat) (digits : List Char) : Option Nat :=
  digits.foldlM
    (fun value c => (hexValue? c).bind fun digit =>
      if digit < base then some (value * base + digit) else none)
    0

/-- The number that one part of a numeric address writes: hexadecimal after `0x`, octal after `0`.
-/
def addressPart? : List Char → Option Nat
  | [] => none
  | '0' :: 'x' :: digits => digitsIn? 16 digits
  | '0' :: 'X' :: digits => digitsIn? 16 digits
  | '0' :: digit :: digits => digitsIn? 8 (digit :: digits)
  | digits => digitsIn? 10 digits

def hostLabels (host : List Char) : List (List Char) :=
  let labels := pieces '.' host
  if labels.length > 1 ∧ labels.getLast? = some [] then labels.dropLast else labels

def endsInNumber (host : List Char) : Bool :=
  match (hostLabels host).getLast? with
  | some label => label ≠ [] && (label.all Char.isDigit || (addressPart? label).isSome)
  | none => false

/-- The four bytes of an address of one to four parts; the last part fills what is left. -/
def address4? (host : List Char) : Option (List Nat) :=
  let labels := hostLabels host
  if labels.length > 4 then none
  else
    match labels.mapM addressPart? with
    | none => none
    | some parts =>
      let front := parts.dropLast
      match parts.getLast? with
      | none => none
      | some last =>
        if front.any (255 < ·) ∨ Nat.pow 256 (4 - front.length) ≤ last then none
        else
          let fill :=
            (List.range (4 - front.length)).reverse.map fun k => last / Nat.pow 256 k % 256
          some (front ++ fill)

def address4Text (bytes : List Nat) : String :=
  ".".intercalate (bytes.map showNat)

/-! ### Eight groups -/

def group? (digits : List Char) : Option Nat :=
  if digits = [] ∨ digits.length > 4 then none else digitsIn? 16 digits

def byte? (digits : List Char) : Option Nat :=
  if digits = [] ∨ (digits.length > 1 ∧ digits.head? = some '0') then none
  else (digitsIn? 10 digits).filter (· ≤ 255)

def groupsOfBytes? (text : List Char) : Option (List Nat) :=
  match (pieces '.' text).mapM byte? with
  | some [a, b, c, d] => some [a * 256 + b, c * 256 + d]
  | _ => none

/-- The groups between colons. The last piece of an address may be four bytes. -/
def groups? (atEnd : Bool) (text : List Char) : Option (List Nat) :=
  if text = [] then some []
  else
    let texts := pieces ':' text
    match texts.dropLast.mapM group?, texts.getLast? with
    | some front, some last =>
      (if atEnd ∧ '.' ∈ last then groupsOfBytes? last else (group? last).map ([·])).map (front ++ ·)
    | _, _ => none

def splitGap? : List Char → Option (List Char × List Char)
  | ':' :: ':' :: rest => some ([], rest)
  | c :: rest => (splitGap? rest).map fun (front, back) => (c :: front, back)
  | [] => none

/-- The groups of an address. A pair of colons stands for at least one group of zeros. -/
def address6? (text : List Char) : Option (List Nat) :=
  match splitGap? text with
  | none => (groups? true text).filter (·.length = 8)
  | some (front, back) =>
    match groups? false front, groups? true back with
    | some front, some back =>
      if front.length + back.length < 8 then
        some (front ++ List.replicate (8 - front.length - back.length) 0 ++ back)
      else none
    | _, _ => none

/-- The longest run of at least two zero groups: where it starts and how long it is. -/
def zeroRun (groups : List Nat) : Nat × Nat :=
  (List.range 8).foldl
    (fun best start =>
      let length := ((groups.drop start).takeWhile (· == 0)).length
      if 1 < length ∧ best.2 < length then (start, length) else best)
    (0, 0)

def address6Text (groups : List Nat) : String :=
  let show1 (group : Nat) : String := String.ofList (Nat.toDigits 16 group)
  let (start, length) := zeroRun groups
  if length = 0 then "[" ++ ":".intercalate (groups.map show1) ++ "]"
  else
    "[" ++ ":".intercalate ((groups.take start).map show1) ++ "::" ++
      ":".intercalate ((groups.drop (start + length)).map show1) ++ "]"

end Url

end DeployCheck
