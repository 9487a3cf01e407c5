/-!
Labels in letters, digits and hyphens. The characters of a label that are ASCII are written first;
behind the last hyphen stand numbers, one for each other character, that say where it goes. Numbers
are counted over places and code points at once, so neighbouring characters need few digits.
-/
namespace DeployCheck.Domain.Punycode

/-! ### Numbers of mixed base -/

/-- The digits: `a` to `z`, then `0` to `9`. -/
def digit (n : Nat) : Char :=
  Char.ofNat (if n < 26 then 'a'.toNat + n else '0'.toNat + (n - 26))

def digitValue? (c : Char) : Option Nat :=
  if c.isLower then some (c.toNat - 'a'.toNat)
  else if c.isDigit then some (c.toNat - '0'.toNat + 26)
  else none

/-- The digits below this value end a number. Places are counted by the base, from 36 on. -/
def threshold (bias place : Nat) : Nat :=
  if place ≤ bias then 1 else if bias + 26 ≤ place then 26 else place - bias

theorem one_le_threshold (bias place : Nat) : 1 ≤ threshold bias place := by
  unfold threshold
  split
  · exact Nat.le_refl 1
  · split <;> omega

def biasFrom (size place : Nat) : Nat :=
  if 455 < size then biasFrom (size / 35) (place + 36) else place + 36 * size / (size + 38)
termination_by size
decreasing_by exact Nat.div_lt_self (by omega) (by omega)

/-- The bias after a number, when a label has so many characters. The first number counts from the
start of the code points and is damped more than the others. -/
def adapt (number characters : Nat) (isFirst : Bool) : Nat :=
  let size := number / (if isFirst then 700 else 2)
  biasFrom (size + size / characters) 0

def writeNumber (bias place number : Nat) : List Char :=
  let threshold := threshold bias place
  if number < threshold then [digit number]
  else
    digit (threshold + (number - threshold) % (36 - threshold)) ::
      writeNumber bias (place + 36) ((number - threshold) / (36 - threshold))
termination_by number
decreasing_by
  have := one_le_threshold bias place
  exact Nat.lt_of_le_of_lt (Nat.div_le_self _ _) (by omega)

/-! ### Writing -/

/-- How far the writer is: the digits so far, the distance passed since the last number, and how
many characters are written. -/
structure Writer where
  digits : List Char
  distance : Nat
  bias : Nat
  written : Nat

def Writer.pass (basic code : Nat) (writer : Writer) (c : Char) : Writer :=
  if c.toNat < code then { writer with distance := writer.distance + 1 }
  else if c.toNat = code then
    { digits := writer.digits ++ writeNumber writer.bias 36 writer.distance
      distance := 0
      bias := adapt writer.distance (writer.written + 1) (writer.written == basic)
      written := writer.written + 1 }
  else writer

/-- Writes the characters of the given code points, the least not passed so far being `next`. -/
def Writer.writeAll (label : List Char) (basic : Nat) :
    Nat → List Nat → Writer → Writer
  | _, [], writer => writer
  | next, code :: codes, writer =>
    let far := { writer with
      distance := writer.distance + (code - next) * (writer.written + 1) }
    let done := label.foldl (Writer.pass basic code) far
    writeAll label basic (code + 1) codes { done with distance := done.distance + 1 }

def isBasic (c : Char) : Bool :=
  c.toNat < 0x80

def encode (label : List Char) : List Char :=
  let basic := label.filter isBasic
  let codes := ((label.filter (!isBasic ·)).map Char.toNat).mergeSort.eraseDups
  basic ++ (if basic = [] then [] else ['-']) ++
    (Writer.writeAll label basic.length 0x80 codes ⟨[], 0, 72, basic.length⟩).digits

/-! ### Reading -/

/-- How far the reader is: the characters so far, the code point reached, the place reached, where
it stood before the number that is being read, and the next digit's place and weight. -/
structure Reader where
  label : List Char
  code : Nat
  position : Nat
  start : Nat
  bias : Nat
  place : Nat
  weight : Nat

def Reader.isBetween (reader : Reader) : Bool :=
  reader.place == 36

def Reader.insert? (reader : Reader) : Option Reader :=
  let characters := reader.label.length + 1
  let code := reader.code + reader.position / characters
  let position := reader.position % characters
  if code.isValidChar then
    some
      { label := reader.label.take position ++ Char.ofNat code :: reader.label.drop position
        code
        position := position + 1
        start := position + 1
        bias := adapt (reader.position - reader.start) characters (reader.start == 0)
        place := 36
        weight := 1 }
  else none

/-- Reads one digit. Numbers of more than 32 bits are refused. -/
def Reader.read? (reader : Reader) (c : Char) : Option Reader :=
  match digitValue? c with
  | none => none
  | some value =>
    let threshold := threshold reader.bias reader.place
    let reader := { reader with position := reader.position + value * reader.weight }
    if Nat.pow 2 32 ≤ reader.position then none
    else if value < threshold then reader.insert?
    else if Nat.pow 2 32 ≤ reader.weight * (36 - threshold) then none
    else
      some { reader with
        place := reader.place + 36
        weight := reader.weight * (36 - threshold) }

/-- The label that letters, digits and hyphens write. A hyphen needs characters in front of it. -/
def decode? (text : List Char) : Option (List Char) :=
  let digits := (text.reverse.takeWhile (· ≠ '-')).reverse
  let basic := text.take (text.length - digits.length - 1)
  if digits ≠ text ∧ basic = [] then none
  else
    match digits.foldlM Reader.read? ⟨basic, 0x80, 0, 0, 72, 36, 1⟩ with
    | some reader => if reader.isBetween then some reader.label else none
    | none => none

end DeployCheck.Domain.Punycode
