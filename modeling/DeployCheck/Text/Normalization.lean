import DeployCheck.Text.CombiningClass
import DeployCheck.Text.Composite
/-!
The composed normal form of a text: characters are taken apart, marks are put in the order of their
classes, and a character joins the marks behind it wherever a composite stands for both. A character
that is only another spelling of a single one stays as it is.
-/
namespace DeployCheck.Text

/-! ### Syllables of Hangul -/

/-- A syllable of two or three letters, which follow from its place among all syllables. -/
def isSyllable (c : Char) : Bool :=
  0xAC00 ≤ c.toNat && c.toNat < 0xAC00 + 19 * 21 * 28

def syllableLetters (c : Char) : List Char :=
  let place := c.toNat - 0xAC00
  let tail := place % 28
  [Char.ofNat (0x1100 + place / (21 * 28)), Char.ofNat (0x1161 + place / 28 % 21)] ++
    if tail = 0 then [] else [Char.ofNat (0x11A7 + tail)]

/-- The syllable of two letters, or of a syllable without a third letter and that letter. -/
def joinSyllable? (a b : Char) : Option Char :=
  if 0x1100 ≤ a.toNat ∧ a.toNat < 0x1100 + 19 ∧ 0x1161 ≤ b.toNat ∧ b.toNat < 0x1161 + 21 then
    some (Char.ofNat (0xAC00 + ((a.toNat - 0x1100) * 21 + (b.toNat - 0x1161)) * 28))
  else if isSyllable a ∧ (a.toNat - 0xAC00) % 28 = 0 ∧ 0x11A7 < b.toNat ∧ b.toNat < 0x11A7 + 28 then
    some (Char.ofNat (a.toNat + (b.toNat - 0x11A7)))
  else none

/-! ### Taking apart, ordering, joining -/

/-- The parts of a character; most characters are whole. -/
def parts (c : Char) : List Char :=
  if isSyllable c then syllableLetters c else (composites.value? c).getD [c]

/-- Puts a character in front of a text in order, behind the marks of lower classes. -/
def placeMark (c : Char) : List Char → List Char
  | [] => [c]
  | d :: rest =>
    if 0 < combiningClass d ∧ combiningClass d < combiningClass c then d :: placeMark c rest
    else c :: d :: rest

/-- Puts the marks behind each character in the order of their classes; marks of one class keep the
order that they have. -/
def orderMarks (text : List Char) : List Char :=
  text.foldr placeMark []

def join? (c mark : Char) : Option Char :=
  match joinSyllable? c mark with
  | some syllable => some syllable
  | none =>
    let together := parts c ++ [mark]
    (List.find? (·.value = together) composites).map fun run => Char.ofNat run.first

/-- Joins a character with the marks behind it; `kept` holds those it did not join, last first. A
mark behind a kept one of its own class or a higher one is out of reach. -/
def joinFrom (c : Char) (kept : List Char) : List Char → List Char
  | [] => c :: kept.reverse
  | d :: rest =>
    let inReach :=
      match kept with
      | [] => true
      | last :: _ => decide (combiningClass last < combiningClass d)
    match if inReach then join? c d else none with
    | some joined => joinFrom joined kept rest
    | none =>
      if combiningClass d = 0 then c :: kept.reverse ++ joinFrom d [] rest
      else joinFrom c (d :: kept) rest

def joinMarks : List Char → List Char
  | [] => []
  | c :: rest => joinFrom c [] rest

def normalize (text : List Char) : List Char :=
  joinMarks (orderMarks (text.flatMap parts))

end DeployCheck.Text
