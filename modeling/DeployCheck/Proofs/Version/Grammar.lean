import DeployCheck.Proofs.Version
import Mathlib.Algebra.Group.Nat.Defs
import Mathlib.Data.List.TakeWhile
/-!
The grammar of labels. A release number is a `v` of either case, three runs of digits joined by
points, and a sign. What stands before the sign of one place cannot be read in two ways, so a label
has at most one cut with the shortest front, and that cut alone decides.
-/
namespace DeployCheck

namespace Text

theorem decimalValue_eq_ofDigitChars (digits : List Char) :
    decimalValue digits = Nat.ofDigitChars 10 digits 0 := by
  simp only [decimalValue, Nat.ofDigitChars, Nat.mul_comm]

/-- Digits of ASCII that write a number of at most 64 bits. -/
def Writes (digits : List Char) (n : Nat) : Prop :=
  (∀ c ∈ digits, c.isDigit = true) ∧ Nat.ofDigitChars 10 digits 0 = n ∧ n < 2 ^ 64

theorem word?_eq_some {digits : List Char} {n : Nat} (full : digits ≠ []) :
    word? digits = some n ↔ Writes digits n := by
  have bound : maxWord + 1 = 2 ^ 64 := by decide
  rw [word?, decimalValue_eq_ofDigitChars, Option.ite_none_right_eq_some, Option.some.injEq,
    Writes, List.all_eq_true]
  constructor
  · rintro ⟨⟨-, digital, fits⟩, rfl⟩
    exact ⟨digital, rfl, by omega⟩
  · rintro ⟨digital, rfl, fits⟩
    exact ⟨⟨full, digital, by omega⟩, rfl⟩

end Text

namespace Version

open Text

variable {c d : Char} {label tail rest digits other minor patch : List Char}

/-! ## Runs of digits -/

def IsNumeral (digits : List Char) : Prop :=
  digits ≠ [] ∧ ∀ c ∈ digits, isDecimalDigit c = true

theorem isNumeral_of_digitRun? (read : digitRun? label = some (digits, rest)) :
    IsNumeral digits ∧ label = digits ++ rest := by
  rw [digitRun?_eq] at read
  split at read
  · cases read
  · rename_i full
    obtain ⟨rfl, rfl⟩ := Prod.mk.inj (Option.some.inj read)
    exact ⟨⟨full, fun c member => List.mem_takeWhile_imp member⟩,
      List.takeWhile_append_dropWhile.symm⟩

namespace IsNumeral

theorem digitRun?_append (numeral : IsNumeral digits) (plain : isDecimalDigit c = false) :
    digitRun? (digits ++ c :: tail) = some (digits, c :: tail) := by
  rw [Version.digitRun?_append plain, digitRun?_eq, List.takeWhile_eq_self_iff.mpr numeral.2,
    List.dropWhile_eq_nil_iff.mpr numeral.2, if_neg numeral.1]
  rfl

theorem append_inj (numeral : IsNumeral digits) (another : IsNumeral other)
    (plain : isDecimalDigit c = false) (solid : isDecimalDigit d = false)
    (same : digits ++ c :: tail = other ++ d :: rest) : digits = other ∧ c :: tail = d :: rest := by
  -- A run of digits ends where no digit follows, so it is not read in two ways.
  have read : digitRun? (digits ++ c :: tail) = some (digits, c :: tail) :=
    numeral.digitRun?_append plain
  rw [same, another.digitRun?_append solid] at read
  obtain ⟨first, second⟩ := Prod.mk.inj (Option.some.inj read)
  exact ⟨first.symm, second.symm⟩

end IsNumeral

theorem point_plain : isDecimalDigit '.' = false := by
  decide

theorem sign_plain (sign : c = '+' ∨ c = '-') : isDecimalDigit c = false := by
  rcases sign with rfl | rfl <;> decide

/-! ## Release numbers -/

/-- A release number as it is spelled, up to its sign. -/
@[ext] structure Spelling where
  letter : Char
  major : List Char
  minor : List Char
  patch : List Char
  sign : Char
  isLetter : letter = 'v' ∨ letter = 'V'
  isMajor : IsNumeral major
  isMinor : IsNumeral minor
  isPatch : IsNumeral patch
  isSign : sign = '+' ∨ sign = '-'

namespace Spelling

variable {spelling another : Spelling}

def text (spelling : Spelling) : List Char :=
  spelling.letter :: spelling.major ++ '.' :: spelling.minor ++ '.' :: spelling.patch ++
    [spelling.sign]

theorem text_append (spelling : Spelling) (rest : List Char) :
    spelling.text ++ rest = spelling.letter :: (spelling.major ++ '.' ::
      (spelling.minor ++ '.' :: (spelling.patch ++ spelling.sign :: rest))) := by
  simp [text]

theorem text_ne_nil (spelling : Spelling) : spelling.text ≠ [] := by
  simp [text]

theorem text_inj (same : spelling.text ++ rest = another.text ++ tail) :
    spelling = another ∧ rest = tail := by
  rw [text_append, text_append] at same
  obtain ⟨letter, same⟩ := List.cons.inj same
  obtain ⟨major, same⟩ := spelling.isMajor.append_inj another.isMajor point_plain point_plain same
  obtain ⟨minor, same⟩ := spelling.isMinor.append_inj another.isMinor point_plain point_plain
    (List.cons.inj same).2
  obtain ⟨patch, same⟩ := spelling.isPatch.append_inj another.isPatch (sign_plain spelling.isSign)
    (sign_plain another.isSign) (List.cons.inj same).2
  obtain ⟨sign, same⟩ := List.cons.inj same
  exact ⟨Spelling.ext letter major minor patch sign, same⟩

theorem numbersAt?_text (spelling : Spelling) (rest : List Char) :
    numbersAt? (spelling.text ++ rest) = some (spelling.minor, spelling.patch) := by
  have sign : (spelling.sign :: rest).head? = some '+' ∨ (spelling.sign :: rest).head? = some '-' :=
    spelling.isSign.imp (congrArg some) (congrArg some)
  rw [text_append, numbersAt?_cons, if_pos spelling.isLetter,
    spelling.isMajor.digitRun?_append point_plain]
  simp only [Option.bind_some, pointRun?, spelling.isMinor.digitRun?_append point_plain,
    spelling.isPatch.digitRun?_append (sign_plain spelling.isSign), if_pos sign]

end Spelling

theorem of_pointRun? (read : pointRun? label = some (digits, rest)) :
    IsNumeral digits ∧ label = '.' :: (digits ++ rest) := by
  unfold pointRun? at read
  split at read
  · obtain ⟨numeral, rfl⟩ := isNumeral_of_digitRun? read
    exact ⟨numeral, rfl⟩
  · cases read

theorem exists_spelling (found : numbersAt? label = some (minor, patch)) :
    ∃ spelling rest, label = Spelling.text spelling ++ rest ∧ spelling.minor = minor ∧
      spelling.patch = patch := by
  cases label with
  | nil => cases found
  | cons v label =>
      rw [numbersAt?_cons] at found
      split at found
      · rename_i letter
        obtain ⟨⟨major, one⟩, readMajor, behind⟩ := Option.bind_eq_some_iff.mp found
        obtain ⟨⟨second, two⟩, readMinor, further⟩ := Option.bind_eq_some_iff.mp behind
        obtain ⟨⟨third, three⟩, readPatch, ending⟩ := Option.bind_eq_some_iff.mp further
        obtain ⟨signed, numbers⟩ := Option.ite_none_right_eq_some.mp ending
        obtain ⟨rfl, rfl⟩ := Prod.mk.inj (Option.some.inj numbers)
        obtain ⟨isMajor, rfl⟩ := isNumeral_of_digitRun? readMajor
        obtain ⟨isMinor, rfl⟩ := of_pointRun? readMinor
        obtain ⟨isPatch, rfl⟩ := of_pointRun? readPatch
        obtain ⟨sign, rest, rfl⟩ : ∃ sign rest, three = sign :: rest := by
          cases three with
          | nil => simp at signed
          | cons sign rest => exact ⟨sign, rest, rfl⟩
        have isSign : sign = '+' ∨ sign = '-' := by simpa using signed
        let spelling : Spelling :=
          ⟨v, major, second, third, sign, letter, isMajor, isMinor, isPatch, isSign⟩
        exact ⟨spelling, rest, (spelling.text_append rest).symm, rfl, rfl⟩
      · cases found

/-! ## Cuts of a label -/

/-- A text cut into what stands before a release number, the number, and what stands behind it. -/
@[ext] structure Cut (label : List Char) where
  front : List Char
  spelling : Spelling
  rest : List Char
  whole : front ++ (spelling.text ++ rest) = label

namespace Cut

def IsLeftmost (cut : Cut label) : Prop :=
  ∀ other : Cut label, cut.front.length ≤ other.front.length

def cons (c : Char) (cut : Cut label) : Cut (c :: label) :=
  ⟨c :: cut.front, cut.spelling, cut.rest, congrArg (List.cons c) cut.whole⟩

theorem cases_cons (cut : Cut (c :: label)) :
    (cut.front = [] ∧ numbersAt? (c :: label) = some (cut.spelling.minor, cut.spelling.patch)) ∨
      ∃ later : Cut label, cut = later.cons c := by
  obtain ⟨front, spelling, rest, whole⟩ := cut
  cases front with
  | nil =>
      have found := spelling.numbersAt?_text rest
      rw [← List.nil_append (spelling.text ++ rest), whole] at found
      exact .inl ⟨rfl, found⟩
  | cons d front =>
      obtain ⟨rfl, behind⟩ := List.cons.inj whole
      exact .inr ⟨⟨front, spelling, rest, behind⟩, rfl⟩

theorem IsLeftmost.unique {cut another : Cut label} (leftmost : cut.IsLeftmost)
    (least : another.IsLeftmost) : cut = another := by
  have lengths := Nat.le_antisymm (leftmost another) (least cut)
  obtain ⟨front, behind⟩ := List.append_inj (cut.whole.trans another.whole.symm) lengths
  obtain ⟨spelling, rest⟩ := Spelling.text_inj behind
  exact Cut.ext front spelling rest

end Cut

theorem leftmostNumbers?_eq_some : leftmostNumbers? label = some (minor, patch) ↔
    ∃ cut : Cut label,
      cut.IsLeftmost ∧ cut.spelling.minor = minor ∧ cut.spelling.patch = patch := by
  induction label with
  | nil =>
      constructor
      · nofun
      · rintro ⟨⟨front, spelling, rest, whole⟩, -⟩
        simp [spelling.text_ne_nil] at whole
  | cons c label ih =>
      rw [leftmostNumbers?]
      cases here : numbersAt? (c :: label) with
      | some numbers =>
          constructor
          · rintro same
            obtain ⟨spelling, rest, whole, first, second⟩ := exists_spelling (here.trans same)
            exact ⟨⟨[], spelling, rest, whole.symm⟩, fun other => Nat.zero_le _, first, second⟩
          · rintro ⟨cut, leftmost, rfl, rfl⟩
            obtain ⟨spelling, rest, whole, -⟩ := exists_spelling here
            have bare := List.eq_nil_of_length_eq_zero
              (Nat.le_zero.mp (leftmost ⟨[], spelling, rest, whole.symm⟩))
            rcases cut.cases_cons with ⟨-, found⟩ | ⟨later, rfl⟩
            · exact here.symm.trans found
            · cases bare
      | none =>
          -- Nothing begins here, so the cuts are those of the rest with this character in front.
          have later (cut : Cut (c :: label)) : ∃ later : Cut label, cut = later.cons c := by
            rcases cut.cases_cons with ⟨-, found⟩ | later
            · rw [here] at found
              cases found
            · exact later
          rw [ih]
          constructor
          · rintro ⟨cut, leftmost, first, second⟩
            refine ⟨cut.cons c, fun other => ?_, first, second⟩
            obtain ⟨other, rfl⟩ := later other
            exact Nat.succ_le_succ (leftmost other)
          · rintro ⟨cut, leftmost, first, second⟩
            obtain ⟨cut, rfl⟩ := later cut
            have least : cut.IsLeftmost := fun other =>
              Nat.le_of_succ_le_succ (leftmost (other.cons c))
            exact ⟨cut, least, first, second⟩

/-! ## What a label carries -/

/-- A cut of which the second and the third number can be told: they are the numbers of the version.
-/
structure Cut.Carries (cut : Cut label) (version : Version) : Prop where
  leftmost : cut.IsLeftmost
  minor : Writes cut.spelling.minor version.minor
  patch : Writes cut.spelling.patch version.patch

theorem ofLabel_eq_ok {label : String} {version : Version} :
    ofLabel label = .ok version ↔ ∃ cut : Cut label.toList, cut.Carries version := by
  unfold ofLabel
  constructor
  · intro read
    split at read
    · cases read
    · rename_i minor patch found
      obtain ⟨cut, leftmost, rfl, rfl⟩ := leftmostNumbers?_eq_some.mp found
      split at read
      · rename_i m p first second
        obtain rfl := Except.ok.inj read
        exact ⟨cut, leftmost, (word?_eq_some cut.spelling.isMinor.1).mp first,
          (word?_eq_some cut.spelling.isPatch.1).mp second⟩
      · cases read
  · rintro ⟨cut, leftmost, minor, patch⟩
    have found := leftmostNumbers?_eq_some.mpr ⟨cut, leftmost, rfl, rfl⟩
    have first := (word?_eq_some cut.spelling.isMinor.1).mpr minor
    have second := (word?_eq_some cut.spelling.isPatch.1).mpr patch
    simp only [found, first, second]

theorem ofLabel_eq_error {label : String} {fault : VerificationError}
    (failed : ofLabel label = .error fault) : fault = .malformedVersion label := by
  unfold ofLabel at failed
  split at failed
  · exact (Except.error.inj failed).symm
  · split at failed
    · cases failed
    · exact (Except.error.inj failed).symm

/-- The labels that carry a version are those of the grammar, and the version is that of the
leftmost cut, of which there is no more than one. Any other label is malformed: one without a cut,
and one whose leftmost cut has a second or third number that is not of ASCII or too large, whatever
further cuts it has. -/
theorem ofLabel_grammar (label : String) :
    (∀ version, ofLabel label = .ok version ↔ ∃ cut : Cut label.toList, cut.Carries version) ∧
    (ofLabel label = .error (.malformedVersion label) ↔
      ∀ (cut : Cut label.toList) (version : Version), ¬ cut.Carries version) ∧
    ∀ one other : Cut label.toList, one.IsLeftmost → other.IsLeftmost → one = other := by
  refine ⟨fun version => ofLabel_eq_ok, ?_, fun _ _ one other => one.unique other⟩
  constructor
  · intro failed cut version carries
    rw [ofLabel_eq_ok.mpr ⟨cut, carries⟩] at failed
    cases failed
  · intro barren
    cases read : ofLabel label with
    | ok version =>
        obtain ⟨cut, carries⟩ := ofLabel_eq_ok.mp read
        exact absurd carries (barren cut version)
    | error fault => rw [ofLabel_eq_error read]

/-- A later number is no substitute for the leftmost one. -/
example : ofLabel "v0.18446744073709551616.1+ v0.4.22+" =
    .error (.malformedVersion "v0.18446744073709551616.1+ v0.4.22+") := by
  decide +kernel

end Version

end DeployCheck
