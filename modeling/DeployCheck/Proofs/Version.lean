import DeployCheck.Version
import Mathlib.Data.List.TakeDrop
namespace DeployCheck

open Text

namespace Version

theorem digitRun?_eq (text : List Char) :
    digitRun? text =
      if text.takeWhile isDecimalDigit = [] then none
      else some (text.takeWhile isDecimalDigit, text.dropWhile isDecimalDigit) := by
  rw [digitRun?, List.span_eq_takeWhile_dropWhile]
  cases text.takeWhile isDecimalDigit with
  | nil => rfl
  | cons digit digits => rfl

section Tail

variable {c : Char} {text tail : List Char} (plain : isDecimalDigit c = false)
include plain

theorem digitRun?_of_plain : digitRun? (c :: tail) = none := by
  simp [digitRun?_eq, plain]

theorem digitRun?_append :
    digitRun? (text ++ c :: tail) =
      (digitRun? text).map fun (digits, rest) => (digits, rest ++ c :: tail) := by
  have taken : (text ++ c :: tail).takeWhile isDecimalDigit = text.takeWhile isDecimalDigit := by
    rw [List.takeWhile_append]
    split
    next all =>
      have whole := (List.takeWhile_prefix isDecimalDigit).eq_of_length all
      simp [plain, whole]
    next => rfl
  have left : (text ++ c :: tail).dropWhile isDecimalDigit =
      text.dropWhile isDecimalDigit ++ c :: tail := by
    rw [List.dropWhile_append]
    split
    next none => simp [plain, List.isEmpty_iff.mp none]
    next => rfl
  rw [digitRun?_eq, digitRun?_eq, taken, left]
  split <;> rfl

end Tail

def pointRun? : List Char → Option (List Char × List Char)
  | '.' :: text => digitRun? text
  | _ => none

theorem numbersAt?_cons (v : Char) (text : List Char) :
    numbersAt? (v :: text) =
      if v = 'v' ∨ v = 'V' then
        (digitRun? text).bind fun major =>
          (pointRun? major.2).bind fun minor =>
            (pointRun? minor.2).bind fun patch =>
              if patch.2.head? = some '+' ∨ patch.2.head? = some '-' then some (minor.1, patch.1)
              else none
      else none := by
  rw [numbersAt?]
  split
  next =>
    rcases digitRun? text with _ | ⟨major, _ | ⟨d, text⟩⟩
    · rfl
    · rfl
    by_cases point : d = '.'
    next =>
      subst point
      simp only [Option.bind_some, pointRun?]
      rcases digitRun? text with _ | ⟨minor, _ | ⟨e, text⟩⟩
      · rfl
      · rfl
      by_cases point : e = '.'
      next =>
        subst point
        simp only [Option.bind_some]
        rcases digitRun? text with _ | ⟨patch, _ | ⟨sign, text⟩⟩ <;> simp
      next => simp [point]
    next => simp [pointRun?, point]
  next => rfl

section Point

variable {c : Char} {text tail : List Char} (plain : isDecimalDigit c = false)
include plain

theorem pointRun?_append :
    pointRun? (text ++ '.' :: c :: tail) =
      (pointRun? text).map fun (digits, rest) => (digits, rest ++ '.' :: c :: tail) := by
  cases text with
  | nil => exact digitRun?_of_plain plain
  | cons d text =>
    by_cases point : d = '.'
    · subst point
      exact digitRun?_append (by decide)
    · simp [pointRun?, point]

theorem numbersAt?_append : numbersAt? (text ++ '.' :: c :: tail) = numbersAt? text := by
  -- A number that starts in the text is read off before the point: behind it no digits follow,
  -- and the point itself is no sign.
  have sign (rest : List Char) :
      ((rest ++ '.' :: c :: tail).head? = some '+' ∨ (rest ++ '.' :: c :: tail).head? = some '-') ↔
        (rest.head? = some '+' ∨ rest.head? = some '-') := by
    cases rest with
    | nil => simp
    | cons d rest => simp
  cases text with
  | nil => rfl
  | cons v text =>
    rw [List.cons_append, numbersAt?_cons, numbersAt?_cons, digitRun?_append (by decide)]
    simp only [Option.bind_map, Function.comp_def, pointRun?_append plain, sign]

theorem leftmostNumbers?_append (barren : leftmostNumbers? ('.' :: c :: tail) = none) :
    leftmostNumbers? (text ++ '.' :: c :: tail) = leftmostNumbers? text := by
  induction text with
  | nil => exact barren
  | cons d text ih =>
    have same : numbersAt? (d :: text ++ '.' :: c :: tail) = numbersAt? (d :: text) :=
      numbersAt?_append plain
    rw [List.cons_append] at same ⊢
    rw [leftmostNumbers?, leftmostNumbers?, same, ih]

end Point

theorem leftmostNumbers?_of_front {front text : List Char}
    (plain : ∀ c ∈ front, c ≠ 'v' ∧ c ≠ 'V') :
    leftmostNumbers? (front ++ text) = leftmostNumbers? text := by
  induction front with
  | nil => rfl
  | cons c front ih =>
    have other : numbersAt? (c :: (front ++ text)) = none := by
      rw [numbersAt?_cons, if_neg]
      simpa [not_or] using plain c (by simp)
    rw [List.cons_append, leftmostNumbers?, other]
    exact ih fun d inside => plain d (List.mem_cons_of_mem c inside)

theorem ofLabel_congr {a b : String}
    (same : leftmostNumbers? a.toList = leftmostNumbers? b.toList) :
    (∃ version, ofLabel a = .ok version ∧ ofLabel b = .ok version) ∨
      ofLabel a = .error (.malformedVersion a) ∧ ofLabel b = .error (.malformedVersion b) := by
  unfold ofLabel
  rw [same]
  rcases leftmostNumbers? b.toList with _ | ⟨minor, patch⟩
  · exact .inr ⟨rfl, rfl⟩
  rcases hm : word? minor with _ | m <;> rcases hp : word? patch with _ | p <;> simp [hm, hp]

end Version

end DeployCheck
