import DeployCheck.Proofs.Bytecode
import DeployCheck.Proofs.Region.Bounds
import DeployCheck.Proofs.Region.Trailer
import Mathlib.Order.Bounds.Basic
/-!
The region in terms of where the markers stand. A search counts bytes and a cut of a text can fail,
so the extraction is written out once more with both. No cut of it fails: a bytecode has one byte a
character, and a marker that has more occurs nowhere in it.
-/
namespace DeployCheck.Region

open Text

variable {table : Policies} {version : Version} {policy : Policy} {code : Bytecode}
  {markers : Markers} {marker text : List Char} {n : Nat}

/-! ## Offsets in bytes -/

/-- How much of a text of some size is searched for a start marker of some length. -/
def searched (length size : Nat) : Option Nat → Nat
  | some offset => min (offset + length - 1) size
  | none => size

/-- `locate` with offsets in bytes. There is no answer if the text cannot be cut where the search
for the start marker ends. -/
def locateBytes? (markers : Markers) (text : List Char) : Option (Option Nat × Option Nat) :=
  let lowered := lower text
  let stop := firstOffset markers.stop lowered
  let limit := searched (utf8Length markers.start) (utf8Length lowered) stop
  (cutBytes? lowered 0 limit).map fun front => (lastOffset markers.start front, stop)

/-- `extract` with offsets in bytes. There is no answer if a cut fails. -/
def extractBytes? (table : Policies) (version : Version) (code : Bytecode) : Option Region :=
  match table.select version with
  | none => some ⟨code.text, none, false, false⟩
  | some policy =>
    let text := code.text.toList
    (locateBytes? policy.markers text).bind fun (start, stop) =>
      (cutBytes? text (start.getD 0) (stop.getD (utf8Length text))).map fun region =>
        { text := String.ofList region
          policy := some policy.name
          startFound := start.isSome
          stopFound := stop.isSome }

theorem searched_le {length size : Nat} {stop : Option Nat} : searched length size stop ≤ size := by
  cases stop with
  | none => exact Nat.le_refl _
  | some offset => exact Nat.min_le_right _ _

theorem window_eq_searched : window markers text =
    searched markers.start.length text.length (firstOccurrence markers.stop (lower text)) := by
  cases found : firstOccurrence markers.stop (lower text) with
  | none => simp [window, found, searched]
  | some offset => simp [window, found, searched]

theorem locateBytes?_eq (single : SingleBytes text) :
    locateBytes? markers text = some (locate markers text) := by
  have lowered := single.lower
  -- The limits differ only for a marker that occurs on neither side of them.
  have found : lastOccurrence markers.start ((lower text).take
      (searched (utf8Length markers.start) (lower text).length
        (firstOccurrence markers.stop (lower text)))) = (locate markers text).1 := by
    rw [locate_start, window_eq_searched, length_lower]
    refine lastOccurrence_congr fun n => ?_
    rw [occursAt_take, occursAt_take, and_congr_right_iff]
    intro occurs
    rw [(lowered.of_occursAt occurs).utf8Length_eq]
  have inside : searched (utf8Length markers.start) (lower text).length
      (firstOccurrence markers.stop (lower text)) ≤ (lower text).length := searched_le
  have cut := lowered.cutBytes?_eq (Nat.zero_le _) inside
  simp only [locateBytes?, lowered.firstOffset_eq, lowered.utf8Length_eq, cut, List.drop_zero,
    Option.map_some, (lowered.take _).lastOffset_eq, found]
  rfl

theorem extractBytes?_eq (table : Policies) (version : Version) (code : Bytecode) :
    extractBytes? table version code = some (extract table version code) := by
  -- No cut fails, so counting bytes makes no difference.
  cases selected : table.select version with
  | none => simp only [extractBytes?, extract, selected]
  | some policy =>
      have single := code.singleBytes
      have ordered : (locate policy.markers code.text.toList).1.getD 0 ≤
        stopOffset policy.markers code.text.toList := start_le_stopOffset
      have cut := single.cutBytes?_eq ordered stopOffset_le
      rw [stopOffset] at cut
      simp only [extractBytes?, extract, selected, locateBytes?_eq single, Option.bind_some,
        single.utf8Length_eq, cut, Option.map_some]
      rfl

/-! ## Where markers stand -/

/-- A spelling of the marker stands in the text behind this many characters. -/
def Appears (marker text : List Char) (n : Nat) : Prop :=
  ∃ front piece rest, text = front ++ piece ++ rest ∧ front.length = n ∧
    SameIgnoringCase piece marker

def places (marker text : List Char) : Set Nat :=
  {n | Appears marker text n}

theorem appears_iff (small : lower marker = marker) :
    Appears marker text n ↔ OccursAt marker (lower text) n := by
  constructor
  · rintro ⟨front, piece, rest, rfl, rfl, same⟩
    rw [lower_append, lower_append, same, small, List.append_assoc]
    refine ⟨by simp, ?_⟩
    rw [← length_lower, List.drop_left]
    exact List.prefix_append _ _
  · rintro ⟨inside, behind, stands⟩
    rw [length_lower] at inside
    refine ⟨text.take n, (text.drop n).take marker.length, (text.drop n).drop marker.length,
      ?_, ?_, ?_⟩
    · rw [List.append_assoc, List.take_append_drop, List.take_append_drop]
    · rw [List.length_take, Nat.min_eq_left inside]
    · change lower ((text.drop n).take marker.length) = lower marker
      rw [small, lower, List.map_take, List.map_drop]
      change ((lower text).drop n).take marker.length = _
      rw [← stands, List.take_left]

/-- How the places of the markers in a text tell where a region of it begins and ends. -/
structure Bounds (markers : Markers) (text : List Char) (region : Region) (first last : Nat) :
    Prop where
  cut : region.text.toList = slice text first last
  ordered : first ≤ last
  inside : last ≤ text.length
  stopped : region.stopFound = true → IsLeast (places markers.stop text) last
  unstopped : region.stopFound = false → places markers.stop text = ∅ ∧ last = text.length
  started : markers.start ≠ [] → region.startFound = true →
    IsGreatest {n ∈ places markers.start text | n < last} first
  unstarted : markers.start ≠ [] → region.startFound = false →
    {n ∈ places markers.start text | n < last} = ∅ ∧ first = 0
  emptyStart : markers.start = [] → region.startFound = true ∧
    first = if region.stopFound then last - 1 else last

theorem isLeast_places (found : (locate markers text).2 = some n) :
    IsLeast (places markers.stop text) n := by
  obtain ⟨occurs, least⟩ := firstOccurrence_least found
  refine ⟨(appears_iff markers.lower_stop).mpr occurs, fun m appears => ?_⟩
  exact Nat.le_of_not_lt fun below =>
    least m below ((appears_iff markers.lower_stop).mp appears)

theorem places_eq_empty (missing : (locate markers text).2 = none) :
    places markers.stop text = ∅ :=
  Set.eq_empty_of_forall_notMem fun n appears =>
    firstOccurrence_eq_none.mp missing n ((appears_iff markers.lower_stop).mp appears)

theorem bounds_extract (selected : table.select version = some policy) :
    Bounds policy.markers code.text.toList (extract table version code)
      ((locate policy.markers code.text.toList).1.getD 0)
      (stopOffset policy.markers code.text.toList) where
  cut := toList_extract selected
  ordered := start_le_stopOffset
  inside := stopOffset_le
  stopped := by
    intro found
    simp only [extract, selected] at found
    obtain ⟨n, stopped⟩ := Option.isSome_iff_exists.mp found
    rw [stopOffset, stopped, Option.getD_some]
    exact isLeast_places stopped
  unstopped := by
    intro missing
    simp only [extract, selected, Option.isSome_eq_false_iff, Option.isNone_iff_eq_none] at missing
    exact ⟨places_eq_empty missing, stopOffset_of_none missing⟩
  started := by
    intro full found
    simp only [extract, selected] at found
    obtain ⟨n, started⟩ := Option.isSome_iff_exists.mp found
    rw [started, Option.getD_some]
    obtain ⟨occurs, below, last⟩ := (locate_start_eq_some full).mp started
    refine ⟨⟨(appears_iff policy.markers.lower_start).mpr occurs, below⟩, ?_⟩
    rintro m ⟨appears, inside⟩
    exact last m inside ((appears_iff policy.markers.lower_start).mp appears)
  unstarted := by
    intro full missing
    simp only [extract, selected, Option.isSome_eq_false_iff, Option.isNone_iff_eq_none] at missing
    rw [missing]
    refine ⟨Set.eq_empty_of_forall_notMem ?_, rfl⟩
    rintro n ⟨appears, below⟩
    exact (locate_start_eq_none full).mp missing n below
      ((appears_iff policy.markers.lower_start).mp appears)
  emptyStart := by
    intro empty
    simp only [extract, selected]
    rw [locate_start_of_empty empty, Option.getD_some, window_of_empty empty]
    exact ⟨rfl, rfl⟩

/-- Extraction never cuts a text where it cannot be cut. It keeps a code that no row covers. Any
other region ends at the least place of the end marker and begins at the greatest place of the start
marker in front of it, in whatever spelling they stand there. -/
theorem extract_exact (table : Policies) (version : Version) (code : Bytecode) :
    extractBytes? table version code = some (extract table version code) ∧
      ((∀ row ∈ table.rows, row.band.covers version = false) →
        extract table version code = ⟨code.text, none, false, false⟩) ∧
      ∀ policy, table.select version = some policy →
        (extract table version code).policy = some policy.name ∧
          ∃ first last, Bounds policy.markers code.text.toList (extract table version code) first
            last := by
  refine ⟨extractBytes?_eq table version code, fun uncovered => ?_, ?_⟩
  · have unselected : table.select version = none := by
      rw [Policies.select, List.find?_eq_none]
      intro row member
      rw [uncovered row member]
      decide
    simp only [extract, unselected]
  · intro policy selected
    exact ⟨by simp only [extract, selected], _, _, bounds_extract selected⟩

def overlapping : Policies :=
  ⟨[⟨"overlapping", ⟨0, 0⟩, .ofTexts "6060" "60A1"⟩]⟩

def overlappingCode : Bytecode :=
  ⟨"0x606060a1", by decide⟩

theorem extract_exact_overlapping :
    extractBytes? overlapping ⟨4, 24⟩ overlappingCode =
      some ⟨"60", some "overlapping", true, true⟩ ∧
    ∃ first last, Bounds (.ofTexts "6060" "60A1") overlappingCode.text.toList
      (extract overlapping ⟨4, 24⟩ overlappingCode) first last := by
  -- The start marker counts although it runs into the end marker.
  obtain ⟨answers, -, bounded⟩ := extract_exact overlapping ⟨4, 24⟩ overlappingCode
  exact ⟨answers.trans rfl, (bounded _ rfl).2⟩

end DeployCheck.Region
