import DeployCheck.Proofs.ReleaseList
import DeployCheck.Proofs.Text.Lines
/-!
The published list is read line by line. Each line that is neither blank nor of a nightly build
gives one label, and which label it is depends on nothing but the line.
-/
namespace DeployCheck.ReleaseList

open Text

variable {entry listed : List Char}

def Offers (line : List Char) : Prop :=
  (∃ c ∈ line, isBlank c = false) ∧ ¬ "nightly".toList <:+: line

instance (line : List Char) : Decidable (Offers line) :=
  decidable_of_iff ((line.any (!isBlank ·) && !contains "nightly".toList line) = true)
    (by simp [Offers, ← contains_iff])

theorem infix_nightly_trim (line : List Char) :
    "nightly".toList <:+: trim line ↔ "nightly".toList <:+: line := by
  have solid : "nightly".toList.all (!isBlank ·) = true := by decide
  refine infix_trim (fun c inside => ?_) (by decide)
  simpa using List.all_eq_true.mp solid c inside

theorem isRelease_trim (line : List Char) : isRelease (trim line) = decide (Offers line) := by
  have full : trim line ≠ [] ↔ ∃ c ∈ line, isBlank c = false := by
    rw [Ne, trim_eq_nil]
    simp [AllBlank]
  have nightly : contains "nightly".toList (trim line) = true ↔ "nightly".toList <:+: line := by
    rw [contains_iff, infix_nightly_trim]
  rw [Bool.eq_iff_iff, decide_eq_true_iff, isRelease, Offers, ← full, ← nightly]
  simp

theorem releases_eq (text : String) :
    releases text = ((trimmedLines text.toList).filter (!contains "nightly".toList ·)).map
      fun entry => String.ofList (label entry) := by
  rw [releases, trimmedLines, List.filter_filter, List.map_map]
  congr 2
  funext line
  rw [isRelease, Bool.and_comm]

theorem releases_append_feed (one two : String) :
    releases (one ++ "\n" ++ two) = releases one ++ releases two := by
  have chars : (one ++ "\n" ++ two).toList = one.toList ++ '\n' :: two.toList := by simp
  rw [releases_eq, chars, trimmedLines_append_feed, List.filter_append, List.map_append,
    ← releases_eq, ← releases_eq]

theorem releases_of_relaid {text other : String}
    (relaid : Relation.ReflTransGen Relaid text.toList other.toList) :
    releases other = releases text := by
  rw [releases_eq, releases_eq, trimmedLines_of_relaid relaid]

theorem releases_eq_lines (text : String) :
    releases text = ((unendedLines text.toList).filter (Offers ·)).map
      fun line => String.ofList (label (trim line)) := by
  rw [releases, ← map_trim_unendedLines, List.filter_map, List.map_map, List.map_map]
  congr 2
  funext line
  exact isRelease_trim line

theorem shows_ofList_label (line : List Char) :
    Shows (trim line) (String.ofList (label (trim line))).toList := by
  rw [String.toList_ofList]
  exact shows_label (trim line)

theorem Shows.isInfix (shown : Shows entry listed) : listed <:+: entry := by
  obtain ⟨front, back, split, -, -⟩ := shown
  exact ⟨front, back, split.symm⟩

/-- A list cut at a line feed gives the labels of its two parts one after the other. Its labels stay
the same when line breaks get carriage returns or blanks are put around lines. Every line that
offers a release has one label in its place, and none of the labels is of a nightly build. -/
theorem releases_line_by_line (text : String) :
    (∀ more, releases (text ++ "\n" ++ more) = releases text ++ releases more) ∧
    (∀ other : String, Relation.ReflTransGen Relaid text.toList other.toList →
      releases other = releases text) ∧
    List.Forall₂ (fun line listed => Shows (trim line) listed.toList)
      ((unendedLines text.toList).filter (Offers ·)) (releases text) ∧
    ∀ listed ∈ releases text, ¬ "nightly".toList <:+: listed.toList := by
  refine ⟨releases_append_feed text, fun _ relaid => releases_of_relaid relaid, ?_, ?_⟩
  · rw [releases_eq_lines, List.forall₂_map_right_iff, List.forall₂_same]
    exact fun line _ => shows_ofList_label line
  · intro listed member nightly
    rw [releases_eq_lines] at member
    obtain ⟨line, inside, rfl⟩ := List.mem_map.mp member
    have offers : Offers line := by simpa using (List.mem_filter.mp inside).2
    have within := nightly.trans (shows_ofList_label line).isInfix
    exact offers.2 ((infix_nightly_trim line).mp within)

theorem releases_line_by_line_relaid :
    let text := "v0.4.25-nightly.js\nsoljson-v0.4.24+commit.e67f0147.js\n"
    let other := "v0.4.25-nightly.js\r\n\u00A0\nsoljson-v0.4.24+commit.e67f0147.js\n"
    Relation.ReflTransGen Relaid text.toList other.toList ∧ releases other = releases text ∧
      "v0.4.24+commit.e67f0147" ∈ releases text ∧
      ¬ "nightly".toList <:+: "v0.4.24+commit.e67f0147".toList := by
  intro text other
  let front := "v0.4.25-nightly.js".toList
  let back := "soljson-v0.4.24+commit.e67f0147.js\n".toList
  have first : text.toList = front ++ '\n' :: back := by decide
  have last : other.toList = (front ++ ['\r', '\n']) ++ ['\u00A0', '\n'] ++ back := by decide
  have relaid : Relation.ReflTransGen Relaid text.toList other.toList := by
    rw [first, last]
    refine .tail (.single (.carriage front back)) ?_
    rw [List.append_cons, List.append_cons]
    exact .before back (.inr ⟨front ++ ['\r'], by simp⟩) (by decide)
  have offered : "v0.4.24+commit.e67f0147" ∈ releases text := by decide
  have settled := releases_line_by_line text
  exact ⟨relaid, settled.2.1 other relaid, offered, settled.2.2.2 _ offered⟩

end DeployCheck.ReleaseList
