import DeployCheck.Proofs.Region.Bounds
namespace DeployCheck.Text

variable {pattern front middle rest text other : List Char} {n : Nat}

theorem OccursAt.append (occurs : OccursAt pattern front n) (rest : List Char) :
    OccursAt pattern (front ++ rest) n := by
  refine ⟨Nat.le_trans occurs.1 (by simp), ?_⟩
  rw [List.drop_append_of_le_length occurs.1]
  exact occurs.2.trans (List.prefix_append _ _)

theorem occursAt_of_covered (occurs : OccursAt pattern (front ++ middle ++ rest) n)
    (begun : n ≤ front.length) (ended : front.length + middle.length ≤ n + pattern.length) :
    OccursAt middle pattern (front.length - n) := by
  refine ⟨by omega, ?_⟩
  -- Both are read off the whole text from the end of the front on.
  have tail : pattern.drop (front.length - n) <+: middle ++ rest := by
    obtain ⟨behind, same⟩ := occurs.2
    refine ⟨behind, ?_⟩
    rw [← List.drop_append_of_le_length (by omega), same, List.drop_drop, Nat.add_sub_cancel' begun,
      List.append_assoc, List.drop_left]
  refine List.prefix_of_prefix_length_le (List.prefix_append middle rest) tail ?_
  rw [List.length_drop]
  omega

theorem occursAt_append_of_not_covered (outside : ∀ m, ¬ OccursAt middle pattern m)
    (begun : n ≤ front.length) :
    OccursAt pattern (front ++ middle ++ rest) n ↔ OccursAt pattern (front ++ middle) n := by
  refine ⟨fun occurs => ?_, fun occurs => occurs.append rest⟩
  have short : n + pattern.length ≤ (front ++ middle).length := by
    have missing := mt (occursAt_of_covered occurs begun) (outside _)
    rw [List.length_append]
    omega
  have cut := occursAt_take.mpr ⟨occurs, short⟩
  rwa [List.take_left] at cut

theorem lastOccurrence_congr
    (same : ∀ n, OccursAt pattern text n ↔ OccursAt pattern other n) :
    lastOccurrence pattern text = lastOccurrence pattern other := by
  cases found : lastOccurrence pattern other with
  | none =>
      rw [lastOccurrence_eq_none] at found ⊢
      exact fun n => mt (same n).mp (found n)
  | some n =>
      rw [lastOccurrence_eq_some] at found ⊢
      exact ⟨(same n).mpr found.1, fun m occurs => found.2 m ((same m).mp occurs)⟩

theorem lower_append (front rest : List Char) : lower (front ++ rest) = lower front ++ lower rest :=
  List.map_append

end DeployCheck.Text

namespace DeployCheck.Region

open Text

variable {markers : Markers} {front text : List Char} {table : Policies} {version : Version}
  {policy : Policy} {code : Bytecode}

/-- The text is this front, an end marker in some spelling and anything after it, and no end marker
begins sooner. -/
structure Trailed (markers : Markers) (front text : List Char) : Prop where
  spelled : ∃ marker rest, text = front ++ marker ++ rest ∧ SameIgnoringCase marker markers.stop
  first : firstOccurrence markers.stop (lower text) = some front.length

theorem Trailed.lowered (trailed : Trailed markers front text) :
    ∃ rest, lower text = lower front ++ markers.stop ++ rest := by
  obtain ⟨marker, rest, rfl, same⟩ := trailed.spelled
  refine ⟨lower rest, ?_⟩
  rw [lower_append, lower_append, same, markers.lower_stop]

theorem Trailed.take (trailed : Trailed markers front text) : text.take front.length = front := by
  obtain ⟨marker, rest, rfl, -⟩ := trailed.spelled
  rw [List.append_assoc]
  exact List.take_left

def frontStart (markers : Markers) (front : List Char) : Option Nat :=
  lastOccurrence markers.start
    ((lower front ++ markers.stop).take (front.length + markers.start.length - 1))

theorem locate_of_trailed (outside : ∀ n, ¬ OccursAt markers.stop markers.start n)
    (trailed : Trailed markers front text) :
    locate markers text = (frontStart markers front, some front.length) := by
  obtain ⟨rest, lowered⟩ := trailed.lowered
  refine Prod.ext ?_ trailed.first
  rw [locate_start, frontStart]
  have width : window markers text =
      min (front.length + markers.start.length - 1) (lower text).length := by
    simp [window, trailed.first]
  refine lastOccurrence_congr fun n => ?_
  rw [width, occursAt_take, occursAt_take, Nat.le_min]
  constructor
  · rintro ⟨occurs, inside, -⟩
    rw [lowered] at occurs
    -- The window ends so soon that the occurrence begins in the front.
    have begun : n ≤ (lower front).length := by
      rw [length_lower]
      omega
    exact ⟨(occursAt_append_of_not_covered outside begun).mp occurs, inside⟩
  · rintro ⟨occurs, inside⟩
    have whole : OccursAt markers.start (lower text) n := lowered ▸ occurs.append rest
    exact ⟨whole, inside, whole.length_le⟩

theorem extract_of_trailed (selected : table.select version = some policy)
    (outside : ∀ n, ¬ OccursAt policy.markers.stop policy.markers.start n)
    (trailed : Trailed policy.markers front code.text.toList) :
    extract table version code =
      ⟨String.ofList (front.drop ((frontStart policy.markers front).getD 0)), some policy.name,
        (frontStart policy.markers front).isSome, true⟩ := by
  -- The region of a code with an end marker is an end piece of its front. Which one it is, and
  -- whether a start marker was found, the trailer does not tell.
  simp only [extract, selected, locate_of_trailed outside trailed, slice,
    Option.getD_some, trailed.take, Option.isSome_some]

end DeployCheck.Region
