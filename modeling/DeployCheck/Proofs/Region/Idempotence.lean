import DeployCheck.Proofs.Region.Exact
/-!
Regions of regions. A region holds no end marker, and a start marker at its very beginning at most,
so extracting it once more changes nothing: no marker that the first search passed over comes to
count in the second one.
-/
namespace DeployCheck.Text

variable {pattern text : List Char} {first last n : Nat}

theorem occursAt_drop (inside : first ≤ text.length) :
    OccursAt pattern (text.drop first) n ↔ OccursAt pattern text (first + n) := by
  rw [OccursAt, OccursAt, List.drop_drop, List.length_drop]
  have same : n ≤ text.length - first ↔ first + n ≤ text.length := by omega
  rw [same]

end DeployCheck.Text

namespace DeployCheck.Region

open Text

variable {markers : Markers} {pattern text : List Char} {table : Policies} {version : Version}
  {policy : Policy} {code again : Bytecode} {first last n : Nat}

theorem occursAt_slice (ordered : first ≤ last) (inside : last ≤ text.length) :
    OccursAt pattern (slice text first last) n ↔
      OccursAt pattern text (first + n) ∧ first + n + pattern.length ≤ last := by
  have short : first ≤ (text.take last).length := by
    rw [List.length_take]
    omega
  rw [slice, occursAt_drop short, occursAt_take]

def between (markers : Markers) (text : List Char) : List Char :=
  slice text ((locate markers text).1.getD 0) (stopOffset markers text)

theorem toList_extract_eq_between (selected : table.select version = some policy) :
    (extract table version code).text.toList = between policy.markers code.text.toList :=
  toList_extract selected

theorem occursAt_between : OccursAt pattern (lower (between markers text)) n ↔
    OccursAt pattern (lower text) ((locate markers text).1.getD 0 + n) ∧
      (locate markers text).1.getD 0 + n + pattern.length ≤ stopOffset markers text := by
  have inside : stopOffset markers text ≤ (lower text).length := by
    rw [length_lower]
    exact stopOffset_le
  rw [between, lower_slice, occursAt_slice start_le_stopOffset inside]

theorem length_between : (between markers text).length =
    stopOffset markers text - (locate markers text).1.getD 0 :=
  length_slice stopOffset_le

theorem not_occursAt_stop_between (full : markers.stop ≠ []) :
    ¬ OccursAt markers.stop (lower (between markers text)) n := by
  -- An end marker in the region would stand in front of the first one.
  intro occurs
  obtain ⟨whole, ended⟩ := occursAt_between.mp occurs
  have positive := List.length_pos_iff.mpr full
  cases found : firstOccurrence markers.stop (lower text) with
  | none => exact firstOccurrence_eq_none.mp found _ whole
  | some offset =>
      rw [stopOffset_of_some found] at ended
      exact (firstOccurrence_least found).2 _ (by omega) whole

theorem eq_zero_of_occursAt_start_between (full : markers.start ≠ [])
    (occurs : OccursAt markers.start (lower (between markers text)) n) : n = 0 := by
  -- A start marker behind the beginning of the region would be a later one in front of the end
  -- marker.
  obtain ⟨whole, ended⟩ := occursAt_between.mp occurs
  have positive := List.length_pos_iff.mpr full
  have below : (locate markers text).1.getD 0 + n < stopOffset markers text := by omega
  cases found : (locate markers text).1 with
  | none =>
      rw [found] at whole below
      exact absurd whole ((locate_start_eq_none full).mp found _ below)
  | some offset =>
      rw [found, Option.getD_some] at whole below
      have last := ((locate_start_eq_some full).mp found).2.2 _ below whole
      omega

/-! ## The second search -/

theorem stopOffset_between :
    stopOffset markers (between markers text) = (between markers text).length := by
  by_cases full : markers.stop = []
  · -- The empty marker ends every region before it begins.
    have empty (text : List Char) : stopOffset markers text = 0 := by
      refine stopOffset_of_some (firstOccurrence_eq_some.mpr ⟨?_, fun m below => ?_⟩)
      · rw [full]
        exact occursAt_zero.mpr List.nil_prefix
      · exact absurd below (Nat.not_lt_zero m)
    rw [length_between, empty, empty, Nat.zero_sub]
  · exact stopOffset_of_none
      (firstOccurrence_eq_none.mpr fun _ => not_occursAt_stop_between full)

theorem locate_start_between (full : markers.start ≠ []) :
    (locate markers (between markers text)).1.getD 0 = 0 := by
  cases found : (locate markers (between markers text)).1 with
  | none => rfl
  | some offset =>
      exact eq_zero_of_occursAt_start_between full ((locate_start_eq_some full).mp found).1

theorem between_between (full : markers.start ≠ []) :
    between markers (between markers text) = between markers text := by
  rw [between, locate_start_between full, stopOffset_between, slice, List.take_length,
    List.drop_zero]

/-! ## Regions that are bytecode -/

theorem text_extract_again
    (full : ∀ policy, table.select version = some policy → policy.markers.start ≠ [])
    (same : again.text = (extract table version code).text) :
    (extract table version again).text = (extract table version code).text := by
  cases selected : table.select version with
  | none => rw [extract_of_uncovered selected, same]
  | some policy =>
      apply String.toList_inj.mp
      rw [toList_extract_eq_between selected, same, toList_extract_eq_between selected,
        between_between (full policy selected)]

/-- Extraction is idempotent: a region that is bytecode is its own region, as long as the start
markers of the table are not empty. The region holds no spelling of the end marker, and one of the
start marker nowhere but at its beginning. -/
theorem extract_idempotent (table : Policies) (version : Version) (code : Bytecode) :
    ((∀ row ∈ table.rows, row.markers.start ≠ []) → ∀ origin again,
      Bytecode.ofText (extract table version code).text origin = .ok again →
        (extract table version again).text = (extract table version code).text ∧
          (extract table version again).policy = (extract table version code).policy) ∧
      ∀ policy, table.select version = some policy →
        policy.markers.start ≠ [] → policy.markers.stop ≠ [] →
          places policy.markers.stop (extract table version code).text.toList = ∅ ∧
            places policy.markers.start (extract table version code).text.toList ⊆ {0} := by
  refine ⟨fun full origin again read => ⟨?_, ?_⟩, ?_⟩
  · refine text_extract_again (fun policy selected => ?_) (Bytecode.ofText_eq_ok.mp read).2
    exact full policy (List.mem_of_find?_eq_some selected)
  · rw [policy_extract, policy_extract]
  · intro policy selected begun ended
    rw [toList_extract_eq_between selected]
    constructor
    · refine Set.eq_empty_of_forall_notMem fun n appears => ?_
      exact not_occursAt_stop_between ended ((appears_iff policy.markers.lower_stop).mp appears)
    · intro n appears
      exact eq_zero_of_occursAt_start_between begun
        ((appears_iff policy.markers.lower_start).mp appears)

def twiceMarked : Bytecode :=
  ⟨"0x608060405260806040525BA165627A7A723058206080604052a165627a7a72305820", by decide +kernel⟩

def twiceMarkedRegion : Bytecode :=
  ⟨"60806040525B", by decide +kernel⟩

theorem extract_idempotent_twice :
    (extract .standard ⟨4, 24⟩ twiceMarked).text = "60806040525B" ∧
      (extract .standard ⟨4, 24⟩ twiceMarkedRegion).text = "60806040525B" ∧
      (extract .standard ⟨4, 24⟩ twiceMarkedRegion).policy = some "solc>=0.4.22" ∧
      places Policies.metadataStart.toList "60806040525B".toList = ∅ ∧
      places Policies.prologueFrom22.toList "60806040525B".toList ⊆ {0} := by
  -- The second start marker is kept, and is where the region of the region begins.
  have region : (extract .standard ⟨4, 24⟩ twiceMarked).text = "60806040525B" := by
    decide +kernel
  obtain ⟨again, ends⟩ := extract_idempotent .standard ⟨4, 24⟩ twiceMarked
  have full : ∀ row ∈ Policies.standard.rows, row.markers.start ≠ [] := by decide +kernel
  have read : Bytecode.ofText (extract .standard ⟨4, 24⟩ twiceMarked).text .compiled =
      .ok twiceMarkedRegion := by
    rw [region]
    exact Bytecode.ofText_text twiceMarkedRegion .compiled
  obtain ⟨text, policy⟩ := again full .compiled twiceMarkedRegion read
  obtain ⟨unstopped, started⟩ := ends _ rfl (by decide) (by decide)
  rw [region] at text unstopped started
  exact ⟨region, text, policy.trans rfl, unstopped, started⟩

end DeployCheck.Region
