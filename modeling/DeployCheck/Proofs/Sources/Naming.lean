import DeployCheck.Proofs.Sources
/-!
What the name of a source looks like, for paths that were read as they are and not followed on a
disk. A path has the root for a part of its own, so its parts beyond those of the base directory are
all names as long as both start in the same place. From a base directory that is left open the root
itself is such a part.
-/
namespace DeployCheck.Sources

open Text DeployCheck.Path

variable {path base name text : String} {texts : List String}

/-! ## Parts -/

theorem filterMap_steps (segments : List String) :
    (segments.filterMap step?).filterMap part? = segments.filter (· ≠ ".") := by
  rw [← text_filterMap_step?, ← List.filterMap_eq_map, List.filterMap_filterMap,
    List.filterMap_filterMap]
  refine List.filterMap_congr fun segment _ => ?_
  by_cases point : segment = "."
  · simp [step?, point]
  · by_cases upward : segment = ".." <;> simp [step?, point, upward, part?]

theorem parts_eq (path : String) :
    parts path = (if isAbsolute path then ["/"] else []) ++ names path := by
  have steps := filterMap_steps (segments path)
  rw [parts, components]
  split
  · rw [List.filterMap_cons_some (show part? .root = some "/" from rfl), steps]
    rfl
  · split
    · rw [List.filterMap_cons_none (show part? .current = none from rfl), steps]
      rfl
    · exact steps

theorem isSegment_of_mem_names (member : text ∈ names path) : IsSegment text ∧ text ≠ "." := by
  obtain ⟨inside, differs⟩ := List.mem_filter.mp member
  exact ⟨isSegment_of_mem inside, by simpa using differs⟩

theorem slash_not_mem_names : "/" ∉ names path := by
  intro member
  exact (isSegment_of_mem_names member).1.2 (by decide)

theorem key_iff : key path base = .ok name ↔ ∃ rest, parts path = parts base ++ rest ∧ rest ≠ [] ∧
    ".." ∉ rest ∧ name = "/".intercalate rest := by
  constructor
  · intro given
    obtain ⟨rest, whole, further, same⟩ := key_eq_ok given
    refine ⟨rest, whole, further, fun upward => ?_, same⟩
    simp only [key, whole, List.drop_left, upward, if_true] at given
    split at given <;> cases given
  · rintro ⟨rest, whole, further, down, rfl⟩
    simp [key, whole, further, down]

/-! ## Names that lead down -/

/-- A name that is read from a directory and leads further down: it is not empty, it does not start
at the root, and between its slashes there are names alone. -/
structure LeadsDown (name : String) : Prop where
  full : name ≠ ""
  relative : isAbsolute name = false
  pieces : ∀ piece ∈ Text.pieces '/' name.toList, String.ofList piece ∉ ["", ".", ".."]

theorem pieces_intercalate (clean : ∀ text ∈ texts, IsSegment text) (full : texts ≠ []) :
    Text.pieces '/' ("/".intercalate texts).toList = texts.map String.toList := by
  induction texts with
  | nil => exact absurd rfl full
  | cons head rest ih =>
      have first := pieces_of_not_mem (clean head List.mem_cons_self).2
      cases rest with
      | nil => rw [String.intercalate_singleton, first, List.map_singleton]
      | cons next more =>
          have others := ih (fun text member => clean text (List.mem_cons_of_mem head member))
            (List.cons_ne_nil next more)
          have slash : "/".toList = ['/'] := rfl
          rw [String.intercalate_cons_cons, String.toList_append, String.toList_append, slash,
            List.append_assoc, List.singleton_append, pieces_append, first, others]
          rfl

theorem leadsDown_intercalate (clean : ∀ text ∈ texts, IsName text) (full : texts ≠ []) :
    LeadsDown ("/".intercalate texts) := by
  have segment : ∀ text ∈ texts, IsSegment text := fun text member => (clean text member).1
  refine ⟨fun empty => ?_, isAbsolute_intercalate segment, fun piece member => ?_⟩
  · have spelled := segments_intercalate segment
    rw [empty, segments_empty] at spelled
    exact full spelled.symm
  · rw [pieces_intercalate segment full] at member
    obtain ⟨text, inside, rfl⟩ := List.mem_map.mp member
    obtain ⟨⟨filled, -⟩, unpointed, downward⟩ := clean text inside
    simp [filled, unpointed, downward]

theorem isAbsolute_intercalate_slash (texts : List String) :
    isAbsolute ("/".intercalate ("/" :: texts)) = true := by
  cases texts with
  | nil => rfl
  | cons next more => simp [isAbsolute, String.intercalate_cons_cons]

theorem open_of_apart {rest : List String} (whole : parts path = parts base ++ rest)
    (differ : isAbsolute path ≠ isAbsolute base) :
    isAbsolute path = true ∧ parts base = [] ∧ rest = "/" :: names path := by
  -- A path that starts elsewhere than the base directory in front of it starts at the root, and
  -- the base directory has no parts.
  rw [parts_eq, parts_eq] at whole
  cases rooted : isAbsolute path with
  | false =>
      have rootedBase : isAbsolute base = true := by
        simpa [rooted] using differ.symm
      simp only [rooted, rootedBase, Bool.false_eq_true, if_false, if_true, List.nil_append]
        at whole
      have member : "/" ∈ names path := by simp [whole]
      exact absurd member slash_not_mem_names
  | true =>
      have openBase : isAbsolute base = false := by
        simpa [rooted] using differ.symm
      simp only [rooted, openBase, Bool.false_eq_true, if_false, if_true, List.nil_append,
        List.singleton_append] at whole
      have bare : names base = [] := by
        cases listed : names base with
        | nil => rfl
        | cons head more =>
            rw [listed, List.cons_append, List.cons.injEq] at whole
            have member : "/" ∈ names base := by simp [listed, ← whole.1]
            exact absurd member slash_not_mem_names
      rw [bare, List.nil_append] at whole
      exact ⟨rfl, by simp [parts_eq, openBase, bare], whole.symm⟩

/-- When a name leads down. It does so exactly if the path and the base directory start in the same
place. Otherwise the path starts at the root, the base directory is the one that is left open, and
the name starts at the root as well. -/
theorem key_leads_down_iff (given : key path base = .ok name) :
    (LeadsDown name ↔ isAbsolute path = isAbsolute base) ∧
      (isAbsolute path ≠ isAbsolute base →
        isAbsolute path = true ∧ parts base = [] ∧ isAbsolute name = true) := by
  obtain ⟨rest, whole, further, down, rfl⟩ := key_iff.mp given
  have apart : isAbsolute path ≠ isAbsolute base →
      isAbsolute path = true ∧ parts base = [] ∧ isAbsolute ("/".intercalate rest) = true := by
    intro differ
    obtain ⟨rooted, bare, same⟩ := open_of_apart whole differ
    exact ⟨rooted, bare, same ▸ isAbsolute_intercalate_slash _⟩
  refine ⟨⟨fun leads => ?_, fun same => ?_⟩, apart⟩
  · by_contra differ
    exact absurd leads.relative (by simp [(apart differ).2.2])
  · rw [parts_eq, parts_eq, same, List.append_assoc] at whole
    have inside := List.append_cancel_left whole
    refine leadsDown_intercalate (fun text member => ?_) further
    have named : text ∈ names path := inside ▸ List.mem_append_right _ member
    obtain ⟨segment, unpointed⟩ := isSegment_of_mem_names named
    exact ⟨segment, unpointed, fun upward => down (upward ▸ member)⟩

theorem key_leads_down_iff_two :
    (key "./lib//./A.sol" "." = .ok "lib/A.sol" ∧ LeadsDown "lib/A.sol") ∧
      (key "/lib/A.sol" "./." = .ok "//lib/A.sol" ∧ isAbsolute "//lib/A.sol" = true) := by
  -- A path below a base directory, with points on both, and a path from the root beside the
  -- directory that is left open.
  have below : key "./lib//./A.sol" "." = .ok "lib/A.sol" := rfl
  have beside : key "/lib/A.sol" "./." = .ok "//lib/A.sol" := rfl
  exact ⟨⟨below, (key_leads_down_iff below).1.mpr rfl⟩, beside,
    ((key_leads_down_iff beside).2 (by decide)).2.2⟩

/-- A name need not lead down. -/
theorem not_leads_down :
    ¬ ∀ path base name, key path base = .ok name → LeadsDown name := by
  intro always
  have relative := (always "/A.sol" "." "//A.sol" rfl).relative
  revert relative
  decide

end DeployCheck.Sources
