import DeployCheck.Disk.Operations
import DeployCheck.Proofs.Text.Pieces
import Mathlib.Data.List.Basic
namespace DeployCheck.Path

open Text

def IsSegment (text : String) : Prop :=
  text ≠ "" ∧ '/' ∉ text.toList

/-- The name of an entry: a segment that is no step of its own. -/
def IsName (text : String) : Prop :=
  IsSegment text ∧ text ≠ "." ∧ text ≠ ".."

instance (text : String) : Decidable (IsSegment text) :=
  inferInstanceAs (Decidable (_ ∧ _))

instance (text : String) : Decidable (IsName text) :=
  inferInstanceAs (Decidable (_ ∧ _))

def names (path : String) : List String :=
  (segments path).filter (· ≠ ".")

variable {path front back directory text : String} {location : List String}

/-! ## Segments -/

theorem isSegment_of_mem (member : text ∈ segments path) : IsSegment text := by
  obtain ⟨piece, found, rfl⟩ := List.mem_map.mp member
  obtain ⟨inside, full⟩ := List.mem_filter.mp found
  refine ⟨?_, ?_⟩
  · simpa using full
  · rw [String.toList_ofList]
    exact not_mem_of_mem_pieces inside

theorem segments_append (front back : String) :
    segments (front ++ "/" ++ back) = segments front ++ segments back := by
  have slash : "/".toList = ['/'] := rfl
  unfold segments
  rw [String.toList_append, String.toList_append, slash, List.append_assoc, List.singleton_append,
    pieces_append, List.filter_append, List.map_append]

theorem segments_empty : segments "" = [] :=
  rfl

theorem segments_slash (back : String) : segments ("/" ++ back) = segments back := by
  have cut := segments_append "" back
  rwa [String.empty_append, segments_empty, List.nil_append] at cut

theorem segments_of_isSegment (segment : IsSegment text) : segments text = [text] := by
  have full : text.toList ≠ [] := by simpa using segment.1
  simp [segments, pieces_of_not_mem segment.2, full]

theorem segments_intercalate (clean : ∀ text ∈ location, IsSegment text) :
    segments ("/".intercalate location) = location := by
  induction location with
  | nil => rfl
  | cons head rest ih =>
      have first := segments_of_isSegment (clean head List.mem_cons_self)
      have others := ih fun text member => clean text (List.mem_cons_of_mem head member)
      cases rest with
      | nil => rw [String.intercalate_singleton, first]
      | cons next more =>
          rw [String.intercalate_cons_cons, segments_append, first, others]
          rfl

theorem segments_ne_nil (relative : isAbsolute path = false) (full : path ≠ "") :
    segments path ≠ [] := by
  cases chars : path.toList with
  | nil => exact absurd (by simpa using chars) full
  | cons c rest =>
      have differs : c ≠ '/' := by
        rintro rfl
        simp [isAbsolute, chars] at relative
      rw [segments, chars, pieces, if_neg differs]
      cases pieces '/' rest <;> simp

/-! ## Components -/

theorem filterMap_step? {segments : List String} (down : ".." ∉ segments) :
    segments.filterMap step? = (segments.filter (· ≠ ".")).map .name := by
  induction segments with
  | nil => rfl
  | cons head rest ih =>
      have others := ih fun member => down (List.mem_cons_of_mem head member)
      have upward : head ≠ ".." := fun same => down (same ▸ List.mem_cons_self)
      by_cases point : head = "."
      · have step : step? head = none := if_pos point
        rw [List.filterMap_cons_none step, others, List.filter_cons_of_neg (by simp [point])]
      · have step : step? head = some (.name head) := by simp [step?, point, upward]
        rw [List.filterMap_cons_some step, others, List.filter_cons_of_pos (by simp [point])]
        rfl

theorem components_of_isAbsolute (absolute : isAbsolute path = true)
    (down : ".." ∉ segments path) : components path = .root :: (names path).map .name := by
  rw [components, if_pos absolute, filterMap_step? down]
  rfl

theorem isAbsolute_of_isPlain (plain : isPlain path = true) : isAbsolute path = false := by
  by_contra absolute
  rw [Bool.not_eq_false] at absolute
  simp [isPlain, components, absolute] at plain

theorem components_of_plain_step (plain : isPlain path = true) :
    components path = (segments path).filterMap step? := by
  have relative := isAbsolute_of_isPlain plain
  unfold isPlain components at plain
  unfold components
  simp only [relative, Bool.false_eq_true, if_false] at plain ⊢
  split
  · rename_i pointed
    simp [pointed] at plain
  · rfl

theorem down_of_isPlain (plain : isPlain path = true) : ".." ∉ segments path := by
  intro upward
  have steps := components_of_plain_step plain
  have step : Component.parent ∈ components path := by
    rw [steps]
    exact List.mem_filterMap.mpr ⟨"..", upward, rfl⟩
  cases List.all_eq_true.mp plain _ step

theorem isPlain_iff : isPlain path = true ↔
    isAbsolute path = false ∧ ".." ∉ segments path ∧ (segments path).head? ≠ some "." := by
  constructor
  · intro plain
    have relative := isAbsolute_of_isPlain plain
    refine ⟨relative, down_of_isPlain plain, fun pointed => ?_⟩
    simp [isPlain, components, relative, pointed] at plain
  · rintro ⟨relative, down, unpointed⟩
    rw [isPlain, components, if_neg (by simp [relative]), if_neg unpointed, filterMap_step? down]
    simp

theorem isName_of_isPlain (plain : isPlain path = true) (member : text ∈ names path) :
    IsName text := by
  obtain ⟨inside, differs⟩ := List.mem_filter.mp member
  refine ⟨isSegment_of_mem inside, by simpa using differs, ?_⟩
  rintro rfl
  exact down_of_isPlain plain inside

theorem names_ne_nil_of_isPlain (full : path ≠ "") (plain : isPlain path = true) :
    names path ≠ [] := by
  have relative := isAbsolute_of_isPlain plain
  obtain ⟨head, rest, found⟩ := List.exists_cons_of_ne_nil (segments_ne_nil relative full)
  have unpointed : head ≠ "." := fun point =>
    (isPlain_iff.mp plain).2.2 (by rw [found, point, List.head?_cons])
  rw [names, found, List.filter_cons_of_pos (by simpa using unpointed)]
  exact List.cons_ne_nil _ _

theorem text_name (location : List String) :
    (location.map Component.name).map Component.text = location := by
  rw [List.map_map]
  exact List.map_id'' (fun _ => rfl) location

theorem ofComponents_names (location : List String) :
    ofComponents (.root :: location.map .name) = Disk.pathOf location := by
  rw [ofComponents, text_name]
  rfl

/-! ## Components put together -/

theorem text_filterMap_step? (segments : List String) :
    (segments.filterMap step?).map Component.text = segments.filter (· ≠ ".") := by
  induction segments with
  | nil => rfl
  | cons head rest ih =>
      by_cases point : head = "."
      · have step : step? head = none := if_pos point
        rw [List.filterMap_cons_none step, List.filter_cons_of_neg (by simp [point]), ih]
      · rw [List.filter_cons_of_pos (by simpa using point), ← ih]
        by_cases upward : head = ".."
        · have step : step? head = some .parent := by simp [step?, upward]
          rw [List.filterMap_cons_some step, upward]
          rfl
        · have step : step? head = some (.name head) := by simp [step?, point, upward]
          rw [List.filterMap_cons_some step]
          rfl

theorem ofComponents_of_rootless {steps : List Component} (rootless : .root ∉ steps) :
    ofComponents steps = "/".intercalate (steps.map Component.text) := by
  unfold ofComponents
  split
  · exact absurd List.mem_cons_self rootless
  · rfl

theorem isAbsolute_intercalate (clean : ∀ text ∈ location, IsSegment text) :
    isAbsolute ("/".intercalate location) = false := by
  cases location with
  | nil => rfl
  | cons head rest =>
      obtain ⟨full, unslashed⟩ := clean head List.mem_cons_self
      have heads (back : String) : isAbsolute (head ++ back) = false := by
        cases chars : head.toList with
        | nil => exact absurd (by simpa using chars) full
        | cons c more =>
            have differs : c ≠ '/' := by
              rintro rfl
              exact unslashed (chars ▸ List.mem_cons_self)
            simpa [isAbsolute, chars] using differs
      cases rest with
      | nil =>
          rw [String.intercalate_singleton, ← String.append_empty (s := head)]
          exact heads ""
      | cons next more =>
          rw [String.intercalate_cons_cons, String.append_assoc]
          exact heads _

theorem names_intercalate (clean : ∀ text ∈ location, IsName text) :
    names ("/".intercalate location) = location := by
  rw [names, segments_intercalate fun text member => (clean text member).1]
  exact List.filter_eq_self.mpr fun text member => by simpa using (clean text member).2.1

theorem isPlain_intercalate (clean : ∀ text ∈ location, IsName text) :
    isPlain ("/".intercalate location) = true := by
  have segment : ∀ text ∈ location, IsSegment text := fun text member => (clean text member).1
  have down : ".." ∉ segments ("/".intercalate location) := by
    rw [segments_intercalate segment]
    exact fun member => (clean ".." member).2.2 rfl
  have unpointed : (segments ("/".intercalate location)).head? ≠ some "." := by
    rw [segments_intercalate segment]
    exact fun head => (clean "." (List.mem_of_head? head)).2.1 rfl
  exact isPlain_iff.mpr ⟨isAbsolute_intercalate segment, down, unpointed⟩

theorem ofComponents_components (path : String) :
    names (ofComponents (components path)) = names path ∧
      isAbsolute (ofComponents (components path)) = isAbsolute path ∧
      (ofComponents (components path) = "" → components path = []) := by
  have clean : ∀ text ∈ (segments path).filter (· ≠ "."), IsSegment text :=
    fun text member => isSegment_of_mem (List.mem_filter.mp member).1
  have texts := text_filterMap_step? (segments path)
  have rootless : .root ∉ (segments path).filterMap step? := by
    intro member
    obtain ⟨segment, -, step⟩ := List.mem_filterMap.mp member
    simp only [step?] at step
    split at step
    · cases step
    · split at step <;> cases step
  have point : IsSegment "." := ⟨by decide, by decide⟩
  by_cases absolute : isAbsolute path = true
  · have whole : ofComponents (components path) =
        "/" ++ "/".intercalate ((segments path).filter (· ≠ ".")) := by
      rw [components, if_pos absolute, ← texts]
      rfl
    rw [whole, names, segments_slash, segments_intercalate clean, List.filter_filter, absolute]
    refine ⟨by simp [names], by simp [isAbsolute], fun empty => ?_⟩
    simp at empty
  · by_cases pointed : (segments path).head? = some "."
    · have whole : ofComponents (components path) =
          "/".intercalate ("." :: (segments path).filter (· ≠ ".")) := by
        rw [components, if_neg absolute, if_pos pointed, ofComponents_of_rootless (by simpa using rootless),
          List.map_cons, texts]
        rfl
      have all : ∀ text ∈ "." :: (segments path).filter (· ≠ "."), IsSegment text := by
        intro text member
        rcases List.mem_cons.mp member with rfl | inside
        · exact point
        · exact clean text inside
      rw [whole, names, segments_intercalate all, isAbsolute_intercalate all]
      refine ⟨by simp [names], by simpa using absolute, fun empty => ?_⟩
      have nothing := segments_intercalate all
      rw [empty, segments_empty] at nothing
      cases nothing
    · have whole : ofComponents (components path) =
          "/".intercalate ((segments path).filter (· ≠ ".")) := by
        rw [components, if_neg absolute, if_neg pointed, ofComponents_of_rootless rootless, texts]
      rw [whole, names, segments_intercalate clean, isAbsolute_intercalate clean]
      refine ⟨by simp [names], by simpa using absolute, fun empty => ?_⟩
      have nothing := segments_intercalate clean
      rw [empty, segments_empty, ← texts] at nothing
      rw [components, if_neg absolute, if_neg pointed]
      exact List.map_eq_nil_iff.mp nothing.symm

/-! ## Paths of locations -/

theorem isAbsolute_pathOf (location : List String) : isAbsolute (Disk.pathOf location) = true := by
  rw [isAbsolute, Disk.pathOf, String.toList_append]
  rfl

theorem segments_pathOf (clean : ∀ text ∈ location, IsSegment text) :
    segments (Disk.pathOf location) = location := by
  rw [Disk.pathOf, segments_slash, segments_intercalate clean]

theorem names_pathOf (clean : ∀ text ∈ location, IsName text) :
    names (Disk.pathOf location) = location := by
  rw [names, Disk.pathOf, segments_slash]
  exact names_intercalate clean

theorem components_pathOf (clean : ∀ text ∈ location, IsName text) :
    components (Disk.pathOf location) = .root :: location.map .name := by
  have down : ".." ∉ segments (Disk.pathOf location) := by
    rw [segments_pathOf fun text member => (clean text member).1]
    exact fun member => (clean ".." member).2.2 rfl
  rw [components_of_isAbsolute (isAbsolute_pathOf location) down, names_pathOf clean]

/-! ## Paths below a location -/

variable {above : List String} {last name : String}

theorem toList_pathOf_concat (above : List String) (last : String) :
    ∃ front, (Disk.pathOf (above ++ [last])).toList = front ++ last.toList := by
  cases above with
  | nil => exact ⟨"/".toList, by rw [Disk.pathOf, List.nil_append, String.intercalate_singleton,
      String.toList_append]⟩
  | cons head rest =>
      refine ⟨("/" ++ ("/".intercalate (head :: rest) ++ "/")).toList, ?_⟩
      rw [Disk.pathOf, String.intercalate_append_of_ne_nil (List.cons_ne_nil _ _)
        (List.cons_ne_nil _ _), String.intercalate_singleton, ← String.append_assoc,
        String.toList_append]

theorem getLast?_toList_pathOf (segment : IsSegment last) :
    (Disk.pathOf (above ++ [last])).toList.getLast? = last.toList.getLast? := by
  obtain ⟨front, same⟩ := toList_pathOf_concat above last
  have full : last.toList ≠ [] := by simpa using segment.1
  rw [same, List.getLast?_append_of_ne_nil _ full]

theorem endsInSlash_pathOf (segment : IsSegment last) :
    endsInSlash (Disk.pathOf (above ++ [last])) = false := by
  rw [endsInSlash, getLast?_toList_pathOf segment]
  cases ending : last.toList.getLast? with
  | none => rfl
  | some c =>
      have inside := List.mem_of_getLast? ending
      have differs : c ≠ '/' := fun same => segment.2 (same ▸ inside)
      simpa using differs

theorem join_pathOf (segment : IsSegment last) (relative : isAbsolute name = false) :
    join (Disk.pathOf (above ++ [last])) name = Disk.pathOf (above ++ [last]) ++ "/" ++ name := by
  have full : Disk.pathOf (above ++ [last]) ≠ "" := by
    intro empty
    simp [Disk.pathOf] at empty
  rw [join, if_neg (by simp [relative]), if_neg (by simp [full, endsInSlash_pathOf segment])]

theorem join_intercalate {rest : List String} (clean : ∀ text ∈ above, IsSegment text)
    (further : ∀ text ∈ rest, IsSegment text) (below : rest ≠ []) :
    join (Disk.pathOf above) ("/".intercalate rest) = Disk.pathOf (above ++ rest) := by
  have relative := isAbsolute_intercalate further
  rcases List.eq_nil_or_concat' above with rfl | ⟨parent, last, rfl⟩
  · have root : endsInSlash (Disk.pathOf []) = true := rfl
    rw [join, if_neg (by simp [relative]), if_pos (Or.inr root)]
    rfl
  · rw [join_pathOf (clean last (by simp)) relative, Disk.pathOf, Disk.pathOf,
      String.intercalate_append_of_ne_nil (by simp) below]
    simp only [String.append_assoc]

theorem isSegment_last (clean : ∀ text ∈ above ++ [last], IsName text) : IsSegment last :=
  (clean last (by simp)).1

section

variable (clean : ∀ text ∈ above ++ [last], IsName text) (plain : isPlain name = true)

include clean plain

theorem isAbsolute_join : isAbsolute (join (Disk.pathOf (above ++ [last])) name) = true := by
  rw [join_pathOf (isSegment_last clean) (isAbsolute_of_isPlain plain), Disk.pathOf,
    isAbsolute]
  simp

theorem segments_join : segments (join (Disk.pathOf (above ++ [last])) name) =
    above ++ [last] ++ segments name := by
  rw [join_pathOf (isSegment_last clean) (isAbsolute_of_isPlain plain), segments_append,
    segments_pathOf fun text member => (clean text member).1]

theorem names_join : names (join (Disk.pathOf (above ++ [last])) name) =
    above ++ [last] ++ names name := by
  rw [names, segments_join clean plain, List.filter_append]
  congr 1
  exact List.filter_eq_self.mpr fun text member => by simpa using (clean text member).2.1

theorem components_join : components (join (Disk.pathOf (above ++ [last])) name) =
    .root :: (above ++ [last] ++ names name).map .name := by
  have down : ".." ∉ segments (join (Disk.pathOf (above ++ [last])) name) := by
    rw [segments_join clean plain]
    intro member
    rcases List.mem_append.mp member with inside | later
    · exact (clean ".." inside).2.2 rfl
    · exact down_of_isPlain plain later
  rw [components_of_isAbsolute (isAbsolute_join clean plain) down, names_join clean plain]

end

/-! ## Components one by one -/

def Component.IsStep (step : Component) : Prop :=
  step = .parent ∨ ∃ text, step = .name text ∧ IsName text

theorem Component.IsStep.isSegment {step : Component} (sound : step.IsStep) :
    IsSegment step.text := by
  rcases sound with rfl | ⟨text, rfl, proper⟩
  · exact ⟨by decide, by decide⟩
  · exact proper.1

theorem isStep_of_step? {step : Component} (segment : IsSegment text)
    (made : step? text = some step) : step.IsStep := by
  rw [step?] at made
  split at made
  · cases made
  · rename_i unpointed
    split at made
    · exact Or.inl (Option.some.inj made).symm
    · rename_i downward
      exact Or.inr ⟨text, (Option.some.inj made).symm, segment, unpointed, downward⟩

theorem components_cases (path : String) : (∀ step ∈ (components path).tail, step.IsStep) ∧
    ∀ step ∈ (components path).head?, step = .root ∨ step = .current ∨ step.IsStep := by
  have sound : ∀ step ∈ (segments path).filterMap step?, step.IsStep := by
    intro step member
    obtain ⟨text, inside, made⟩ := List.mem_filterMap.mp member
    exact isStep_of_step? (isSegment_of_mem inside) made
  rw [components]
  split
  · exact ⟨sound, by simp⟩
  · split
    · exact ⟨sound, by simp⟩
    · refine ⟨fun step member => sound step (List.mem_of_mem_tail member), fun step member => ?_⟩
      exact Or.inr (Or.inr (sound step (List.mem_of_head? member)))

theorem isStep_of_concat {steps : List Component} {step : Component}
    (leads : steps ++ [step] <+: components path) (further : steps ≠ []) : step.IsStep := by
  obtain ⟨head, rest, rfl⟩ := List.exists_cons_of_ne_nil further
  obtain ⟨more, whole⟩ := leads
  exact (components_cases path).1 step (by simp [← whole])

theorem endsInSlash_intercalate (above : List String) (segment : IsSegment last) :
    endsInSlash ("/".intercalate (above ++ [last])) = false := by
  have whole : endsInSlash (Disk.pathOf (above ++ [last])) = false := endsInSlash_pathOf segment
  rw [endsInSlash, Disk.pathOf, String.toList_append] at whole
  cases chars : ("/".intercalate (above ++ [last])).toList with
  | nil => rw [endsInSlash, chars]; rfl
  | cons c more =>
      rwa [List.getLast?_append_of_ne_nil _ (by simp [chars]), ← endsInSlash] at whole

theorem intercalate_concat {texts : List String} (clean : ∀ other ∈ texts, IsSegment other)
    (segment : IsSegment text) :
    "/".intercalate (texts ++ [text]) = join ("/".intercalate texts) text := by
  have relative : isAbsolute text = false := by
    have single := isAbsolute_intercalate fun other member => List.mem_singleton.mp member ▸ segment
    rwa [String.intercalate_singleton] at single
  rcases List.eq_nil_or_concat' texts with rfl | ⟨above, last, rfl⟩
  · simp [join, relative]
  · have ended := endsInSlash_intercalate above (clean last (by simp))
    have full : "/".intercalate (above ++ [last]) ≠ "" := by
      intro empty
      have parts := segments_intercalate clean
      rw [empty, segments_empty] at parts
      simp at parts
    rw [join, if_neg (by simp [relative]), if_neg (by simp [full, ended]),
      String.intercalate_append_of_ne_nil (by simp) (by simp), String.intercalate_singleton]

theorem ofComponents_concat {steps : List Component}
    (leads : steps ++ [.name text] <+: components path) :
    IsName text ∧ ofComponents (steps ++ [.name text]) = join (ofComponents steps) text := by
  obtain ⟨tails, heads⟩ := components_cases path
  obtain ⟨more, whole⟩ := leads
  have named (sound : (Component.name text).IsStep) : IsName text := by
    rcases sound with same | ⟨other, same, proper⟩
    · cases same
    · exact Component.name.inj same ▸ proper
  cases steps with
  | nil =>
      have proper : IsName text := by
        rcases heads (.name text) (by simp [← whole]) with same | same | sound
        · cases same
        · cases same
        · exact named sound
      have single : ∀ other ∈ ([] : List String), IsSegment other := by simp
      exact ⟨proper, intercalate_concat single proper.1⟩
  | cons head rest =>
      have proper : IsName text := named (tails (.name text) (by simp [← whole]))
      have clean : ∀ other ∈ rest.map Component.text, IsSegment other := by
        intro other member
        obtain ⟨step, inside, rfl⟩ := List.mem_map.mp member
        exact (tails step (by simp [← whole, inside])).isSegment
      refine ⟨proper, ?_⟩
      by_cases root : head = .root
      · have joined := join_intercalate clean (fun other member => List.mem_singleton.mp member ▸
          proper.1) (List.cons_ne_nil text [])
        rw [String.intercalate_singleton] at joined
        rw [root, List.cons_append, ofComponents, ofComponents, List.map_append]
        exact joined.symm
      · have first : IsSegment head.text := by
          rcases heads head (by simp [← whole]) with same | rfl | sound
          · exact absurd same root
          · exact ⟨by decide, by decide⟩
          · exact sound.isSegment
        have rootless : .root ∉ rest := fun member => by
          rcases tails .root (by simp [← whole, member]) with same | ⟨_, same, -⟩ <;> cases same
        rw [ofComponents_of_rootless (by simp [rootless, Ne.symm root]),
          ofComponents_of_rootless (by simp [rootless, Ne.symm root]), List.map_append]
        refine intercalate_concat (fun other member => ?_) proper.1
        rcases List.mem_cons.mp member with rfl | inside
        · exact first
        · exact clean other inside

end DeployCheck.Path
