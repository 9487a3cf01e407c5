import DeployCheck.Proofs.Disk.Walk
import DeployCheck.Proofs.Path
namespace DeployCheck.Disk

open Text

variable {disk : Disk} {follow : Bool} {here workingDirectory : Location} {steps : List String}
  {name path : String} {stop : Stop} {spot : Spot}

def Unlinked (disk : Disk) (here : Location) (names : List String) : Prop :=
  ∀ way target, way <+: names → disk.entry? (here ++ way) ≠ some (.link target)

/-- The names lead through directories, but for the last one. -/
def Open (disk : Disk) (here : Location) (names : List String) : Prop :=
  ∀ way, way <+: names → way ≠ [] → way ≠ names → disk.entry? (here ++ way) = some .directory

def EndsBelow (disk : Disk) (here : Location) (names : List String) (spot : Spot) : Prop :=
  Open disk here names ∧
    ((spot = .found (here ++ names) ∧ (names ≠ [] → (disk.entry? (here ++ names)).isSome)) ∨
      ∃ above last, names = above ++ [last] ∧ spot = .free (here ++ above) last ∧
        disk.entry? (here ++ names) = none)

theorem not_prefix_above (home : Location) (name : String) : ¬ home ++ [name] <+: home := by
  intro below
  have long := below.length_le
  rw [List.length_append, List.length_singleton] at long
  omega

theorem open_singleton : Open disk here [name] := by
  intro way leads full short
  rcases List.prefix_cons_iff.mp leads with empty | ⟨rest, rfl, further⟩
  · exact absurd empty full
  · exact absurd (by rw [List.prefix_nil.mp further]) short

theorem Open.cons {names : List String} (stands : disk.entry? (here ++ [name]) = some .directory)
    (further : Open disk (here ++ [name]) names) : Open disk here (name :: names) := by
  intro way leads full short
  rcases List.prefix_cons_iff.mp leads with empty | ⟨rest, rfl, inner⟩
  · exact absurd empty full
  · by_cases first : rest = []
    · rw [first, stands]
    · have beyond := further rest inner first (by rintro rfl; exact short rfl)
      rwa [List.append_assoc, List.singleton_append] at beyond

theorem Goes.down (goes : Goes disk follow here steps stop) (down : ".." ∉ steps)
    (unlinked : Unlinked disk here (steps.filter (· ≠ "."))) :
    ∃ spot, stop = .spot spot ∧ EndsBelow disk here (steps.filter (· ≠ ".")) spot := by
  induction goes with
  | stay here =>
      refine ⟨_, rfl, ?_, Or.inl ⟨by simp, by simp⟩⟩
      intro way leads full
      exact absurd (List.prefix_nil.mp (by simpa using leads)) full
  | point _ ih =>
      rw [List.filter_cons_of_neg (by simp)] at unlinked ⊢
      exact ih (fun member => down (List.mem_cons_of_mem _ member)) unlinked
  | up => exact absurd List.mem_cons_self down
  | free step stands =>
      rw [List.filter_cons_of_pos (by simpa using step.1)]
      exact ⟨_, rfl, open_singleton, Or.inr ⟨[], _, rfl, by simp, stands⟩⟩
  | file step stands | keep step stands =>
      rw [List.filter_cons_of_pos (by simpa using step.1)]
      exact ⟨_, rfl, open_singleton, Or.inl ⟨rfl, fun _ => by simp [stands]⟩⟩
  | halt step stands =>
      rw [List.filter_cons_of_pos (by simpa using step.1)] at unlinked
      exact absurd stands (unlinked [_] _ (by simp))
  | @enter here name rest stop step stands _ ih =>
      rw [List.filter_cons_of_pos (by simpa using step.1)] at unlinked ⊢
      have inner : Unlinked disk (here ++ [name]) (rest.filter (· ≠ ".")) := by
        intro way target leads
        rw [List.append_assoc]
        exact unlinked (name :: way) target (by simpa using leads)
      obtain ⟨spot, ended, further, ending⟩ :=
        ih (fun member => down (List.mem_cons_of_mem _ member)) inner
      refine ⟨spot, ended, further.cons stands, ?_⟩
      rcases ending with ⟨found, stands_⟩ | ⟨above, last, names, free, missing⟩
      · refine Or.inl ⟨by simpa using found, fun _ => ?_⟩
        by_cases empty : rest.filter (· ≠ ".") = []
        · rw [empty, stands]
          rfl
        · simpa using stands_ empty
      · refine Or.inr ⟨name :: above, last, by rw [names]; rfl, by simpa using free, ?_⟩
        simpa using missing

theorem Walks.down {links : Nat} (walks : Walks disk follow links here steps spot)
    (down : ".." ∉ steps) (unlinked : Unlinked disk here (steps.filter (· ≠ "."))) :
    EndsBelow disk here (steps.filter (· ≠ ".")) spot := by
  cases walks with
  | arrive goes =>
      obtain ⟨_, same, ended⟩ := goes.down down unlinked
      exact Stop.spot.inj same ▸ ended
  | pass goes _ =>
      obtain ⟨_, same, -⟩ := goes.down down unlinked
      cases same

theorem filter_stepsOf (path : String) : (stepsOf path).filter (· ≠ ".") = Path.names path := by
  rw [stepsOf, List.filter_append, Path.names]
  split <;> simp

theorem down_of_segments (down : ".." ∉ Path.segments path) : ".." ∉ stepsOf path := by
  rw [stepsOf]
  split <;> simp [down]

theorem endsBelow_of_locate (down : ".." ∉ Path.segments path)
    (unlinked : Unlinked disk (startOf workingDirectory path) (Path.names path))
    (located : disk.locate workingDirectory follow path = .ok spot) :
    EndsBelow disk (startOf workingDirectory path) (Path.names path) spot := by
  obtain ⟨-, walks⟩ := locate_eq_ok.mp located
  rw [← filter_stepsOf] at unlinked ⊢
  exact walks.down (down_of_segments down) unlinked

theorem startOf_of_isAbsolute (absolute : Path.isAbsolute path = true) :
    startOf workingDirectory path = [] :=
  if_pos absolute

theorem startOf_of_relative (relative : Path.isAbsolute path = false) :
    startOf workingDirectory path = workingDirectory :=
  if_neg (by simp [relative])

end DeployCheck.Disk
