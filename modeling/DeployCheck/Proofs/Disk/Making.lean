import DeployCheck.Proofs.Disk.Seats
namespace DeployCheck.Disk

variable {disk between later : Disk} {home workingDirectory : Location} {name path : String}
  {steps front : List Path.Component}

/-! ## One directory -/

theorem isDirectory_iff : disk.isDirectory workingDirectory path = true ↔
    ∃ place, disk.resolve workingDirectory path = .ok place ∧
      disk.entry? place = some .directory := by
  rw [isDirectory, lookAt]
  cases disk.resolve workingDirectory path with
  | error reason => simp
  | ok place =>
      cases standing : disk.entry? place with
      | none => simp [standing]
      | some entry => cases entry <;> simp [standing]

theorem isDirectory_of_passes (passes : Passes disk later)
    (there : disk.isDirectory workingDirectory path = true) :
    later.isDirectory workingDirectory path = true := by
  obtain ⟨place, led, stands⟩ := isDirectory_iff.mp there
  have still := passes _ _ stands nofun
  exact isDirectory_iff.mpr
    ⟨place, resolve_of_passes passes (resolve_eq_ok.mp led) still nofun, still⟩

theorem resolve_of_locate_free
    (located : disk.locate workingDirectory false path = .ok (.free home name)) :
    (disk.put (home ++ [name]) .directory).resolve workingDirectory path =
      .ok (home ++ [name]) := by
  obtain ⟨usable, walks⟩ := locate_eq_ok.mp located
  have followed := walks.followed (by simp)
  exact resolve_of_passes (passes_put (Or.inl (entry?_of_locate_free located)) _)
    (locate_eq_ok.mpr ⟨usable, followed⟩) (entry?_put_self (by simp)) nofun

/-! ## All directories of a way -/

def Paved (disk later : Disk) (workingDirectory : Location) (steps : List Path.Component) : Prop :=
  ∀ place, later.entry? place = disk.entry? place ∨
    (disk.entry? place = none ∧ later.entry? place = some .directory ∧ ∃ front, front <+: steps ∧
      later.resolve workingDirectory (Path.ofComponents front) = .ok place)

theorem Paved.refl (disk : Disk) (workingDirectory : Location) (steps : List Path.Component) :
    Paved disk disk workingDirectory steps :=
  fun _ => Or.inl rfl

theorem Paved.extends (paved : Paved disk later workingDirectory steps) : Extends disk later := by
  intro place entry stands
  rcases paved place with same | ⟨missing, -⟩
  · rw [same, stands]
  · rw [missing] at stands
    cases stands

theorem Paved.trans (leads : front <+: steps) (first : Paved disk between workingDirectory front)
    (second : Paved between later workingDirectory steps) :
    Paved disk later workingDirectory steps := by
  intro place
  rcases second place with same | ⟨missing, directory, led⟩
  · rcases first place with kept | ⟨missing, directory, before, begins, led⟩
    · exact Or.inl (same.trans kept)
    · exact Or.inr ⟨missing, same.trans directory, before, begins.trans leads,
        resolve_extend second.extends led⟩
  · exact Or.inr ⟨first.extends.missing missing, directory, led⟩

theorem paved_of_makeDirectory
    (made : disk.makeDirectory workingDirectory (Path.ofComponents steps) = .ok later) :
    Paved disk later workingDirectory steps ∧
      later.isDirectory workingDirectory (Path.ofComponents steps) = true := by
  obtain ⟨directory, name, located, rfl⟩ := makeDirectory_eq_ok.mp made
  have led := resolve_of_locate_free located
  have put : entry? (disk.put (directory ++ [name]) .directory) (directory ++ [name]) =
      some .directory := entry?_put_self (by simp)
  refine ⟨fun place => ?_, isDirectory_iff.mpr ⟨_, led, put⟩⟩
  by_cases same : place = directory ++ [name]
  · subst same
    exact Or.inr ⟨entry?_of_locate_free located, put, steps, List.prefix_refl _, led⟩
  · exact Or.inl (entry?_put_ne same)

theorem makeDirectoriesBack_concat (front : List Path.Component) (last : Path.Component)
    (made : disk.makeDirectoriesBack workingDirectory (front ++ [last]).reverse = .ok later) :
    disk.makeDirectoriesBack workingDirectory (last :: front.reverse) = .ok later ∧
      Path.ofComponents (last :: front.reverse).reverse = Path.ofComponents (front ++ [last]) := by
  rw [List.reverse_append, List.reverse_singleton, List.singleton_append] at made
  exact ⟨made, by rw [List.reverse_cons, List.reverse_reverse]⟩

theorem paved_of_makeDirectoriesBack
    (made : disk.makeDirectoriesBack workingDirectory steps.reverse = .ok later) :
    Paved disk later workingDirectory steps ∧
      (steps ≠ [] → later.isDirectory workingDirectory (Path.ofComponents steps) = true) := by
  induction steps using List.reverseRecOn generalizing later with
  | nil =>
      obtain rfl := Except.ok.inj made
      exact ⟨.refl _ _ _, fun full => absurd rfl full⟩
  | append_singleton front last ih =>
      obtain ⟨made, written⟩ := makeDirectoriesBack_concat front last made
      rcases makeDirectoriesBack_cases made written with
        direct | ⟨rfl, there⟩ | ⟨between, -, raised, direct | ⟨rfl, there⟩⟩
      · exact (paved_of_makeDirectory direct).imp_right fun there _ => there
      · exact ⟨.refl _ _ _, fun _ => there⟩
      · obtain ⟨paved, there⟩ := paved_of_makeDirectory direct
        exact ⟨(ih raised).1.trans (List.prefix_append _ _) paved, fun _ => there⟩
      · exact ⟨(ih raised).1.trans (List.prefix_append _ _) (.refl _ _ _), fun _ => there⟩

theorem exists_seat (working : disk.entry? workingDirectory = some .directory)
    (made : disk.makeDirectories workingDirectory path = .ok later) :
    ∃ home, later.Seat workingDirectory path home := by
  obtain ⟨names, start, -⟩ := Path.ofComponents_components path
  obtain ⟨paved, there⟩ := paved_of_makeDirectoriesBack made
  by_cases empty : Path.components path = []
  · rw [empty] at names start
    have seat : later.Seat workingDirectory (Path.ofComponents []) workingDirectory :=
      ⟨.arrive (.stay _), paved.extends _ _ working⟩
    exact ⟨workingDirectory, seat.congr names.symm start.symm⟩
  · obtain ⟨home, led, stands⟩ := isDirectory_iff.mp (there empty)
    exact ⟨home, (seat_of_resolve led stands).congr names.symm start.symm⟩

/-! ## New directories -/

structure Fresh (disk later : Disk) (workingDirectory : Location) (path : String)
    (home : Location) : Prop where
  vacant : disk.entry? home = none
  led : later.resolve workingDirectory path = .ok home
  stands : later.entry? home = some .directory
  only : ∀ place, later.entry? place = disk.entry? place ∨ place <+: home

theorem fresh_of_locate_free
    (located : disk.locate workingDirectory false path = .ok (.free home name)) :
    Fresh disk (disk.put (home ++ [name]) .directory) workingDirectory path (home ++ [name]) := by
  refine ⟨entry?_of_locate_free located, resolve_of_locate_free located,
    entry?_put_self (by simp), fun place => ?_⟩
  by_cases same : place = home ++ [name]
  · exact Or.inr (same ▸ List.prefix_refl _)
  · exact Or.inl (entry?_put_ne same)

theorem Fresh.missing (tree : disk.IsTree) (fresh : Fresh disk later workingDirectory path home)
    (name : String) : later.entry? (home ++ [name]) = none := by
  rcases fresh.only (home ++ [name]) with same | above
  · rw [same]
    cases there : disk.entry? (home ++ [name]) with
    | none => rfl
    | some entry =>
        have standing := (tree home name entry there).2
        rw [fresh.vacant] at standing
        cases standing
  · exact absurd above (not_prefix_above home name)

theorem Fresh.seat (fresh : Fresh disk later workingDirectory path home) :
    later.Seat workingDirectory path home :=
  seat_of_resolve fresh.led fresh.stands

theorem Fresh.ne (fresh : Fresh disk later workingDirectory path home) : later ≠ disk := by
  rintro rfl
  have stands := fresh.stands
  rw [fresh.vacant] at stands
  cases stands

section

variable (tree : disk.IsTree) (fresh : Fresh disk between workingDirectory path home)
  (proper : Path.IsName name)

include tree fresh proper

theorem Fresh.makeDirectory
    (made : between.makeDirectory workingDirectory (Path.join path name) = .ok later) :
    Fresh disk later workingDirectory (Path.join path name) (home ++ [name]) := by
  obtain ⟨directory, last, located, rfl⟩ := makeDirectory_eq_ok.mp made
  have missing := fresh.missing tree name
  obtain ⟨-, -, same⟩ := (fresh.seat.endsAt_iff proper).mp ⟨_, located, rfl⟩
  have further := fresh_of_locate_free located
  rw [show directory ++ [last] = home ++ [name] from same] at further ⊢
  refine ⟨?_, further.led, further.stands, fun place => ?_⟩
  · rcases fresh.only (home ++ [name]) with kept | above
    · exact kept ▸ missing
    · exact absurd above (not_prefix_above home name)
  · rcases further.only place with kept | above
    · exact (fresh.only place).imp kept.trans fun above => above.trans (List.prefix_append _ _)
    · exact Or.inr above

theorem Fresh.not_isDirectory :
    between.isDirectory workingDirectory (Path.join path name) = false := by
  have missing := fresh.missing tree name
  have plain := fresh.seat.endsPlain proper (by simp [missing])
  rw [Bool.eq_false_iff]
  intro there
  obtain ⟨place, led, stands⟩ := isDirectory_iff.mp there
  obtain ⟨-, same | same⟩ := fresh.seat.locate_eq_ok proper plain (resolve_eq_ok.mp led)
  · rw [Spot.found.inj same, missing] at stands
    cases stands
  · cases same

end

/-- Where a path goes up, it goes up from a directory that is there. -/
def Footed (disk : Disk) (workingDirectory : Location) (path : String) : Prop :=
  ∀ front, front ++ [.parent] <+: Path.components path →
    front = [] ∨ disk.isDirectory workingDirectory (Path.ofComponents front) = true

theorem Footed.passes (footed : disk.Footed workingDirectory path) (passes : Passes disk later) :
    later.Footed workingDirectory path :=
  fun front leads => (footed front leads).imp_right (isDirectory_of_passes passes)

theorem fresh_of_makeDirectoriesBack (tree : disk.IsTree)
    (footed : disk.Footed workingDirectory path) (leads : steps <+: Path.components path)
    (made : disk.makeDirectoriesBack workingDirectory steps.reverse = .ok later) :
    later = disk ∨ ∃ home, Fresh disk later workingDirectory (Path.ofComponents steps) home := by
  -- From the last directory back, as they are tried.
  induction steps using List.reverseRecOn generalizing later with
  | nil => exact Or.inl (Except.ok.inj made).symm
  | append_singleton front last ih =>
      obtain ⟨made, written⟩ := makeDirectoriesBack_concat front last made
      rcases makeDirectoriesBack_cases made written with
        direct | ⟨same, -⟩ | ⟨between, refused, raised, choice⟩
      · obtain ⟨directory, name, located, rfl⟩ := makeDirectory_eq_ok.mp direct
        exact Or.inr ⟨_, fresh_of_locate_free located⟩
      · exact Or.inl same
      · rcases ih ((List.prefix_append _ _).trans leads) raised with rfl | ⟨home, fresh⟩
        · rcases choice with direct | ⟨same, -⟩
          · rw [refused] at direct
            cases direct
          · exact Or.inl same
        · have further : front ≠ [] := by
            rintro rfl
            exact fresh.ne (Except.ok.inj raised).symm
          obtain rfl | ⟨name, rfl, proper⟩ := Path.isStep_of_concat leads further
          · -- Above a way up there was a directory before, so none has been made.
            obtain ⟨place, led, stands⟩ :=
              isDirectory_iff.mp ((footed front leads).resolve_left further)
            have full : Path.ofComponents front = "" → front = [] := fun empty => by
              rw [empty] at led
              cases led
            exact absurd ((seat_of_resolve led stands).makeDirectoriesBack_eq full raised) fresh.ne
          · rw [(Path.ofComponents_concat leads).2] at choice ⊢
            rcases choice with direct | ⟨-, there⟩
            · exact Or.inr ⟨_, fresh.makeDirectory tree proper direct⟩
            · rw [fresh.not_isDirectory tree proper] at there
              cases there

theorem fresh_of_makeDirectories (tree : disk.IsTree) (footed : disk.Footed workingDirectory path)
    (made : disk.makeDirectories workingDirectory path = .ok later) :
    later = disk ∨ ∃ home, later.Seat workingDirectory path home ∧
      ∀ name, later.entry? (home ++ [name]) = none := by
  rcases fresh_of_makeDirectoriesBack tree footed (List.prefix_refl _) made with
    same | ⟨home, fresh⟩
  · exact Or.inl same
  · obtain ⟨names, start, -⟩ := Path.ofComponents_components path
    exact Or.inr ⟨home, fresh.seat.congr names.symm start.symm, fresh.missing tree⟩

end DeployCheck.Disk
