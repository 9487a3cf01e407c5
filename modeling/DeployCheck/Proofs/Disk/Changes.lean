import DeployCheck.Disk.Operations
import DeployCheck.Proofs.Disk.Walk
namespace DeployCheck.Disk

open Text

variable {disk later : Disk} {workingDirectory location place : Location}
  {path source target : String} {payload : Payload} {mode : Nat} {entry : Entry}

/-! ## Standing directories -/

/-- The location is a directory, and so is all above it. -/
def Stands (disk : Disk) (location : Location) : Prop :=
  ∀ way, way <+: location → disk.entry? way = some .directory

theorem Stands.extend (stands : disk.Stands location) (larger : Extends disk later) :
    later.Stands location :=
  fun way leads => larger way _ (stands way leads)

theorem Stands.put (stands : disk.Stands location) (other : disk.entry? place ≠ some .directory)
    (entry : Entry) : (disk.put place entry).Stands location := by
  intro way leads
  have differs : way ≠ place := by
    rintro rfl
    exact other (stands way leads)
  rw [entry?_put_ne differs, stands way leads]

theorem Stands.remove (stands : disk.Stands location)
    (other : disk.entry? place ≠ some .directory) :
    (disk.remove place).Stands location := by
  intro way leads
  have beside : ¬ place <+: way := fun above => other (stands place (above.trans leads))
  rw [entry?_remove_beside beside, stands way leads]

/-! ## Making directories -/

theorem makeDirectory_eq_ok : disk.makeDirectory workingDirectory path = .ok later ↔
    ∃ directory name, disk.locate workingDirectory false path = .ok (.free directory name) ∧
      later = disk.put (directory ++ [name]) .directory := by
  rw [makeDirectory]
  cases disk.locate workingDirectory false path with
  | error reason => simp
  | ok spot =>
      cases spot with
      | found location => simp
      | free directory name =>
          simp only [Except.ok.injEq, Spot.free.injEq]
          constructor
          · rintro rfl
            exact ⟨directory, name, ⟨rfl, rfl⟩, rfl⟩
          · rintro ⟨_, _, ⟨rfl, rfl⟩, rfl⟩
            rfl

theorem entry?_of_locate_free {follow : Bool} {directory : Location} {name : String}
    (located : disk.locate workingDirectory follow path = .ok (.free directory name)) :
    disk.entry? (directory ++ [name]) = none :=
  (locate_eq_ok.mp located).2.entry?_of_free

theorem makeDirectoriesBack_cases {last : Path.Component} {before : List Path.Component}
    (made : disk.makeDirectoriesBack workingDirectory (last :: before) = .ok later)
    (written : Path.ofComponents (last :: before).reverse = path) :
    disk.makeDirectory workingDirectory path = .ok later ∨
      (later = disk ∧ disk.isDirectory workingDirectory path = true) ∨
      ∃ between, disk.makeDirectory workingDirectory path = .error .notFound ∧
        disk.makeDirectoriesBack workingDirectory before = .ok between ∧
        (between.makeDirectory workingDirectory path = .ok later ∨
          (later = between ∧ between.isDirectory workingDirectory path = true)) := by
  rw [makeDirectoriesBack, written] at made
  split at made
  · rename_i direct
    exact Or.inl (Except.ok.inj made ▸ direct)
  · rename_i refused
    split at made
    · cases made
    · rename_i between raised
      refine Or.inr (Or.inr ⟨between, refused, raised, ?_⟩)
      split at made
      · rename_i direct
        exact Or.inl (Except.ok.inj made ▸ direct)
      · split at made
        · rename_i there
          exact Or.inr ⟨(Except.ok.inj made).symm, there⟩
        · cases made
  · split at made
    · rename_i there
      exact Or.inr (Or.inl ⟨(Except.ok.inj made).symm, there⟩)
    · cases made

theorem makeDirectoriesBack_induction {motive : Disk → Prop}
    (each : ∀ {before after : Disk} {path : String}, motive before →
      before.makeDirectory workingDirectory path = .ok after → motive after)
    (start : motive disk) {steps : List Path.Component}
    (made : disk.makeDirectoriesBack workingDirectory steps = .ok later) : motive later := by
  induction steps generalizing later with
  | nil => exact Except.ok.inj made ▸ start
  | cons last before ih =>
      rcases makeDirectoriesBack_cases made rfl with
        direct | ⟨rfl, -⟩ | ⟨between, -, raised, direct | ⟨rfl, -⟩⟩
      · exact each start direct
      · exact start
      · exact each (ih raised) direct
      · exact ih raised

/-! ## Writing -/

theorem write_eq_ok (written : disk.write workingDirectory path payload = .ok later) :
    Path.endsInSlash path = false ∧ ∃ spot location mode,
      disk.locate workingDirectory true path = .ok spot ∧ location ≠ [] ∧
      later = disk.put location (.file payload mode) ∧
      ((spot = .found location ∧ ∃ old, disk.entry? location = some (.file old mode)) ∨
        ((∃ directory name, spot = .free directory name ∧ location = directory ++ [name]) ∧
          mode = newFileMode)) := by
  rw [write] at written
  split at written
  · split at written <;> cases written
  · rename_i writable
    cases located : disk.locate workingDirectory true path with
    | error reason => simp [located] at written
    | ok spot =>
        have usable := (locate_eq_ok.mp located).1
        have plain : Path.endsInSlash path = false := by
          by_contra slashed
          exact writable ⟨by simpa using slashed, usable⟩
        refine ⟨plain, spot, ?_⟩
        cases spot with
        | free directory name =>
            simp only [located, Except.ok.injEq] at written
            exact ⟨directory ++ [name], newFileMode, rfl, by simp, written.symm,
              Or.inr ⟨⟨directory, name, rfl, rfl⟩, rfl⟩⟩
        | found location =>
            simp only [located] at written
            cases standing : disk.entry? location with
            | none => simp [standing] at written
            | some entry =>
                cases entry with
                | directory | link => simp [standing] at written
                | file old mode =>
                    simp only [standing, Except.ok.injEq] at written
                    have inner : location ≠ [] := by
                      rintro rfl
                      simp at standing
                    exact ⟨location, mode, rfl, inner, written.symm, Or.inl ⟨rfl, old, standing⟩⟩

theorem resolve_of_write (written : disk.write workingDirectory path payload = .ok later) :
    ∃ location mode, later = disk.put location (.file payload mode) ∧
      disk.entry? location ≠ some .directory ∧
      later.resolve workingDirectory path = .ok location ∧
      later.entry? location = some (.file payload mode) := by
  obtain ⟨-, spot, location, mode, located, inner, rfl, ⟨rfl, old, standing⟩ |
    ⟨⟨directory, name, rfl, rfl⟩, rfl⟩⟩ := write_eq_ok written
  · have file : entry? (disk.put location (.file payload mode)) location =
        some (.file payload mode) := entry?_put_self inner
    refine ⟨location, mode, rfl, by simp [standing], ?_, file⟩
    exact resolve_of_passes (passes_put (Or.inr ⟨old, mode, standing⟩) _) located file nofun
  · have missing := entry?_of_locate_free located
    have file : entry? (disk.put (directory ++ [name]) (.file payload newFileMode))
        (directory ++ [name]) = some (.file payload newFileMode) := entry?_put_self inner
    refine ⟨_, newFileMode, rfl, by simp [missing], ?_, file⟩
    exact resolve_of_passes (passes_put (Or.inl missing) _) located file nofun

/-! ## Modes -/

theorem setMode_eq_ok (changed : disk.setMode workingDirectory path mode = .ok later) :
    ∃ location, disk.resolve workingDirectory path = .ok location ∧
      ((∃ payload old, disk.entry? location = some (.file payload old) ∧
        later = disk.put location (.file payload mode)) ∨
      ((∀ payload old, disk.entry? location ≠ some (.file payload old)) ∧ later = disk)) := by
  rw [setMode] at changed
  cases resolved : disk.resolve workingDirectory path with
  | error reason => simp [resolved] at changed
  | ok location =>
      refine ⟨location, rfl, ?_⟩
      cases standing : disk.entry? location with
      | none => simp [resolved, standing] at changed
      | some entry =>
          cases entry with
          | directory | link =>
              simp only [resolved, standing, Except.ok.injEq] at changed
              exact Or.inr ⟨by simp, changed.symm⟩
          | file payload old =>
              simp only [resolved, standing, Except.ok.injEq] at changed
              exact Or.inl ⟨payload, old, rfl, changed.symm⟩

theorem resolve_of_setMode {old : Nat} (led : disk.resolve workingDirectory path = .ok location)
    (file : disk.entry? location = some (.file payload old))
    (changed : disk.setMode workingDirectory path mode = .ok later) :
    later = disk.put location (.file payload mode) ∧
      later.resolve workingDirectory path = .ok location ∧
      later.entry? location = some (.file payload mode) := by
  have inner : location ≠ [] := by
    rintro rfl
    cases file
  obtain ⟨place, same, ⟨content, bits, standing, rfl⟩ | ⟨other, -⟩⟩ := setMode_eq_ok changed
  · obtain rfl : location = place := Except.ok.inj (led.symm.trans same)
    obtain ⟨rfl, rfl⟩ := Entry.file.inj (Option.some.inj (file.symm.trans standing))
    have changedFile : entry? (disk.put location (.file payload mode)) location =
        some (.file payload mode) := entry?_put_self inner
    refine ⟨rfl, ?_, changedFile⟩
    exact resolve_of_passes (passes_put (Or.inr ⟨_, _, standing⟩) _) (resolve_eq_ok.mp led)
      changedFile nofun
  · obtain rfl : location = place := Except.ok.inj (led.symm.trans same)
    exact absurd file (other payload old)

/-! ## Moves -/

theorem rename_eq_ok (moved : disk.rename workingDirectory source target = .ok later) :
    ∃ location entry, disk.locate workingDirectory false source = .ok (.found location) ∧
      disk.entry? location = some entry ∧
      ((∃ directory name, disk.locate workingDirectory false target = .ok (.free directory name) ∧
        later = (disk.remove location).put (directory ++ [name]) entry) ∨
      ∃ other, disk.locate workingDirectory false target = .ok (.found other) ∧
        disk.entry? other ≠ some .directory ∧
        ((other = location ∧ later = disk) ∨
          later = (disk.remove location).put other entry)) := by
  rw [rename] at moved
  cases from_ : disk.locate workingDirectory false source with
  | error reason => simp [from_] at moved
  | ok spot =>
      cases to_ : disk.locate workingDirectory false target with
      | error reason => simp [from_, to_] at moved
      | ok goal =>
          cases spot with
          | free directory name => simp [from_, to_] at moved
          | found location =>
              simp only [from_, to_] at moved
              cases standing : disk.entry? location with
              | none => simp [standing] at moved
              | some entry =>
                  refine ⟨location, entry, rfl, standing, ?_⟩
                  cases goal with
                  | free directory name =>
                      simp only [standing, Except.ok.injEq] at moved
                      exact Or.inl ⟨directory, name, rfl, moved.symm⟩
                  | found other =>
                      simp only [standing] at moved
                      split at moved
                      · cases moved
                      · rename_i replaceable
                        split at moved
                        · rename_i same
                          exact Or.inr
                            ⟨other, rfl, replaceable, Or.inl ⟨same, (Except.ok.inj moved).symm⟩⟩
                        · exact Or.inr ⟨other, rfl, replaceable, Or.inr (Except.ok.inj moved).symm⟩

theorem movable_of_rename (file : disk.resolve workingDirectory source = .ok place)
    (kind : disk.entry? place = some (.file payload mode))
    (located : disk.locate workingDirectory false source = .ok (.found location)) :
    disk.entry? location ≠ some .directory := by
  -- If a path leads to a file, then what is moved is no directory: a link at the path is moved
  -- itself, and anything else there is what the path leads to.
  intro directory
  obtain ⟨usable, walks⟩ := locate_eq_ok.mp located
  have followed := walks.followed fun other target same => by
    rw [← Spot.found.inj same, directory]
    simp
  have led : disk.resolve workingDirectory source = .ok location :=
    resolve_eq_ok.mpr (locate_eq_ok.mpr ⟨usable, followed⟩)
  rw [file, Except.ok.injEq] at led
  rw [← led, kind] at directory
  cases directory

/-! ## Programs -/

theorem programAt_eq_ok {finished : Finished}
    (found : disk.programAt workingDirectory path = .ok (location, finished)) :
    disk.resolve workingDirectory path = .ok location ∧ ∃ payload mode,
      disk.entry? location = some (.file payload mode) ∧
      (mode.testBit 0 ∨ mode.testBit 3 ∨ mode.testBit 6) ∧ payload.program = some finished := by
  rw [programAt] at found
  split at found
  · cases found
  · split at found
    · cases resolved : disk.resolve workingDirectory path with
      | error reason => simp [resolved] at found
      | ok place =>
          cases stands : disk.entry? place with
          | none => simp [resolved, stands] at found
          | some entry =>
              cases entry with
              | directory | link => simp [resolved, stands] at found
              | file payload mode =>
                  simp only [resolved, stands] at found
                  split at found
                  · rename_i allowed
                    cases does : payload.program with
                    | none => simp [does] at found
                    | some what =>
                        simp only [does, Except.ok.injEq, Prod.mk.injEq] at found
                        obtain ⟨rfl, rfl⟩ := found
                        exact ⟨rfl, payload, mode, stands, allowed, does⟩
                  · cases found
    · cases found

end DeployCheck.Disk
