import DeployCheck.Disk.Walk
import DeployCheck.Proofs.Disk.Entries
namespace DeployCheck.Disk

open Text

def IsStep (name : String) : Prop :=
  name ≠ "." ∧ name ≠ ".." ∧ utf8Length name.toList ≤ maxNameLength

/-- From this directory the steps lead to this stop. -/
inductive Goes (disk : Disk) (follow : Bool) : Location → List String → Stop → Prop
  | stay (here : Location) : Goes disk follow here [] (.spot (.found here))
  | point {here : Location} {rest : List String} {stop : Stop} : Goes disk follow here rest stop →
    Goes disk follow here ("." :: rest) stop
  | up {here : Location} {rest : List String} {stop : Stop} :
    Goes disk follow here.dropLast rest stop → Goes disk follow here (".." :: rest) stop
  | free {here : Location} {name : String} : IsStep name → disk.entry? (here ++ [name]) = none →
    Goes disk follow here [name] (.spot (.free here name))
  | file {here : Location} {name : String} {payload : Payload} {mode : Nat} : IsStep name →
    disk.entry? (here ++ [name]) = some (.file payload mode) →
    Goes disk follow here [name] (.spot (.found (here ++ [name])))
  | enter {here : Location} {name : String} {rest : List String} {stop : Stop} : IsStep name →
    disk.entry? (here ++ [name]) = some .directory → Goes disk follow (here ++ [name]) rest stop →
    Goes disk follow here (name :: rest) stop
  | keep {here : Location} {name target : String} : IsStep name →
    disk.entry? (here ++ [name]) = some (.link target) → follow = false →
    Goes disk follow here [name] (.spot (.found (here ++ [name])))
  | halt {here : Location} {name target : String} {rest : List String} : IsStep name →
    disk.entry? (here ++ [name]) = some (.link target) → ¬ (rest = [] ∧ follow = false) →
    Goes disk follow here (name :: rest) (.atLink here target rest)

/-- With so many links to follow, the steps lead to this spot. -/
inductive Walks (disk : Disk) (follow : Bool) : Nat → Location → List String → Spot → Prop
  | arrive {links : Nat} {here : Location} {steps : List String} {spot : Spot} :
    Goes disk follow here steps (.spot spot) → Walks disk follow links here steps spot
  | pass {links : Nat} {here directory : Location} {steps rest : List String} {target : String}
    {spot : Spot} : Goes disk follow here steps (.atLink directory target rest) →
    Walks disk follow links (startOf directory target) (stepsOf target ++ rest) spot →
    Walks disk follow (links + 1) here steps spot

variable {disk later : Disk} {follow : Bool} {links : Nat} {here directory location : Location}
  {steps rest : List String} {name target path : String} {stop : Stop} {spot : Spot}

theorem goes_of_advance (advanced : disk.advance follow here steps = .ok stop) :
    Goes disk follow here steps stop := by
  induction steps generalizing here with
  | nil => exact Except.ok.inj advanced ▸ .stay here
  | cons name rest ih =>
      rw [advance] at advanced
      split at advanced
      · rename_i same
        exact same ▸ .point (ih advanced)
      · rename_i unpointed
        split at advanced
        · rename_i same
          exact same ▸ .up (ih advanced)
        · rename_i downward
          split at advanced
          · cases advanced
          · rename_i short
            have step : IsStep name := ⟨unpointed, downward, Nat.le_of_not_lt short⟩
            cases stands : disk.entry? (here ++ [name]) with
            | none =>
                simp only [stands] at advanced
                split at advanced
                · rename_i last
                  exact last ▸ Except.ok.inj advanced ▸ .free step stands
                · cases advanced
            | some entry =>
                cases entry with
                | file payload mode =>
                    simp only [stands] at advanced
                    split at advanced
                    · rename_i last
                      exact last ▸ Except.ok.inj advanced ▸ .file step stands
                    · cases advanced
                | directory =>
                    simp only [stands] at advanced
                    exact .enter step stands (ih advanced)
                | link target =>
                    simp only [stands] at advanced
                    split at advanced
                    · rename_i last
                      exact last.1 ▸ Except.ok.inj advanced ▸
                        .keep step stands (by simpa using last.2)
                    · rename_i further
                      exact Except.ok.inj advanced ▸ .halt step stands (by simpa using further)

theorem Goes.advance (goes : Goes disk follow here steps stop) :
    disk.advance follow here steps = .ok stop := by
  induction goes with
  | stay => rfl
  | point _ ih => rw [Disk.advance, if_pos rfl, ih]
  | up _ ih => rw [Disk.advance, if_neg (by decide), if_pos rfl, ih]
  | free step stands =>
      rw [Disk.advance, if_neg step.1, if_neg step.2.1, if_neg (Nat.not_lt.mpr step.2.2), stands]
      rfl
  | file step stands =>
      rw [Disk.advance, if_neg step.1, if_neg step.2.1, if_neg (Nat.not_lt.mpr step.2.2), stands]
      rfl
  | enter step stands _ ih =>
      rw [Disk.advance, if_neg step.1, if_neg step.2.1, if_neg (Nat.not_lt.mpr step.2.2), stands]
      exact ih
  | keep step stands unfollowed =>
      rw [Disk.advance, if_neg step.1, if_neg step.2.1, if_neg (Nat.not_lt.mpr step.2.2), stands]
      simp [unfollowed]
  | halt step stands further =>
      rw [Disk.advance, if_neg step.1, if_neg step.2.1, if_neg (Nat.not_lt.mpr step.2.2), stands]
      simpa using further

theorem walk_eq_ok :
    disk.walk follow links here steps = .ok spot ↔ Walks disk follow links here steps spot := by
  constructor
  · intro walked
    induction links generalizing here steps with
    | zero =>
        rw [walk] at walked
        split at walked
        · cases walked
        · rename_i advanced
          exact .arrive (goes_of_advance (Except.ok.inj walked ▸ advanced))
        · cases walked
    | succ links ih =>
        rw [walk] at walked
        split at walked
        · cases walked
        · rename_i advanced
          exact .arrive (goes_of_advance (Except.ok.inj walked ▸ advanced))
        · rename_i advanced
          exact .pass (goes_of_advance advanced) (ih walked)
  · intro walks
    induction walks with
    | arrive goes => rw [walk, goes.advance]
    | pass goes _ ih =>
        rw [walk, goes.advance]
        exact ih

theorem locate_eq_ok {workingDirectory : Location} :
    disk.locate workingDirectory follow path = .ok spot ↔ unusable? path = none ∧
      Walks disk follow maxLinks (startOf workingDirectory path) (stepsOf path) spot := by
  rw [locate]
  cases unusable? path with
  | some reason => simp
  | none => simp [walk_eq_ok]

theorem resolve_eq_ok {workingDirectory : Location} :
    disk.resolve workingDirectory path = .ok location ↔
      disk.locate workingDirectory true path = .ok (.found location) := by
  rw [resolve]
  cases disk.locate workingDirectory true path with
  | error reason => simp
  | ok spot => cases spot <;> simp

theorem resolve_of_isAbsolute (absolute : Path.isAbsolute path = true) (one other : Location) :
    disk.resolve one path = disk.resolve other path := by
  simp only [resolve, locate, startOf, if_pos absolute]

/-! ## Ends of ways -/

theorem Goes.entry?_of_free (goes : Goes disk follow here steps (.spot (.free directory name))) :
    disk.entry? (directory ++ [name]) = none := by
  generalize ended : Stop.spot (.free directory name) = stop at goes
  induction goes with
  | free _ stands =>
      obtain ⟨rfl, rfl⟩ := Spot.free.inj (Stop.spot.inj ended)
      exact stands
  | point _ ih | up _ ih | enter _ _ _ ih => exact ih ended
  | stay | file | keep | halt => cases ended

theorem Walks.entry?_of_free (walks : Walks disk follow links here steps (.free directory name)) :
    disk.entry? (directory ++ [name]) = none := by
  generalize ended : Spot.free directory name = spot at walks
  induction walks with
  | arrive goes =>
      subst ended
      exact goes.entry?_of_free
  | pass _ _ ih => exact ih ended

/-! ## Ways in a larger tree -/

def Extends (disk later : Disk) : Prop :=
  ∀ location entry, disk.entry? location = some entry → later.entry? location = some entry

theorem Goes.extend (larger : Extends disk later) (goes : Goes disk follow here steps stop)
    (ended : ∀ directory name, stop ≠ .spot (.free directory name)) :
    Goes later follow here steps stop := by
  induction goes with
  | stay here => exact .stay here
  | point _ ih => exact .point (ih ended)
  | up _ ih => exact .up (ih ended)
  | free => exact absurd rfl (ended _ _)
  | file step stands => exact .file step (larger _ _ stands)
  | enter step stands _ ih => exact .enter step (larger _ _ stands) (ih ended)
  | keep step stands unfollowed => exact .keep step (larger _ _ stands) unfollowed
  | halt step stands further => exact .halt step (larger _ _ stands) further

theorem Walks.extend (larger : Extends disk later)
    (walks : Walks disk follow links here steps (.found location)) :
    Walks later follow links here steps (.found location) := by
  generalize ended : Spot.found location = spot at walks
  induction walks with
  | arrive goes =>
      subst ended
      exact .arrive (goes.extend larger (by simp))
  | pass goes _ ih => exact .pass (goes.extend larger (by simp)) (ih ended)

theorem resolve_extend (larger : Extends disk later) {workingDirectory : Location}
    (resolved : disk.resolve workingDirectory path = .ok location) :
    later.resolve workingDirectory path = .ok location := by
  obtain ⟨usable, walks⟩ := locate_eq_ok.mp (resolve_eq_ok.mp resolved)
  exact resolve_eq_ok.mpr (locate_eq_ok.mpr ⟨usable, walks.extend larger⟩)

theorem Extends.refl (disk : Disk) : Extends disk disk :=
  fun _ _ stands => stands

theorem Extends.trans {last : Disk} (larger : Extends disk later) (largest : Extends later last) :
    Extends disk last :=
  fun location entry stands => largest location entry (larger location entry stands)

theorem Extends.missing (larger : Extends disk later) {place : Location}
    (missing : later.entry? place = none) : disk.entry? place = none := by
  cases stands : disk.entry? place with
  | none => rfl
  | some entry =>
      rw [larger place entry stands] at missing
      cases missing

/-! ## Ways in a tree with other files -/

def Passes (disk later : Disk) : Prop :=
  ∀ location entry, disk.entry? location = some entry →
    (∀ payload mode, entry ≠ .file payload mode) → later.entry? location = some entry

theorem Extends.passes (larger : Extends disk later) : Passes disk later :=
  fun location entry stands _ => larger location entry stands

theorem Passes.trans {last : Disk} (first : Passes disk later) (second : Passes later last) :
    Passes disk last :=
  fun location entry stands unlike =>
    second location entry (first location entry stands unlike) unlike

def Replaceable (disk : Disk) (location : Location) : Prop :=
  disk.entry? location = none ∨
    ∃ payload mode, disk.entry? location = some (.file payload mode)

theorem passes_put (replaceable : disk.Replaceable location) (entry : Entry) :
    Passes disk (disk.put location entry) := by
  intro place found stands unlike
  have differs : place ≠ location := by
    rintro rfl
    rcases replaceable with missing | ⟨payload, mode, file⟩
    · rw [missing] at stands
      cases stands
    · exact unlike payload mode (Option.some.inj (stands.symm.trans file))
  rw [entry?_put_ne differs, stands]

def Spot.place : Spot → Location
  | .found location => location
  | .free directory name => directory ++ [name]

theorem Goes.passes_link (passes : Passes disk later)
    (goes : Goes disk follow here steps (.atLink directory target rest)) :
    Goes later follow here steps (.atLink directory target rest) := by
  generalize ended : Stop.atLink directory target rest = stop at goes
  induction goes with
  | point _ ih => exact .point (ih ended)
  | up _ ih => exact .up (ih ended)
  | enter step stands _ ih => exact .enter step (passes _ _ stands nofun) (ih ended)
  | halt step stands further => exact .halt step (passes _ _ stands nofun) further
  | stay | free | file | keep => cases ended

section

variable {entry : Entry}

theorem Goes.passes (passes : Passes disk later) (goes : Goes disk follow here steps (.spot spot))
    (there : later.entry? spot.place = some entry) (plain : ∀ target, entry ≠ .link target) :
    Goes later follow here steps (.spot (.found spot.place)) := by
  generalize ended : Stop.spot spot = stop at goes
  induction goes with
  | stay here =>
      obtain rfl := Stop.spot.inj ended
      exact .stay here
  | point _ ih => exact .point (ih ended)
  | up _ ih => exact .up (ih ended)
  | free step | file step =>
      obtain rfl := Stop.spot.inj ended
      cases entry with
      | file => exact .file step there
      | directory => exact .enter step there (.stay _)
      | link target => exact absurd rfl (plain target)
  | enter step stands _ ih => exact .enter step (passes _ _ stands nofun) (ih ended)
  | keep _ stands =>
      obtain rfl := Stop.spot.inj ended
      have kept := passes _ _ stands nofun
      exact absurd (Option.some.inj (there.symm.trans kept)) (plain _)
  | halt => cases ended

theorem Walks.passes (passes : Passes disk later) (walks : Walks disk follow links here steps spot)
    (there : later.entry? spot.place = some entry) (plain : ∀ target, entry ≠ .link target) :
    Walks later follow links here steps (.found spot.place) := by
  induction walks with
  | arrive goes => exact .arrive (goes.passes passes there plain)
  | pass goes _ ih => exact .pass (goes.passes_link passes) (ih there)

theorem resolve_of_passes {workingDirectory : Location} (passes : Passes disk later)
    (located : disk.locate workingDirectory true path = .ok spot)
    (there : later.entry? spot.place = some entry) (plain : ∀ target, entry ≠ .link target) :
    later.resolve workingDirectory path = .ok spot.place := by
  obtain ⟨usable, walks⟩ := locate_eq_ok.mp located
  exact resolve_eq_ok.mpr (locate_eq_ok.mpr ⟨usable, walks.passes passes there plain⟩)

end

/-! ## Links at the end of a way -/

theorem Goes.followed (goes : Goes disk false here steps stop)
    (ended : ∀ location target, stop = .spot (.found location) →
      disk.entry? location ≠ some (.link target)) : Goes disk true here steps stop := by
  induction goes with
  | stay here => exact .stay here
  | point _ ih => exact .point (ih ended)
  | up _ ih => exact .up (ih ended)
  | free step stands => exact .free step stands
  | file step stands => exact .file step stands
  | enter step stands _ ih => exact .enter step stands (ih ended)
  | keep _ stands => exact absurd stands (ended _ _ rfl)
  | halt step stands => exact .halt step stands (by simp)

theorem Walks.followed (walks : Walks disk false links here steps spot)
    (ended : ∀ location target, spot = .found location →
      disk.entry? location ≠ some (.link target)) : Walks disk true links here steps spot := by
  induction walks with
  | arrive goes =>
      refine .arrive (goes.followed fun location target found => ?_)
      exact ended location target (Stop.spot.inj found)
  | pass goes _ ih =>
      exact .pass (goes.followed (by simp)) (ih ended)

end DeployCheck.Disk
