import DeployCheck.Proofs.Disk.Seats
namespace DeployCheck.Disk

open Text

variable {first disk later last : Disk} {home location workingDirectory : Location}
  {name source target path : String} {names more : List String} {payload old : Payload}
  {mode bits : Nat} {entry : Entry}

def Bare (disk : Disk) (home : Location) : Prop :=
  disk.entry? home = some .directory ∧
    ∀ place entry, disk.entry? place = some entry → home <+: place → place = home

/-- Since the first tree, at most files have been put right into the directory. -/
structure Filled (first : Disk) (home : Location) (disk : Disk) : Prop where
  larger : Extends first disk
  flat : ∀ place entry, disk.entry? place = some entry → home <+: place → place = home ∨
    ∃ name payload mode, place = home ++ [name] ∧ entry = .file payload mode

def SameBut (home : Location) (names : List String) (disk later : Disk) : Prop :=
  ∀ place, (∀ name ∈ names, place ≠ home ++ [name]) → later.entry? place = disk.entry? place

theorem SameBut.refl (home : Location) (names : List String) (disk : Disk) :
    SameBut home names disk disk :=
  fun _ _ => rfl

theorem SameBut.trans (before : SameBut home names disk later)
    (after : SameBut home names later last) : SameBut home names disk last :=
  fun place apart => (after place apart).trans (before place apart)

theorem SameBut.mono (same : SameBut home names disk later) (within : names ⊆ more) :
    SameBut home more disk later :=
  fun place apart => same place fun name member => apart name (within member)

theorem sameBut_put (home : Location) (name : String) (disk : Disk) (entry : Entry) :
    SameBut home [name] disk (disk.put (home ++ [name]) entry) :=
  fun _ apart => entry?_put_ne (apart name List.mem_cons_self)

theorem Bare.missing (bare : Bare disk home) (name : String) :
    disk.entry? (home ++ [name]) = none := by
  cases standing : disk.entry? (home ++ [name]) with
  | none => rfl
  | some entry =>
      have same := bare.2 _ entry standing (List.prefix_append home [name])
      simp at same

theorem Bare.filled (bare : Bare disk home) : Filled disk home disk :=
  ⟨.refl disk, fun place entry standing below => Or.inl (bare.2 place entry standing below)⟩

theorem Filled.file (filled : Filled first home disk)
    (standing : disk.entry? (home ++ [name]) = some entry) :
    ∃ payload mode, entry = .file payload mode := by
  rcases filled.flat _ entry standing (List.prefix_append home [name]) with
    same | ⟨_, payload, mode, -, rfl⟩
  · simp at same
  · exact ⟨payload, mode, rfl⟩

theorem Filled.unlinked (filled : Filled first home disk) (name target : String) :
    disk.entry? (home ++ [name]) ≠ some (.link target) := by
  intro standing
  obtain ⟨payload, mode, same⟩ := filled.file standing
  cases same

theorem Filled.sameBut_remove (filled : Filled first home disk) (name : String) :
    SameBut home [name] disk (disk.remove (home ++ [name])) := by
  intro place apart
  by_cases below : home ++ [name] <+: place
  · have inner : place ≠ [] := by
      rintro rfl
      simp at below
    rw [entry?_remove_below below inner]
    -- A file has nothing below it.
    cases standing : disk.entry? place with
    | none => rfl
    | some entry =>
        rcases filled.flat place entry standing ((List.prefix_append _ _).trans below) with
          rfl | ⟨other, _, _, rfl, -⟩
        · exact absurd below (not_prefix_above _ name)
        · obtain ⟨rest, whole⟩ := below
          simp only [List.append_assoc, List.append_cancel_left_eq, List.singleton_append,
            List.cons.injEq] at whole
          exact absurd (by rw [whole.1]) (apart name List.mem_cons_self)
  · exact entry?_remove_beside below

section

variable (bare : Bare first home) (filled : Filled first home disk)

include bare filled

theorem Filled.put (name : String) (payload : Payload) (mode : Nat) :
    Filled first home (disk.put (home ++ [name]) (.file payload mode)) := by
  refine ⟨fun place entry standing => ?_, fun place entry standing below => ?_⟩
  · have differs : place ≠ home ++ [name] := by
      rintro rfl
      rw [bare.missing] at standing
      cases standing
    rw [entry?_put_ne differs]
    exact filled.larger place entry standing
  · by_cases same : place = home ++ [name]
    · rw [same, entry?_put_self (by simp), Option.some.injEq] at standing
      exact Or.inr ⟨name, payload, mode, same, standing.symm⟩
    · rw [entry?_put_ne same] at standing
      exact filled.flat place entry standing below

theorem Filled.remove (name : String) : Filled first home (disk.remove (home ++ [name])) := by
  refine ⟨fun place entry standing => ?_, fun place entry standing below => ?_⟩
  · have beside : ¬ home ++ [name] <+: place := by
      intro below
      have same := bare.2 place entry standing ((List.prefix_append _ _).trans below)
      exact not_prefix_above home name (same ▸ below)
    rw [entry?_remove_beside beside]
    exact filled.larger place entry standing
  · exact filled.flat place entry (entry?_of_remove standing) below

theorem Filled.stands : disk.entry? home = some .directory :=
  filled.larger home _ bare.1

/-! ## Operations on the path of a name -/

variable (led : first.resolve workingDirectory path = .ok home)

include led

theorem Filled.seat : disk.Seat workingDirectory path home :=
  seat_of_resolve (resolve_extend filled.larger led) (filled.stands bare)

theorem Filled.endsPlain (proper : Path.IsName name) :
    disk.EndsPlain workingDirectory (Path.join path name) :=
  (filled.seat bare led).endsPlain proper (filled.unlinked name)

theorem Filled.lookAt (proper : Path.IsName name) :
    disk.lookAt workingDirectory (Path.join path name) =
      match unusable? (Path.join path name) with
      | some reason => .error reason
      | none =>
        if maxNameLength < utf8Length name.toList then .error .nameTooLong
        else
          match disk.entry? (home ++ [name]) with
          | some entry => .ok entry
          | none => .error .notFound :=
  (filled.seat bare led).lookAt_join proper (filled.endsPlain bare led proper)

theorem Filled.makeDirectories (made : disk.makeDirectories workingDirectory path = .ok later) :
    later = disk :=
  (filled.seat bare led).makeDirectories_eq made

theorem Filled.write (proper : Path.IsName name)
    (written : disk.write workingDirectory (Path.join path name) payload = .ok later) :
    ∃ mode, later = disk.put (home ++ [name]) (.file payload mode) :=
  ((filled.seat bare led).write proper (filled.endsPlain bare led proper) written).2.2

theorem Filled.setMode (proper : Path.IsName name)
    (file : disk.entry? (home ++ [name]) = some (.file payload bits))
    (changed : disk.setMode workingDirectory (Path.join path name) mode = .ok later) :
    later = disk.put (home ++ [name]) (.file payload mode) :=
  ((filled.seat bare led).setMode proper file changed).2

theorem Filled.rename (proper : Path.IsName source) (sound : Path.IsName target)
    (differs : source ≠ target)
    (file : disk.entry? (home ++ [source]) = some (.file payload mode))
    (moved : disk.rename workingDirectory (Path.join path source) (Path.join path target) =
      .ok later) :
    later = (disk.remove (home ++ [source])).put (home ++ [target]) (.file payload mode) ∧
      unusable? (Path.join path target) = none ∧ utf8Length target.toList ≤ maxNameLength := by
  have seat := filled.seat bare led
  obtain ⟨-, ended, -, put⟩ :=
    seat.rename proper sound differs file (filled.endsPlain bare led sound) moved
  obtain ⟨usable, short, -⟩ := (seat.endsAt_iff sound).mp ended
  exact ⟨put, usable, short⟩

end

end DeployCheck.Disk
