import DeployCheck.Proofs.Disk.Inside
namespace DeployCheck.Disk

open Text

variable {disk later : Disk} {follow : Bool} {home place workingDirectory : Location}
  {name source target path : String} {payload : Payload} {mode bits : Nat} {spot : Spot}
  {entry : Entry}

/-- Where a path ends, whether something stands there or not. A link at the end is not followed. -/
def EndsAt (disk : Disk) (workingDirectory : Location) (path : String) (place : Location) : Prop :=
  ∃ spot, disk.locate workingDirectory false path = .ok spot ∧ spot.place = place

theorem replaceable_of_ne (directory : disk.entry? place ≠ some .directory)
    (link : ∀ target, disk.entry? place ≠ some (.link target)) : disk.Replaceable place := by
  cases there : disk.entry? place with
  | none => exact Or.inl there
  | some entry =>
      cases entry with
      | file payload mode => exact Or.inr ⟨payload, mode, there⟩
      | directory => exact absurd there directory
      | link target => exact absurd there (link target)

/-! ## Names in a directory -/

section

variable (seat : disk.Seat workingDirectory path home) (proper : Path.IsName name)

include seat proper

theorem Seat.locate_unfollowed (usable : unusable? (Path.join path name) = none) :
    disk.locate workingDirectory false (Path.join path name) = spotIn disk home name := by
  rw [locate, startOf_join proper, stepsOf_join proper, usable]
  exact seat.walks.walk_concat proper (by simp) seat.stands

theorem Seat.endsAt_iff : disk.EndsAt workingDirectory (Path.join path name) place ↔
    unusable? (Path.join path name) = none ∧ utf8Length name.toList ≤ maxNameLength ∧
      place = home ++ [name] := by
  cases usable : unusable? (Path.join path name) with
  | some reason => simp [EndsAt, locate, usable]
  | none =>
      rw [EndsAt, seat.locate_unfollowed proper usable]
      by_cases long : maxNameLength < utf8Length name.toList
      · simp [spotIn, long, Nat.not_le.mpr long]
      · by_cases there : (disk.entry? (home ++ [name])).isSome
        all_goals simp [spotIn, long, there, Nat.le_of_not_lt long, Spot.place, eq_comm]

theorem Seat.endsPlain_iff : disk.EndsPlain workingDirectory (Path.join path name) ↔
    (disk.EndsAt workingDirectory (Path.join path name) (home ++ [name]) →
      ∀ target, disk.entry? (home ++ [name]) ≠ some (.link target)) := by
  constructor
  · rintro plain ⟨spot, located, ended⟩ target
    exact ended ▸ plain spot target located
  · intro unlinked spot target located
    have ended : disk.EndsAt workingDirectory (Path.join path name) spot.place :=
      ⟨spot, located, rfl⟩
    obtain ⟨-, -, same⟩ := (seat.endsAt_iff proper).mp ended
    rw [same] at ended ⊢
    exact unlinked ended target

theorem Seat.endsPlain (unlinked : ∀ target, disk.entry? (home ++ [name]) ≠ some (.link target)) :
    disk.EndsPlain workingDirectory (Path.join path name) :=
  (seat.endsPlain_iff proper).mpr fun _ => unlinked

variable (plain : disk.EndsPlain workingDirectory (Path.join path name))

include plain

theorem Seat.locate_join : disk.locate workingDirectory follow (Path.join path name) =
    disk.locate workingDirectory false (Path.join path name) := by
  -- At the end there is no link, so it does not matter whether such a link is followed.
  cases usable : unusable? (Path.join path name) with
  | some reason => simp only [locate, usable]
  | none =>
      rw [seat.locate_unfollowed proper usable, locate, startOf_join proper, stepsOf_join proper,
        usable]
      refine seat.walks.walk_concat proper (fun _ short => ?_) seat.stands
      exact (seat.endsPlain_iff proper).mp plain ((seat.endsAt_iff proper).mpr ⟨usable, short, rfl⟩)

theorem Seat.locate_eq_ok (located : disk.locate workingDirectory follow (Path.join path name) =
    .ok spot) :
    disk.EndsAt workingDirectory (Path.join path name) (home ++ [name]) ∧
      (spot = .found (home ++ [name]) ∨ spot = .free home name) := by
  rw [seat.locate_join proper plain] at located
  have ended : disk.EndsAt workingDirectory (Path.join path name) spot.place :=
    ⟨spot, located, rfl⟩
  obtain ⟨usable, short, same⟩ := (seat.endsAt_iff proper).mp ended
  refine ⟨same ▸ ended, ?_⟩
  rw [seat.locate_unfollowed proper usable, spotIn, if_neg (Nat.not_lt.mpr short)] at located
  split at located
  · exact Or.inl (Except.ok.inj located).symm
  · exact Or.inr (Except.ok.inj located).symm

theorem Seat.lookAt_join : disk.lookAt workingDirectory (Path.join path name) =
    match unusable? (Path.join path name) with
    | some reason => .error reason
    | none =>
      if maxNameLength < utf8Length name.toList then .error .nameTooLong
      else
        match disk.entry? (home ++ [name]) with
        | some entry => .ok entry
        | none => .error .notFound := by
  rw [lookAt, resolve, seat.locate_join proper plain]
  cases usable : unusable? (Path.join path name) with
  | some reason => simp only [locate, usable]
  | none =>
      rw [seat.locate_unfollowed proper usable]
      by_cases long : maxNameLength < utf8Length name.toList
      · simp [spotIn, long]
      · cases standing : disk.entry? (home ++ [name]) with
        | none => simp [spotIn, long, standing]
        | some entry => simp [spotIn, long, standing]

theorem Seat.lookAt_eq_ok : disk.lookAt workingDirectory (Path.join path name) = .ok entry ↔
    disk.EndsAt workingDirectory (Path.join path name) (home ++ [name]) ∧
      disk.entry? (home ++ [name]) = some entry := by
  rw [seat.lookAt_join proper plain, seat.endsAt_iff proper]
  cases unusable? (Path.join path name) with
  | some reason => simp
  | none =>
      by_cases long : maxNameLength < utf8Length name.toList
      · simp [long, Nat.not_le.mpr long]
      · cases disk.entry? (home ++ [name]) <;> simp [long, Nat.le_of_not_lt long]

theorem Seat.pathExists_iff : disk.pathExists workingDirectory (Path.join path name) = true ↔
    disk.EndsAt workingDirectory (Path.join path name) (home ++ [name]) ∧
      (disk.entry? (home ++ [name])).isSome := by
  rw [pathExists, Option.isSome_iff_exists, ← exists_and_left]
  cases looked : disk.lookAt workingDirectory (Path.join path name) with
  | error reason =>
      refine iff_of_false (by simp [Except.isOk, Except.toBool]) fun ⟨entry, there⟩ => ?_
      rw [(seat.lookAt_eq_ok proper plain).mpr there] at looked
      cases looked
  | ok entry =>
      exact iff_of_true rfl ⟨entry, (seat.lookAt_eq_ok proper plain).mp looked⟩

/-! ## Operations on the path of a name -/

theorem Seat.write (written : disk.write workingDirectory (Path.join path name) payload =
    .ok later) :
    disk.EndsAt workingDirectory (Path.join path name) (home ++ [name]) ∧
      disk.Replaceable (home ++ [name]) ∧
      ∃ mode, later = disk.put (home ++ [name]) (.file payload mode) := by
  obtain ⟨-, spot, place, mode, located, -, rfl, choice⟩ := write_eq_ok written
  obtain ⟨ended, goal⟩ := seat.locate_eq_ok proper plain located
  refine ⟨ended, ?_⟩
  rcases choice with ⟨rfl, old, file⟩ | ⟨⟨directory, final, rfl, rfl⟩, -⟩
  · rcases goal with same | same
    · obtain rfl := Spot.found.inj same
      exact ⟨Or.inr ⟨old, mode, file⟩, mode, rfl⟩
    · cases same
  · rcases goal with same | same
    · cases same
    · obtain ⟨rfl, rfl⟩ := Spot.free.inj same
      exact ⟨Or.inl (entry?_of_locate_free located), mode, rfl⟩

end

section

variable (seat : disk.Seat workingDirectory path home)

include seat

theorem Seat.setMode (proper : Path.IsName name)
    (file : disk.entry? (home ++ [name]) = some (.file payload bits))
    (changed : disk.setMode workingDirectory (Path.join path name) mode = .ok later) :
    disk.EndsAt workingDirectory (Path.join path name) (home ++ [name]) ∧
      later = disk.put (home ++ [name]) (.file payload mode) := by
  have plain := seat.endsPlain proper (by simp [file])
  obtain ⟨place, resolved, choice⟩ := setMode_eq_ok changed
  obtain ⟨ended, same | same⟩ := seat.locate_eq_ok proper plain (resolve_eq_ok.mp resolved)
  · refine ⟨ended, ?_⟩
    obtain rfl := Spot.found.inj same
    rcases choice with ⟨content, before, standing, rfl⟩ | ⟨other, -⟩
    · obtain ⟨rfl, -⟩ := Entry.file.inj (Option.some.inj (file.symm.trans standing))
      rfl
    · exact absurd file (other payload bits)
  · cases same

theorem Seat.rename (proper : Path.IsName source) (sound : Path.IsName target)
    (differs : source ≠ target)
    (file : disk.entry? (home ++ [source]) = some (.file payload mode))
    (plain : disk.EndsPlain workingDirectory (Path.join path target))
    (moved : disk.rename workingDirectory (Path.join path source) (Path.join path target) =
      .ok later) :
    disk.EndsAt workingDirectory (Path.join path source) (home ++ [source]) ∧
      disk.EndsAt workingDirectory (Path.join path target) (home ++ [target]) ∧
      disk.Replaceable (home ++ [target]) ∧
      later = (disk.remove (home ++ [source])).put (home ++ [target]) (.file payload mode) := by
  obtain ⟨place, entry, left, standing, choice⟩ := rename_eq_ok moved
  have began : disk.EndsAt workingDirectory (Path.join path source) place := ⟨_, left, rfl⟩
  obtain ⟨-, -, rfl⟩ := (seat.endsAt_iff proper).mp began
  refine ⟨began, ?_⟩
  obtain rfl := Option.some.inj (file.symm.trans standing)
  rcases choice with ⟨directory, final, located, rfl⟩ | ⟨other, located, unlike, choice⟩
  · have ended : disk.EndsAt workingDirectory (Path.join path target) (directory ++ [final]) :=
      ⟨_, located, rfl⟩
    obtain ⟨-, -, same⟩ := (seat.endsAt_iff sound).mp ended
    exact ⟨same ▸ ended, same ▸ Or.inl (entry?_of_locate_free located), by rw [same]⟩
  · have ended : disk.EndsAt workingDirectory (Path.join path target) other := ⟨_, located, rfl⟩
    obtain ⟨-, -, rfl⟩ := (seat.endsAt_iff sound).mp ended
    rcases choice with ⟨same, -⟩ | rfl
    · simp only [List.append_cancel_left_eq, List.cons.injEq, and_true] at same
      exact absurd same.symm differs
    · exact ⟨ended, replaceable_of_ne unlike (plain _ · located), rfl⟩

theorem Seat.passes (passes : Passes disk later) : later.Seat workingDirectory path home :=
  have stands := passes _ _ seat.stands nofun
  ⟨seat.walks.passes passes stands nofun, stands⟩

end

end DeployCheck.Disk
