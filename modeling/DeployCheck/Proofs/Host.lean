import DeployCheck.Host
import DeployCheck.Proofs.Disk.Changes
import DeployCheck.Proofs.Path
namespace DeployCheck.Host

open Text Disk

variable {host between after : Host} {path source target : String} {payload : Payload} {mode : Nat}
  {location : Location}

def OnlyFiles (host after : Host) : Prop :=
  after = { host with disk := after.disk, mishaps := after.mishaps }

theorem OnlyFiles.refl (host : Host) : host.OnlyFiles host :=
  rfl

theorem OnlyFiles.trans (first : host.OnlyFiles between) (second : between.OnlyFiles after) :
    host.OnlyFiles after := by
  unfold OnlyFiles at *
  rw [second, first]

theorem OnlyFiles.workingDirectory (only : host.OnlyFiles after) :
    after.workingDirectory = host.workingDirectory := by
  rw [only]

theorem OnlyFiles.network (only : host.OnlyFiles after) : after.network = host.network := by
  rw [only]

theorem OnlyFiles.runs (only : host.OnlyFiles after) : after.runs = host.runs := by
  rw [only]

theorem finds_eq {found : Bool} (looked : host.finds path = (found, after)) :
    after = { host with mishaps := host.mishaps.drop 1 } ∧
      (found = true → host.pathExists path = true) := by
  unfold finds at looked
  cases taken : host.takeMishap with
  | mk mishap rest =>
      have same : rest = { host with mishaps := host.mishaps.drop 1 } :=
        (congrArg Prod.snd taken).symm
      cases mishap with
      | some mishap =>
          simp only [taken, Prod.mk.injEq] at looked
          obtain ⟨rfl, rfl⟩ := looked
          exact ⟨same, by simp⟩
      | none =>
          simp only [taken, Prod.mk.injEq] at looked
          obtain ⟨rfl, rfl⟩ := looked
          exact ⟨same, fun exists_ => by rwa [same] at exists_⟩

theorem change_cases {act : Disk → Except OsError Disk} {result : Except OsError Unit}
    (changed : host.change act = (result, after)) :
    host.OnlyFiles after ∧ ((result = .ok () ∧ act host.disk = .ok after.disk) ∨
      ((∃ reason, result = .error reason) ∧ after.disk = host.disk)) := by
  unfold change at changed
  cases taken : host.takeMishap with
  | mk mishap rest =>
      have same : rest = { host with mishaps := host.mishaps.drop 1 } :=
        (congrArg Prod.snd taken).symm
      cases mishap with
      | some mishap =>
          simp only [taken, Prod.mk.injEq] at changed
          obtain ⟨rfl, rfl⟩ := changed
          subst same
          exact ⟨rfl, Or.inr ⟨⟨_, rfl⟩, rfl⟩⟩
      | none =>
          cases acted : act rest.disk with
          | error reason =>
              simp only [taken, acted, Prod.mk.injEq] at changed
              obtain ⟨rfl, rfl⟩ := changed
              subst same
              exact ⟨rfl, Or.inr ⟨⟨_, rfl⟩, rfl⟩⟩
          | ok disk =>
              simp only [taken, acted, Prod.mk.injEq] at changed
              obtain ⟨rfl, rfl⟩ := changed
              subst same
              exact ⟨rfl, Or.inl ⟨rfl, acted⟩⟩

theorem change_eq_ok {act : Disk → Except OsError Disk}
    (changed : host.change act = (.ok (), after)) :
    host.OnlyFiles after ∧ act host.disk = .ok after.disk := by
  obtain ⟨only, ⟨-, acted⟩ | ⟨⟨reason, failed⟩, -⟩⟩ := change_cases changed
  · exact ⟨only, acted⟩
  · cases failed

theorem makeDirectories_eq_ok (made : host.makeDirectories path = (.ok (), after)) :
    host.OnlyFiles after ∧
      host.disk.makeDirectories host.workingDirectory path = .ok after.disk :=
  change_eq_ok made

theorem setMode_eq_ok (changed : host.setMode path mode = (.ok (), after)) :
    host.OnlyFiles after ∧
      host.disk.setMode host.workingDirectory path mode = .ok after.disk :=
  change_eq_ok changed

theorem rename_eq_ok (moved : host.rename source target = (.ok (), after)) :
    host.OnlyFiles after ∧
      host.disk.rename host.workingDirectory source target = .ok after.disk :=
  change_eq_ok moved

theorem write_cases {result : Except OsError Unit}
    (written : host.write path payload = (result, after)) :
    host.OnlyFiles after ∧
      ((result = .ok () ∧ host.disk.write host.workingDirectory path payload = .ok after.disk) ∨
      ((∃ reason, result = .error reason) ∧ (after.disk = host.disk ∨
        ∃ part, host.disk.write host.workingDirectory path part = .ok after.disk))) := by
  unfold write at written
  cases taken : host.takeMishap with
  | mk mishap rest =>
      have same : rest = { host with mishaps := host.mishaps.drop 1 } :=
        (congrArg Prod.snd taken).symm
      cases mishap with
      | some mishap =>
          cases kept : mishap.kept with
          | none =>
              simp only [taken, kept, Prod.mk.injEq] at written
              obtain ⟨rfl, rfl⟩ := written
              subst same
              exact ⟨rfl, Or.inr ⟨⟨_, rfl⟩, Or.inl rfl⟩⟩
          | some count =>
              cases acted : rest.disk.write rest.workingDirectory path
                  ⟨payload.bytes.take count, none⟩ with
              | error reason =>
                  simp only [taken, kept, acted, Prod.mk.injEq] at written
                  obtain ⟨rfl, rfl⟩ := written
                  subst same
                  exact ⟨rfl, Or.inr ⟨⟨_, rfl⟩, Or.inl rfl⟩⟩
              | ok disk =>
                  simp only [taken, kept, acted, Prod.mk.injEq] at written
                  obtain ⟨rfl, rfl⟩ := written
                  subst same
                  exact ⟨rfl, Or.inr ⟨⟨_, rfl⟩, Or.inr ⟨_, acted⟩⟩⟩
      | none =>
          cases acted : rest.disk.write rest.workingDirectory path payload with
          | error reason =>
              simp only [taken, acted, Prod.mk.injEq] at written
              obtain ⟨rfl, rfl⟩ := written
              subst same
              exact ⟨rfl, Or.inr ⟨⟨_, rfl⟩, Or.inl rfl⟩⟩
          | ok disk =>
              simp only [taken, acted, Prod.mk.injEq] at written
              obtain ⟨rfl, rfl⟩ := written
              subst same
              exact ⟨rfl, Or.inl ⟨rfl, acted⟩⟩

theorem write_eq_ok (written : host.write path payload = (.ok (), after)) :
    host.OnlyFiles after ∧
      host.disk.write host.workingDirectory path payload = .ok after.disk := by
  obtain ⟨only, ⟨-, acted⟩ | ⟨⟨reason, failed⟩, -⟩⟩ := write_cases written
  · exact ⟨only, acted⟩
  · cases failed

/-! ## Failures -/

/-- A mishap that is still to come has this reason. -/
def Threatens (host : Host) (reason : OsError) : Prop :=
  ∃ mishap, some mishap ∈ host.mishaps ∧ mishap.reason = reason

theorem Threatens.of_drop {reason : OsError} {count : Nat} (threatens : after.Threatens reason)
    (left : after.mishaps = host.mishaps.drop count) : host.Threatens reason := by
  obtain ⟨mishap, coming, same⟩ := threatens
  exact ⟨mishap, List.mem_of_mem_drop (left ▸ coming), same⟩

theorem takeMishap_eq {taken : Option Mishap} (took : host.takeMishap = (taken, after)) :
    after = { host with mishaps := host.mishaps.drop 1 } ∧
      ∀ mishap, taken = some mishap → host.Threatens mishap.reason := by
  obtain ⟨rfl, rfl⟩ := Prod.mk.inj took
  refine ⟨rfl, fun mishap found => ?_⟩
  cases coming : host.mishaps with
  | nil => simp [coming] at found
  | cons first rest =>
      obtain rfl : first = some mishap := by simpa [coming] using found
      exact ⟨mishap, by simp [coming], rfl⟩

theorem change_eq_error {act : Disk → Except OsError Disk} {reason : OsError}
    (failed : host.change act = (.error reason, after)) :
    host.Threatens reason ∨ act host.disk = .error reason := by
  unfold change at failed
  cases took : host.takeMishap with
  | mk taken rest =>
      obtain ⟨rfl, threatens⟩ := takeMishap_eq took
      cases taken with
      | some mishap =>
          simp only [took, Prod.mk.injEq, Except.error.injEq] at failed
          exact Or.inl (failed.1 ▸ threatens mishap rfl)
      | none =>
          cases acted : act host.disk with
          | ok disk => simp [took, acted] at failed
          | error cause =>
              simp only [took, acted, Prod.mk.injEq, Except.error.injEq] at failed
              exact Or.inr (by rw [failed.1])

theorem write_eq_error {reason : OsError}
    (failed : host.write path payload = (.error reason, after)) :
    host.Threatens reason ∨
      ∃ part, host.disk.write host.workingDirectory path part = .error reason := by
  unfold write at failed
  cases took : host.takeMishap with
  | mk taken rest =>
      obtain ⟨rfl, threatens⟩ := takeMishap_eq took
      cases taken with
      | some mishap =>
          cases kept : mishap.kept with
          | none =>
              simp only [took, kept, Prod.mk.injEq, Except.error.injEq] at failed
              exact Or.inl (failed.1 ▸ threatens mishap rfl)
          | some count =>
              cases acted : host.disk.write host.workingDirectory path
                  ⟨payload.bytes.take count, none⟩ with
              | ok disk =>
                  simp only [took, kept, acted, Prod.mk.injEq, Except.error.injEq] at failed
                  exact Or.inl (failed.1 ▸ threatens mishap rfl)
              | error cause =>
                  simp only [took, kept, acted, Prod.mk.injEq, Except.error.injEq] at failed
                  exact Or.inr ⟨_, by rw [acted, failed.1]⟩
      | none =>
          cases acted : host.disk.write host.workingDirectory path payload with
          | ok disk => simp [took, acted] at failed
          | error cause =>
              simp only [took, acted, Prod.mk.injEq, Except.error.injEq] at failed
              exact Or.inr ⟨payload, by rw [acted, failed.1]⟩

theorem mishaps_of_change {act : Disk → Except OsError Disk} {result : Except OsError Unit}
    (changed : host.change act = (result, after)) : after.mishaps = host.mishaps.drop 1 := by
  unfold change at changed
  cases took : host.takeMishap with
  | mk taken rest =>
      obtain ⟨rfl, -⟩ := takeMishap_eq took
      rw [took] at changed
      split at changed
      · rename_i same
        obtain rfl := (Prod.mk.inj same).2
        exact (Prod.mk.inj changed).2 ▸ rfl
      · rename_i same
        obtain rfl := (Prod.mk.inj same).2
        split at changed
        all_goals exact (Prod.mk.inj changed).2 ▸ rfl

theorem mishaps_of_write {result : Except OsError Unit}
    (written : host.write path payload = (result, after)) :
    after.mishaps = host.mishaps.drop 1 := by
  unfold write at written
  cases took : host.takeMishap with
  | mk taken rest =>
      obtain ⟨rfl, -⟩ := takeMishap_eq took
      rw [took] at written
      split at written
      · rename_i same
        obtain rfl := (Prod.mk.inj same).2
        split at written
        · exact (Prod.mk.inj written).2 ▸ rfl
        · split at written
          all_goals exact (Prod.mk.inj written).2 ▸ rfl
      · rename_i same
        obtain rfl := (Prod.mk.inj same).2
        split at written
        all_goals exact (Prod.mk.inj written).2 ▸ rfl

/-! ## Scratch directories -/

theorem isName_scratchName (index : Nat) : Path.IsName (scratchName index) := by
  have chars : (scratchName index).toList = '.' :: 't' :: 'm' :: 'p' :: Nat.toDigits 10 index := by
    rw [scratchName, showNat, String.toList_append]
    simp
  have clean : '/' ∉ (scratchName index).toList := by
    rw [chars]
    intro member
    have digit : '/' ∈ Nat.toDigits 10 index := by simpa using member
    exact absurd (Nat.isDigit_of_mem_toDigits (by decide) (by decide) digit) (by decide)
  have differs (other : String) (short : other.toList.length < 4) : scratchName index ≠ other := by
    rintro rfl
    rw [chars] at short
    simp only [List.length_cons] at short
    omega
  exact ⟨⟨differs "" (by decide), clean⟩, differs "." (by decide), differs ".." (by decide)⟩

theorem makeScratch_eq_ok (made : host.makeScratch = (.ok location, after)) :
    host.disk.entry? host.scratch = some .directory ∧
      (∃ name, Path.IsName name ∧ location = host.scratch ++ [name]) ∧
      (∀ place entry, (place, entry) ∈ host.disk.entries → ¬ location <+: place) ∧
      after = { host with disk := host.disk.put location .directory } := by
  rw [makeScratch] at made
  split at made
  · cases made
  · rename_i standing
    refine ⟨by simpa using standing, ?_⟩
    simp only at made
    split at made
    · cases made
    · rename_i name found
      obtain ⟨same, rfl⟩ := Prod.mk.inj made
      obtain rfl := Except.ok.inj same
      refine ⟨⟨name, ?_, rfl⟩, ?_, rfl⟩
      · obtain ⟨index, -, rfl⟩ := List.mem_map.mp (List.mem_of_find?_eq_some found)
        exact isName_scratchName index
      · intro place entry member below
        have untaken := List.find?_some found
        simp only [Bool.not_eq_true', List.any_eq_false] at untaken
        exact untaken (place, entry) member (by simpa using below)

theorem makeScratch_eq_error {reason : OsError}
    (failed : host.makeScratch = (.error reason, after)) : after = host := by
  rw [makeScratch] at failed
  split at failed
  · exact (Prod.mk.inj failed).2.symm
  · simp only at failed
    split at failed
    · exact (Prod.mk.inj failed).2.symm
    · cases failed

/-! ## Requests -/

theorem send_eq {method : Method} {url : String} {body : Option String}
    {result : Except TransportError Answer} (sent : host.send method url body = (result, after)) :
    host.network.send method url body = (result, after.network) ∧
      after = { host with network := after.network } := by
  obtain ⟨rfl, rfl⟩ := Prod.mk.inj sent
  exact ⟨rfl, rfl⟩

/-! ## Runs -/

theorem run_eq_ok {directory : Location} {program : String} {arguments : List String}
    {finished : Finished} (ran : host.run directory program arguments = (.ok finished, after)) :
    ∃ place, host.disk.programAt directory program = .ok (place, finished) ∧
      after = { host with
        runs := host.runs ++ [⟨place, arguments, host.disk.filesBelow directory⟩] } := by
  rw [run] at ran
  split at ran
  · cases ran
  · rename_i place what found
    obtain ⟨same, rfl⟩ := Prod.mk.inj ran
    exact ⟨place, Except.ok.inj same ▸ found, rfl⟩

end DeployCheck.Host
