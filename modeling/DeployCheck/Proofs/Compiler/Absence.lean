import DeployCheck.Proofs.Compiler.Directory
import DeployCheck.Proofs.Disk.Making
/-!
Loads of a label that is not installed, whatever else is in the directory of the store and whether
that directory is there at all. Bytes are gathered beside the path of the label and moved there in the
last step, so a load that fails has not touched that path.
-/
namespace DeployCheck.CompilerStore

open Text Disk

variable {store : CompilerStore} {label : String} {payload : Payload} {mode bits : Nat}
  {paths : List String} {disk made later : Disk} {home workingDirectory : Location}
  {first host after : Host} {result : Except OsError Unit} {outcome : Except VerificationError Unit}

/-! ## Labels that are not installed -/

/-- No link is at the path of the label, nor at the path at which its bytes are gathered. -/
structure Plain (store : CompilerStore) (label : String) (workingDirectory : Location)
    (disk : Disk) : Prop where
  program : disk.EndsPlain workingDirectory (store.programPath label)
  beside : disk.EndsPlain workingDirectory (store.partialPath label)

/-- The label is not installed, and the store's directory, once it is there, has no links in place of
its files. -/
structure Lacks (store : CompilerStore) (label : String) (host : Host) : Prop where
  rooted : host.disk.Rooted host.workingDirectory
  missing : host.pathExists (store.programPath label) = false
  plain : ∀ made, host.disk.makeDirectories host.workingDirectory store.directory = .ok made →
    store.Plain label host.workingDirectory made

/-- The store's directory is there, or its path goes up only from directories that are. -/
def HasFooting (store : CompilerStore) (host : Host) : Prop :=
  host.disk.isDirectory host.workingDirectory store.directory = true ∨
    host.disk.Footed host.workingDirectory store.directory

/-- What is not as before stands where one of these paths ends, or it is a directory that has been
made on the way to the store's. -/
def Confined (store : CompilerStore) (paths : List String) (workingDirectory : Location)
    (disk later : Disk) : Prop :=
  ∀ place, later.entry? place = disk.entry? place ∨
    (∃ path ∈ paths, later.EndsAt workingDirectory path place) ∨
    (disk.entry? place = none ∧ later.entry? place = some .directory ∧
      ∃ front, front <+: Path.components store.directory ∧
        later.resolve workingDirectory (Path.ofComponents front) = .ok place)

theorem Confined.refl (store : CompilerStore) (paths : List String) (workingDirectory : Location)
    (disk : Disk) : Confined store paths workingDirectory disk disk :=
  fun _ => Or.inl rfl

theorem Confined.of_paved
    (paved : Paved disk later workingDirectory (Path.components store.directory)) :
    Confined store paths workingDirectory disk later :=
  fun place => (paved place).imp_right Or.inr

theorem Lacks.of_same (lacks : store.Lacks label host)
    (working : after.workingDirectory = host.workingDirectory) (same : after.disk = host.disk) :
    store.Lacks label after := by
  obtain ⟨rooted, missing, plain⟩ := lacks
  refine ⟨by rwa [working, same], ?_, by rwa [working, same]⟩
  rwa [Host.pathExists, working, same]

theorem HasFooting.passes (footing : store.HasFooting host)
    (working : after.workingDirectory = host.workingDirectory)
    (passes : Passes host.disk after.disk) : store.HasFooting after := by
  rw [HasFooting, working]
  exact footing.imp (isDirectory_of_passes passes) fun footed => footed.passes passes

theorem HasFooting.cases (rooted : host.disk.Rooted host.workingDirectory)
    (footing : store.HasFooting host)
    (making : host.disk.makeDirectories host.workingDirectory store.directory = .ok made) :
    made = host.disk ∨ ∃ home, made.Seat host.workingDirectory store.directory home ∧
      ∀ name, made.entry? (home ++ [name]) = none := by
  rcases footing with there | footed
  · obtain ⟨home, led, stands⟩ := isDirectory_iff.mp there
    exact Or.inl ((seat_of_resolve led stands).makeDirectories_eq making)
  · exact fresh_of_makeDirectories rooted.tree footed making

section

variable (accepted : checkLabel label = .ok ())

include accepted

theorem lacks_of_plain (rooted : host.disk.Rooted host.workingDirectory)
    (missing : host.pathExists (store.programPath label) = false)
    (plain : store.Plain label host.workingDirectory host.disk) (footing : store.HasFooting host) :
    store.Lacks label host := by
  refine ⟨rooted, missing, fun made making => ?_⟩
  rcases footing.cases rooted making with rfl | ⟨home, seat, bare⟩
  · exact plain
  · refine ⟨seat.endsPlain (isName_programName accepted) (by simp [bare]), ?_⟩
    exact partialPath_eq store label ▸ seat.endsPlain (isName_partialName accepted) (by simp [bare])

theorem Lacks.missing_made (lacks : store.Lacks label host) (footing : store.HasFooting host)
    (making : host.disk.makeDirectories host.workingDirectory store.directory = .ok made) :
    made.pathExists host.workingDirectory (store.programPath label) = false := by
  rcases footing.cases lacks.rooted making with rfl | ⟨home, seat, bare⟩
  · exact lacks.missing
  · rw [Bool.eq_false_iff]
    intro found
    obtain ⟨-, there⟩ := (seat.pathExists_iff (isName_programName accepted)
      (lacks.plain made making).program).mp found
    rw [bare] at there
    cases there

end

section

variable (accepted : checkLabel label = .ok ())
  (seat : disk.Seat workingDirectory store.directory home)
  (other : later.Seat workingDirectory store.directory home) {place : Location}

include accepted seat other

theorem endsAt_programPath_congr :
    disk.EndsAt workingDirectory (store.programPath label) place ↔
      later.EndsAt workingDirectory (store.programPath label) place :=
  (seat.endsAt_iff (isName_programName accepted)).trans
    (other.endsAt_iff (isName_programName accepted)).symm

theorem endsAt_partialPath_congr :
    disk.EndsAt workingDirectory (store.partialPath label) place ↔
      later.EndsAt workingDirectory (store.partialPath label) place := by
  rw [partialPath_eq]
  exact (seat.endsAt_iff (isName_partialName accepted)).trans
    (other.endsAt_iff (isName_partialName accepted)).symm

theorem Confined.step {before : Disk}
    (confined : Confined store [store.partialPath label] workingDirectory before disk)
    (passes : Passes disk later) (gathered : store.partialPath label ∈ paths)
    (changed : ∀ place, later.entry? place = disk.entry? place ∨
      ∃ path ∈ paths, later.EndsAt workingDirectory path place) :
    Confined store paths workingDirectory before later := by
  intro place
  rcases changed place with same | ended
  · rcases confined place with kept | ⟨path, listed, ended⟩ | ⟨missing, directory, front, leads, led⟩
    · exact Or.inl (same.trans kept)
    · obtain rfl := List.mem_singleton.mp listed
      exact Or.inr (Or.inl
        ⟨_, gathered, (endsAt_partialPath_congr accepted seat other).mp ended⟩)
    · have stands := same.trans directory
      exact Or.inr (Or.inr ⟨missing, stands, front, leads,
        resolve_of_passes passes (resolve_eq_ok.mp led) stands nofun⟩)
  · exact Or.inr (Or.inl ended)

end

/-! ## Gathering -/

structure Gathers (store : CompilerStore) (label : String) (home : Location) (first : Host)
    (made : Disk) (host : Host) : Prop where
  onlyFiles : first.OnlyFiles host
  rooted : host.disk.Rooted first.workingDirectory
  passes : Passes first.disk host.disk
  seat : host.disk.Seat first.workingDirectory store.directory home
  plain : store.Plain label first.workingDirectory host.disk
  same : host.disk.entry? (home ++ [programName label]) =
    made.entry? (home ++ [programName label])
  confined : Confined store [store.partialPath label] first.workingDirectory first.disk host.disk

theorem gathers_of_makeDirectories (lacks : store.Lacks label first)
    (done : first.makeDirectories store.directory = (.ok (), host)) :
    first.disk.makeDirectories first.workingDirectory store.directory = .ok host.disk ∧
      ∃ home, Gathers store label home first host.disk host := by
  obtain ⟨only, making⟩ := Host.makeDirectories_eq_ok done
  obtain ⟨home, seat⟩ := exists_seat lacks.rooted.working making
  obtain ⟨paved, -⟩ := paved_of_makeDirectoriesBack making
  exact ⟨making, home, only, lacks.rooted.makeDirectories making, paved.extends.passes, seat,
    lacks.plain _ making, rfl, .of_paved paved⟩

section

variable (gathers : Gathers store label home first made host)

include gathers

theorem Gathers.of_same (only : host.OnlyFiles after) (same : after.disk = host.disk) :
    Gathers store label home first made after :=
  ⟨gathers.onlyFiles.trans only, same ▸ gathers.rooted, same ▸ gathers.passes, same ▸ gathers.seat,
    same ▸ gathers.plain, same ▸ gathers.same, same ▸ gathers.confined⟩

variable (accepted : checkLabel label = .ok ())

include accepted

theorem Gathers.lacks (lacks : store.Lacks label first) (footing : store.HasFooting first)
    (making : first.disk.makeDirectories first.workingDirectory store.directory = .ok made)
    (before : made.Seat first.workingDirectory store.directory home) :
    store.Lacks label host ∧ store.HasFooting host := by
  have same := gathers.onlyFiles.workingDirectory
  have proper := isName_programName accepted
  refine ⟨⟨same ▸ gathers.rooted, ?_, fun again raised => ?_⟩, footing.passes same gathers.passes⟩
  · have missing := lacks.missing_made accepted footing making
    rw [Bool.eq_false_iff] at missing ⊢
    intro found
    rw [Host.pathExists, same] at found
    obtain ⟨ended, there⟩ := (gathers.seat.pathExists_iff proper gathers.plain.program).mp found
    refine missing ((before.pathExists_iff proper (lacks.plain made making).program).mpr ⟨?_, ?_⟩)
    · exact (endsAt_programPath_congr accepted gathers.seat before).mp ended
    · exact gathers.same ▸ there
  · rw [same] at raised ⊢
    exact gathers.seat.makeDirectories_eq raised ▸ gathers.plain

theorem Gathers.put (only : host.OnlyFiles after)
    (ended : host.disk.EndsAt first.workingDirectory (store.partialPath label)
      (home ++ [partialName label]))
    (replaceable : host.disk.Replaceable (home ++ [partialName label]))
    (put : after.disk = host.disk.put (home ++ [partialName label]) (.file payload mode)) :
    Gathers store label home first made after ∧
      after.disk.entry? (home ++ [partialName label]) = some (.file payload mode) := by
  have passes : Passes host.disk after.disk := put ▸ passes_put replaceable _
  have seat := gathers.seat.passes passes
  have file : after.disk.entry? (home ++ [partialName label]) = some (.file payload mode) :=
    put ▸ entry?_put_self (by simp)
  have differs : home ++ [programName label] ≠ home ++ [partialName label] := by
    simpa using programName_ne_partialName label
  have kept : after.disk.entry? (home ++ [programName label]) =
      host.disk.entry? (home ++ [programName label]) := put ▸ entry?_put_ne differs
  refine ⟨⟨gathers.onlyFiles.trans only, ?_, gathers.passes.trans passes, seat, ⟨?_, ?_⟩,
    kept.trans gathers.same, ?_⟩, file⟩
  · refine put ▸ gathers.rooted.put (isName_partialName accepted) gathers.seat.stands ?_ _
    rcases replaceable with missing | ⟨_, _, old⟩
    · simp [missing]
    · simp [old]
  · refine (seat.endsPlain_iff (isName_programName accepted)).mpr fun program target => ?_
    rw [kept]
    exact (gathers.seat.endsPlain_iff (isName_programName accepted)).mp gathers.plain.program
      ((endsAt_programPath_congr accepted gathers.seat seat).mpr program) target
  · exact partialPath_eq store label ▸
      seat.endsPlain (isName_partialName accepted) (by simp [file])
  · refine gathers.confined.step accepted gathers.seat seat passes (by simp) fun place => ?_
    by_cases same : place = home ++ [partialName label]
    · exact Or.inr ⟨_, List.mem_singleton_self _,
        same ▸ (endsAt_partialPath_congr accepted gathers.seat seat).mp ended⟩
    · exact Or.inl (put ▸ entry?_put_ne same)

theorem Gathers.write (written : host.write (store.partialPath label) payload = (result, after)) :
    Gathers store label home first made after ∧ (result = .ok () →
      ∃ mode, after.disk.entry? (home ++ [partialName label]) = some (.file payload mode)) := by
  obtain ⟨only, choice⟩ := Host.write_cases written
  have wrote {content : Payload} (put : host.disk.write host.workingDirectory
      (store.partialPath label) content = .ok after.disk) :
      Gathers store label home first made after ∧
        ∃ mode, after.disk.entry? (home ++ [partialName label]) = some (.file content mode) := by
    have beside := gathers.plain.beside
    rw [gathers.onlyFiles.workingDirectory, partialPath_eq] at put
    rw [partialPath_eq] at beside
    obtain ⟨ended, replaceable, mode, put⟩ :=
      gathers.seat.write (isName_partialName accepted) beside put
    rw [← partialPath_eq] at ended
    exact (gathers.put accepted only ended replaceable put).imp_right fun file => ⟨mode, file⟩
  -- A write that fails may have put a part of the payload there.
  rcases choice with ⟨-, put⟩ | ⟨⟨reason, failed⟩, same | ⟨part, put⟩⟩
  · exact (wrote put).imp_right fun file _ => file
  · exact ⟨gathers.of_same only same, by simp [failed]⟩
  · exact ⟨(wrote put).1, by simp [failed]⟩

variable (file : host.disk.entry? (home ++ [partialName label]) = some (.file payload bits))

include file

theorem Gathers.setMode (changed : host.setMode (store.partialPath label) mode = (result, after)) :
    Gathers store label home first made after ∧ (result = .ok () →
      after.disk.entry? (home ++ [partialName label]) = some (.file payload mode)) := by
  obtain ⟨only, ⟨-, marked⟩ | ⟨⟨reason, failed⟩, same⟩⟩ := Host.change_cases changed
  · rw [gathers.onlyFiles.workingDirectory, partialPath_eq] at marked
    obtain ⟨ended, put⟩ := gathers.seat.setMode (isName_partialName accepted) file marked
    rw [← partialPath_eq] at ended
    exact (gathers.put accepted only ended (Or.inr ⟨_, _, file⟩) put).imp_right fun file _ => file
  · exact ⟨gathers.of_same only same, by simp [failed]⟩

theorem Gathers.rename
    (moved : host.rename (store.partialPath label) (store.programPath label) = (result, after)) :
    (∃ reason, result = .error reason) ∧ Gathers store label home first made after ∨
      result = .ok () ∧
        Confined store [store.programPath label, store.partialPath label] first.workingDirectory
          first.disk after.disk ∧
        store.installed label after = .ok (.file payload bits) := by
  -- A move that succeeds installs what has been gathered, also in place of a file that making
  -- the directory has brought to light.
  obtain ⟨only, ⟨done, moved⟩ | ⟨failed, same⟩⟩ := Host.change_cases moved
  · refine Or.inr ⟨done, ?_⟩
    rw [installed, only.workingDirectory, gathers.onlyFiles.workingDirectory]
    rw [gathers.onlyFiles.workingDirectory, partialPath_eq] at moved
    have proper := isName_programName accepted
    obtain ⟨began, ended, replaceable, put⟩ := gathers.seat.rename (isName_partialName accepted)
      proper (programName_ne_partialName label).symm file gathers.plain.program moved
    rw [← partialPath_eq] at began
    have passes : Passes host.disk after.disk := by
      rw [put]
      exact (gathers.rooted.tree.passes_remove file).trans (passes_put (replaceable.remove _) _)
    have seat := gathers.seat.passes passes
    have there : after.disk.entry? (home ++ [programName label]) = some (.file payload bits) :=
      put ▸ entry?_put_self (by simp)
    have program := (endsAt_programPath_congr accepted gathers.seat seat).mp ended
    constructor
    · refine gathers.confined.step accepted gathers.seat seat passes (by simp) fun place => ?_
      by_cases target : place = home ++ [programName label]
      · exact Or.inr ⟨_, by simp, target ▸ program⟩
      · by_cases source : place = home ++ [partialName label]
        · exact Or.inr ⟨store.partialPath label, by simp, source ▸
            (endsAt_partialPath_congr accepted gathers.seat seat).mp began⟩
        · refine Or.inl ?_
          rw [put, entry?_put_ne target, gathers.rooted.tree.entry?_remove_ne file source]
    · exact (seat.lookAt_eq_ok proper (seat.endsPlain proper (by simp [there]))).mpr
        ⟨program, there⟩
  · exact Or.inl ⟨failed, gathers.of_same only same⟩

end

theorem gathers_of_marked {raised written marked : Host} (accepted : checkLabel label = .ok ())
    (lacks : store.Lacks label first)
    (making : first.makeDirectories store.directory = (.ok (), raised))
    (writing : raised.write (store.partialPath label) payload = (.ok (), written))
    (marking : written.setMode (store.partialPath label) mode = (.ok (), marked)) :
    ∃ home, raised.disk.Seat first.workingDirectory store.directory home ∧
      Gathers store label home first raised.disk marked ∧
      marked.disk.entry? (home ++ [partialName label]) = some (.file payload mode) := by
  obtain ⟨-, home, made⟩ := gathers_of_makeDirectories lacks making
  obtain ⟨gathers, whole⟩ := made.write accepted writing
  obtain ⟨bits, file⟩ := whole rfl
  obtain ⟨gathers, whole⟩ := gathers.setMode accepted file marking
  exact ⟨home, made.seat, gathers, whole rfl⟩

/-! ## Installing -/

structure Spares (store : CompilerStore) (label : String) (first host : Host) : Prop where
  confined : Confined store [store.partialPath label] first.workingDirectory first.disk host.disk
  lacks : store.HasFooting first → store.Lacks label host ∧ store.HasFooting host

theorem Spares.of_same (lacks : store.Lacks label first)
    (working : host.workingDirectory = first.workingDirectory) (same : host.disk = first.disk) :
    Spares store label first host := by
  refine ⟨same ▸ .refl _ _ _ _, fun footing => ⟨lacks.of_same working same, ?_⟩⟩
  rwa [HasFooting, working, same]

theorem Spares.congr (spares : Spares store label first host)
    (working : first.workingDirectory = after.workingDirectory) (same : first.disk = after.disk) :
    Spares store label after host := by
  obtain ⟨confined, lacks⟩ := spares
  exact ⟨by rwa [← working, ← same], fun footing => lacks (by rwa [HasFooting, working, same])⟩

def Settles (store : CompilerStore) (label : String) (payload : Payload) (first host : Host)
    (outcome : Except VerificationError Unit) : Prop :=
  ((∃ fault, outcome = .error fault) ∧ Spares store label first host) ∨
    (outcome = .ok () ∧
      Confined store [store.programPath label, store.partialPath label] first.workingDirectory
        first.disk host.disk ∧
      store.installed label host = .ok (.file payload programMode))

theorem settles_of_install (accepted : checkLabel label = .ok ()) (lacks : store.Lacks label host)
    (installed : store.install label payload host = (outcome, after)) :
    Settles store label payload host after outcome := by
  have spares {home : Location} {raised last : Host}
      (making : host.makeDirectories store.directory = (.ok (), raised))
      (seat : raised.disk.Seat host.workingDirectory store.directory home)
      (gathers : Gathers store label home host raised.disk last) : Spares store label host last :=
    ⟨gathers.confined, fun footing => gathers.lacks accepted lacks footing
      (gathers_of_makeDirectories lacks making).1 seat⟩
  cases installs_of_install installed with
  | unmade making =>
      obtain ⟨only, ⟨made, -⟩ | ⟨-, same⟩⟩ := Host.change_cases making
      · cases made
      · exact Or.inl ⟨⟨_, rfl⟩, .of_same lacks only.workingDirectory same⟩
  | unwritten making writing =>
      obtain ⟨-, home, gathers⟩ := gathers_of_makeDirectories lacks making
      exact Or.inl ⟨⟨_, rfl⟩, spares making gathers.seat (gathers.write accepted writing).1⟩
  | unmarked making writing marking =>
      obtain ⟨-, home, raised⟩ := gathers_of_makeDirectories lacks making
      obtain ⟨gathers, whole⟩ := raised.write accepted writing
      obtain ⟨mode, file⟩ := whole rfl
      exact Or.inl ⟨⟨_, rfl⟩, spares making raised.seat (gathers.setMode accepted file marking).1⟩
  | unmoved making writing marking moving =>
      obtain ⟨home, seat, gathers, file⟩ :=
        gathers_of_marked accepted lacks making writing marking
      obtain ⟨-, gathers⟩ | ⟨moved, -⟩ := gathers.rename accepted file moving
      · exact Or.inl ⟨⟨_, rfl⟩, spares making seat gathers⟩
      · cases moved
  | done making writing marking moving =>
      obtain ⟨home, seat, gathers, file⟩ :=
        gathers_of_marked accepted lacks making writing marking
      obtain ⟨⟨_, failed⟩, -⟩ | ⟨-, confined, there⟩ := gathers.rename accepted file moving
      · cases failed
      · exact Or.inr ⟨rfl, confined, there⟩

/-! ## Loading -/

theorem Downloaded.seen (downloaded : Downloaded store label payload host after) :
    ∃ url, Url.ofText (store.releaseUrl label) = .ok url ∧
      after.network.seen = host.network.seen ++ [⟨.get, url.withoutUser.text, none⟩] := by
  obtain ⟨answer, sent, -⟩ := downloaded
  generalize after.network = network at sent ⊢
  unfold Network.send at sent
  cases read : Url.ofText (store.releaseUrl label) with
  | error fault => simp [read] at sent
  | ok url =>
      refine ⟨url, rfl, ?_⟩
      simp only [read] at sent
      repeat' split at sent
      all_goals cases sent
      rfl

theorem settles_of_fetch (accepted : checkLabel label = .ok ()) (lacks : store.Lacks label host)
    (fetched : store.fetch label host = (outcome, after)) :
    (∃ fault, outcome = .error fault) ∧ Spares store label host after ∨
      outcome = .ok () ∧
        Confined store [store.programPath label, store.partialPath label] host.workingDirectory
          host.disk after.disk ∧
        ∃ payload, Downloaded store label payload host after ∧
          store.installed label after = .ok (.file payload programMode) := by
  obtain ⟨asked, same, choice⟩ := fetch_parts fetched
  have working : asked.workingDirectory = host.workingDirectory := by rw [same]
  have still : asked.disk = host.disk := by rw [same]
  rcases choice with ⟨⟨reason, failed⟩, rfl⟩ | ⟨payload, ⟨answer, taken, kind⟩, installed⟩
  · exact Or.inl ⟨⟨_, failed⟩, .of_same lacks working still⟩
  · obtain ⟨failed, spares⟩ | ⟨done, confined, there⟩ :=
      settles_of_install accepted (lacks.of_same working still) installed
    · exact Or.inl ⟨failed, spares.congr working still⟩
    · refine Or.inr ⟨done, working ▸ still ▸ confined, payload, ⟨answer, ?_, kind⟩, there⟩
      rw [taken, (onlyFiles_of_install installed).network]

theorem settles_of_load {outcome : Except VerificationError Compiler}
    (accepted : checkLabel label = .ok ()) (lacks : store.Lacks label host)
    (loaded : store.load label host = (outcome, after)) :
    (∃ fault, outcome = .error fault) ∧ Spares store label host after ∨
      outcome = .ok ⟨label, store.programPath label⟩ ∧
        Confined store [store.programPath label, store.partialPath label] host.workingDirectory
          host.disk after.disk ∧
        ∃ payload, Downloaded store label payload host after ∧
          store.installed label after = .ok (.file payload programMode) := by
  obtain ⟨looked, rfl, ⟨-, there, -⟩ | ⟨result, fetched, rfl⟩⟩ := load_parts accepted loaded
  · exact absurd there (Bool.eq_false_iff.mp lacks.missing)
  · have lacks : store.Lacks label { host with mishaps := host.mishaps.drop 1 } :=
      lacks.of_same rfl rfl
    obtain ⟨⟨fault, rfl⟩, spares⟩ | ⟨rfl, confined, brought⟩ :=
      settles_of_fetch accepted lacks fetched
    · exact Or.inl ⟨⟨fault, rfl⟩, spares.congr rfl rfl⟩
    · exact Or.inr ⟨rfl, confined, brought⟩

theorem network_of_load (accepted : checkLabel label = .ok ())
    (missing : host.pathExists (store.programPath label) = false) :
    (store.load label host).2.network =
      (host.network.send .get (store.releaseUrl label) none).2 := by
  obtain ⟨looked, rfl, ⟨-, there, -⟩ | ⟨result, fetched, -⟩⟩ :=
    load_parts accepted (Prod.eta (store.load label host)).symm
  · exact absurd there (Bool.eq_false_iff.mp missing)
  · obtain ⟨asked, same, ⟨-, ended⟩ | ⟨payload, -, installed⟩⟩ := fetch_parts fetched
    · rw [ended, same]
    · rw [(onlyFiles_of_install installed).network, same]

theorem load_of_pathExists (accepted : checkLabel label = .ok ())
    (there : host.pathExists (store.programPath label) = true)
    (undisturbed : host.mishaps.head?.join = none) :
    store.load label host = (.ok ⟨label, store.programPath label⟩,
      { host with mishaps := host.mishaps.drop 1 }) := by
  have looked : host.finds (store.programPath label) =
      (true, { host with mishaps := host.mishaps.drop 1 }) := by
    rw [Host.finds, Host.takeMishap, undisturbed]
    exact Prod.ext there rfl
  simp only [load, accepted, looked]

/-- What a load does whatever is in the directory of the store, whatever its request is answered and
whichever of its changes fail. A load of a label that is not installed fails and has not touched the
path of the label; unless the store's directory is missing and its path goes up from directories that
are missing too, nothing stands there then, and the next load asks again. Or it succeeds, has made
one request, and leaves the whole body of the answer there as a program. Nothing else is touched but
the path where the bytes are gathered and the store's directory with those above it. For a label that
is installed nothing is asked for, and nothing is touched. -/
theorem load_installs_whole_or_nothing (store : CompilerStore) (host : Host)
    (accepted : checkLabel label = .ok ()) :
    (host.disk.Rooted host.workingDirectory →
      host.pathExists (store.programPath label) = false →
      store.Plain label host.workingDirectory host.disk → store.HasFooting host →
      store.Lacks label host) ∧
    (store.Lacks label host → ∀ outcome after, store.load label host = (outcome, after) →
      (∀ fault, outcome = .error fault →
        (∃ reason, fault = .compilerLoad label reason) ∧
        Confined store [store.partialPath label] host.workingDirectory host.disk after.disk ∧
        (store.HasFooting host →
          after.pathExists (store.programPath label) = false ∧
          (store.load label after).2.network =
            (after.network.send .get (store.releaseUrl label) none).2 ∧
          store.Lacks label after ∧ store.HasFooting after)) ∧
      ∀ compiler, outcome = .ok compiler →
        compiler = ⟨label, store.programPath label⟩ ∧
        Confined store [store.programPath label, store.partialPath label] host.workingDirectory
          host.disk after.disk ∧
        (∃ url, Url.ofText (store.releaseUrl label) = .ok url ∧
          after.network.seen = host.network.seen ++ [⟨.get, url.withoutUser.text, none⟩]) ∧
        ∃ payload, Downloaded store label payload host after ∧
          store.installed label after = .ok (.file payload programMode)) ∧
    (host.pathExists (store.programPath label) = true → host.mishaps.head?.join = none →
      store.load label host = (.ok ⟨label, store.programPath label⟩,
        { host with mishaps := host.mishaps.drop 1 })) := by
  refine ⟨lacks_of_plain accepted, fun lacks outcome after loaded => ?_,
    load_of_pathExists accepted⟩
  obtain ⟨⟨fault, failed⟩, spares⟩ | ⟨done, confined, payload, downloaded, there⟩ :=
    settles_of_load accepted lacks loaded
  · subst failed
    refine ⟨?_, nofun⟩
    rintro _ ⟨⟩
    refine ⟨load_eq_error loaded, spares.confined, fun footing => ?_⟩
    obtain ⟨left, still⟩ := spares.lacks footing
    exact ⟨left.missing, network_of_load accepted left.missing, left, still⟩
  · subst done
    refine ⟨nofun, ?_⟩
    rintro _ ⟨⟩
    exact ⟨rfl, confined, downloaded.seen, payload, downloaded, there⟩

/-! ## A directory that is missing, on a device that is full for a while -/

def distantStore : CompilerStore :=
  ⟨"http://[::1]", "a/b"⟩

def distantHost : Host where
  disk := ⟨[(["w"], .directory)]⟩
  network := .serving
    [.answer ⟨200, ⟨[1, 2], none⟩, none, 0⟩, .answer ⟨200, ⟨[3, 4], none⟩, none, 0⟩] []
  workingDirectory := ["w"]
  scratch := []
  mishaps := [none, none, some ⟨.noSpace, some 1⟩]
  runs := []

theorem rooted_distantHost : distantHost.disk.Rooted distantHost.workingDirectory :=
  ⟨isTree_of_entries (by decide +kernel), rfl⟩

theorem plain_distantHost :
    distantStore.Plain "v0.4.7+" distantHost.workingDirectory distantHost.disk := by
  have nowhere (path : String) (missing : distantHost.disk.locate distantHost.workingDirectory false
      path = .error .notFound) : distantHost.disk.EndsPlain distantHost.workingDirectory path := by
    intro spot target located
    rw [missing] at located
    cases located
  exact ⟨nowhere _ (by decide +kernel), nowhere _ (by decide +kernel)⟩

theorem hasFooting_distantHost : distantStore.HasFooting distantHost := by
  refine Or.inr fun front leads => ?_
  have upward : Path.Component.parent ∈ Path.components distantStore.directory :=
    leads.subset (by simp)
  exact absurd upward (by decide +kernel)

theorem load_installs_whole_or_nothing_distant :
    (∃ reason, (distantStore.load "v0.4.7+" distantHost).1 =
      .error (.compilerLoad "v0.4.7+" reason)) ∧
    (distantStore.loadAll ["v0.4.7+"] distantHost).pathExists "a/b/solc-v0.4.7+" = false ∧
    (∃ payload, Downloaded distantStore "v0.4.7+" payload
        (distantStore.loadAll ["v0.4.7+"] distantHost)
        (distantStore.loadAll ["v0.4.7+", "v0.4.7+"] distantHost) ∧
      distantStore.installed "v0.4.7+" (distantStore.loadAll ["v0.4.7+", "v0.4.7+"] distantHost) =
        .ok (.file payload programMode)) ∧
    distantStore.load "v0.4.7+" (distantStore.loadAll ["v0.4.7+", "v0.4.7+"] distantHost) =
      (.ok ⟨"v0.4.7+", "a/b/solc-v0.4.7+"⟩,
        distantStore.loadAll ["v0.4.7+", "v0.4.7+", "v0.4.7+"] distantHost) := by
  -- The first load fails and leaves nothing at the path of the label, the second one installs
  -- the second answer, and the third one asks for nothing.
  have accepted : checkLabel "v0.4.7+" = .ok () := by decide +kernel
  obtain ⟨lacking, first, -⟩ := load_installs_whole_or_nothing distantStore distantHost accepted
  obtain ⟨-, second, -⟩ := load_installs_whole_or_nothing distantStore
    (distantStore.loadAll ["v0.4.7+"] distantHost) accepted
  obtain ⟨-, -, third⟩ := load_installs_whole_or_nothing distantStore
    (distantStore.loadAll ["v0.4.7+", "v0.4.7+"] distantHost) accepted
  have lacks := lacking rooted_distantHost (by decide +kernel) plain_distantHost
    hasFooting_distantHost
  have full : (distantStore.load "v0.4.7+" distantHost).1 = .error (.compilerLoad "v0.4.7+"
      "cannot write binary: No space left on device (os error 28)") := by decide +kernel
  have brought : (distantStore.load "v0.4.7+" (distantStore.loadAll ["v0.4.7+"] distantHost)).1 =
      .ok ⟨"v0.4.7+", "a/b/solc-v0.4.7+"⟩ := by decide +kernel
  obtain ⟨fails, -⟩ := first lacks _ _ (Prod.eta (distantStore.load "v0.4.7+" distantHost)).symm
  obtain ⟨⟨reason, failed⟩, -, again⟩ := fails _ full
  obtain ⟨missing, -, left, -⟩ := again hasFooting_distantHost
  obtain ⟨-, succeeds⟩ := second left _ _ (Prod.eta _).symm
  obtain ⟨-, -, -, payload, downloaded, there⟩ := succeeds _ brought
  refine ⟨⟨reason, full.trans (congrArg _ failed)⟩, missing, ⟨payload, downloaded, there⟩, ?_⟩
  rw [third (by decide +kernel) (by decide +kernel)]
  exact Prod.ext rfl (by decide +kernel)

/-! ## A directory whose path goes up from a missing one -/

def detouredStore : CompilerStore :=
  ⟨"http://[::1]", "/w/c/../d"⟩

def detouredHost : Host where
  disk := ⟨[(["w"], .directory), (["w", "d"], .directory),
    (["w", "d", "solc-v0.4.7+"], .file ⟨[1, 2], none⟩ programMode),
    (["w", "d", "solc-v0.4.7+.partial"], .directory)]⟩
  network := .serving [.answer ⟨200, ⟨[3, 4], none⟩, none, 0⟩] []
  workingDirectory := []
  scratch := []
  mishaps := []
  runs := []

/-- A load that fails may bring a program to light that could not be reached before. -/
theorem not_load_installs_whole_or_nothing : ¬ ∀ (store : CompilerStore) (label : String)
    (host after : Host) (fault : VerificationError), checkLabel label = .ok () →
    host.disk.Rooted host.workingDirectory →
    (∀ place target, host.disk.entry? place ≠ some (.link target)) →
    host.pathExists (store.programPath label) = false →
    store.load label host = (.error fault, after) →
    after.pathExists (store.programPath label) = false ∧
      (store.load label after).2.network =
        (after.network.send .get (store.releaseUrl label) none).2 := by
  intro always
  have rooted : detouredHost.disk.Rooted detouredHost.workingDirectory :=
    ⟨isTree_of_entries (by decide +kernel), rfl⟩
  have unlinked : ∀ place target, detouredHost.disk.entry? place ≠ some (.link target) := by
    intro place target linked
    have inner : place ≠ [] := by
      rintro rfl
      cases linked
    have listed := mem_entries_of_entry? inner linked
    simp [detouredHost] at listed
  have failed : (detouredStore.load "v0.4.7+" detouredHost).1 = .error (.compilerLoad "v0.4.7+"
      "cannot write binary: Is a directory (os error 21)") := by decide +kernel
  have loaded : detouredStore.load "v0.4.7+" detouredHost =
      (.error (.compilerLoad "v0.4.7+" "cannot write binary: Is a directory (os error 21)"),
        (detouredStore.load "v0.4.7+" detouredHost).2) := Prod.ext failed rfl
  have accepted : checkLabel "v0.4.7+" = .ok () := by decide +kernel
  have hidden : detouredHost.pathExists (detouredStore.programPath "v0.4.7+") = false := by
    decide +kernel
  obtain ⟨missing, -⟩ := always _ _ _ _ _ accepted rooted unlinked hidden loaded
  have there : (detouredStore.load "v0.4.7+" detouredHost).2.pathExists
      (detouredStore.programPath "v0.4.7+") = true := by decide +kernel
  rw [there] at missing
  cases missing

end DeployCheck.CompilerStore
