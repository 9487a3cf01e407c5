import DeployCheck.Proofs.Compiler.Names
import DeployCheck.Proofs.Disk.Inside
import DeployCheck.Proofs.Host
namespace DeployCheck.CompilerStore

open Text Disk

variable {store : CompilerStore} {label path : String} {compiler : Compiler} {payload : Payload}
  {host after : Host} {location : Location} {entry : Entry}
  {outcome : Except VerificationError Unit}

/-! ## Downloads -/

theorem posts_send_get (network : Network) (url : String) (body : Option String) :
    (network.send .get url body).2.posts = network.posts := by
  unfold Network.send
  cases Url.ofText url with
  | error fault => rfl
  | ok parsed =>
      simp only
      repeat' split
      all_goals rfl

def Downloaded (store : CompilerStore) (label : String) (payload : Payload) (host after : Host) :
    Prop :=
  ∃ answer, host.network.send .get (store.releaseUrl label) none = (.ok answer, after.network) ∧
    Status.isSuccess answer.status = true ∧ answer.readBody = .ok payload

theorem fetch_parts (fetched : store.fetch label host = (outcome, after)) :
    ∃ asked, asked = { host with
        network := (host.network.send .get (store.releaseUrl label) none).2 } ∧
      (((∃ reason, outcome = .error (.compilerLoad label reason)) ∧ after = asked) ∨
        ∃ payload, Downloaded store label payload host asked ∧
          store.install label payload asked = (outcome, after)) := by
  simp only [fetch] at fetched
  cases sent : host.send .get (store.releaseUrl label) none with
  | mk result asked =>
      obtain ⟨taken, same⟩ := Host.send_eq sent
      refine ⟨asked, by rw [same, taken], ?_⟩
      rw [sent] at fetched
      split at fetched
      · rename_i found
        obtain rfl := (Prod.mk.inj found).2
        obtain ⟨rfl, rfl⟩ := Prod.mk.inj fetched
        exact Or.inl ⟨⟨_, rfl⟩, rfl⟩
      · rename_i answer _ found
        obtain ⟨rfl, rfl⟩ := Prod.mk.inj found
        split at fetched
        · obtain ⟨rfl, rfl⟩ := Prod.mk.inj fetched
          exact Or.inl ⟨⟨_, rfl⟩, rfl⟩
        · rename_i success
          split at fetched
          · obtain ⟨rfl, rfl⟩ := Prod.mk.inj fetched
            exact Or.inl ⟨⟨_, rfl⟩, rfl⟩
          · rename_i payload body
            exact Or.inr ⟨payload, ⟨answer, taken, by simpa using success, body⟩, fetched⟩

/-! ## Installing -/

/-- How far an installation comes: one of its four steps fails and is the last one, or all are done. -/
inductive Installs (store : CompilerStore) (label : String) (payload : Payload) (host after : Host) :
    Except VerificationError Unit → Prop
  | unmade {reason : String} {cause : OsError} :
    host.makeDirectories store.directory = (.error cause, after) →
    Installs store label payload host after (.error (.compilerLoad label reason))
  | unwritten {reason : String} {cause : OsError} {raised : Host} :
    host.makeDirectories store.directory = (.ok (), raised) →
    raised.write (store.partialPath label) payload = (.error cause, after) →
    Installs store label payload host after (.error (.compilerLoad label reason))
  | unmarked {reason : String} {cause : OsError} {raised written : Host} :
    host.makeDirectories store.directory = (.ok (), raised) →
    raised.write (store.partialPath label) payload = (.ok (), written) →
    written.setMode (store.partialPath label) Disk.programMode = (.error cause, after) →
    Installs store label payload host after (.error (.compilerLoad label reason))
  | unmoved {reason : String} {cause : OsError} {raised written marked : Host} :
    host.makeDirectories store.directory = (.ok (), raised) →
    raised.write (store.partialPath label) payload = (.ok (), written) →
    written.setMode (store.partialPath label) Disk.programMode = (.ok (), marked) →
    marked.rename (store.partialPath label) (store.programPath label) = (.error cause, after) →
    Installs store label payload host after (.error (.compilerLoad label reason))
  | done {raised written marked : Host} :
    host.makeDirectories store.directory = (.ok (), raised) →
    raised.write (store.partialPath label) payload = (.ok (), written) →
    written.setMode (store.partialPath label) Disk.programMode = (.ok (), marked) →
    marked.rename (store.partialPath label) (store.programPath label) = (.ok (), after) →
    Installs store label payload host after (.ok ())

theorem installs_of_install (installed : store.install label payload host = (outcome, after)) :
    Installs store label payload host after outcome := by
  simp only [install] at installed
  split at installed
  · rename_i making
    obtain ⟨rfl, rfl⟩ := Prod.mk.inj installed
    exact .unmade making
  rename_i raised making
  split at installed
  · rename_i writing
    obtain ⟨rfl, rfl⟩ := Prod.mk.inj installed
    exact .unwritten making writing
  rename_i written writing
  split at installed
  · rename_i marking
    obtain ⟨rfl, rfl⟩ := Prod.mk.inj installed
    exact .unmarked making writing marking
  rename_i marked marking
  split at installed
  · rename_i moving
    obtain ⟨rfl, rfl⟩ := Prod.mk.inj installed
    exact .unmoved making writing marking moving
  · rename_i moving
    obtain ⟨rfl, rfl⟩ := Prod.mk.inj installed
    exact .done making writing marking moving

theorem onlyFiles_of_install (installed : store.install label payload host = (outcome, after)) :
    host.OnlyFiles after := by
  cases installs_of_install installed with
  | unmade making => exact (Host.change_cases making).1
  | unwritten making writing =>
      exact (Host.change_cases making).1.trans (Host.write_cases writing).1
  | unmarked making writing marking =>
      exact ((Host.change_cases making).1.trans (Host.write_cases writing).1).trans
        (Host.change_cases marking).1
  | unmoved making writing marking moving | done making writing marking moving =>
      exact (((Host.change_cases making).1.trans (Host.write_cases writing).1).trans
        (Host.change_cases marking).1).trans (Host.change_cases moving).1

theorem gathered_of_install (installed : store.install label payload host = (.ok (), after))
    (rooted : host.disk.Rooted host.workingDirectory) :
    ∃ marked place, host.OnlyFiles marked ∧ marked.disk.Rooted host.workingDirectory ∧
      marked.disk.resolve host.workingDirectory (store.partialPath label) = .ok place ∧
      marked.disk.entry? place = some (.file payload Disk.programMode) ∧
      (∀ name, host.disk.NoLinkNamed name → marked.disk.NoLinkNamed name) ∧
      marked.rename (store.partialPath label) (store.programPath label) = (.ok (), after) := by
  cases installs_of_install installed with
  | @done raised written marked making writing marking moving =>
      obtain ⟨first, made⟩ := Host.makeDirectories_eq_ok making
      obtain ⟨second, put⟩ := Host.write_eq_ok writing
      obtain ⟨third, changed⟩ := Host.setMode_eq_ok marking
      rw [first.workingDirectory] at put
      rw [second.workingDirectory, first.workingDirectory] at changed
      obtain ⟨place, mode, added, -, led, file⟩ := resolve_of_write put
      obtain ⟨altered, ledMarked, fileMarked⟩ := resolve_of_setMode led file changed
      have inner : place ≠ [] := by
        rintro rfl
        cases file
      refine ⟨marked, place, (first.trans second).trans third, ?_, ledMarked, fileMarked, ?_,
        moving⟩
      · exact ((rooted.makeDirectories made).write put).setMode changed
      · intro name unlinked
        rw [altered, added]
        exact ((unlinked.makeDirectories made).put (by simp) inner).put (by simp) inner

theorem install_eq_ok (installed : store.install label payload host = (.ok (), after))
    (rooted : host.disk.Rooted host.workingDirectory) :
    host.OnlyFiles after ∧ after.disk.Rooted host.workingDirectory := by
  obtain ⟨marked, place, only, rootedMarked, led, file, -, moving⟩ :=
    gathered_of_install installed rooted
  obtain ⟨last, moved⟩ := Host.rename_eq_ok moving
  rw [only.workingDirectory] at moved
  exact ⟨only.trans last, rootedMarked.rename led file moved⟩

def LinkFree (label : String) (disk : Disk) : Prop :=
  disk.NoLinkNamed (programName label) ∧ disk.NoLinkNamed (partialName label)

theorem pathExists_of_resolve (led : host.disk.resolve host.workingDirectory path = .ok location)
    (file : host.disk.entry? location = some entry) : host.pathExists path = true := by
  simp [Host.pathExists, Disk.pathExists, lookAt, led, file, Except.isOk, Except.toBool]

theorem pathExists_of_install (installed : store.install label payload host = (.ok (), after))
    (rooted : host.disk.Rooted host.workingDirectory) (accepted : checkLabel label = .ok ())
    (unlinked : LinkFree label host.disk) :
    after.pathExists (store.programPath label) = true := by
  obtain ⟨marked, place, only, rootedMarked, led, file, kept, moving⟩ :=
    gathered_of_install installed rooted
  obtain ⟨last, moved⟩ := Host.rename_eq_ok moving
  rw [only.workingDirectory] at moved
  have source := (kept _ unlinked.2).endsPlain (isName_partialName accepted)
    host.workingDirectory store.directory
  have target := (kept _ unlinked.1).endsPlain (isName_programName accepted)
    host.workingDirectory store.directory
  rw [← partialPath_eq] at source
  obtain ⟨goal, found, there⟩ :=
    rootedMarked.tree.resolve_of_rename led file source target moved
  rw [← only.workingDirectory, ← last.workingDirectory] at found
  exact pathExists_of_resolve found there

/-! ## Loading -/

structure Fetches (host after : Host) : Prop where
  runs : after.runs = host.runs
  posts : after.network.posts = host.network.posts
  rooted : after.disk.Rooted host.workingDirectory

theorem fetch_steps (fetched : store.fetch label host = (.ok (), after)) :
    ∃ network payload, network.posts = host.network.posts ∧
      store.install label payload { host with network } = (.ok (), after) := by
  obtain ⟨asked, rfl, ⟨⟨_, failed⟩, -⟩ | ⟨payload, -, installed⟩⟩ := fetch_parts fetched
  · cases failed
  · exact ⟨_, payload, posts_send_get host.network _ none, installed⟩

theorem fetches_of_fetch (rooted : host.disk.Rooted host.workingDirectory)
    (fetched : store.fetch label host = (.ok (), after)) : Fetches host after := by
  obtain ⟨network, payload, posts, installed⟩ := fetch_steps fetched
  obtain ⟨only, rootedAfter⟩ := install_eq_ok installed rooted
  exact ⟨only.runs, only.network ▸ posts, rootedAfter⟩

theorem load_parts {outcome : Except VerificationError Compiler}
    (accepted : checkLabel label = .ok ()) (loaded : store.load label host = (outcome, after)) :
    ∃ looked, looked = { host with mishaps := host.mishaps.drop 1 } ∧
      ((outcome = .ok ⟨label, store.programPath label⟩ ∧
          host.pathExists (store.programPath label) = true ∧ after = looked) ∨
        ∃ result, store.fetch label looked = (result, after) ∧
          outcome = result.map fun _ => ⟨label, store.programPath label⟩) := by
  simp only [load, accepted] at loaded
  cases looked : host.finds (store.programPath label) with
  | mk found rest =>
      obtain ⟨rested, there⟩ := Host.finds_eq looked
      refine ⟨rest, rested, ?_⟩
      rw [looked] at loaded
      cases found with
      | true =>
          obtain ⟨rfl, rfl⟩ := Prod.mk.inj loaded
          exact Or.inl ⟨rfl, there rfl, rfl⟩
      | false =>
          simp only at loaded
          split at loaded
          all_goals
            rename_i fetched
            obtain ⟨rfl, rfl⟩ := Prod.mk.inj loaded
            exact Or.inr ⟨_, fetched, rfl⟩

theorem load_steps (loaded : store.load label host = (.ok compiler, after)) :
    compiler = ⟨label, store.programPath label⟩ ∧ ∃ looked,
      looked = { host with mishaps := host.mishaps.drop 1 } ∧
      ((host.pathExists (store.programPath label) = true ∧ after = looked) ∨
        store.fetch label looked = (.ok (), after)) := by
  obtain ⟨looked, rested, ⟨same, there, ended⟩ | ⟨result, fetched, same⟩⟩ :=
    load_parts (checkLabel_of_load loaded) loaded
  · exact ⟨Except.ok.inj same, looked, rested, Or.inl ⟨there, ended⟩⟩
  · cases result with
    | error fault => cases same
    | ok => exact ⟨Except.ok.inj same, looked, rested, Or.inr fetched⟩

theorem load_eq_ok (rooted : host.disk.Rooted host.workingDirectory)
    (loaded : store.load label host = (.ok compiler, after)) :
    compiler = ⟨label, store.programPath label⟩ ∧ Fetches host after := by
  obtain ⟨same, looked, rested, choice⟩ := load_steps loaded
  have rootedThen : looked.disk.Rooted looked.workingDirectory := by
    rw [rested]
    exact rooted
  rcases choice with ⟨-, rfl⟩ | fetched
  · subst rested
    exact ⟨same, rfl, rfl, rooted⟩
  · obtain ⟨runs, posts, rootedAfter⟩ := fetches_of_fetch rootedThen fetched
    subst rested
    exact ⟨same, runs, posts, rootedAfter⟩

theorem pathExists_of_load (rooted : host.disk.Rooted host.workingDirectory)
    (unlinked : LinkFree label host.disk)
    (loaded : store.load label host = (.ok compiler, after)) :
    after.pathExists compiler.program = true := by
  have accepted := checkLabel_of_load loaded
  obtain ⟨rfl, looked, rested, ⟨there, rfl⟩ | fetched⟩ := load_steps loaded
  · subst rested
    exact there
  · obtain ⟨network, payload, -, installed⟩ := fetch_steps fetched
    have rootedThen : looked.disk.Rooted looked.workingDirectory := by
      rw [rested]
      exact rooted
    have unlinkedThen : LinkFree label looked.disk := by
      rw [rested]
      exact unlinked
    exact pathExists_of_install installed rootedThen accepted unlinkedThen

/-! ## Failures -/

section

variable {fault : VerificationError}

theorem install_eq_error (failed : store.install label payload host = (.error fault, after)) :
    ∃ reason, fault = .compilerLoad label reason := by
  cases installs_of_install failed <;> exact ⟨_, rfl⟩

theorem fetch_eq_error (failed : store.fetch label host = (.error fault, after)) :
    ∃ reason, fault = .compilerLoad label reason := by
  obtain ⟨asked, -, ⟨⟨reason, same⟩, -⟩ | ⟨payload, -, installed⟩⟩ := fetch_parts failed
  · exact ⟨reason, Except.error.inj same⟩
  · exact install_eq_error installed

theorem load_eq_error (failed : store.load label host = (.error fault, after)) :
    ∃ reason, fault = .compilerLoad label reason := by
  cases accepted : checkLabel label with
  | error refusal =>
      rw [load_of_refused accepted] at failed
      obtain rfl := Except.error.inj (Prod.mk.inj failed).1
      exact checkLabel_eq_error accepted
  | ok =>
      obtain ⟨looked, -, ⟨found, -⟩ | ⟨result, fetched, same⟩⟩ := load_parts accepted failed
      · cases found
      · cases result with
        | ok => cases same
        | error refusal => exact Except.error.inj same ▸ fetch_eq_error fetched

end

end DeployCheck.CompilerStore
