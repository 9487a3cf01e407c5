import DeployCheck.Proofs.Compiler.Loading
import DeployCheck.Proofs.Disk.Flat
import Mathlib.Data.List.Induction
/-!
The directory of a store over a whole run of loads. A load touches two names of its label, the final
one and the one beside it at which the bytes are gathered, and the final one only in its last step.
So what stands at the final name of a label is a whole download of that label, unless some other
label gathers its bytes at just that name.
-/
namespace DeployCheck.CompilerStore

open Text Disk

variable {store : CompilerStore} {label other : String} {compiler : Compiler} {payload : Payload}
  {first host after : Host} {home : Location} {mode : Nat} {result : Except OsError Unit}
  {outcome : Except VerificationError Unit}

/-! ## Installing -/

/-- The store's directory was bare on the first host, and since then only files have been put into
it. -/
structure Tended (store : CompilerStore) (first : Host) (home : Location) (host : Host) : Prop where
  bare : Bare first.disk home
  led : first.disk.resolve first.workingDirectory store.directory = .ok home
  workingDirectory : host.workingDirectory = first.workingDirectory
  filled : Filled first.disk home host.disk

theorem Tended.of_onlyFiles (tended : Tended store first home host) (only : host.OnlyFiles after)
    (filled : Filled first.disk home after.disk) : Tended store first home after :=
  ⟨tended.bare, tended.led, only.workingDirectory.trans tended.workingDirectory, filled⟩

section

variable (tended : Tended store first home host)

include tended

theorem Tended.makeDirectories (made : host.makeDirectories store.directory = (result, after)) :
    Tended store first home after ∧ after.disk = host.disk := by
  obtain ⟨only, choice⟩ := Host.change_cases made
  have same : after.disk = host.disk := by
    rcases choice with ⟨-, made⟩ | ⟨-, same⟩
    · rw [tended.workingDirectory] at made
      exact tended.filled.makeDirectories tended.bare tended.led made
    · exact same
  exact ⟨tended.of_onlyFiles only (same ▸ tended.filled), same⟩

variable {name : String} (proper : Path.IsName name)

include proper

theorem Tended.write
    (written : host.write (Path.join store.directory name) payload = (result, after)) :
    Tended store first home after ∧ SameBut home [name] host.disk after.disk ∧
      (result = .ok () → ∃ mode, after.disk.entry? (home ++ [name]) = some (.file payload mode)) := by
  obtain ⟨only, choice⟩ := Host.write_cases written
  have wrote {content : Payload}
      (put : host.disk.write host.workingDirectory (Path.join store.directory name) content =
        .ok after.disk) :
      Tended store first home after ∧ SameBut home [name] host.disk after.disk ∧
        ∃ mode, after.disk.entry? (home ++ [name]) = some (.file content mode) := by
    rw [tended.workingDirectory] at put
    obtain ⟨mode, same⟩ := tended.filled.write tended.bare tended.led proper put
    rw [same]
    refine ⟨tended.of_onlyFiles only ?_, sameBut_put home name host.disk _, mode,
      entry?_put_self (by simp)⟩
    exact same ▸ tended.filled.put tended.bare name content mode
  -- A write that fails may have put a part of the payload there.
  rcases choice with ⟨-, put⟩ | ⟨⟨reason, failed⟩, same | ⟨part, put⟩⟩
  · obtain ⟨next, but, file⟩ := wrote put
    exact ⟨next, but, fun _ => file⟩
  · refine ⟨tended.of_onlyFiles only (same ▸ tended.filled), same ▸ .refl home [name] _, ?_⟩
    simp [failed]
  · obtain ⟨next, but, -⟩ := wrote put
    exact ⟨next, but, by simp [failed]⟩

theorem Tended.setMode {bits : Nat}
    (file : host.disk.entry? (home ++ [name]) = some (.file payload bits))
    (changed : host.setMode (Path.join store.directory name) mode = (result, after)) :
    Tended store first home after ∧ SameBut home [name] host.disk after.disk ∧
      ∃ bits, after.disk.entry? (home ++ [name]) = some (.file payload bits) := by
  obtain ⟨only, ⟨-, marked⟩ | ⟨-, same⟩⟩ := Host.change_cases changed
  · rw [tended.workingDirectory] at marked
    have same := tended.filled.setMode tended.bare tended.led proper file marked
    rw [same]
    refine ⟨tended.of_onlyFiles only ?_, sameBut_put home name host.disk _, mode,
      entry?_put_self (by simp)⟩
    exact same ▸ tended.filled.put tended.bare name payload mode
  · rw [same]
    exact ⟨tended.of_onlyFiles only (same ▸ tended.filled), .refl home [name] _, bits, file⟩

theorem Tended.rename {target : String} (sound : Path.IsName target) (differs : name ≠ target)
    {bits : Nat} (file : host.disk.entry? (home ++ [name]) = some (.file payload bits))
    (moved : host.rename (Path.join store.directory name) (Path.join store.directory target) =
      (result, after)) :
    Tended store first home after ∧
      ((∃ reason, result = .error reason) ∧ after.disk = host.disk ∨
        result = .ok () ∧ SameBut home [target, name] host.disk after.disk ∧
        after.disk.entry? (home ++ [target]) = some (.file payload bits) ∧
        unusable? (Path.join store.directory target) = none ∧
        utf8Length target.toList ≤ maxNameLength) := by
  obtain ⟨only, ⟨done, moved⟩ | ⟨failed, same⟩⟩ := Host.change_cases moved
  · rw [tended.workingDirectory] at moved
    obtain ⟨same, usable, short⟩ :=
      tended.filled.rename tended.bare tended.led proper sound differs file moved
    have filled := (tended.filled.remove tended.bare name)
    refine ⟨tended.of_onlyFiles only ?_, Or.inr ⟨done, ?_, ?_, usable, short⟩⟩
    · exact same ▸ filled.put tended.bare target payload bits
    · have left := (tended.filled.sameBut_remove name).mono (List.subset_cons_self target [name])
      have put := sameBut_put home target (host.disk.remove (home ++ [name])) (.file payload bits)
      exact same ▸ left.trans (put.mono (by simp))
    · rw [same, entry?_put_self (by simp)]
  · exact ⟨tended.of_onlyFiles only (same ▸ tended.filled), Or.inl ⟨failed, same⟩⟩

end

section

variable {raised written marked : Host} (accepted : checkLabel label = .ok ())
  (tended : Tended store first home host)
  (making : host.makeDirectories store.directory = (.ok (), raised))

include accepted tended making

theorem Tended.of_written
    (writing : raised.write (store.partialPath label) payload = (result, written)) :
    Tended store first home written ∧ SameBut home [partialName label] host.disk written.disk ∧
      (result = .ok () → ∃ mode,
        written.disk.entry? (home ++ [partialName label]) = some (.file payload mode)) := by
  obtain ⟨tended, still⟩ := tended.makeDirectories making
  rw [partialPath_eq] at writing
  exact still ▸ tended.write (isName_partialName accepted) writing

theorem Tended.of_marked
    (writing : raised.write (store.partialPath label) payload = (.ok (), written))
    (marking : written.setMode (store.partialPath label) mode = (result, marked)) :
    Tended store first home marked ∧ SameBut home [partialName label] host.disk marked.disk ∧
      ∃ bits, marked.disk.entry? (home ++ [partialName label]) = some (.file payload bits) := by
  obtain ⟨tended, put, whole⟩ := tended.of_written accepted making writing
  obtain ⟨mode, file⟩ := whole rfl
  rw [partialPath_eq] at marking
  obtain ⟨tended, marks, file⟩ := tended.setMode (isName_partialName accepted) file marking
  exact ⟨tended, put.trans marks, file⟩

end

def Placed (store : CompilerStore) (home : Location) (label : String) (payload : Payload)
    (host : Host) : Prop :=
  (∃ mode, host.disk.entry? (home ++ [programName label]) = some (.file payload mode)) ∧
    unusable? (store.programPath label) = none ∧
    utf8Length (programName label).toList ≤ maxNameLength

theorem install_cases (accepted : checkLabel label = .ok ()) (tended : Tended store first home host)
    (installed : store.install label payload host = (outcome, after)) :
    Tended store first home after ∧
      ((∃ fault, outcome = .error fault) ∧
          SameBut home [partialName label] host.disk after.disk ∨
        outcome = .ok () ∧
          SameBut home [programName label, partialName label] host.disk after.disk ∧
          Placed store home label payload after) := by
  have gather := isName_partialName accepted
  have proper := isName_programName accepted
  have differs := (programName_ne_partialName label).symm
  cases installs_of_install installed with
  | unmade making =>
      obtain ⟨tended, still⟩ := tended.makeDirectories making
      exact ⟨tended, Or.inl ⟨⟨_, rfl⟩, still ▸ .refl home _ _⟩⟩
  | unwritten making writing =>
      obtain ⟨tended, put, -⟩ := tended.of_written accepted making writing
      exact ⟨tended, Or.inl ⟨⟨_, rfl⟩, put⟩⟩
  | unmarked making writing marking =>
      obtain ⟨tended, put, -⟩ := tended.of_marked accepted making writing marking
      exact ⟨tended, Or.inl ⟨⟨_, rfl⟩, put⟩⟩
  | unmoved making writing marking moving =>
      obtain ⟨tended, put, bits, file⟩ := tended.of_marked accepted making writing marking
      rw [partialPath_eq] at moving
      obtain ⟨tended, ⟨-, same⟩ | ⟨moved, -⟩⟩ := tended.rename gather proper differs file moving
      · exact ⟨tended, Or.inl ⟨⟨_, rfl⟩, same ▸ put⟩⟩
      · cases moved
  | done making writing marking moving =>
      obtain ⟨tended, put, bits, file⟩ := tended.of_marked accepted making writing marking
      rw [partialPath_eq] at moving
      obtain ⟨tended, ⟨⟨_, failed⟩, -⟩ | ⟨-, but, file, usable, short⟩⟩ :=
        tended.rename gather proper differs file moving
      · cases failed
      · -- Only now has the final name been touched.
        refine ⟨tended, Or.inr ⟨rfl, ?_, ⟨bits, file⟩, usable, short⟩⟩
        exact (put.mono (List.subset_cons_self _ _)).trans but

/-! ## Loading -/

theorem fetch_cases (accepted : checkLabel label = .ok ()) (tended : Tended store first home host)
    (fetched : store.fetch label host = (outcome, after)) :
    Tended store first home after ∧
      ((∃ fault, outcome = .error fault) ∧
          SameBut home [partialName label] host.disk after.disk ∨
        outcome = .ok () ∧
          SameBut home [programName label, partialName label] host.disk after.disk ∧
          ∃ payload, Placed store home label payload after ∧
            Downloaded store label payload host after) := by
  obtain ⟨asked, same, choice⟩ := fetch_parts fetched
  have still : asked.disk = host.disk := by rw [same]
  have tended : Tended store first home asked := by
    rw [same]
    exact ⟨tended.bare, tended.led, tended.workingDirectory, tended.filled⟩
  rw [← still]
  rcases choice with ⟨⟨reason, failed⟩, rfl⟩ | ⟨payload, ⟨answer, taken, kind⟩, installed⟩
  · exact ⟨tended, Or.inl ⟨⟨_, failed⟩, .refl home _ _⟩⟩
  · obtain ⟨tended, failed | ⟨done, but, placed⟩⟩ := install_cases accepted tended installed
    · exact ⟨tended, Or.inl failed⟩
    · refine ⟨tended, Or.inr ⟨done, but, payload, placed, answer, ?_, kind⟩⟩
      rw [(onlyFiles_of_install installed).network, taken]

theorem load_cases {outcome : Except VerificationError Compiler}
    (accepted : checkLabel label = .ok ()) (tended : Tended store first home host)
    (loaded : store.load label host = (outcome, after)) :
    Tended store first home after ∧
      ((∃ fault, outcome = .error fault) ∧
          SameBut home [partialName label] host.disk after.disk ∨
        after.disk = host.disk ∧ host.pathExists (store.programPath label) = true ∨
        SameBut home [programName label, partialName label] host.disk after.disk ∧
          ∃ payload, Placed store home label payload after ∧
            Downloaded store label payload host after) := by
  obtain ⟨looked, same, choice⟩ := load_parts accepted loaded
  have still : looked.disk = host.disk := by rw [same]
  have tended : Tended store first home looked := by
    rw [same]
    exact ⟨tended.bare, tended.led, tended.workingDirectory, tended.filled⟩
  rw [← still]
  rcases choice with ⟨-, there, rfl⟩ | ⟨result, fetched, rfl⟩
  · exact ⟨tended, Or.inr (Or.inl ⟨rfl, there⟩)⟩
  · obtain ⟨tended, ⟨⟨fault, rfl⟩, but⟩ | ⟨-, but, payload, placed, answer, sent, kind⟩⟩ :=
      fetch_cases accepted tended fetched
    · exact ⟨tended, Or.inl ⟨⟨fault, rfl⟩, but⟩⟩
    · refine ⟨tended, Or.inr (Or.inr ⟨but, payload, placed, answer, ?_, kind⟩)⟩
      rw [← sent, same]

theorem Tended.load (tended : Tended store first home host) (label : String) :
    Tended store first home (store.load label host).2 := by
  cases accepted : checkLabel label with
  | error fault =>
      rw [load_of_refused accepted]
      exact tended
  | ok => exact (load_cases accepted tended rfl).1

theorem Tended.load_apart (tended : Tended store first home host) (differs : other ≠ label)
    (apart : other ++ ".partial" ≠ label) :
    (store.load other host).2.disk.entry? (home ++ [programName label]) =
      host.disk.entry? (home ++ [programName label]) := by
  have outside : ∀ name ∈ [programName other, partialName other],
      home ++ [programName label] ≠ home ++ [name] := by
    intro name member same
    simp only [List.append_cancel_left_eq, List.cons.injEq, and_true] at same
    rcases List.mem_pair.mp member with rfl | rfl
    · exact programName_ne differs same
    · exact programName_ne_partialName_of apart same
  cases accepted : checkLabel other with
  | error fault => rw [load_of_refused accepted]
  | ok =>
      obtain ⟨-, ⟨-, but⟩ | ⟨still, -⟩ | ⟨but, -⟩⟩ :=
        load_cases accepted tended (Prod.eta (store.load other host)).symm
      · exact but.mono (List.subset_cons_self _ _) _ outside
      · rw [still]
      · exact but _ outside

/-! ## Runs -/

def loadAll (store : CompilerStore) (labels : List String) (host : Host) : Host :=
  labels.foldl (fun host label => (store.load label host).2) host

theorem loadAll_concat (labels : List String) (label : String) :
    store.loadAll (labels ++ [label]) host = (store.load label (store.loadAll labels host)).2 := by
  rw [loadAll, List.foldl_append]
  rfl

def Delivered (store : CompilerStore) (first : Host) (labels : List String) (label : String)
    (payload : Payload) : Prop :=
  ∃ earlier later, labels = earlier ++ label :: later ∧
    Downloaded store label payload (store.loadAll earlier first)
      (store.loadAll (earlier ++ [label]) first)

theorem Delivered.append {labels : List String}
    (delivered : Delivered store first labels label payload) (more : List String) :
    Delivered store first (labels ++ more) label payload := by
  obtain ⟨earlier, later, rfl, downloaded⟩ := delivered
  exact ⟨earlier, later ++ more, by simp, downloaded⟩

theorem Tended.loadAll (tended : Tended store first home host) (labels : List String) :
    Tended store first home (store.loadAll labels host) := by
  induction labels generalizing host with
  | nil => exact tended
  | cons label rest ih => exact ih (tended.load label)

theorem delivered_of_entry {labels : List String} (tended : Tended store first home first)
    (lone : ∀ other ∈ labels, other ++ ".partial" ≠ label)
    (file : (store.loadAll labels first).disk.entry? (home ++ [programName label]) =
      some (.file payload mode)) :
    Delivered store first labels label payload := by
  -- From the last load back: only a load of this label puts anything at its final name.
  induction labels using List.reverseRecOn generalizing payload mode with
  | nil =>
      rw [CompilerStore.loadAll, List.foldl_nil, tended.bare.missing] at file
      cases file
  | append_singleton earlier last ih =>
      have before := tended.loadAll earlier
      have kept (file : (store.loadAll earlier first).disk.entry? (home ++ [programName label]) =
          some (.file payload mode)) : Delivered store first (earlier ++ [last]) label payload :=
        (ih (fun other member => lone other (List.mem_append_left _ member)) file).append [last]
      rw [loadAll_concat] at file
      by_cases same : last = label
      · subst same
        cases accepted : checkLabel last with
        | error fault =>
            rw [load_of_refused accepted] at file
            exact kept file
        | ok =>
            obtain ⟨-, ⟨-, but⟩ | ⟨still, -⟩ | ⟨-, content, ⟨⟨bits, there⟩, -⟩, downloaded⟩⟩ :=
              load_cases accepted before
                (Prod.eta (store.load last (store.loadAll earlier first))).symm
            · refine kept ((but _ ?_).symm.trans file)
              intro name member same
              rw [List.mem_singleton.mp member] at same
              simp only [List.append_cancel_left_eq, List.cons.injEq, and_true] at same
              exact programName_ne_partialName last same
            · exact kept (still ▸ file)
            · obtain ⟨rfl, -⟩ := Entry.file.inj (Option.some.inj (there.symm.trans file))
              exact ⟨earlier, [], rfl, by rwa [loadAll_concat]⟩
      · rw [before.load_apart same (lone last (by simp))] at file
        exact kept file

def installed (store : CompilerStore) (label : String) (host : Host) : Except OsError Entry :=
  host.disk.lookAt host.workingDirectory (store.programPath label)

theorem Tended.installed (tended : Tended store first home host)
    (accepted : checkLabel label = .ok ()) :
    store.installed label host =
      match unusable? (store.programPath label) with
      | some reason => .error reason
      | none =>
        if maxNameLength < utf8Length (programName label).toList then .error .nameTooLong
        else
          match host.disk.entry? (home ++ [programName label]) with
          | some entry => .ok entry
          | none => .error .notFound := by
  rw [CompilerStore.installed, tended.workingDirectory]
  exact tended.filled.lookAt tended.bare tended.led (isName_programName accepted)

theorem Tended.installed_of_placed (tended : Tended store first home host)
    (accepted : checkLabel label = .ok ()) (placed : Placed store home label payload host) :
    ∃ mode, store.installed label host = .ok (.file payload mode) := by
  obtain ⟨⟨mode, file⟩, usable, short⟩ := placed
  refine ⟨mode, ?_⟩
  rw [tended.installed accepted, usable, file]
  exact if_neg (Nat.not_lt.mpr short)

theorem Tended.placed_of_pathExists (tended : Tended store first home host)
    (accepted : checkLabel label = .ok ())
    (found : host.pathExists (store.programPath label) = true) :
    ∃ payload, Placed store home label payload host := by
  change (store.installed label host).isOk = true at found
  rw [tended.installed accepted] at found
  cases usable : unusable? (store.programPath label) with
  | some reason => simp [usable, Except.isOk, Except.toBool] at found
  | none =>
      by_cases long : maxNameLength < utf8Length (programName label).toList
      · simp [usable, long, Except.isOk, Except.toBool] at found
      · cases standing : host.disk.entry? (home ++ [programName label]) with
        | none => simp [usable, long, standing, Except.isOk, Except.toBool] at found
        | some entry =>
            obtain ⟨payload, mode, rfl⟩ := tended.filled.file standing
            exact ⟨payload, ⟨mode, standing⟩, usable, Nat.le_of_not_lt long⟩

/-- Loads of any labels, whatever they are answered and whichever of their looks and changes fail,
in a directory that was bare at first. If no label in the run gathers its bytes at the final name of
this one, then a load of this one that succeeds leaves the whole body of a successful answer to a
request for it at its path. No load of another label but that one changes what the path leads to. -/
theorem installs_whole_downloads (bare : Bare host.disk home)
    (led : host.disk.resolve host.workingDirectory store.directory = .ok home)
    (labels : List String) (label : String)
    (lone : ∀ other ∈ labels, other ++ ".partial" ≠ label) :
    (∀ compiler after, store.load label (store.loadAll labels host) = (.ok compiler, after) →
      ∃ payload mode, store.installed label after = .ok (.file payload mode) ∧
        Delivered store host (labels ++ [label]) label payload) ∧
    (checkLabel label = .ok () → ∀ other, other ≠ label → other ++ ".partial" ≠ label →
      store.installed label (store.load other (store.loadAll labels host)).2 =
        store.installed label (store.loadAll labels host)) := by
  have start : Tended store host home host := ⟨bare, led, rfl, bare.filled⟩
  have before := start.loadAll labels
  constructor
  · intro compiler after loaded
    have accepted := checkLabel_of_load loaded
    have later : store.loadAll (labels ++ [label]) host = after := by
      rw [loadAll_concat, loaded]
    obtain ⟨tended, ⟨⟨_, failed⟩, -⟩ | ⟨still, found⟩ | ⟨-, payload, placed, downloaded⟩⟩ :=
      load_cases accepted before loaded
    · cases failed
    · obtain ⟨payload, ⟨mode, file⟩, usable⟩ := before.placed_of_pathExists accepted found
      have placed : Placed store home label payload after := ⟨⟨mode, still ▸ file⟩, usable⟩
      obtain ⟨bits, seen⟩ := tended.installed_of_placed accepted placed
      exact ⟨payload, bits, seen, (delivered_of_entry start lone file).append [label]⟩
    · obtain ⟨mode, seen⟩ := tended.installed_of_placed accepted placed
      exact ⟨payload, mode, seen, labels, [], rfl, later ▸ downloaded⟩
  · intro accepted other differs apart
    rw [(before.load other).installed accepted, before.installed accepted,
      before.load_apart differs apart]

/-! ## A directory on a device that is full for a while -/

def strainedStore : CompilerStore :=
  ⟨"http://[::1]", "/c"⟩

def strainedHost : Host where
  disk := ⟨[(["c"], .directory)]⟩
  network := .serving [.answer ⟨200, ⟨[1, 2], none⟩, none, 0⟩, .answer ⟨200, ⟨[3, 4], none⟩, none, 0⟩] []
  workingDirectory := []
  scratch := []
  mishaps := [none, none, some ⟨.noSpace, some 1⟩]
  runs := []

theorem bare_strainedHost : Bare strainedHost.disk ["c"] := by
  refine ⟨rfl, fun place entry there below => ?_⟩
  have inner : place ≠ [] := by
    rintro rfl
    cases List.prefix_nil.mp below
  have listed := mem_entries_of_entry? inner there
  simpa [strainedHost] using (Prod.mk.inj (List.mem_singleton.mp listed)).1

theorem led_strainedHost :
    strainedHost.disk.resolve strainedHost.workingDirectory strainedStore.directory = .ok ["c"] :=
  rfl

theorem installs_whole_downloads_again :
    strainedStore.load "v0.4.7+" (strainedStore.loadAll ["v0.4.7+"] strainedHost) =
      (.ok ⟨"v0.4.7+", "/c/solc-v0.4.7+"⟩,
        strainedStore.loadAll ["v0.4.7+", "v0.4.7+"] strainedHost) ∧
    ∃ payload mode,
      strainedStore.installed "v0.4.7+"
        (strainedStore.loadAll ["v0.4.7+", "v0.4.7+"] strainedHost) = .ok (.file payload mode) ∧
      Delivered strainedStore strainedHost ["v0.4.7+", "v0.4.7+"] "v0.4.7+" payload := by
  -- The second load of the label brings the whole of the second answer.
  have loaded : strainedStore.load "v0.4.7+" (strainedStore.loadAll ["v0.4.7+"] strainedHost) =
      (.ok ⟨"v0.4.7+", "/c/solc-v0.4.7+"⟩,
        strainedStore.loadAll ["v0.4.7+", "v0.4.7+"] strainedHost) := by decide +kernel
  obtain ⟨whole, -⟩ := installs_whole_downloads bare_strainedHost led_strainedHost ["v0.4.7+"]
    "v0.4.7+" (by decide)
  exact ⟨loaded, whole _ _ loaded⟩

/-- What a write that failed has left is taken for the compiler of another label. -/
theorem not_installs_whole_downloads : ¬ ∀ (store : CompilerStore) (host : Host) (home : Location)
    (labels : List String) (label : String) (compiler : Compiler) (after : Host),
    Bare host.disk home →
    host.disk.resolve host.workingDirectory store.directory = .ok home →
    (∀ other ∈ labels ++ [label], checkLabel other = .ok ()) →
    store.load label (store.loadAll labels host) = (.ok compiler, after) →
    ∃ payload mode, store.installed label after = .ok (.file payload mode) ∧
      Delivered store host (labels ++ [label]) label payload := by
  intro always
  have loaded : strainedStore.load "v0.4.7+.partial"
      (strainedStore.loadAll ["v0.4.7+"] strainedHost) =
      (.ok ⟨"v0.4.7+.partial", "/c/solc-v0.4.7+.partial"⟩,
        strainedStore.loadAll ["v0.4.7+", "v0.4.7+.partial"] strainedHost) := by decide +kernel
  have accepted : ∀ other ∈ ["v0.4.7+"] ++ ["v0.4.7+.partial"], checkLabel other = .ok () := by
    decide +kernel
  obtain ⟨payload, mode, -, earlier, later, split, answer, sent, -⟩ :=
    always _ _ _ _ _ _ _ bare_strainedHost led_strainedHost accepted loaded
  have before : earlier = ["v0.4.7+"] := by
    match earlier, split with
    | [], split => exact absurd (List.cons.inj split).1 (by decide)
    | [only], split => rw [(List.cons.inj split).1]
    | first :: second :: rest, split => simp at split
  subst before
  -- No request was made for the other label.
  have unasked : ((strainedStore.loadAll ["v0.4.7+"] strainedHost).network.send .get
      (strainedStore.releaseUrl "v0.4.7+.partial") none).2 ≠
      (strainedStore.loadAll ["v0.4.7+", "v0.4.7+.partial"] strainedHost).network := by
    decide +kernel
  exact unasked (congrArg Prod.snd sent)

end DeployCheck.CompilerStore
