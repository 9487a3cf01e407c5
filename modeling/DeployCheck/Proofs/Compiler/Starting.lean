import DeployCheck.Proofs.Compiler.Loading
import DeployCheck.Proofs.Compiler.Running
import DeployCheck.Settings.Basic
/-!
Which file a compilation starts. The path of a compiler is read twice, from the working directory
when it is loaded and from a fresh directory when it is run. An absolute path leads to the same file
both times, since staging the sources takes nothing away. A relative one does not: below a fresh
directory there is nothing that could be run.
-/
namespace DeployCheck.Compiler

open Text Disk

variable {dir here there place : Location} {sources : SourceTree} {optimize : Bool}
  {disk later : Disk} {store : CompilerStore} {compiler : Compiler} {path label : String}
  {host loaded after : Host} {result : Except VerificationError Artifacts}

/-! ## From the sources to the start -/

def Prepares (host : Host) (sources : SourceTree) : Prop :=
  ∃ directory fresh staged, host.makeScratch = (.ok directory, fresh) ∧
    stage (pathOf directory) sources fresh = (.ok (), staged)

/-- What comes of looking for the program: it is run once and its output is read, or the refusal is
reported. -/
def Starts (compiler : Compiler) (sources : SourceTree) (optimize : Bool)
    (found : Except OsError (Location × Finished)) (host after : Host)
    (result : Except VerificationError Artifacts) : Prop :=
  match found with
  | .ok (place, finished) => result = outcome finished ∧
      ∃ files, after.runs = host.runs ++ [⟨place, arguments sources optimize, files⟩]
  | .error reason => after.runs = host.runs ∧
      result = .error (.compileOutput ("failed to run " ++ compiler.program ++ ": " ++ reason.message))

theorem starts_of_runIn (ran : compiler.runIn dir sources optimize host = (result, after)) :
    compiler.Starts sources optimize (host.disk.programAt dir compiler.program) host after
      result := by
  unfold runIn Host.run at ran
  cases found : host.disk.programAt dir compiler.program with
  | error reason =>
      simp only [found, Prod.mk.injEq] at ran
      obtain ⟨rfl, rfl⟩ := ran
      exact ⟨rfl, rfl⟩
  | ok pair =>
      obtain ⟨place, finished⟩ := pair
      simp only [found, Prod.mk.injEq] at ran
      obtain ⟨rfl, rfl⟩ := ran
      exact ⟨rfl, _, rfl⟩

theorem runs_of_makeScratch {made : Except OsError Location}
    (making : host.makeScratch = (made, after)) : after.runs = host.runs := by
  rw [Host.makeScratch] at making
  split at making
  · exact (Prod.mk.inj making).2 ▸ rfl
  · simp only at making
    split at making
    all_goals exact (Prod.mk.inj making).2 ▸ rfl

theorem runs_of_stage {written : Except VerificationError Unit} {fresh : Host}
    (making : host.makeScratch = (.ok dir, fresh))
    (staging : stage (pathOf dir) sources fresh = (written, after)) : after.runs = host.runs :=
  (onlyFiles_stage staging).runs.trans (runs_of_makeScratch making)

theorem compile_of_not_prepares (unprepared : ¬ Prepares host sources)
    (compiled : compiler.compile sources optimize host = (result, after)) :
    after.runs = host.runs ∧ ∃ fault, result = .error fault := by
  rw [compile] at compiled
  split at compiled
  · rename_i making
    obtain ⟨rfl, rfl⟩ := Prod.mk.inj compiled
    exact ⟨runs_of_makeScratch making, _, rfl⟩
  · rename_i making
    split at compiled
    · rename_i staging
      have runs := runs_of_stage making staging
      obtain ⟨rfl, rfl⟩ := Prod.mk.inj compiled
      exact ⟨runs, _, rfl⟩
    · rename_i staging
      exact absurd ⟨_, _, _, making, staging⟩ unprepared

theorem starts_of_stage (tree : host.disk.IsTree) {fresh staged : Host}
    (making : host.makeScratch = (.ok dir, fresh))
    (staging : stage (pathOf dir) sources fresh = (.ok (), staged))
    (compiled : compiler.compile sources optimize host = (result, after)) :
    Workplace host dir staged.disk ∧
      compiler.Starts sources optimize (staged.disk.programAt dir compiler.program) host after
        result := by
  have runs := runs_of_stage making staging
  obtain ⟨empty, apart⟩ := staged_of_makeScratch tree making
  have free := free_of_makeScratch making
  obtain ⟨standing, ⟨last, proper, rfl⟩, -⟩ := Host.makeScratch_eq_ok making
  obtain ⟨inert, beside⟩ :=
    inert_of_stage ((tree.named standing).below proper) empty.inert staging
  refine ⟨⟨⟨last, rfl⟩, free, inert, apart.trans beside⟩, ?_⟩
  simp only [compile, making, staging] at compiled
  cases ran : compiler.runIn (host.scratch ++ [last]) sources optimize staged with
  | mk outcome ended =>
      rw [ran] at compiled
      obtain ⟨rfl, rfl⟩ := Prod.mk.inj compiled
      have started := starts_of_runIn ran
      unfold Starts at started ⊢
      rwa [runs] at started

theorem starts_of_compile (tree : host.disk.IsTree) (prepared : Prepares host sources)
    (compiled : compiler.compile sources optimize host = (result, after)) :
    ∃ dir staged, Workplace host dir staged ∧
      compiler.Starts sources optimize (staged.programAt dir compiler.program) host after
        result := by
  obtain ⟨dir, fresh, staged, making, staging⟩ := prepared
  exact ⟨dir, staged.disk, starts_of_stage tree making staging compiled⟩

/-! ## One path read from two places -/

theorem programAt_congr (led : disk.resolve here path = .ok place)
    (still : later.resolve there path = .ok place) (same : later.entry? place = disk.entry? place) :
    later.programAt there path = disk.programAt here path := by
  simp only [programAt, led, still, same]

theorem programAt_extend (larger : Extends disk later) (absolute : Path.isAbsolute path = true)
    (stands : disk.pathExists here path = true) :
    later.programAt there path = disk.programAt here path := by
  rw [pathExists, lookAt] at stands
  cases led : disk.resolve here path with
  | error reason => simp [led, Except.isOk, Except.toBool] at stands
  | ok place =>
      -- An absolute path does not care from where it is read.
      have still := resolve_extend larger led
      rw [resolve_of_isAbsolute absolute here there] at still
      refine programAt_congr led still ?_
      cases seen : disk.entry? place with
      | none => simp [led, seen, Except.isOk, Except.toBool] at stands
      | some entry => exact larger place entry seen

theorem programAt_of_relative (inert : Inert dir disk) (relative : Path.isAbsolute path = false)
    (down : ".." ∉ stepsOf path) : ∃ reason, disk.programAt dir path = .error reason := by
  cases found : disk.programAt dir path with
  | error reason => exact ⟨reason, rfl⟩
  | ok pair =>
      obtain ⟨place, finished⟩ := pair
      obtain ⟨-, walks⟩ := locate_eq_ok.mp (resolve_eq_ok.mp (programAt_eq_ok found).1)
      rw [startOf_of_relative relative] at walks
      have unlinked := inert.unlinked_below ((stepsOf path).filter (· ≠ "."))
      -- The way ends below the directory it starts from, where nothing can be run.
      obtain ⟨-, ⟨ended, -⟩ | ⟨_, _, -, free, -⟩⟩ := walks.down down unlinked
      · have below : dir <+: place := Spot.found.inj ended ▸ List.prefix_append _ _
        exact absurd below (inert.programAt_beside found)
      · cases free

/-! ## Which file is started -/

variable {run : Run} {finished : Finished}

theorem RanOn.of_isAbsolute (ranOn : RanOn host path sources optimize run finished)
    (absolute : Path.isAbsolute path = true) (stands : host.pathExists path = true) :
    host.disk.programAt host.workingDirectory path = .ok (run.program, finished) := by
  obtain ⟨dir, staged, workplace, found⟩ := ranOn.started
  rwa [programAt_extend workplace.extends absolute stands] at found

theorem RanOn.upward (ranOn : RanOn host path sources optimize run finished)
    (relative : Path.isAbsolute path = false) : ".." ∈ stepsOf path := by
  obtain ⟨dir, staged, workplace, found⟩ := ranOn.started
  by_contra down
  obtain ⟨reason, missing⟩ := programAt_of_relative workplace.inert relative down
  rw [missing] at found
  cases found

theorem programPath_eq (store : CompilerStore) (accepted : checkLabel label = .ok ()) :
    Path.isAbsolute (store.programPath label) = Path.isAbsolute store.directory ∧
      stepsOf (store.programPath label) =
        Path.segments store.directory ++ [CompilerStore.programName label] :=
  ⟨isAbsolute_join (CompilerStore.isName_programName accepted) _,
    stepsOf_join (CompilerStore.isName_programName accepted) _⟩

theorem up_of_programPath (accepted : checkLabel label = .ok ())
    (up : ".." ∈ stepsOf (store.programPath label)) : ".." ∈ Path.segments store.directory := by
  rw [(programPath_eq store accepted).2] at up
  rcases List.mem_append.mp up with inside | last
  · exact inside
  · exact absurd (List.mem_singleton.mp last).symm (CompilerStore.isName_programName accepted).2.2

/-- After a load something stands at the path of the compiler, unless links are in the way of its
names. From an absolute directory a compilation starts just what the path led to then. From a
relative one the path is read again in the fresh directory, and unless it leads up, nothing is
found there. -/
theorem starts_what_was_loaded (rooted : host.disk.Rooted host.workingDirectory)
    (loading : store.load label host = (.ok compiler, loaded))
    (compiled : compiler.compile sources optimize loaded = (result, after)) :
    (CompilerStore.LinkFree label host.disk → loaded.pathExists compiler.program = true) ∧
    (¬ Prepares loaded sources → after.runs = loaded.runs ∧ ∃ fault, result = .error fault) ∧
    (Prepares loaded sources → Path.isAbsolute store.directory = true →
      loaded.pathExists compiler.program = true →
      compiler.Starts sources optimize
        (loaded.disk.programAt loaded.workingDirectory compiler.program) loaded after result) ∧
    (Prepares loaded sources → Path.isAbsolute store.directory = false →
      ∃ dir staged, (∃ name, dir = loaded.scratch ++ [name]) ∧ Beside dir loaded.disk staged ∧
        compiler.Starts sources optimize (staged.programAt dir compiler.program) loaded after
          result ∧
        (".." ∉ Path.segments store.directory →
          ∃ reason, staged.programAt dir compiler.program = .error reason)) := by
  have accepted := CompilerStore.checkLabel_of_load loading
  have exists_ := fun unlinked => CompilerStore.pathExists_of_load rooted unlinked loading
  obtain ⟨rfl, fetches⟩ := CompilerStore.load_eq_ok rooted loading
  have start := (programPath_eq store accepted).1
  refine ⟨exists_, fun unprepared => compile_of_not_prepares unprepared compiled, ?_, ?_⟩
  · intro prepared absolute stands
    obtain ⟨dir, staged, workplace, started⟩ :=
      starts_of_compile fetches.rooted.tree prepared compiled
    rwa [programAt_extend workplace.extends (start.trans absolute) stands] at started
  · intro prepared relative
    obtain ⟨dir, staged, workplace, started⟩ :=
      starts_of_compile fetches.rooted.tree prepared compiled
    refine ⟨dir, staged, workplace.fresh, workplace.beside, started, fun down => ?_⟩
    exact programAt_of_relative workplace.inert (start.trans relative)
      (mt (up_of_programPath accepted) down)

/-! ## One compiler under two paths -/

def emptyProgram : Finished :=
  ⟨Text.Utf8.encode "\x7b\"contracts\":\x7b\x7d\x7d", [], .exited 0⟩

def keptHost : Host where
  disk := ⟨[(["c"], .directory),
    (["c", "solc-v0.4.7+"], .file ⟨[], some emptyProgram⟩ Disk.programMode)]⟩
  network := .serving [] []
  workingDirectory := []
  scratch := []
  mishaps := []
  runs := []

theorem rooted_keptHost : keptHost.disk.Rooted keptHost.workingDirectory := by
  refine ⟨fun location name entry there => ?_, rfl⟩
  have listed := mem_entries_of_entry? (by simp) there
  simp only [keptHost, List.mem_cons, Prod.mk.injEq, List.not_mem_nil, or_false] at listed
  rcases listed with ⟨whole, -⟩ | ⟨whole, -⟩
  · obtain ⟨rfl, last⟩ := List.append_inj' (whole.trans (List.nil_append ["c"]).symm) rfl
    obtain rfl := List.singleton_inj.mp last
    exact ⟨⟨⟨by decide, by decide⟩, by decide, by decide⟩, rfl⟩
  · obtain ⟨rfl, last⟩ := List.append_inj' (whole.trans (List.singleton_append).symm) rfl
    obtain rfl := List.singleton_inj.mp last
    exact ⟨⟨⟨by decide, by decide⟩, by decide, by decide⟩, rfl⟩

def keptSources : SourceTree := [("a.sol", "")]

theorem prepares_keptHost : Prepares keptHost keptSources :=
  ⟨[".tmp0"], keptHost.makeScratch.2, (stage (pathOf [".tmp0"]) keptSources keptHost.makeScratch.2).2,
    by decide +kernel, by decide +kernel⟩

def keptCompiler (directory : String) : Compiler :=
  ⟨"v0.4.7+", (CompilerStore.mk "http://[::1]" directory).programPath "v0.4.7+"⟩

theorem load_keptHost : ∀ directory ∈ ["/c", "c"],
    (CompilerStore.mk "http://[::1]" directory).load "v0.4.7+" keptHost =
      (.ok (keptCompiler directory), keptHost) := by
  decide +kernel

theorem starts_what_was_loaded_kept :
    (∃ files, ((keptCompiler "/c").compile keptSources true keptHost).2.runs =
      [⟨["c", "solc-v0.4.7+"], arguments keptSources true, files⟩]) ∧
    ((keptCompiler "c").compile keptSources true keptHost).2.runs = [] := by
  -- Through the absolute path the compiler is run, through the relative one nothing is.
  constructor
  · obtain ⟨-, -, started, -⟩ := starts_what_was_loaded rooted_keptHost
      (load_keptHost "/c" (by simp)) (Prod.eta _).symm
    have found : keptHost.disk.programAt keptHost.workingDirectory (keptCompiler "/c").program =
        .ok (["c", "solc-v0.4.7+"], emptyProgram) := by decide +kernel
    have starts := started prepares_keptHost (by decide) (by decide +kernel)
    rw [found] at starts
    exact starts.2
  · obtain ⟨-, -, -, started⟩ := starts_what_was_loaded rooted_keptHost
      (load_keptHost "c" (by simp)) (Prod.eta _).symm
    obtain ⟨dir, staged, -, -, starts, refused⟩ := started prepares_keptHost (by decide)
    obtain ⟨reason, missing⟩ := refused (by decide +kernel)
    rw [missing] at starts
    exact starts.1

/-- A relative directory is accepted among the settings, and the compiler that is found in it is not
the one that is run. -/
theorem not_starts_what_was_loaded : ¬ ∀ (config : Config) (overrides : Overrides)
    (home : Option String) (settings : Settings) (host loaded : Host) (label : String)
    (compiler : Compiler) (sources : SourceTree) (optimize : Bool) (place : Location)
    (finished : Finished),
    Settings.resolve config overrides home = .ok settings →
    host.disk.Rooted host.workingDirectory →
    (CompilerStore.ofSettings settings.mirror settings.compilerDirectory).load label host =
      (.ok compiler, loaded) →
    Prepares loaded sources →
    loaded.disk.programAt loaded.workingDirectory compiler.program = .ok (place, finished) →
    ∃ run, (compiler.compile sources optimize loaded).2.runs = loaded.runs ++ [run] ∧
      run.program = place := by
  intro always
  have accepted : Settings.resolve .empty ⟨none, some "http://[::1]", none, some "c"⟩ none =
      .ok ⟨Settings.standardRpcUrl, "http://[::1]", Settings.standardListUrl, "c",
        Cache.standardCapacity, Settings.standardTimeout⟩ := by rfl
  have found : keptHost.disk.programAt keptHost.workingDirectory (keptCompiler "c").program =
      .ok (["c", "solc-v0.4.7+"], emptyProgram) := by decide +kernel
  obtain ⟨run, runs, -⟩ := always _ _ _ _ _ _ "v0.4.7+" _ _ true _ _ accepted rooted_keptHost
    (load_keptHost "c" (by simp)) prepares_keptHost found
  have none_ : ((keptCompiler "c").compile keptSources true keptHost).2.runs = [] := by
    decide +kernel
  rw [none_] at runs
  cases runs

end DeployCheck.Compiler
