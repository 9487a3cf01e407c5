import DeployCheck.Proofs.Compiler.Staging
import DeployCheck.Proofs.Disk.Trees
namespace DeployCheck.Compiler

open Text Disk

variable {dir : Location} {sources : SourceTree} {optimize : Bool} {disk later : Disk}
  {compiler : Compiler} {path : String} {host after : Host} {artifacts : Artifacts} {run : Run}
  {finished : Finished}

/-! ## The fresh directory -/

theorem staged_of_makeScratch (tree : host.disk.IsTree)
    (made : host.makeScratch = (.ok dir, after)) :
    Staged dir [] after.disk ∧ Beside dir host.disk after.disk := by
  obtain ⟨standing, ⟨name, -, rfl⟩, untaken, rfl⟩ := Host.makeScratch_eq_ok made
  have inner : host.scratch ++ [name] ≠ [] := by simp
  refine ⟨⟨?_, ?_, by simp, ?_⟩, fun place outside => entry?_put_ne ?_⟩
  · intro way leads
    by_cases whole : way = host.scratch ++ [name]
    · rw [whole, entry?_put_self inner]
    · rw [entry?_put_ne whole]
      exact tree.stands standing way ((List.prefix_concat_iff.mp leads).resolve_left whole)
  · exact Unshadowed.put (fun place entry member below => absurd below (untaken place entry member))
      inner _
  · intro rest entry there
    by_cases top : rest = []
    · rw [top, List.append_nil, entry?_put_self inner, Option.some.injEq] at there
      exact Or.inl there.symm
    · rw [entry?_put_ne (by simpa using top)] at there
      have listed := mem_entries_of_entry? (by simp) there
      exact absurd (List.prefix_append _ rest) (untaken _ _ listed)
  · rintro rfl
    exact outside (List.prefix_refl _)

theorem free_of_makeScratch (made : host.makeScratch = (.ok dir, after)) (place : Location)
    (below : dir <+: place) : host.disk.entry? place = none := by
  obtain ⟨-, ⟨name, -, rfl⟩, untaken, -⟩ := Host.makeScratch_eq_ok made
  have inner : place ≠ [] := by
    rintro rfl
    simp at below
  rw [entry?_of_ne_nil inner, lookup_eq_none_iff_not_mem]
  intro member
  obtain ⟨⟨_, entry⟩, listed, rfl⟩ := List.mem_map.mp member
  exact untaken _ _ listed below

theorem Beside.extends (beside : Beside dir disk later)
    (free : ∀ place, dir <+: place → disk.entry? place = none) : Extends disk later := by
  intro place entry stands
  have outside : ¬ dir <+: place := by
    intro below
    rw [free place below] at stands
    cases stands
  rw [beside place outside, stands]

theorem not_executable_newFileMode :
    ¬ (newFileMode.testBit 0 ∨ newFileMode.testBit 3 ∨ newFileMode.testBit 6) := by
  decide

theorem Inert.programAt_beside {here place : Location} (inert : Inert dir disk)
    (found : disk.programAt here path = .ok (place, finished)) : ¬ dir <+: place := by
  -- A program that can be run stands in no inert directory.
  rintro ⟨rest, rfl⟩
  obtain ⟨-, payload, mode, stands, allowed, -⟩ := programAt_eq_ok found
  rcases inert.only rest _ stands with directory | ⟨_, source⟩
  · cases directory
  · obtain ⟨-, rfl⟩ := Entry.file.inj source
    exact not_executable_newFileMode allowed

/-! ## Compilations -/

/-- A fresh directory with the sources in it. Nothing there can be run, and elsewhere the disk is as
before. -/
structure Workplace (host : Host) (dir : Location) (staged : Disk) : Prop where
  fresh : ∃ name, dir = host.scratch ++ [name]
  free : ∀ place, dir <+: place → host.disk.entry? place = none
  inert : Inert dir staged
  beside : Beside dir host.disk staged

theorem Workplace.extends {staged : Disk} (workplace : Workplace host dir staged) :
    Extends host.disk staged :=
  workplace.beside.extends workplace.free

/-- A program was run on these sources: the one that the path leads to from a workplace, where the
files are the sources, each under its key. It was given the keys. -/
structure RanOn (host : Host) (path : String) (sources : SourceTree) (optimize : Bool) (run : Run)
    (finished : Finished) : Prop where
  started : ∃ dir staged, Workplace host dir staged ∧
    staged.programAt dir path = .ok (run.program, finished)
  stood : ∃ payload mode, host.disk.entry? run.program = some (.file payload mode) ∧
    payload.program = some finished
  arguments : run.arguments = Compiler.arguments sources optimize
  files : ∀ way payload, (way, payload) ∈ run.files ↔
    ∃ name text, (name, text) ∈ sources ∧ way = Path.names name ∧ payload = .ofText text
  safe : ∀ name ∈ sources.keys, isSafeName name = true

theorem compile_eq_ok (compiled : compiler.compile sources optimize host = (.ok artifacts, after)) :
    ∃ dir begun staged ran finished,
      host.makeScratch = (.ok dir, begun) ∧
      stage (pathOf dir) sources begun = (.ok (), staged) ∧
      staged.run dir compiler.program (arguments sources optimize) = (.ok finished, ran) ∧
      outcome finished = .ok artifacts ∧ after = ran.removeScratch dir := by
  rw [compile] at compiled
  split at compiled
  · cases compiled
  · rename_i dir begun made
    split at compiled
    · cases compiled
    · rename_i staged written
      refine ⟨dir, begun, staged, ?_⟩
      cases ran : staged.run dir compiler.program (arguments sources optimize) with
      | mk result rest =>
          cases result with
          | error reason => simp [runIn, ran] at compiled
          | ok finished =>
              simp only [runIn, ran, Prod.mk.injEq] at compiled
              exact ⟨rest, finished, made, written, rfl, compiled.1, compiled.2.symm⟩

theorem outcome_eq_ok : outcome finished = .ok artifacts ↔ finished.ending.isSuccess = true ∧
    CombinedOutput.artifacts (Utf8.decodeLossy finished.stdout) = .ok artifacts := by
  rw [outcome]
  split
  · simp [*]
  · simp [*]

theorem ranOn_of_compile (tree : host.disk.IsTree)
    (distinct : (sources.map fun source => Path.names source.1).Nodup)
    (compiled : compiler.compile sources optimize host = (.ok artifacts, after)) :
    ∃ run finished, RanOn host compiler.program sources optimize run finished ∧
      after.runs = host.runs ++ [run] ∧ after.network = host.network ∧
      finished.ending.isSuccess = true ∧
      CombinedOutput.artifacts (Utf8.decodeLossy finished.stdout) = .ok artifacts := by
  obtain ⟨dir, begun, written, ran, finished, made, staging, running, read, rfl⟩ :=
    compile_eq_ok compiled
  obtain ⟨success, parsed⟩ := outcome_eq_ok.mp read
  obtain ⟨empty, apart⟩ := staged_of_makeScratch tree made
  have free := free_of_makeScratch made
  obtain ⟨standing, ⟨last, proper, rfl⟩, -, rfl⟩ := Host.makeScratch_eq_ok made
  have clean := (tree.named standing).below proper
  have only := onlyFiles_stage staging
  obtain ⟨inert, beside⟩ := inert_of_stage clean empty.inert staging
  have none_ : Staged (host.scratch ++ [last]) (lasting []) _ := empty
  obtain ⟨safe, staged⟩ := staged_of_stage clean none_ staging
  rw [List.nil_append, lasting_of_distinct distinct] at staged
  obtain ⟨place, found, rfl⟩ := Host.run_eq_ok running
  have workplace : Workplace host (host.scratch ++ [last]) written.disk :=
    ⟨⟨last, rfl⟩, free, inert, apart.trans beside⟩
  have ranOn : RanOn host compiler.program sources optimize
      ⟨place, arguments sources optimize, written.disk.filesBelow (host.scratch ++ [last])⟩
      finished := by
    obtain ⟨-, payload, mode, there, -, does⟩ := programAt_eq_ok found
    have before := workplace.beside place (inert.programAt_beside found)
    refine ⟨⟨_, _, workplace, found⟩, ⟨payload, mode, before ▸ there, does⟩, rfl, ?_, safe⟩
    exact fun way payload => staged.mem_filesBelow (by simp)
  refine ⟨_, finished, ranOn, ?_, ?_, success, parsed⟩
  · rw [only]
    rfl
  · rw [only]
    rfl

/-! ## Failures -/

theorem outcome_eq_error {fault : VerificationError} (failed : outcome finished = .error fault) :
    (∃ reason, fault = .compileOutput reason) ∨ ∃ lines, fault = .compilationFailed lines := by
  unfold outcome at failed
  split at failed
  · unfold CombinedOutput.artifacts at failed
    split at failed
    · cases failed
    · exact .inl ⟨_, (Except.error.inj failed).symm⟩
  · exact .inr ⟨_, (Except.error.inj failed).symm⟩

theorem compile_eq_error {fault : VerificationError}
    (failed : (compiler.compile sources optimize host).1 = .error fault) :
    (∃ reason, fault = .compileOutput reason) ∨ ∃ lines, fault = .compilationFailed lines := by
  unfold compile at failed
  split at failed
  · exact .inl ⟨_, (Except.error.inj failed).symm⟩
  · split at failed
    · rename_i staging
      obtain rfl := Except.error.inj failed
      obtain ⟨name, -, refused | ⟨reason, failing⟩⟩ := stage_eq_error staging
      · exact .inr ⟨_, refused⟩
      · exact .inl ⟨_, failing⟩
    · simp only [runIn] at failed
      split at failed
      · exact .inl ⟨_, (Except.error.inj failed).symm⟩
      · exact outcome_eq_error failed

end DeployCheck.Compiler
