import DeployCheck.Proofs.Compiler.Starting
import DeployCheck.Proofs.Text.Blank
import DeployCheck.Proofs.Text.ByteOrder
import Mathlib.Logic.Relation
/-!
What a compilation may do to its host. It puts entries below a fresh directory and nowhere else, it
runs one program at most, and only on names that neither lead out of that directory nor look like an
option. What it answers is what that one run came to.
-/
namespace DeployCheck

open Text

/-! ## Changes below a directory -/

namespace Disk

open Relation

variable {dir workingDirectory : Location} {disk later : Disk} {path : String}

/-- An entry has been put somewhere below a directory. -/
def PutBelow (dir : Location) (disk later : Disk) : Prop :=
  ∃ rest entry, rest ≠ [] ∧ later = disk.put (dir ++ rest) entry

def Founded (disk later : Disk) : Prop :=
  ∃ place, disk.entry? place = none ∧ later = disk.put place .directory

theorem Founded.extends (founded : Founded disk later) : Extends disk later := by
  obtain ⟨place, vacant, rfl⟩ := founded
  intro other entry stands
  have differs : other ≠ place := by
    rintro rfl
    rw [vacant] at stands
    cases stands
  rw [entry?_put_ne differs, stands]

theorem extends_of_founded (founded : ReflTransGen Founded disk later) : Extends disk later := by
  induction founded with
  | refl => exact .refl disk
  | tail _ step ih => exact ih.trans step.extends

theorem founded_of_makeDirectories
    (made : disk.makeDirectories workingDirectory path = .ok later) :
    ReflTransGen Founded disk later := by
  refine makeDirectoriesBack_induction (fun founded made => ?_) .refl made
  obtain ⟨directory, name, located, rfl⟩ := makeDirectory_eq_ok.mp made
  exact founded.tail ⟨_, entry?_of_locate_free located, rfl⟩

theorem putsBelow_of_founded (founded : ReflTransGen Founded disk later)
    (inside : ∀ place, disk.entry? place = none → later.entry? place ≠ none →
      ∃ rest, rest ≠ [] ∧ place = dir ++ rest) :
    ReflTransGen (PutBelow dir) disk later := by
  -- Directories that are there in the end and were not there before have been put one by one.
  induction founded using ReflTransGen.head_induction_on with
  | refl => exact .refl
  | head step chain ih =>
      have still := step.extends
      obtain ⟨place, vacant, rfl⟩ := step
      have inner : place ≠ [] := by
        rintro rfl
        simp at vacant
      have stands := extends_of_founded chain place _ (entry?_put_self inner)
      obtain ⟨rest, full, rfl⟩ := inside place vacant (by simp [stands])
      exact .head ⟨rest, _, full, rfl⟩ (ih fun other missing => inside other (still.missing missing))

end Disk

namespace Compiler

open Disk Relation

variable {above dir place rest : Location} {last name text : String} {sources : SourceTree}
  {optimize : Bool} {disk later : Disk} {compiler : Compiler} {host begun staged after : Host}
  {finished : Finished} {written : Except VerificationError Unit}
  {result : Except VerificationError Artifacts}

theorem Inert.putsBelow_of_makeDirectories {workingDirectory : Location} (inert : Inert dir disk)
    (clean : Named (dir ++ rest))
    (made : disk.makeDirectories workingDirectory (pathOf (dir ++ rest)) = .ok later) :
    ReflTransGen (PutBelow dir) disk later := by
  have raised := raised_of_makeDirectories clean (inert.unlinked _) made
  refine putsBelow_of_founded (founded_of_makeDirectories made) fun place missing standing => ?_
  rcases raised.added place with same | ⟨-, leads, -⟩
  · exact absurd (same.trans missing) standing
  · -- The directory and those above it stood before.
    have below : ¬ place <+: dir := by
      intro before
      rw [inert.stands place before] at missing
      cases missing
    obtain ⟨further, rfl⟩ := (List.prefix_or_prefix_of_prefix leads
      (List.prefix_append dir rest)).resolve_left below
    refine ⟨further, ?_, rfl⟩
    rintro rfl
    exact below (by simp)

theorem beside_of_putsBelow (puts : ReflTransGen (PutBelow dir) disk later) :
    Beside dir disk later := by
  induction puts with
  | refl => exact .refl dir disk
  | tail _ step ih =>
      obtain ⟨rest, entry, -, rfl⟩ := step
      exact ih.trans (beside_put entry)

section

variable (clean : Named (above ++ [last]))

include clean

theorem putsBelow_of_write (safe : isSafeName name = true)
    (inert : Inert (above ++ [last]) host.disk) {payload : Payload} {outcome : Except OsError Unit}
    (writing : host.write (Path.join (pathOf (above ++ [last])) name) payload = (outcome, after)) :
    ReflTransGen (PutBelow (above ++ [last])) host.disk after.disk := by
  have wrote {content : Payload} (put : host.disk.write host.workingDirectory
      (Path.join (pathOf (above ++ [last])) name) content = .ok after.disk) :
      ReflTransGen (PutBelow (above ++ [last])) host.disk after.disk := by
    obtain ⟨below, -, added⟩ := put_of_write_source clean safe inert put
    exact .single ⟨_, _, below, added⟩
  obtain ⟨-, ⟨-, put⟩ | ⟨-, same | ⟨part, put⟩⟩⟩ := Host.write_cases writing
  · exact wrote put
  · exact same ▸ .refl
  · exact wrote put

theorem putsBelow_of_stageOne (inert : Inert (above ++ [last]) host.disk)
    (one : stageOne (pathOf (above ++ [last])) name text host = (written, after)) :
    ReflTransGen (PutBelow (above ++ [last])) host.disk after.disk := by
  rw [stageOne] at one
  split at one
  · exact (Prod.mk.inj one).2 ▸ .refl
  rename_i accepted
  have safe : isSafeName name = true := by simpa using accepted
  simp only [parent_of_isSafeName clean safe] at one
  split at one
  · rename_i making
    obtain ⟨-, ⟨done, -⟩ | ⟨-, same⟩⟩ := Host.change_cases making
    · cases done
    · exact (Prod.mk.inj one).2 ▸ same ▸ .refl
  · rename_i between making
    obtain ⟨-, made⟩ := Host.makeDirectories_eq_ok making
    have named := named_of_isSafeName clean safe
    have raised := raised_of_makeDirectories named (inert.unlinked _) made
    have puts := inert.putsBelow_of_makeDirectories named made
    split at one
    all_goals
      rename_i writing
      exact (Prod.mk.inj one).2 ▸
        puts.trans (putsBelow_of_write clean safe (inert.raise raised) writing)

theorem putsBelow_of_stage (inert : Inert (above ++ [last]) host.disk)
    (staging : stage (pathOf (above ++ [last])) sources host = (written, after)) :
    ReflTransGen (PutBelow (above ++ [last])) host.disk after.disk := by
  induction sources generalizing host with
  | nil => exact (Prod.mk.inj staging).2 ▸ .refl
  | cons source rest ih =>
      rw [stage] at staging
      split at staging
      · rename_i one
        exact (Prod.mk.inj staging).2 ▸ putsBelow_of_stageOne clean inert one
      · rename_i one
        have ready := (inert_of_stageOne clean inert one).1
        exact (putsBelow_of_stageOne clean inert one).trans (ih ready staging)

end

/-! ## Names -/

/-- The name is empty, starts at the root, goes up, begins with a point of its own, or could be
taken for an option. -/
def Strays (name : String) : Prop :=
  name = "" ∨ Path.isAbsolute name = true ∨ ".." ∈ Path.segments name ∨
    (Path.segments name).head? = some "." ∨ name.toList.head? = some '-'

theorem isSafeName_iff : isSafeName name = true ↔ ¬ Strays name := by
  simp only [isSafeName, Strays, Bool.and_eq_true, decide_eq_true_eq, Path.isPlain_iff, bne_iff_ne,
    not_or, Bool.not_eq_true, and_assoc, ne_eq]

theorem not_strays_of_prepares (tree : host.disk.IsTree) (prepared : Prepares host sources) :
    ∀ name ∈ sources.keys, ¬ Strays name := by
  obtain ⟨dir, begun, staged, making, staging⟩ := prepared
  obtain ⟨empty, -⟩ := staged_of_makeScratch tree making
  obtain ⟨standing, ⟨last, proper, rfl⟩, -⟩ := Host.makeScratch_eq_ok making
  have bare : Staged (host.scratch ++ [last]) (lasting []) _ := empty
  have safe := (staged_of_stage ((tree.named standing).below proper) bare staging).1
  exact fun name member => isSafeName_iff.mp (safe name member)

/-! ## Answers -/

theorem complaints_solid (finished : Finished) : complaints finished ≠ [] ∧
    ∀ line ∈ complaints finished, ∃ c ∈ line.toList, isBlank c = false := by
  unfold complaints
  split
  · refine ⟨List.cons_ne_nil _ _, fun line member => ?_⟩
    rw [List.mem_singleton.mp member, String.toList_append]
    exact ⟨'s', List.mem_append_left _ (by decide), by decide⟩
  · rename_i full
    refine ⟨by simpa using full, fun line member => ?_⟩
    obtain ⟨chars, inside, rfl⟩ := List.mem_map.mp member
    rw [String.toList_ofList]
    exact exists_solid_of_mem_trimmedLines inside

/-! ## Whole compilations -/

/-- The sources get into a fresh directory, from where the compiler's path leads to a program. -/
def Ready (compiler : Compiler) (host : Host) (sources : SourceTree) (place : Location)
    (finished : Finished) : Prop :=
  ∃ dir begun staged, host.makeScratch = (.ok dir, begun) ∧
    stage (pathOf dir) sources begun = (.ok (), staged) ∧
    staged.disk.programAt dir compiler.program = .ok (place, finished)

/-- A compilation ran one program, which stood on the disk before, on the keys of the sources in the
order of their bytes, and its answer is what that run came to. -/
structure Executes (sources : SourceTree) (optimize : Bool) (host after : Host)
    (result : Except VerificationError Artifacts) (run : Run) (finished : Finished) : Prop where
  once : after.runs = host.runs ++ [run]
  program : ∃ payload mode, host.disk.entry? run.program = some (.file payload mode) ∧
    payload.program = some finished
  arguments : run.arguments = ["--combined-json", "bin-runtime"] ++
    (if optimize then ["--optimize"] else []) ++ sources.keys
  ordered : sources.keys.Pairwise fun one other => Utf8.encode one < Utf8.encode other
  names : ∀ name ∈ sources.keys, ¬ Strays name
  succeeds : ∀ artifacts, result = .ok artifacts ↔ finished.ending.isSuccess = true ∧
    CombinedOutput.artifacts (Utf8.decodeLossy finished.stdout) = .ok artifacts
  fails : finished.ending.isSuccess = false → ∃ lines, result = .error (.compilationFailed lines) ∧
    lines ≠ [] ∧ ∀ line ∈ lines, ∃ c ∈ line.toList, isBlank c = false

theorem disk_of_runIn (ran : compiler.runIn dir sources optimize host = (result, after)) :
    after.disk = host.disk := by
  cases found : host.disk.programAt dir compiler.program with
  | error reason =>
      simp only [runIn, Host.run, found] at ran
      rw [← (Prod.mk.inj ran).2]
  | ok pair =>
      simp only [runIn, Host.run, found] at ran
      rw [← (Prod.mk.inj ran).2]

theorem disk_of_compile (making : host.makeScratch = (.ok dir, begun))
    (staging : stage (pathOf dir) sources begun = (written, staged))
    (compiled : compiler.compile sources optimize host = (result, after)) :
    after.disk = staged.disk.remove dir := by
  simp only [compile, making, staging] at compiled
  cases written with
  | error fault => rw [← (Prod.mk.inj compiled).2, Host.removeScratch]
  | ok _ =>
      cases ran : compiler.runIn dir sources optimize staged with
      | mk outcome ended =>
          simp only [ran] at compiled
          rw [← (Prod.mk.inj compiled).2, Host.removeScratch, disk_of_runIn ran]

theorem putsBelow_of_compile (tree : host.disk.IsTree)
    (making : host.makeScratch = (.ok dir, begun))
    (compiled : compiler.compile sources optimize host = (result, after)) :
    ReflTransGen (PutBelow dir) (host.disk.put dir .directory)
        (stage (pathOf dir) sources begun).2.disk ∧
      after.disk = (stage (pathOf dir) sources begun).2.disk.remove dir := by
  refine ⟨?_, disk_of_compile making (Prod.eta _).symm compiled⟩
  obtain ⟨empty, -⟩ := staged_of_makeScratch tree making
  obtain ⟨standing, ⟨last, proper, rfl⟩, -, rfl⟩ := Host.makeScratch_eq_ok making
  exact putsBelow_of_stage ((tree.named standing).below proper) empty.inert (Prod.eta _).symm

theorem entry?_of_compile (tree : host.disk.IsTree)
    (compiled : compiler.compile sources optimize host = (result, after)) (place : Location) :
    after.disk.entry? place = host.disk.entry? place := by
  cases making : host.makeScratch with
  | mk made begun =>
      cases made with
      | error reason =>
          obtain rfl := Host.makeScratch_eq_error making
          simp only [compile, making] at compiled
          rw [← (Prod.mk.inj compiled).2]
      | ok dir =>
          obtain ⟨puts, removed⟩ := putsBelow_of_compile tree making compiled
          obtain ⟨-, ⟨last, -, rfl⟩, -⟩ := Host.makeScratch_eq_ok making
          rw [removed]
          by_cases below : host.scratch ++ [last] <+: place
          · have inner : place ≠ [] := by
              rintro rfl
              simp at below
            rw [entry?_remove_below below inner, free_of_makeScratch making place below]
          · have differs : place ≠ host.scratch ++ [last] := by
              rintro rfl
              exact below (List.prefix_refl _)
            rw [entry?_remove_beside below, beside_of_putsBelow puts place below,
              entry?_put_ne differs]

theorem executes_of_ready (tree : host.disk.IsTree) (ascending : TextMap.Ascending sources)
    (ready : compiler.Ready host sources place finished)
    (compiled : compiler.compile sources optimize host = (result, after)) :
    ∃ run, run.program = place ∧ Executes sources optimize host after result run finished := by
  obtain ⟨dir, begun, staged, making, staging, found⟩ := ready
  obtain ⟨workplace, started⟩ := starts_of_stage tree making staging compiled
  rw [found] at started
  obtain ⟨rfl, files, once⟩ := started
  obtain ⟨-, payload, mode, there, -, does⟩ := programAt_eq_ok found
  rw [workplace.beside place (workplace.inert.programAt_beside found)] at there
  refine ⟨_, rfl, once, ⟨payload, mode, there, does⟩, rfl, ascending.bytes,
    not_strays_of_prepares tree ⟨dir, begun, staged, making, staging⟩, ?_, ?_⟩
  · exact fun artifacts => outcome_eq_ok
  · intro unsuccessful
    obtain ⟨full, solid⟩ := complaints_solid finished
    exact ⟨_, by simp [outcome, unsuccessful], full, solid⟩

theorem compile_of_not_ready (tree : host.disk.IsTree)
    (unready : ∀ place finished, ¬ compiler.Ready host sources place finished)
    (compiled : compiler.compile sources optimize host = (result, after)) :
    after.runs = host.runs ∧ ∃ fault, result = .error fault := by
  by_cases prepared : Prepares host sources
  · obtain ⟨dir, begun, staged, making, staging⟩ := prepared
    obtain ⟨-, started⟩ := starts_of_stage tree making staging compiled
    cases found : staged.disk.programAt dir compiler.program with
    | error reason =>
        rw [found] at started
        exact ⟨started.1, _, started.2⟩
    | ok pair => exact absurd ⟨dir, begun, staged, making, staging, found⟩ (unready pair.1 pair.2)
  · exact compile_of_not_prepares prepared compiled

/-- What a compilation does to its host, whatever the sources are called, whatever goes wrong and
whatever the program does. In the end every entry is as before. In between a fresh directory stands,
and entries are put strictly below it. If the sources get there and the compiler's path leads to a
program, that program is run once, and its ending and its output decide the answer; otherwise
nothing is run and there is an error, as always when one of the names strays. -/
theorem compile_confined (tree : host.disk.IsTree) (ascending : TextMap.Ascending sources)
    (compiled : compiler.compile sources optimize host = (result, after)) :
    (∀ place, after.disk.entry? place = host.disk.entry? place) ∧
    (∀ dir begun, host.makeScratch = (.ok dir, begun) →
      (∀ place, dir <+: place → host.disk.entry? place = none) ∧
      ReflTransGen (PutBelow dir) (host.disk.put dir .directory)
        (stage (pathOf dir) sources begun).2.disk ∧
      after.disk = (stage (pathOf dir) sources begun).2.disk.remove dir) ∧
    (∀ place finished, compiler.Ready host sources place finished →
      ∃ run, run.program = place ∧ Executes sources optimize host after result run finished) ∧
    ((∀ place finished, ¬ compiler.Ready host sources place finished) →
      after.runs = host.runs ∧ ∃ fault, result = .error fault) ∧
    ((∃ name ∈ sources.keys, Strays name) →
      after.runs = host.runs ∧ ∃ fault, result = .error fault) := by
  refine ⟨entry?_of_compile tree compiled, ?_, ?_, ?_, ?_⟩
  · intro dir begun making
    exact ⟨free_of_makeScratch making, putsBelow_of_compile tree making compiled⟩
  · intro place finished ready
    exact executes_of_ready tree ascending ready compiled
  · intro unready
    exact compile_of_not_ready tree unready compiled
  · rintro ⟨name, member, strays⟩
    refine compile_of_not_prepares (fun prepared => ?_) compiled
    exact not_strays_of_prepares tree prepared name member strays

def optionSources : SourceTree := [("--output-dir=pwned", ""), ("a.sol", "")]

theorem ready_keptHost :
    (keptCompiler "/c").Ready keptHost keptSources ["c", "solc-v0.4.7+"] emptyProgram :=
  ⟨[".tmp0"], keptHost.makeScratch.2,
    (stage (pathOf [".tmp0"]) keptSources keptHost.makeScratch.2).2,
    by decide +kernel, by decide +kernel, by decide +kernel⟩

theorem compile_confined_kept :
    (∃ run, Executes keptSources true keptHost
      ((keptCompiler "/c").compile keptSources true keptHost).2
      ((keptCompiler "/c").compile keptSources true keptHost).1 run emptyProgram ∧
      run.program = ["c", "solc-v0.4.7+"]) ∧
    ((keptCompiler "/c").compile optionSources true keptHost).2.runs = [] := by
  -- A safe name is compiled, and next to a name that looks like an option it is not.
  have tree := rooted_keptHost.tree
  constructor
  · have ascending : TextMap.Ascending keptSources := List.pairwise_singleton _ _
    obtain ⟨-, -, runs, -⟩ := compile_confined tree ascending
      (Prod.eta ((keptCompiler "/c").compile keptSources true keptHost)).symm
    obtain ⟨run, same, executes⟩ := runs _ _ ready_keptHost
    exact ⟨run, executes, same⟩
  · have ascending : TextMap.Ascending optionSources := by
      unfold TextMap.Ascending
      decide +kernel
    obtain ⟨-, -, -, -, refused⟩ := compile_confined tree ascending
      (Prod.eta ((keptCompiler "/c").compile optionSources true keptHost)).symm
    have strays : Strays "--output-dir=pwned" := .inr (.inr (.inr (.inr rfl)))
    exact (refused ⟨_, List.mem_cons_self, strays⟩).1

end Compiler

end DeployCheck
