import DeployCheck.Proofs.Compiler.Laying
/-!
Sources that overwrite each other. Keys that differ may be read as the same path, and then the source
that is written last is the one that stands there. So a compiler finds every source under its key
exactly if the sources of one path are the same text.
-/
namespace DeployCheck.Compiler

open Text Disk DeployCheck.Path

variable {dir above : Location} {done sources : SourceTree} {disk later : Disk}
  {name text last : String} {host between after : Host}

/-! ## The last source of each path -/

theorem mem_of_mem_lasting {source : String × String} (member : source ∈ lasting sources) :
    source ∈ sources := by
  induction sources with
  | nil => exact member
  | cons head rest ih =>
      rw [lasting] at member
      split at member
      · exact List.mem_cons_of_mem head (ih member)
      · rcases List.mem_cons.mp member with rfl | inside
        · exact List.mem_cons_self
        · exact List.mem_cons_of_mem head (ih inside)

theorem exists_lasting (member : name ∈ sources.keys) :
    ∃ other text, (other, text) ∈ lasting sources ∧ names other = names name := by
  induction sources generalizing name with
  | nil => cases member
  | cons head rest ih =>
      rw [lasting]
      rcases List.mem_cons.mp member with rfl | inside
      · split
        · rename_i again
          obtain ⟨⟨other, text⟩, inside, same⟩ := again
          obtain ⟨final, content, left, equal⟩ := ih (TextMap.mem_keys_of_mem inside)
          exact ⟨final, content, left, equal.trans same⟩
        · exact ⟨head.1, head.2, List.mem_cons_self, rfl⟩
      · obtain ⟨other, text, left, same⟩ := ih inside
        split
        · exact ⟨other, text, left, same⟩
        · exact ⟨other, text, List.mem_cons_of_mem head left, same⟩

/-! ## What is read in the directory -/

theorem Staged.holds_last (staged : Staged dir (lasting sources) disk)
    (member : name ∈ sources.keys) :
    ∃ other text, (other, text) ∈ lasting sources ∧ names other = names name ∧
      disk.entry? (dir ++ names name) = some (.file (.ofText text) newFileMode) := by
  obtain ⟨other, text, left, same⟩ := exists_lasting member
  exact ⟨other, text, left, same, same ▸ staged.holds other text left⟩

structure Overlaid (dir : Location) (sources : SourceTree) (disk : Disk) : Prop where
  staged : Staged dir (lasting sources) disk
  safe : ∀ name ∈ sources.keys, isSafeName name = true
  led : ∀ name ∈ sources.keys, disk.resolve dir name = .ok (dir ++ names name)

theorem Inert.endsBelow {spot : Spot} (inert : Inert dir disk) (safe : isSafeName name = true)
    (located : disk.locate dir true name = .ok spot) : EndsBelow disk dir (names name) spot := by
  have plain := isPlain_of_isSafeName safe
  have start : startOf dir name = dir := startOf_of_relative (isAbsolute_of_isPlain plain)
  have unlinked : Unlinked disk (startOf dir name) (names name) := by
    rw [start]
    exact inert.unlinked_below (names name)
  have ended := endsBelow_of_locate (down_of_isPlain plain) unlinked located
  rwa [start] at ended

theorem Inert.led {place : Location} (inert : Inert dir disk) (safe : isSafeName name = true)
    (led : disk.resolve dir name = .ok place) : place = dir ++ names name := by
  obtain ⟨-, ⟨found, -⟩ | ⟨_, _, -, free, -⟩⟩ := inert.endsBelow safe (resolve_eq_ok.mp led)
  · exact Spot.found.inj found
  · cases free

theorem Inert.replaceable (inert : Inert dir disk)
    (vacant : disk.entry? (dir ++ names name) ≠ some .directory) :
    disk.Replaceable (dir ++ names name) := by
  cases stands : disk.entry? (dir ++ names name) with
  | none => exact Or.inl stands
  | some entry =>
      rcases inert.only _ entry stands with rfl | ⟨payload, rfl⟩
      · exact absurd stands vacant
      · exact Or.inr ⟨payload, newFileMode, stands⟩

section

variable (clean : Named (above ++ [last]))

include clean

theorem led_of_stageOne (inert : Inert (above ++ [last]) after.disk)
    (written : stageOne (pathOf (above ++ [last])) name text host = (.ok (), after)) :
    after.disk.resolve (above ++ [last]) name = .ok (above ++ [last] ++ names name) := by
  obtain ⟨safe, between, -, writing⟩ := stageOne_eq_ok written
  obtain ⟨place, -, -, -, led, -⟩ := resolve_of_write (Host.write_eq_ok writing).2
  have found := resolve_of_join clean inert.stands (isPlain_of_isSafeName safe)
    (full_of_isSafeName safe) led
  rw [found, inert.led safe found]

theorem Overlaid.stageOne (overlaid : Overlaid (above ++ [last]) done host.disk)
    (written : stageOne (pathOf (above ++ [last])) name text host = (.ok (), after)) :
    Overlaid (above ++ [last]) (done ++ [(name, text)]) after.disk := by
  obtain ⟨safe, staged⟩ := staged_of_stageOne clean overlaid.staged written
  have inert := overlaid.staged.inert
  obtain ⟨-, -, between, raised, vacant, added⟩ := raised_of_stageOne clean inert written
  have passes : Passes host.disk after.disk := by
    rw [added]
    exact raised.extends.passes.trans (passes_put ((inert.raise raised).replaceable vacant) _)
  refine ⟨staged, fun key member => ?_, fun key member => ?_⟩
  · rcases TextMap.mem_keys_concat.mp member with earlier | rfl
    · exact overlaid.safe key earlier
    · exact safe
  · rcases TextMap.mem_keys_concat.mp member with earlier | rfl
    · obtain ⟨_, _, -, -, file⟩ := staged.holds_last member
      exact resolve_of_passes passes (resolve_eq_ok.mp (overlaid.led key earlier)) file nofun
    · exact led_of_stageOne clean staged.inert written

theorem Overlaid.stage (overlaid : Overlaid (above ++ [last]) done host.disk)
    (written : stage (pathOf (above ++ [last])) sources host = (.ok (), after)) :
    Overlaid (above ++ [last]) (done ++ sources) after.disk := by
  induction sources generalizing done host with
  | nil =>
      obtain rfl : host = after := (Prod.mk.inj written).2
      rwa [List.append_nil]
  | cons source rest ih =>
      have shifted : done ++ source :: rest = done ++ [source] ++ rest := by simp
      rw [Compiler.stage] at written
      split at written
      · cases written
      · rename_i one
        rw [shifted]
        exact ih (overlaid.stageOne clean one) written

end

theorem overlaid_of_makeScratch (tree : host.disk.IsTree)
    (made : host.makeScratch = (.ok dir, after)) : Overlaid dir [] after.disk :=
  ⟨(staged_of_makeScratch tree made).1, by simp [TextMap.keys], by simp [TextMap.keys]⟩

/-! ## What the compiler finds -/

def Faithful (dir : Location) (sources : SourceTree) (disk : Disk) : Prop :=
  ∀ name text, (name, text) ∈ sources → disk.readText dir name = .ok text

/-- In the directory every key reads as the last source of its path, these sources are all the
files, and no key leads through another one. -/
structure Found (dir : Location) (sources : SourceTree) (disk : Disk) : Prop where
  reads : ∀ name ∈ sources.keys, ∃ other text, (other, text) ∈ lasting sources ∧
    names other = names name ∧ disk.readText dir name = .ok text
  files : ∀ way payload, (way, payload) ∈ disk.filesBelow dir ↔
    ∃ name text, (name, text) ∈ lasting sources ∧ way = names name ∧ payload = .ofText text
  apart : ∀ one ∈ sources.keys, ∀ other ∈ sources.keys, names one <+: names other →
    names one = names other

theorem Overlaid.readText (overlaid : Overlaid dir sources disk) (member : name ∈ sources.keys)
    (file : disk.entry? (dir ++ names name) = some (.file (.ofText text) newFileMode)) :
    disk.readText dir name = .ok text := by
  have spelled : Utf8.decode? (Payload.ofText text).bytes = some text :=
    Utf8.decode?_eq_some.mpr rfl
  simp only [Disk.readText, readBytes, lookAt, overlaid.led name member, file, spelled]

theorem Overlaid.found (overlaid : Overlaid dir sources disk) (inner : dir ≠ []) :
    Found dir sources disk where
  reads := by
    intro name member
    obtain ⟨other, text, left, same, file⟩ := overlaid.staged.holds_last member
    exact ⟨other, text, left, same, overlaid.readText member file⟩
  files := fun way payload => overlaid.staged.mem_filesBelow inner
  apart := by
    intro one first other second leads
    by_contra differ
    -- The way to the one source would lead through the other, which is no directory.
    obtain ⟨_, _, -, -, file⟩ := overlaid.staged.holds_last first
    have safe := overlaid.safe one first
    have full := names_ne_nil_of_isPlain (full_of_isSafeName safe) (isPlain_of_isSafeName safe)
    have located := resolve_eq_ok.mp (overlaid.led other second)
    have opened := (overlaid.staged.inert.endsBelow (overlaid.safe other second) located).1
    rw [opened _ leads full differ] at file
    cases file

theorem Overlaid.faithful_iff (overlaid : Overlaid dir sources disk) :
    Faithful dir sources disk ↔ ∀ one ∈ sources, ∀ other ∈ sources,
      names one.1 = names other.1 → one.2 = other.2 := by
  constructor
  · rintro faithful ⟨one, text⟩ first ⟨other, content⟩ second same
    have left := faithful one text first
    have right := faithful other content second
    have place : disk.readText dir one = disk.readText dir other := by
      simp only [Disk.readText, readBytes, lookAt,
        overlaid.led one (TextMap.mem_keys_of_mem first),
        overlaid.led other (TextMap.mem_keys_of_mem second), same]
    rw [left, right] at place
    exact Except.ok.inj place
  · intro agree name text source
    have member := TextMap.mem_keys_of_mem source
    obtain ⟨other, content, last, same, file⟩ := overlaid.staged.holds_last member
    have equal : text = content :=
      agree (name, text) source (other, content) (mem_of_mem_lasting last) same.symm
    rw [equal]
    exact overlaid.readText member file

variable {compiler : Compiler} {optimize : Bool} {outcome : Except VerificationError Artifacts}

/-- What a compiler that is started finds of its sources: under each key the last source that was
written to its path. So every source is found under its own key exactly if any two sources of one
path are the same text. -/
theorem finds_last_sources (tree : host.disk.IsTree)
    (compiled : compiler.compile sources optimize host = (outcome, after)) :
    (¬ Prepares host sources → after.runs = host.runs ∧ ∃ fault, outcome = .error fault) ∧
    ∀ dir begun staged, host.makeScratch = (.ok dir, begun) →
      stage (pathOf dir) sources begun = (.ok (), staged) →
      compiler.Starts sources optimize (staged.disk.programAt dir compiler.program) host after
        outcome ∧
      (∀ run, after.runs = host.runs ++ [run] → run.files = staged.disk.filesBelow dir) ∧
      Found dir sources staged.disk ∧
      (Faithful dir sources staged.disk ↔ ∀ one ∈ sources, ∀ other ∈ sources,
        names one.1 = names other.1 → one.2 = other.2) := by
  refine ⟨fun unprepared => compile_of_not_prepares unprepared compiled, ?_⟩
  intro dir begun staged made written
  have runs := runs_of_stage made written
  have fresh := overlaid_of_makeScratch tree made
  obtain ⟨standing, ⟨last, proper, rfl⟩, -⟩ := Host.makeScratch_eq_ok made
  have overlaid : Overlaid (host.scratch ++ [last]) ([] ++ sources) staged.disk :=
    fresh.stage ((tree.named standing).below proper) written
  rw [List.nil_append] at overlaid
  cases ran : compiler.runIn (host.scratch ++ [last]) sources optimize staged with
  | mk result ended =>
      simp only [compile, made, written, ran, Prod.mk.injEq] at compiled
      obtain ⟨rfl, rfl⟩ := compiled
      have started := starts_of_runIn ran
      unfold Starts at started
      rw [runs] at started
      exact ⟨started, fun run once => files_of_runIn ran (runs ▸ once), overlaid.found (by simp),
        overlaid.faithful_iff⟩

/-! ## Two keys of one path -/

def doubledSources : SourceTree := [("a//b.sol", "1"), ("a/b.sol", "2")]

def doubledHost : Host :=
  (stage (pathOf [".tmp0"]) doubledSources keptHost.makeScratch.2).2

theorem makeScratch_keptHost :
    keptHost.makeScratch = (.ok [".tmp0"], keptHost.makeScratch.2) := by
  decide +kernel

theorem stage_doubledSources :
    stage (pathOf [".tmp0"]) doubledSources keptHost.makeScratch.2 = (.ok (), doubledHost) := by
  decide +kernel

theorem finds_last_sources_doubled : ∃ (staged after : Host) (outcome : _),
    (keptCompiler "/c").compile doubledSources true keptHost = (outcome, after) ∧
    (keptCompiler "/c").Starts doubledSources true
      (staged.disk.programAt [".tmp0"] (keptCompiler "/c").program) keptHost after outcome ∧
    Found [".tmp0"] doubledSources staged.disk ∧
    ¬ Faithful [".tmp0"] doubledSources staged.disk := by
  -- The compiler is started on one file, which is not what the first key stands for.
  obtain ⟨outcome, after, compiled⟩ : ∃ outcome after,
      (keptCompiler "/c").compile doubledSources true keptHost = (outcome, after) :=
    ⟨_, _, (Prod.eta _).symm⟩
  obtain ⟨staged, written⟩ : ∃ staged,
      stage (pathOf [".tmp0"]) doubledSources keptHost.makeScratch.2 = (.ok (), staged) :=
    ⟨doubledHost, stage_doubledSources⟩
  obtain ⟨starts, -, found, faithful⟩ :=
    (finds_last_sources rooted_keptHost.tree compiled).2 _ _ _ makeScratch_keptHost written
  refine ⟨staged, after, outcome, compiled, starts, found, fun kept => ?_⟩
  have same := faithful.mp kept ("a//b.sol", "1") (by decide) ("a/b.sol", "2") (by decide)
    (by decide +kernel)
  exact absurd same (by decide)

/-- Two keys may be accepted and be written to one path, and the compiler is run nevertheless. -/
theorem not_faithful : ¬ ∀ (compiler : Compiler) (sources : SourceTree) (optimize : Bool)
    (host begun staged : Host) (dir : Location) (run : Run),
    host.disk.Rooted host.workingDirectory → TextMap.Ascending sources →
    (∀ name ∈ sources.keys, isSafeName name = true) → host.makeScratch = (.ok dir, begun) →
    stage (pathOf dir) sources begun = (.ok (), staged) →
    (compiler.compile sources optimize host).2.runs = host.runs ++ [run] →
    Faithful dir sources staged.disk := by
  intro always
  have ascending : TextMap.Ascending doubledSources := by
    simp only [TextMap.Ascending]
    decide
  have ran : ((keptCompiler "/c").compile doubledSources true keptHost).2.runs = keptHost.runs ++
      [⟨["c", "solc-v0.4.7+"], arguments doubledSources true, [(["a", "b.sol"], .ofText "2")]⟩] := by
    decide +kernel
  have read := always (keptCompiler "/c") doubledSources true keptHost _ doubledHost [".tmp0"] _
    rooted_keptHost ascending (by decide +kernel) makeScratch_keptHost stage_doubledSources ran
    "a//b.sol" "1" (by decide)
  have other : doubledHost.disk.readText [".tmp0"] "a//b.sol" = .ok "2" := by decide +kernel
  rw [other] at read
  exact absurd read (by decide)

end DeployCheck.Compiler
