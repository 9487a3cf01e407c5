import DeployCheck.Compiler.Invocation
import DeployCheck.Proofs.Disk.Raising
import DeployCheck.Proofs.Host
namespace DeployCheck.Compiler

open Text Disk

variable {dir place rest location : Location} {done sources : SourceTree} {disk later : Disk}
  {name text directory : String} {host after : Host} {result : Except VerificationError Unit}

/-- The sources that are left where each one is put in place of those before it that have the same
names. -/
def lasting : SourceTree → SourceTree
  | [] => []
  | source :: rest =>
    if ∃ other ∈ rest, Path.names other.1 = Path.names source.1 then lasting rest
    else source :: lasting rest

theorem lasting_concat (sources : SourceTree) (last : String × String) :
    lasting (sources ++ [last]) =
      (lasting sources).filter (Path.names ·.1 ≠ Path.names last.1) ++ [last] := by
  induction sources with
  | nil => simp [lasting]
  | cons source rest ih =>
      rw [List.cons_append, lasting, lasting, ih]
      by_cases again : ∃ other ∈ rest, Path.names other.1 = Path.names source.1
      · obtain ⟨other, member, same⟩ := again
        rw [if_pos ⟨other, List.mem_append_left _ member, same⟩, if_pos ⟨other, member, same⟩]
      · rw [if_neg again]
        by_cases same : Path.names last.1 = Path.names source.1
        · rw [if_pos ⟨last, by simp, same⟩, List.filter_cons_of_neg (by simp [same])]
        · have once : ¬ ∃ other ∈ rest ++ [last], Path.names other.1 = Path.names source.1 := by
            rintro ⟨other, member, equal⟩
            rcases List.mem_append.mp member with inside | final
            · exact again ⟨other, inside, equal⟩
            · exact same (List.mem_singleton.mp final ▸ equal)
          have kept : Path.names source.1 ≠ Path.names last.1 := fun equal => same equal.symm
          rw [if_neg once, List.filter_cons_of_pos (by simpa using kept), List.cons_append]

theorem lasting_of_distinct (distinct : (sources.map fun source => Path.names source.1).Nodup) :
    lasting sources = sources := by
  induction sources with
  | nil => rfl
  | cons source rest ih =>
      rw [List.map_cons, List.nodup_cons] at distinct
      have once : ¬ ∃ other ∈ rest, Path.names other.1 = Path.names source.1 := by
        rintro ⟨other, member, same⟩
        exact distinct.1 (List.mem_map.mpr ⟨other, member, same⟩)
      rw [lasting, if_neg once, ih distinct.2]

structure Staged (dir : Location) (done : SourceTree) (disk : Disk) : Prop where
  stands : disk.Stands dir
  clear : disk.Unshadowed dir
  holds : ∀ name text, (name, text) ∈ done →
    disk.entry? (dir ++ Path.names name) = some (.file (.ofText text) newFileMode)
  only : ∀ rest entry, disk.entry? (dir ++ rest) = some entry → entry = .directory ∨
    ∃ name text, (name, text) ∈ done ∧ rest = Path.names name ∧
      entry = .file (.ofText text) newFileMode

/-- At and below the directory stand only directories, and files that nobody may run. -/
structure Inert (dir : Location) (disk : Disk) : Prop where
  stands : disk.Stands dir
  only : ∀ rest entry, disk.entry? (dir ++ rest) = some entry → entry = .directory ∨
    ∃ payload, entry = .file payload newFileMode

theorem Staged.inert (staged : Staged dir done disk) : Inert dir disk := by
  refine ⟨staged.stands, fun rest entry stands => ?_⟩
  rcases staged.only rest entry stands with directory | ⟨_, _, -, -, file⟩
  · exact Or.inl directory
  · exact Or.inr ⟨_, file⟩

/-- Nothing changes that is not at or below a directory. -/
def Beside (dir : Location) (disk later : Disk) : Prop :=
  ∀ place, ¬ dir <+: place → later.entry? place = disk.entry? place

theorem Beside.refl (dir : Location) (disk : Disk) : Beside dir disk disk :=
  fun _ _ => rfl

theorem Beside.trans {between : Disk} (first : Beside dir disk between)
    (second : Beside dir between later) : Beside dir disk later :=
  fun place outside => (second place outside).trans (first place outside)

theorem beside_put (entry : Entry) : Beside dir disk (disk.put (dir ++ rest) entry) := by
  intro place outside
  refine entry?_put_ne fun same => outside ?_
  rw [same]
  exact List.prefix_append dir rest

/-! ## What an inert directory offers -/

namespace Inert

theorem unlinked_below (inert : Inert dir disk) (rest : Location) : Unlinked disk dir rest := by
  intro way target leads linked
  rcases inert.only way _ linked with directory | ⟨_, file⟩
  · cases directory
  · cases file

theorem unlinked (inert : Inert dir disk) (rest : Location) : Unlinked disk [] (dir ++ rest) := by
  intro way target leads linked
  rw [List.nil_append] at linked
  by_cases inside : dir <+: way
  · obtain ⟨further, rfl⟩ := inside
    have below := (List.prefix_append_right_inj dir).mp leads
    exact inert.unlinked_below rest further target below linked
  · have above : way <+: dir :=
      (List.prefix_or_prefix_of_prefix leads (List.prefix_append dir rest)).resolve_right inside
    rw [inert.stands way above] at linked
    cases linked

theorem raise (inert : Inert dir disk) (raised : Raised disk later (dir ++ rest)) :
    Inert dir later := by
  refine ⟨inert.stands.extend raised.extends, fun way entry stands => ?_⟩
  rcases raised.added (dir ++ way) with same | ⟨-, -, directory⟩
  · exact inert.only way entry (same ▸ stands)
  · rw [directory, Option.some.injEq] at stands
    exact Or.inl stands.symm

theorem beside_raise (inert : Inert dir disk) (raised : Raised disk later (dir ++ rest)) :
    Beside dir disk later := by
  intro place outside
  rcases raised.added place with same | ⟨missing, leads, -⟩
  · exact same
  · have above : place <+: dir :=
      (List.prefix_or_prefix_of_prefix leads (List.prefix_append dir rest)).resolve_right outside
    rw [inert.stands place above] at missing
    cases missing

theorem put (inert : Inert dir disk) (below : rest ≠ [])
    (vacant : disk.entry? (dir ++ rest) ≠ some .directory) (payload : Payload) :
    Inert dir (disk.put (dir ++ rest) (.file payload newFileMode)) := by
  refine ⟨inert.stands.put vacant _, fun way entry stands => ?_⟩
  by_cases same : way = rest
  · rw [same, entry?_put_self (by simp [below]), Option.some.injEq] at stands
    exact Or.inr ⟨payload, stands.symm⟩
  · rw [entry?_put_ne (by simpa using same)] at stands
    exact inert.only way entry stands

end Inert

/-! ## What a staged directory offers -/

namespace Staged

theorem raise (staged : Staged dir done disk) (raised : Raised disk later (dir ++ rest)) :
    Staged dir done later := by
  refine ⟨staged.stands.extend raised.extends, raised.clear dir staged.clear, ?_, ?_⟩
  · exact fun name text member => raised.extends _ _ (staged.holds name text member)
  · intro way entry stands
    rcases raised.added (dir ++ way) with same | ⟨-, -, directory⟩
    · exact staged.only way entry (same ▸ stands)
    · rw [directory, Option.some.injEq] at stands
      exact Or.inl stands.symm

theorem replace (staged : Staged dir done disk) (below : Path.names name ≠ [])
    (vacant : disk.entry? (dir ++ Path.names name) ≠ some .directory) (text : String) :
    Staged dir (done.filter (Path.names ·.1 ≠ Path.names name) ++ [(name, text)])
      (disk.put (dir ++ Path.names name) (.file (.ofText text) newFileMode)) := by
  have inner : dir ++ Path.names name ≠ [] := by simp [below]
  refine ⟨staged.stands.put vacant _, staged.clear.put inner _, ?_, ?_⟩
  · intro other content member
    rcases List.mem_append.mp member with earlier | last
    · obtain ⟨earlier, differs⟩ := List.mem_filter.mp earlier
      have differs : Path.names other ≠ Path.names name := by simpa using differs
      rw [entry?_put_ne (by simpa using differs), staged.holds other content earlier]
    · obtain ⟨rfl, rfl⟩ := Prod.mk.inj (List.mem_singleton.mp last)
      exact entry?_put_self inner
  · intro way entry stands
    by_cases same : way = Path.names name
    · rw [same, entry?_put_self inner, Option.some.injEq] at stands
      exact Or.inr ⟨name, text, by simp, same, stands.symm⟩
    · rw [entry?_put_ne (by simpa using same)] at stands
      rcases staged.only way entry stands with directory | ⟨other, content, member, rfl, file⟩
      · exact Or.inl directory
      · have kept : (other, content) ∈ done.filter (Path.names ·.1 ≠ Path.names name) :=
          List.mem_filter.mpr ⟨member, by simpa using same⟩
        exact Or.inr ⟨other, content, List.mem_append_left _ kept, rfl, file⟩

theorem put (staged : Staged dir done disk) (below : Path.names name ≠ [])
    (vacant : disk.entry? (dir ++ Path.names name) ≠ some .directory)
    (fresh : Path.names name ∉ done.map fun source => Path.names source.1) (text : String) :
    Staged dir (done ++ [(name, text)])
      (disk.put (dir ++ Path.names name) (.file (.ofText text) newFileMode)) := by
  have all : done.filter (Path.names ·.1 ≠ Path.names name) = done := by
    refine List.filter_eq_self.mpr fun source member => ?_
    have differs : Path.names source.1 ≠ Path.names name := fun same =>
      fresh (List.mem_map.mpr ⟨source, member, same⟩)
    simpa using differs
  have replaced := staged.replace below vacant text
  rwa [all] at replaced

theorem mem_filesBelow (staged : Staged dir sources disk) (inner : dir ≠ []) {payload : Payload} :
    (rest, payload) ∈ disk.filesBelow dir ↔
      ∃ name text, (name, text) ∈ sources ∧ rest = Path.names name ∧ payload = .ofText text := by
  rw [Disk.mem_filesBelow]
  constructor
  · rintro ⟨mode, member⟩
    have stands := staged.clear _ _ member (List.prefix_append dir rest)
    rcases staged.only rest _ stands with directory | ⟨name, text, source, names, file⟩
    · cases directory
    · exact ⟨name, text, source, names, (Entry.file.inj file).1⟩
  · rintro ⟨name, text, source, rfl, rfl⟩
    exact ⟨_, mem_entries_of_entry? (by simp [inner]) (staged.holds name text source)⟩

end Staged

/-! ## Writing the sources -/

theorem onlyFiles_stageOne (written : stageOne directory name text host = (result, after)) :
    host.OnlyFiles after := by
  rw [stageOne] at written
  split at written
  · exact (Prod.mk.inj written).2 ▸ .refl host
  · simp only at written
    split at written
    · rename_i making
      exact (Prod.mk.inj written).2 ▸ (Host.change_cases making).1
    · rename_i making
      have first := (Host.change_cases making).1
      split at written
      all_goals
        rename_i writing
        exact (Prod.mk.inj written).2 ▸ first.trans (Host.write_cases writing).1

theorem onlyFiles_stage (written : stage directory sources host = (result, after)) :
    host.OnlyFiles after := by
  induction sources generalizing host with
  | nil => exact (Prod.mk.inj written).2 ▸ .refl host
  | cons source rest ih =>
      rw [stage] at written
      split at written
      · rename_i one
        exact (Prod.mk.inj written).2 ▸ onlyFiles_stageOne one
      · rename_i one
        exact (onlyFiles_stageOne one).trans (ih written)

theorem stageOne_eq_ok (written : stageOne directory name text host = (.ok (), after)) :
    isSafeName name = true ∧ ∃ between,
      host.makeDirectories (Path.ofComponents
        (Path.components (Path.join directory name)).dropLast) = (.ok (), between) ∧
      between.write (Path.join directory name) (.ofText text) = (.ok (), after) := by
  rw [stageOne] at written
  split at written
  · cases written
  · rename_i safe
    refine ⟨by simpa using safe, ?_⟩
    simp only at written
    split at written
    · cases written
    · rename_i between made
      refine ⟨between, made, ?_⟩
      split at written
      · cases written
      · rename_i put
        rw [put, (Prod.mk.inj written).2]

theorem stageOne_eq_error {fault : VerificationError}
    (failed : stageOne directory name text host = (.error fault, after)) :
    (isSafeName name = false ∧ fault = refusal name) ∨
      isSafeName name = true ∧ ∃ reason, fault = stagingFailure name reason ∧
        (host.makeDirectories (Path.ofComponents
            (Path.components (Path.join directory name)).dropLast) = (.error reason, after) ∨
          ∃ between,
            host.makeDirectories (Path.ofComponents
              (Path.components (Path.join directory name)).dropLast) = (.ok (), between) ∧
            between.write (Path.join directory name) (.ofText text) = (.error reason, after)) := by
  rw [stageOne] at failed
  split at failed
  · rename_i unsafe_name
    exact .inl ⟨by simpa using unsafe_name, (Except.error.inj (Prod.mk.inj failed).1).symm⟩
  · rename_i safe
    refine .inr ⟨by simpa using safe, ?_⟩
    simp only at failed
    split at failed
    · rename_i reason between made
      obtain ⟨same, rfl⟩ := Prod.mk.inj failed
      exact ⟨reason, (Except.error.inj same).symm, .inl made⟩
    · rename_i between made
      split at failed
      · rename_i reason later put
        obtain ⟨same, rfl⟩ := Prod.mk.inj failed
        exact ⟨reason, (Except.error.inj same).symm, .inr ⟨between, made, put⟩⟩
      · cases failed

theorem stage_eq_error {fault : VerificationError}
    (failed : stage directory sources host = (.error fault, after)) :
    ∃ name ∈ sources.keys, fault = refusal name ∨ ∃ reason, fault = stagingFailure name reason := by
  induction sources generalizing host with
  | nil => cases failed
  | cons source rest ih =>
      obtain ⟨name, text⟩ := source
      rw [stage] at failed
      split at failed
      · rename_i first
        obtain ⟨same, -⟩ := Prod.mk.inj failed
        obtain rfl := Except.error.inj same
        refine ⟨name, List.mem_cons_self, ?_⟩
        rcases stageOne_eq_error first with ⟨-, refused⟩ | ⟨-, reason, failing, -⟩
        · exact .inl refused
        · exact .inr ⟨reason, failing⟩
      · obtain ⟨other, member, cause⟩ := ih failed
        exact ⟨other, List.mem_cons_of_mem name member, cause⟩

theorem full_of_isSafeName (safe : isSafeName name = true) : name ≠ "" := by
  simp only [isSafeName, ne_eq, Bool.and_eq_true, decide_eq_true_eq] at safe
  exact safe.1.1

theorem isPlain_of_isSafeName (safe : isSafeName name = true) : Path.isPlain name = true := by
  simp only [isSafeName, ne_eq, Bool.and_eq_true, decide_eq_true_eq] at safe
  exact safe.1.2

section

variable {above : Location} {last : String} (clean : Named (above ++ [last]))

include clean

theorem parent_of_isSafeName (safe : isSafeName name = true) :
    Path.ofComponents (Path.components (Path.join (pathOf (above ++ [last])) name)).dropLast =
      pathOf (above ++ [last] ++ (Path.names name).dropLast) := by
  have plain := isPlain_of_isSafeName safe
  have below := Path.names_ne_nil_of_isPlain (full_of_isSafeName safe) plain
  rw [Path.components_join clean plain, List.dropLast_cons_of_ne_nil (by simp),
    ← List.map_dropLast, List.dropLast_append_of_ne_nil below, Path.ofComponents_names]

theorem named_of_isSafeName (safe : isSafeName name = true) :
    Named (above ++ [last] ++ (Path.names name).dropLast) := by
  intro text member
  rcases List.mem_append.mp member with inside | later
  · exact clean text inside
  · exact Path.isName_of_isPlain (isPlain_of_isSafeName safe) (List.dropLast_subset _ later)

theorem put_of_write_source {workingDirectory : Location} {payload : Payload}
    (safe : isSafeName name = true) (inert : Inert (above ++ [last]) disk)
    (written : disk.write workingDirectory (Path.join (pathOf (above ++ [last])) name) payload =
      .ok later) :
    Path.names name ≠ [] ∧ disk.entry? (above ++ [last] ++ Path.names name) ≠ some .directory ∧
      later = disk.put (above ++ [last] ++ Path.names name) (.file payload newFileMode) := by
  have plain := isPlain_of_isSafeName safe
  have names := Path.names_join clean plain
  have down : ".." ∉ Path.segments (Path.join (pathOf (above ++ [last])) name) := by
    rw [Path.segments_join clean plain]
    intro member
    rcases List.mem_append.mp member with inside | later
    · exact (clean ".." inside).2.2 rfl
    · exact Path.down_of_isPlain plain later
  obtain ⟨-, mode, added, kind⟩ := put_of_write (Path.isAbsolute_join clean plain) down
    (by rw [names]; exact inert.unlinked _) written
  rw [names] at added kind
  refine ⟨Path.names_ne_nil_of_isPlain (full_of_isSafeName safe) plain, ?_⟩
  rcases kind with ⟨old, file⟩ | ⟨missing, fresh⟩
  · -- A file that stood there before keeps its mode, which is that of new files.
    rcases inert.only _ _ file with directory | ⟨_, source⟩
    · cases directory
    · rw [added, file, (Entry.file.inj source).2]
      exact ⟨nofun, rfl⟩
  · rw [added, missing, fresh]
    exact ⟨nofun, rfl⟩

theorem raised_of_stageOne (inert : Inert (above ++ [last]) host.disk)
    (written : stageOne (pathOf (above ++ [last])) name text host = (.ok (), after)) :
    isSafeName name = true ∧ Path.names name ≠ [] ∧ ∃ between,
      Raised host.disk between (above ++ [last] ++ (Path.names name).dropLast) ∧
      between.entry? (above ++ [last] ++ Path.names name) ≠ some .directory ∧
      after.disk = between.put (above ++ [last] ++ Path.names name)
        (.file (.ofText text) newFileMode) := by
  obtain ⟨safe, between, making, writing⟩ := stageOne_eq_ok written
  rw [parent_of_isSafeName clean safe] at making
  obtain ⟨-, made⟩ := Host.makeDirectories_eq_ok making
  obtain ⟨-, put⟩ := Host.write_eq_ok writing
  have raised := raised_of_makeDirectories (named_of_isSafeName clean safe) (inert.unlinked _) made
  obtain ⟨below, vacant, added⟩ := put_of_write_source clean safe (inert.raise raised) put
  exact ⟨safe, below, between.disk, raised, vacant, added⟩

theorem inert_of_stageOne (inert : Inert (above ++ [last]) host.disk)
    (written : stageOne (pathOf (above ++ [last])) name text host = (.ok (), after)) :
    Inert (above ++ [last]) after.disk ∧ Beside (above ++ [last]) host.disk after.disk := by
  obtain ⟨-, below, between, raised, vacant, added⟩ := raised_of_stageOne clean inert written
  rw [added]
  exact ⟨(inert.raise raised).put below vacant _,
    (inert.beside_raise raised).trans (beside_put _)⟩

theorem inert_of_stage (inert : Inert (above ++ [last]) host.disk)
    (written : stage (pathOf (above ++ [last])) sources host = (.ok (), after)) :
    Inert (above ++ [last]) after.disk ∧ Beside (above ++ [last]) host.disk after.disk := by
  induction sources generalizing host with
  | nil => exact (Prod.mk.inj written).2 ▸ ⟨inert, .refl _ _⟩
  | cons source rest ih =>
      rw [stage] at written
      split at written
      · cases written
      · rename_i one
        obtain ⟨ready, first⟩ := inert_of_stageOne clean inert one
        obtain ⟨whole, second⟩ := ih ready written
        exact ⟨whole, first.trans second⟩

theorem staged_of_stageOne (staged : Staged (above ++ [last]) (lasting done) host.disk)
    (written : stageOne (pathOf (above ++ [last])) name text host = (.ok (), after)) :
    isSafeName name = true ∧
      Staged (above ++ [last]) (lasting (done ++ [(name, text)])) after.disk := by
  obtain ⟨safe, below, between, raised, vacant, added⟩ :=
    raised_of_stageOne clean staged.inert written
  rw [added, lasting_concat]
  exact ⟨safe, (staged.raise raised).replace below vacant text⟩

theorem staged_of_stage (staged : Staged (above ++ [last]) (lasting done) host.disk)
    (written : stage (pathOf (above ++ [last])) sources host = (.ok (), after)) :
    (∀ name ∈ sources.keys, isSafeName name = true) ∧
      Staged (above ++ [last]) (lasting (done ++ sources)) after.disk := by
  induction sources generalizing done host with
  | nil =>
      rw [stage] at written
      obtain rfl : host = after := (Prod.mk.inj written).2
      refine ⟨by simp [TextMap.keys], ?_⟩
      rwa [List.append_nil]
  | cons source rest ih =>
      obtain ⟨name, text⟩ := source
      rw [stage] at written
      split at written
      · cases written
      · rename_i between one
        have shifted : done ++ (name, text) :: rest = done ++ [(name, text)] ++ rest := by simp
        obtain ⟨safe, ready⟩ := staged_of_stageOne clean staged one
        rw [shifted]
        obtain ⟨others, whole⟩ := ih ready written
        refine ⟨?_, whole⟩
        intro key member
        rcases List.mem_cons.mp member with rfl | later
        · exact safe
        · exact others key later

end

end DeployCheck.Compiler
