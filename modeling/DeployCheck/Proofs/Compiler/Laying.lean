import DeployCheck.Proofs.Compiler.Starting
import DeployCheck.Proofs.Disk.Reaching
import DeployCheck.Proofs.TextMap
namespace DeployCheck.Compiler

open Text Disk DeployCheck.Path

variable {dir above rest : Location} {done sources : SourceTree} {disk later : Disk}
  {name text last : String} {host between after : Host} {result : Except VerificationError Unit}

structure Proper (name : String) : Prop where
  safe : isSafeName name = true
  spelled : "/".intercalate (names name) = name
  fits : Fits (names name)

def Apart (one other : String) : Prop :=
  ¬ names one <+: names other ∧ ¬ names other <+: names one

structure Room (dir : Location) (done : SourceTree) (host : Host) : Prop where
  staged : Staged dir done host.disk
  rooted : host.disk.Rooted host.workingDirectory
  rooms : ∀ rest, host.disk.entry? (dir ++ rest) = some .directory →
    rest = [] ∨ ∃ name ∈ done.keys, rest <+: names name ∧ rest ≠ names name

/-- Why a source may fail to get into a directory: a mishap, or a path that is too long. -/
def Hindered (dir : Location) (host : Host) (name : String) (reason : OsError) : Prop :=
  host.Threatens reason ∨ reason = .nameTooLong ∧ ¬ Short (dir ++ names name)

theorem Hindered.of_drop {reason : OsError} {count : Nat}
    (hindered : Hindered dir after name reason) (left : after.mishaps = host.mishaps.drop count) : Hindered dir host name reason :=
  hindered.imp_left fun threatens => threatens.of_drop left

theorem mishaps_of_stageOne {directory : String}
    (written : stageOne directory name text host = (.ok (), after)) :
    after.mishaps = host.mishaps.drop 2 := by
  obtain ⟨-, between, making, writing⟩ := stageOne_eq_ok written
  rw [Host.mishaps_of_write writing, Host.mishaps_of_change making, List.drop_drop]

/-! ## Proper keys -/

theorem Proper.full (proper : Proper name) : names name ≠ [] :=
  names_ne_nil_of_isPlain (full_of_isSafeName proper.safe) (isPlain_of_isSafeName proper.safe)

theorem Proper.join (proper : Proper name) (clean : Named (above ++ [last])) :
    Path.join (pathOf (above ++ [last])) name = pathOf (above ++ [last] ++ names name) := by
  have plain := isPlain_of_isSafeName proper.safe
  rw [join_pathOf (isSegment_last clean) (isAbsolute_of_isPlain plain),
    pathOf_append (by simp) proper.full, proper.spelled]

theorem Proper.fits_below (proper : Proper name) (fits : Fits dir) : Fits (dir ++ names name) :=
  fun text member => (List.mem_append.mp member).elim (fits text) (proper.fits text)

theorem dropLast_prefix_below (dir : Location) (name : String) :
    dir ++ (names name).dropLast <+: dir ++ names name :=
  (List.prefix_append_right_inj dir).mpr (List.dropLast_prefix _)

theorem Proper.not_prefix_dropLast (proper : Proper name) (dir : Location) :
    ¬ dir ++ names name <+: dir ++ (names name).dropLast := by
  intro leads
  have long := ((List.prefix_append_right_inj dir).mp leads).length_le
  have some_ := List.length_pos_of_ne_nil proper.full
  rw [List.length_dropLast] at long
  omega

/-! ## Room for one more source -/

section

variable (room : Room dir done host) (apart : ∀ other ∈ done.keys, Apart other name)

include room apart

theorem Room.vacant : host.disk.Vacant (dir ++ (names name).dropLast) := by
  intro way entry leads stands
  by_cases inside : dir <+: way
  · obtain ⟨further, rfl⟩ := inside
    rcases room.staged.only further entry stands with directory | ⟨other, text, member, rfl, -⟩
    · exact directory
    · have onward := ((List.prefix_append_right_inj dir).mp leads).trans (List.dropLast_prefix _)
      exact absurd onward (apart other (TextMap.mem_keys_of_mem member)).1
  · have higher : way <+: dir :=
      (List.prefix_or_prefix_of_prefix leads (List.prefix_append _ _)).resolve_right inside
    rw [room.staged.stands way higher, Option.some.injEq] at stands
    exact stands.symm

theorem Room.missing (full : names name ≠ []) :
    host.disk.entry? (dir ++ names name) = none := by
  cases stands : host.disk.entry? (dir ++ names name) with
  | none => rfl
  | some entry =>
      rcases room.staged.only _ entry stands with rfl | ⟨other, text, member, same, -⟩
      · rcases room.rooms _ stands with top | ⟨other, member, leads, -⟩
        · exact absurd top full
        · exact absurd leads (apart other member).2
      · exact absurd (same ▸ List.prefix_refl _) (apart other (TextMap.mem_keys_of_mem member)).1

end

section

variable (fits : Fits (above ++ [last])) (proper : Proper name)

include fits proper

theorem write_below (stands : disk.Stands (above ++ [last] ++ (names name).dropLast))
    (missing : disk.entry? (above ++ [last] ++ names name) = none) {workingDirectory : Location}
    (payload : Payload) :
    disk.write workingDirectory (Path.join (pathOf (above ++ [last])) name) payload =
        .ok (disk.put (above ++ [last] ++ names name) (.file payload newFileMode)) ∧
      Short (above ++ [last] ++ names name) ∨
    disk.write workingDirectory (Path.join (pathOf (above ++ [last])) name) payload =
      .error .nameTooLong ∧ ¬ Short (above ++ [last] ++ names name) := by
  have below := proper.fits_below fits
  obtain ⟨front, final, whole⟩ := (List.eq_nil_or_concat' (names name)).resolve_left proper.full
  rw [proper.join fits.named]
  rw [whole] at below stands missing ⊢
  rw [List.dropLast_concat] at stands
  rw [← List.append_assoc] at below missing ⊢
  by_cases short : Short (above ++ [last] ++ front ++ [final])
  · exact .inl ⟨write_of_free below short stands missing payload, short⟩
  · exact .inr ⟨write_of_not_short below short payload, short⟩

theorem Room.makeDirectories_eq_error {reason : OsError} (room : Room (above ++ [last]) done host)
    (apart : ∀ other ∈ done.keys, Apart other name)
    (failed : host.makeDirectories (pathOf (above ++ [last] ++ (names name).dropLast)) =
      (.error reason, after)) : Hindered (above ++ [last]) host name reason := by
  have below := (proper.fits_below fits).mono (dropLast_prefix_below _ name).subset
  rcases Host.change_eq_error failed with threatens | refused
  · exact .inl threatens
  · by_cases short : Short (above ++ [last] ++ (names name).dropLast)
    · obtain ⟨later, made⟩ :=
        makeDirectories_of_vacant room.rooted.tree below short (room.vacant apart)
      rw [made] at refused
      cases refused
    · rw [makeDirectories_of_not_short below short] at refused
      refine .inr ⟨(Except.error.inj refused).symm, fun whole => short ?_⟩
      exact whole.mono (dropLast_prefix_below _ name)

theorem Room.raised (room : Room (above ++ [last]) done host)
    (apart : ∀ other ∈ done.keys, Apart other name)
    (making : host.makeDirectories (pathOf (above ++ [last] ++ (names name).dropLast)) =
      (.ok (), between)) :
    Raised host.disk between.disk (above ++ [last] ++ (names name).dropLast) ∧
      between.disk.entry? (above ++ [last] ++ names name) = none := by
  obtain ⟨-, made⟩ := Host.makeDirectories_eq_ok making
  have raised := raised_of_makeDirectories (named_of_isSafeName fits.named proper.safe)
    (room.vacant apart).unlinked made
  exact ⟨raised, raised.missing (room.missing apart proper.full) (proper.not_prefix_dropLast _)⟩

theorem Room.add (room : Room (above ++ [last]) done host)
    (apart : ∀ other ∈ done.keys, Apart other name)
    (making : host.makeDirectories (pathOf (above ++ [last] ++ (names name).dropLast)) =
      (.ok (), between))
    (writing : between.write (Path.join (pathOf (above ++ [last])) name) (.ofText text) =
      (.ok (), after)) :
    Room (above ++ [last]) (done ++ [(name, text)]) after ∧
      Short (above ++ [last] ++ names name) := by
  obtain ⟨only, made⟩ := Host.makeDirectories_eq_ok making
  obtain ⟨onlyThen, put⟩ := Host.write_eq_ok writing
  obtain ⟨raised, missing⟩ := room.raised fits proper apart making
  have rooted : after.disk.Rooted after.workingDirectory := by
    rw [onlyThen.workingDirectory, only.workingDirectory]
    rw [only.workingDirectory] at put
    exact (room.rooted.makeDirectories made).write put
  have fresh : names name ∉ done.map fun source => names source.1 := by
    intro member
    obtain ⟨⟨other, content⟩, inside, same⟩ := List.mem_map.mp member
    have leads : names other <+: names name := same ▸ List.prefix_refl _
    exact (apart other (TextMap.mem_keys_of_mem inside)).1 leads
  rcases write_below fits proper raised.stands missing (.ofText text) with
    ⟨stored, short⟩ | ⟨refused, -⟩
  · rw [stored, Except.ok.injEq] at put
    refine ⟨⟨?_, rooted, ?_⟩, short⟩
    · rw [← put]
      exact (room.staged.raise raised).put proper.full (by rw [missing]; nofun) fresh text
    · intro rest stands
      by_cases same : rest = names name
      · rw [← put, same, entry?_put_self (by simp)] at stands
        cases stands
      rw [← put, entry?_put_ne (by simpa using same)] at stands
      rcases raised.added (above ++ [last] ++ rest) with kept | ⟨-, leads, -⟩
      · refine (room.rooms rest (kept ▸ stands)).imp_right fun ⟨other, member, leads⟩ => ?_
        exact ⟨other, TextMap.mem_keys_concat.mpr (.inl member), leads⟩
      · refine .inr ⟨name, TextMap.mem_keys_concat.mpr (.inr rfl), ?_, same⟩
        exact ((List.prefix_append_right_inj _).mp leads).trans (List.dropLast_prefix _)
  · rw [refused] at put
    cases put

theorem Room.stageOne (room : Room (above ++ [last]) done host)
    (apart : ∀ other ∈ done.keys, Apart other name)
    (written : stageOne (pathOf (above ++ [last])) name text host = (result, after)) :
    (result = .ok () ∧ Room (above ++ [last]) (done ++ [(name, text)]) after ∧
      Short (above ++ [last] ++ names name)) ∨
    ∃ reason, result = .error (stagingFailure name reason) ∧
      Hindered (above ++ [last]) host name reason := by
  have clean := fits.named
  have parent := parent_of_isSafeName clean proper.safe
  cases result with
  | ok _ =>
      obtain ⟨-, between, making, writing⟩ := stageOne_eq_ok written
      exact .inl ⟨rfl, room.add fits proper apart (parent ▸ making) writing⟩
  | error fault =>
      rcases stageOne_eq_error written with ⟨refused, -⟩ | ⟨-, reason, rfl, cause⟩
      · rw [proper.safe] at refused
        cases refused
      refine .inr ⟨reason, rfl, ?_⟩
      rw [parent] at cause
      rcases cause with making | ⟨between, making, writing⟩
      · exact room.makeDirectories_eq_error fits proper apart making
      obtain ⟨raised, missing⟩ := room.raised fits proper apart making
      rcases Host.write_eq_error writing with threatens | ⟨part, refused⟩
      · exact .inl (threatens.of_drop (Host.mishaps_of_change making))
      · rcases write_below fits proper raised.stands missing part with ⟨stored, -⟩ | ⟨long, cause⟩
        · rw [stored] at refused
          cases refused
        · rw [long, Except.error.injEq] at refused
          exact .inr ⟨refused.symm, cause⟩

end

theorem Room.stage (room : Room (above ++ [last]) done host) (fits : Fits (above ++ [last]))
    (proper : ∀ name ∈ sources.keys, Proper name)
    (apart : (TextMap.keys (done ++ sources)).Pairwise Apart)
    (written : stage (pathOf (above ++ [last])) sources host = (result, after)) :
    (result = .ok () ∧ Room (above ++ [last]) (done ++ sources) after ∧
      ∀ name ∈ sources.keys, Short (above ++ [last] ++ names name)) ∨
    ∃ name ∈ sources.keys, ∃ reason, result = .error (stagingFailure name reason) ∧
      Hindered (above ++ [last]) host name reason := by
  induction sources generalizing done host with
  | nil =>
      obtain ⟨rfl, rfl⟩ := Prod.mk.inj written
      rw [List.append_nil]
      exact .inl ⟨rfl, room, by simp [TextMap.keys]⟩
  | cons source rest ih =>
      obtain ⟨name, text⟩ := source
      have shifted : done ++ (name, text) :: rest = done ++ [(name, text)] ++ rest := by simp
      have before : ∀ other ∈ done.keys, Apart other name := by
        intro other member
        rw [TextMap.keys, List.map_append] at apart
        exact (List.pairwise_append.mp apart).2.2 other member name (by simp)
      have first (result : Except VerificationError Unit) (between : Host)
          (one : Compiler.stageOne (pathOf (above ++ [last])) name text host = (result, between)) :=
        room.stageOne fits (proper name (by simp [TextMap.keys])) before one
      rw [Compiler.stage] at written
      split at written
      · rename_i fault between one
        obtain ⟨rfl, rfl⟩ := Prod.mk.inj written
        rcases first _ _ one with ⟨same, -⟩ | ⟨reason, same, hindered⟩
        · cases same
        · exact .inr ⟨name, by simp [TextMap.keys], reason, same, hindered⟩
      · rename_i between one
        rcases first _ _ one with ⟨-, more, short⟩ | ⟨reason, same, -⟩
        · rw [shifted] at apart ⊢
          rcases ih more (fun other member => proper other (List.mem_cons_of_mem _ member)) apart
            written with ⟨rfl, whole, others⟩ | ⟨other, member, reason, same, hindered⟩
          · refine .inl ⟨rfl, whole, fun other member => ?_⟩
            rcases List.mem_cons.mp member with rfl | later
            · exact short
            · exact others other later
          · exact .inr ⟨other, List.mem_cons_of_mem _ member, reason, same,
              hindered.of_drop (mishaps_of_stageOne one)⟩
        · cases same

/-! ## Sources in a fresh directory -/

theorem room_of_makeScratch (rooted : host.disk.Rooted host.workingDirectory)
    (made : host.makeScratch = (.ok dir, after)) : Room dir [] after := by
  obtain ⟨staged, -⟩ := staged_of_makeScratch rooted.tree made
  have free := free_of_makeScratch made
  obtain ⟨standing, ⟨name, proper, rfl⟩, -, rfl⟩ := Host.makeScratch_eq_ok made
  refine ⟨staged, rooted.put proper standing ?_ _, fun rest stands => .inl ?_⟩
  · rw [free _ (List.prefix_refl _)]
    nofun
  · by_contra further
    rw [entry?_put_ne (by simpa using further), free _ (List.prefix_append _ _)] at stands
    cases stands

/-- The sources can be read back from the directory, each at its key, and are all its files. -/
structure Laid (dir : Location) (sources : SourceTree) (host : Host) : Prop where
  reads : ∀ name text, (name, text) ∈ sources →
    host.readText (Path.join (pathOf dir) name) = .ok text
  files : ∀ way payload, (way, payload) ∈ host.disk.filesBelow dir ↔
    ∃ name text, (name, text) ∈ sources ∧ way = names name ∧ payload = .ofText text

theorem Room.laid (fits : Fits (above ++ [last])) (proper : ∀ name ∈ sources.keys, Proper name)
    (short : ∀ name ∈ sources.keys, Short (above ++ [last] ++ names name))
    (room : Room (above ++ [last]) sources host) : Laid (above ++ [last]) sources host := by
  refine ⟨fun name text source => ?_, fun way payload => room.staged.mem_filesBelow (by simp)⟩
  have member := TextMap.mem_keys_of_mem source
  rw [(proper name member).join fits.named]
  exact readText_pathOf room.rooted.tree ((proper name member).fits_below fits) (short name member)
    (room.staged.holds name text source)

variable {compiler : Compiler} {optimize : Bool} {begun : Host}
  {outcome : Except VerificationError Artifacts}

/-- How a compilation in a fresh directory goes: the sources are laid down and the program is
started on them, or a source is kept out and that is reported. -/
inductive Proceeds (compiler : Compiler) (sources : SourceTree) (optimize : Bool) (dir : Location)
    (host begun after : Host) : Except VerificationError Artifacts → Prop
  | started {staged : Host} {outcome : Except VerificationError Artifacts} :
    stage (pathOf dir) sources begun = (.ok (), staged) → Laid dir sources staged →
    (∀ name ∈ sources.keys, Short (dir ++ names name)) →
    compiler.Starts sources optimize (staged.disk.programAt dir compiler.program) host after
      outcome →
    (∀ run, after.runs = host.runs ++ [run] → run.files = staged.disk.filesBelow dir) →
    Proceeds compiler sources optimize dir host begun after outcome
  | hindered {name : String} {reason : OsError} : name ∈ sources.keys →
    Hindered dir begun name reason → after.runs = host.runs →
    Proceeds compiler sources optimize dir host begun after (.error (stagingFailure name reason))

theorem files_of_runIn {run : Run}
    (ran : compiler.runIn dir sources optimize host = (outcome, after))
    (once : after.runs = host.runs ++ [run]) : run.files = host.disk.filesBelow dir := by
  unfold runIn Host.run at ran
  cases found : host.disk.programAt dir compiler.program with
  | error reason =>
      simp only [found, Prod.mk.injEq] at ran
      obtain ⟨-, rfl⟩ := ran
      simp at once
  | ok pair =>
      obtain ⟨place, finished⟩ := pair
      simp only [found, Prod.mk.injEq] at ran
      obtain ⟨-, rfl⟩ := ran
      rw [List.append_cancel_left_eq, List.singleton_inj] at once
      exact once ▸ rfl

theorem proceeds_of_compile (rooted : host.disk.Rooted host.workingDirectory)
    (proper : ∀ name ∈ sources.keys, Proper name) (apart : sources.keys.Pairwise Apart)
    (made : host.makeScratch = (.ok dir, begun)) (fits : Fits dir)
    (compiled : compiler.compile sources optimize host = (outcome, after)) :
    Proceeds compiler sources optimize dir host begun after outcome := by
  have room := room_of_makeScratch rooted made
  obtain ⟨-, ⟨last, -, rfl⟩, -⟩ := Host.makeScratch_eq_ok made
  cases written : stage (pathOf (host.scratch ++ [last])) sources begun with
  | mk result staged =>
      have runs := runs_of_stage made written
      rcases room.stage fits proper apart written with
        ⟨rfl, whole, short⟩ | ⟨name, member, reason, rfl, hindered⟩
      · cases ran : compiler.runIn (host.scratch ++ [last]) sources optimize staged with
        | mk outcome ended =>
            simp only [compile, made, written, ran, Prod.mk.injEq] at compiled
            obtain ⟨rfl, rfl⟩ := compiled
            have started := starts_of_runIn ran
            unfold Starts at started
            rw [runs] at started
            exact .started written (whole.laid fits proper short) short started
              fun run once => files_of_runIn ran (runs ▸ once)
      · simp only [compile, made, written, Prod.mk.injEq] at compiled
        obtain ⟨rfl, rfl⟩ := compiled
        exact .hindered member hindered runs

end DeployCheck.Compiler
