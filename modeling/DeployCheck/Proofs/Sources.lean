import DeployCheck.Proofs.Disk.Reaching
import DeployCheck.Proofs.Outcome
import DeployCheck.Proofs.TextMap
import DeployCheck.Sources
namespace DeployCheck.Sources

open Text DeployCheck.Path

variable {host : Host} {path base file root name text : String} {paths done : List String}
  {location above : Location} {sources later : SourceTree}

/-! ## Names below a base directory -/

theorem filterMap_part? (location : Location) :
    (location.map Component.name).filterMap part? = location := by
  induction location with
  | nil => rfl
  | cons head rest ih =>
      rw [List.map_cons, List.filterMap_cons_some (show part? (.name head) = some head from rfl),
        ih]

theorem parts_pathOf (named : Disk.Named location) :
    parts (Disk.pathOf location) = "/" :: location := by
  rw [parts, components_pathOf named,
    List.filterMap_cons_some (show part? .root = some "/" from rfl), filterMap_part?]

theorem key_eq_ok (given : key path base = .ok name) :
    ∃ rest, parts path = parts base ++ rest ∧ rest ≠ [] ∧ name = "/".intercalate rest := by
  rw [key] at given
  split at given
  · cases given
  · rename_i inside
    split at given
    · cases given
    · simp only [Bool.not_eq_true', not_or, Bool.not_eq_false, List.isPrefixOf_iff_prefix] at inside
      obtain ⟨⟨rest, whole⟩, further⟩ := inside
      rw [← whole, List.drop_left] at given further
      exact ⟨rest, whole.symm, further, (Except.ok.inj given).symm⟩

theorem location_of_key (named : Disk.Named location)
    (given : key (Disk.pathOf location) (Disk.pathOf above) = .ok name)
    (namedBase : Disk.Named above) :
    location = above ++ names name ∧ names name ≠ [] ∧ "/".intercalate (names name) = name := by
  obtain ⟨rest, whole, further, rfl⟩ := key_eq_ok given
  rw [parts_pathOf named, parts_pathOf namedBase, List.cons_append, List.cons.injEq] at whole
  obtain rfl := whole.2
  have proper : ∀ text ∈ rest, IsName text :=
    fun text member => named text (List.mem_append_right above member)
  rw [names_intercalate proper]
  exact ⟨rfl, further, rfl⟩

theorem canonical_eq_ok (found : canonical host path = .ok file) :
    ∃ location, host.disk.resolve host.workingDirectory path = .ok location ∧
      file = Disk.pathOf location := by
  rw [canonical] at found
  cases resolved : host.disk.resolve host.workingDirectory path with
  | error reason => simp [resolved] at found
  | ok location =>
      simp only [resolved, Except.ok.injEq] at found
      exact ⟨location, rfl, found.symm⟩

theorem key_append {rest : Location} (named : Disk.Named (above ++ rest)) (below : rest ≠ []) :
    key (Disk.pathOf (above ++ rest)) (Disk.pathOf above) = .ok ("/".intercalate rest) := by
  have namedBase : Disk.Named above :=
    fun text member => named text (List.mem_append_left rest member)
  have down : ".." ∉ rest := fun member => (named ".." (List.mem_append_right above member)).2.2 rfl
  rw [key, parts_pathOf named, parts_pathOf namedBase, ← List.cons_append, List.drop_left]
  simp [below, down]

/-! ## Reading the files -/

/-- The file at a path, links followed, has this name below the base directory and this text. -/
def Supplies (host : Host) (base path name text : String) : Prop :=
  ∃ root file, canonical host base = .ok root ∧ canonical host path = .ok file ∧
    key file root = .ok name ∧ host.readText file = .ok text

/-- The source tree holds the file at each path and nothing else, each under a name of its own. -/
structure ReadFrom (host : Host) (base : String) (paths : List String) (sources : SourceTree) :
    Prop where
  each : ∀ path ∈ paths, ∃ name text, Supplies host base path name text ∧
    TextMap.find? sources name = some text
  only : ∀ name text, (name, text) ∈ sources → ∃ path ∈ paths, Supplies host base path name text
  distinct : sources.keys.Nodup

theorem add_eq_ok (added : add host root sources path = .ok later) :
    ∃ file name text, canonical host path = .ok file ∧ key file root = .ok name ∧
      host.readText file = .ok text ∧ name ∉ sources.keys ∧
      later = TextMap.insert name text sources := by
  obtain ⟨file, found, added⟩ := bind_eq_ok.mp added
  obtain ⟨name, given, added⟩ := bind_eq_ok.mp added
  split at added
  · cases added
  · rename_i text held
    split at added
    · cases added
    · rename_i fresh
      rw [Option.not_isSome_iff_eq_none] at fresh
      exact ⟨file, name, text, found, given, held, TextMap.find?_eq_none.mp fresh,
        (Except.ok.inj added).symm⟩

theorem ReadFrom.add (canonicalBase : canonical host base = .ok root)
    (read : ReadFrom host base done sources) (added : add host root sources path = .ok later) :
    ReadFrom host base (done ++ [path]) later := by
  obtain ⟨file, name, text, found, given, held, fresh, rfl⟩ := add_eq_ok added
  have supplied : Supplies host base path name text :=
    ⟨root, file, canonicalBase, found, given, held⟩
  refine ⟨?_, ?_, TextMap.nodup_keys_insert text fresh read.distinct⟩
  · intro other member
    rcases List.mem_append.mp member with earlier | last
    · obtain ⟨key, content, supplies, kept⟩ := read.each other earlier
      refine ⟨key, content, supplies, ?_⟩
      have differs : key ≠ name := by
        rintro rfl
        rw [TextMap.find?_eq_none.mpr fresh] at kept
        cases kept
      rw [TextMap.find?_insert, if_neg differs, kept]
    · obtain rfl := List.mem_singleton.mp last
      exact ⟨name, text, supplied, by rw [TextMap.find?_insert, if_pos rfl]⟩
  · intro key content member
    rcases List.mem_cons.mp ((TextMap.insert_perm text fresh).mem_iff.mp member) with same | older
    · obtain ⟨rfl, rfl⟩ := Prod.mk.inj same
      exact ⟨path, by simp, supplied⟩
    · obtain ⟨other, earlier, supplies⟩ := read.only key content older
      exact ⟨other, List.mem_append_left _ earlier, supplies⟩

theorem readFrom_of_foldlM (canonicalBase : canonical host base = .ok root)
    (start : ReadFrom host base done sources)
    (folded : paths.foldlM (add host root) sources = .ok later) :
    ReadFrom host base (done ++ paths) later := by
  induction paths generalizing done sources with
  | nil =>
      obtain rfl : sources = later := Except.ok.inj folded
      rwa [List.append_nil]
  | cons path rest ih =>
      rw [List.foldlM_cons] at folded
      obtain ⟨next, added, folded⟩ := bind_eq_ok.mp folded
      have whole := ih (start.add canonicalBase added) folded
      rwa [List.append_assoc] at whole

theorem readFrom_of_read (gathered : read host paths base = .ok sources) :
    ReadFrom host base paths sources := by
  obtain ⟨root, canonicalBase, folded⟩ := bind_eq_ok.mp gathered
  have start : ReadFrom host base [] [] := ⟨by simp, by simp, by simp [TextMap.keys]⟩
  simpa using readFrom_of_foldlM canonicalBase start folded

theorem ReadFrom.spelled (read : ReadFrom host base paths sources)
    (named : Disk.Named host.workingDirectory) {name : String} (member : name ∈ sources.keys) :
    "/".intercalate (names name) = name := by
  obtain ⟨⟨_, text⟩, source, rfl⟩ := List.mem_map.mp member
  obtain ⟨path, -, root, file, canonicalBase, found, given, -⟩ := read.only _ _ source
  obtain ⟨above, ledBase, rfl⟩ := canonical_eq_ok canonicalBase
  obtain ⟨location, led, rfl⟩ := canonical_eq_ok found
  exact (location_of_key (Disk.named_of_resolve named led) given
    (Disk.named_of_resolve named ledBase)).2.2

theorem ReadFrom.nodup_names (read : ReadFrom host base paths sources)
    (named : Disk.Named host.workingDirectory) :
    (sources.map fun source => names source.1).Nodup := by
  have distinct : (sources.keys.map names).Nodup := by
    refine List.Nodup.map_on (fun one first other second same => ?_) read.distinct
    rw [← read.spelled named first, same, read.spelled named second]
  rwa [TextMap.keys, List.map_map] at distinct

/-! ## Source trees as parts of a file tree -/

/-- The sources are the files that the paths lead to, each under the names that lead down to it from
one directory, and they come in the order of their keys. -/
structure Mirrors (host : Host) (root : Location) (paths : List String) (sources : SourceTree) :
    Prop where
  covers : ∀ path ∈ paths, ∃ name ∈ sources.keys,
    host.disk.resolve host.workingDirectory path = .ok (root ++ names name)
  asked : ∀ name ∈ sources.keys, ∃ path ∈ paths,
    host.disk.resolve host.workingDirectory path = .ok (root ++ names name)
  spelled : ∀ name ∈ sources.keys, "/".intercalate (names name) = name
  files : ∀ name text, (name, text) ∈ sources → ∃ program mode,
    host.disk.entry? (root ++ names name) = some (.file ⟨Utf8.encode text, program⟩ mode)
  ascending : TextMap.Ascending sources

theorem ascending_of_foldlM (start : TextMap.Ascending sources)
    (folded : paths.foldlM (add host root) sources = .ok later) : TextMap.Ascending later := by
  induction paths generalizing sources with
  | nil => exact Except.ok.inj folded ▸ start
  | cons path rest ih =>
      rw [List.foldlM_cons] at folded
      obtain ⟨next, added, folded⟩ := bind_eq_ok.mp folded
      obtain ⟨_, name, text, -, -, -, -, rfl⟩ := add_eq_ok added
      exact ih (start.insert name text) folded

theorem ascending_of_read (gathered : read host paths base = .ok sources) :
    TextMap.Ascending sources := by
  obtain ⟨root, -, folded⟩ := bind_eq_ok.mp gathered
  have start : TextMap.Ascending ([] : SourceTree) := List.Pairwise.nil
  exact ascending_of_foldlM start folded

section

variable (rooted : host.disk.Rooted host.workingDirectory)

include rooted

theorem Supplies.placed {location : Location}
    (led : host.disk.resolve host.workingDirectory base = .ok location)
    (supplies : Supplies host base path name text) :
    host.disk.resolve host.workingDirectory path = .ok (location ++ names name) ∧
      "/".intercalate (names name) = name ∧ names name ≠ [] ∧ Disk.Fits (names name) ∧
      ∃ program mode, host.disk.entry? (location ++ names name) =
        some (.file ⟨Utf8.encode text, program⟩ mode) := by
  have named := rooted.tree.named rooted.working
  obtain ⟨root, file, canonicalBase, found, given, held⟩ := supplies
  obtain ⟨above, ledBase, rfl⟩ := canonical_eq_ok canonicalBase
  obtain ⟨place, ledFile, rfl⟩ := canonical_eq_ok found
  obtain rfl : location = above := Except.ok.inj (led.symm.trans ledBase)
  have namedFile := Disk.named_of_resolve named ledFile
  obtain ⟨fits, file⟩ := Disk.readText_eq_ok namedFile (rooted.unlinked ledFile) held
  obtain ⟨rfl, further, spelled⟩ :=
    location_of_key namedFile given (Disk.named_of_resolve named ledBase)
  exact ⟨ledFile, spelled, further, fits.mono (List.subset_append_right _ _), file⟩

theorem mirrors_of_read (gathered : read host paths base = .ok sources) :
    ∃ root, host.disk.resolve host.workingDirectory base = .ok root ∧
      Mirrors host root paths sources ∧
      ∀ name ∈ sources.keys, names name ≠ [] ∧ Disk.Fits (names name) := by
  obtain ⟨_, canonicalBase, -⟩ := bind_eq_ok.mp gathered
  obtain ⟨root, led, -⟩ := canonical_eq_ok canonicalBase
  have gained := readFrom_of_read gathered
  have placed (name : String) (text : String) (member : (name, text) ∈ sources) :=
    (gained.only name text member).imp fun _ supplied => supplied.2.placed rooted led
  refine ⟨root, led, ⟨?_, ?_, ?_, ?_, ascending_of_read gathered⟩, ?_⟩
  · intro path member
    obtain ⟨name, text, supplies, kept⟩ := gained.each path member
    exact ⟨name, TextMap.mem_keys_of_mem (mem_of_lookup kept), (supplies.placed rooted led).1⟩
  · intro name member
    obtain ⟨text, source⟩ := TextMap.exists_of_mem_keys member
    obtain ⟨path, asked, supplies⟩ := gained.only _ text source
    exact ⟨path, asked, (supplies.placed rooted led).1⟩
  · intro name member
    obtain ⟨text, source⟩ := TextMap.exists_of_mem_keys member
    obtain ⟨_, -, spelled, -⟩ := placed _ text source
    exact spelled
  · intro name text source
    obtain ⟨_, -, -, -, -, file⟩ := placed name text source
    exact file
  · intro name member
    obtain ⟨text, source⟩ := TextMap.exists_of_mem_keys member
    obtain ⟨_, -, -, further, fits, -⟩ := placed _ text source
    exact ⟨further, fits⟩

theorem read_of_file {rest : Location} {mode : Nat} (fits : Disk.Fits (above ++ rest))
    (short : Disk.Short (above ++ rest)) (below : rest ≠ [])
    (file : host.disk.entry? (above ++ rest) = some (.file (.ofText text) mode)) :
    read host [Disk.pathOf (above ++ rest)] (Disk.pathOf above) =
      .ok [("/".intercalate rest, text)] := by
  have leads := List.prefix_append above rest
  have standing := rooted.tree.above file leads (by simpa using below)
  have base : canonical host (Disk.pathOf above) = .ok (Disk.pathOf above) := by
    rw [canonical, Disk.resolve_pathOf rooted.tree (fits.mono leads.subset) (short.mono leads)
      (by simp [standing]) (by simp [standing])]
  have found : canonical host (Disk.pathOf (above ++ rest)) =
      .ok (Disk.pathOf (above ++ rest)) := by
    rw [canonical, Disk.resolve_pathOf rooted.tree fits short (by simp [file]) (by simp [file])]
  have held : host.readText (Disk.pathOf (above ++ rest)) = .ok text :=
    Disk.readText_pathOf rooted.tree fits short file
  have added : Sources.add host (Disk.pathOf above) [] (Disk.pathOf (above ++ rest)) =
      .ok [("/".intercalate rest, text)] := by
    refine bind_eq_ok.mpr ⟨_, found, bind_eq_ok.mpr ⟨_, key_append fits.named below, ?_⟩⟩
    rw [held]
    rfl
  exact bind_eq_ok.mpr ⟨_, base, bind_eq_ok.mpr ⟨_, added, rfl⟩⟩

theorem Mirrors.apart {root : Location} (mirrors : Mirrors host root paths sources)
    {one other : String} (first : one ∈ sources.keys) (second : other ∈ sources.keys)
    (leads : names one <+: names other) : one = other := by
  obtain ⟨text, source⟩ := TextMap.exists_of_mem_keys first
  obtain ⟨content, further⟩ := TextMap.exists_of_mem_keys second
  obtain ⟨_, _, file⟩ := mirrors.files _ _ source
  obtain ⟨_, _, below⟩ := mirrors.files _ _ further
  by_contra differs
  have short : names one ≠ names other := fun same => differs <| by
    rw [← mirrors.spelled _ first, same, mirrors.spelled _ second]
  have directory := rooted.tree.above below ((List.prefix_append_right_inj root).mpr leads)
    (by simpa using short)
  rw [file] at directory
  cases directory

end

theorem request_eq_ok {label contract filename address : String} {request : Verification.Request}
    (made : Sources.request sources label contract filename address = .ok request) :
    filename ∈ sources.keys ∧ request = ⟨sources, label, contract, filename, address⟩ := by
  obtain ⟨_, checked, same⟩ := bind_eq_ok.mp made
  refine ⟨?_, (Except.ok.inj same).symm⟩
  rw [checkContractFile] at checked
  split at checked
  · rename_i found
    rwa [TextMap.find?, lookup_isSome_iff_mem] at found
  · cases checked

end DeployCheck.Sources
