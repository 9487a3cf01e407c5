import DeployCheck.Proofs.Disk.Changes
import DeployCheck.Proofs.Disk.Names
import Mathlib.Data.List.Induction
namespace DeployCheck.Disk

open Text DeployCheck.Path

variable {disk later : Disk} {follow : Bool} {links mode : Nat}
  {here workingDirectory location place : Location} {steps : List String}
  {name path source target : String} {payload : Payload} {entry : Entry} {stop : Stop} {spot : Spot}

def IsTree (disk : Disk) : Prop :=
  ∀ location name entry, disk.entry? (location ++ [name]) = some entry →
    IsName name ∧ disk.entry? location = some .directory

namespace IsTree

theorem above (tree : disk.IsTree) (there : disk.entry? location = some entry) {way : Location}
    (leads : way <+: location) (short : way ≠ location) : disk.entry? way = some .directory := by
  induction location using List.reverseRecOn generalizing entry with
  | nil => exact absurd (List.prefix_nil.mp leads) short
  | append_singleton parent last ih =>
      have standing := (tree parent last entry there).2
      have further := (List.prefix_concat_iff.mp leads).resolve_left short
      by_cases whole : way = parent
      · rw [whole, standing]
      · exact ih standing further whole

theorem stands (tree : disk.IsTree) (there : disk.entry? location = some .directory) :
    disk.Stands location := by
  intro way leads
  by_cases whole : way = location
  · rw [whole, there]
  · exact tree.above there leads whole

theorem named (tree : disk.IsTree) (there : disk.entry? location = some entry) :
    Named location := by
  induction location using List.reverseRecOn generalizing entry with
  | nil => exact .root
  | append_singleton parent last ih =>
      obtain ⟨proper, standing⟩ := tree parent last entry there
      exact (ih standing).below proper

/-! ## What keeps a tree a tree -/

theorem put (tree : disk.IsTree) (proper : IsName name)
    (parent : disk.entry? location = some .directory)
    (vacant : disk.entry? (location ++ [name]) ≠ some .directory) (entry : Entry) :
    (disk.put (location ++ [name]) entry).IsTree := by
  have kept {place : Location} (standing : disk.entry? place = some .directory) :
      entry? (disk.put (location ++ [name]) entry) place = some .directory := by
    have differs : place ≠ location ++ [name] := by
      rintro rfl
      exact vacant standing
    rw [entry?_put_ne differs, standing]
  intro above last found there
  by_cases same : above ++ [last] = location ++ [name]
  · obtain ⟨rfl, last_⟩ := List.append_inj' same rfl
    obtain rfl : last = name := by simpa using last_
    exact ⟨proper, kept parent⟩
  · rw [entry?_put_ne same] at there
    obtain ⟨proper, standing⟩ := tree above last found there
    exact ⟨proper, kept standing⟩

theorem remove (tree : disk.IsTree) (location : Location) : (disk.remove location).IsTree := by
  intro above last found there
  have outside : ¬ location <+: above := by
    intro below
    rw [entry?_remove_below (below.trans (List.prefix_append above [last])) (by simp)] at there
    cases there
  obtain ⟨proper, standing⟩ := tree above last found (entry?_of_remove there)
  exact ⟨proper, by rw [entry?_remove_beside outside, standing]⟩

end IsTree

theorem isTree_of_entries
    (listed : ∀ pair ∈ disk.entries, ∀ name ∈ pair.1.getLast?,
      IsName name ∧ disk.entry? pair.1.dropLast = some .directory) : disk.IsTree := by
  intro location name entry there
  have member := mem_entries_of_entry? (by simp) there
  have single := listed _ member name List.getLast?_concat
  rwa [List.dropLast_concat] at single

/-! ## Ways through a tree -/

/-- Something stands where a way ends, or in front of where it would go on. -/
def Stop.Stands (disk : Disk) : Stop → Prop
  | .spot (.found location) => (disk.entry? location).isSome
  | .spot (.free directory _) | .atLink directory _ _ => disk.entry? directory = some .directory

theorem IsTree.dropLast (tree : disk.IsTree) (there : disk.entry? here = some .directory) :
    disk.entry? here.dropLast = some .directory := by
  by_cases top : here = []
  · rw [top]
    rfl
  · refine tree.above there (List.dropLast_prefix here) fun same => ?_
    have shorter := congrArg List.length same
    have full := List.length_pos_of_ne_nil top
    rw [List.length_dropLast] at shorter
    omega

theorem Goes.stands (tree : disk.IsTree) (goes : Goes disk follow here steps stop)
    (there : disk.entry? here = some .directory) : stop.Stands disk := by
  induction goes with
  | stay => simp [Stop.Stands, there]
  | file _ standing | keep _ standing => simp [Stop.Stands, standing]
  | point _ ih => exact ih there
  | up _ ih => exact ih (tree.dropLast there)
  | enter _ standing _ ih => exact ih standing
  | free | halt => exact there

theorem entry?_startOf (there : disk.entry? here = some .directory) (path : String) :
    disk.entry? (startOf here path) = some .directory := by
  rw [startOf]
  split
  · rfl
  · exact there

theorem Walks.stands (tree : disk.IsTree) (walks : Walks disk follow links here steps spot)
    (there : disk.entry? here = some .directory) : (Stop.spot spot).Stands disk := by
  induction walks with
  | arrive goes => exact goes.stands tree there
  | @pass _ _ directory _ _ target _ goes _ ih =>
      exact ih (entry?_startOf (goes.stands tree there) target)

/-! ## Operations on a tree -/

/-- The tree is one, and the place where paths are read is a directory of it. -/
structure Rooted (disk : Disk) (workingDirectory : Location) : Prop where
  tree : disk.IsTree
  working : disk.entry? workingDirectory = some .directory

namespace Rooted

variable (rooted : disk.Rooted workingDirectory)

include rooted

theorem free {directory : Location}
    (located : disk.locate workingDirectory follow path = .ok (.free directory name)) :
    IsName name ∧ disk.entry? directory = some .directory := by
  have named : Named (directory ++ [name]) :=
    named_of_locate (rooted.tree.named rooted.working) located
  obtain ⟨-, walks⟩ := locate_eq_ok.mp located
  exact ⟨named name (by simp), walks.stands rooted.tree (entry?_startOf rooted.working path)⟩

theorem put (proper : IsName name) (parent : disk.entry? location = some .directory)
    (vacant : disk.entry? (location ++ [name]) ≠ some .directory) (entry : Entry) :
    (disk.put (location ++ [name]) entry).Rooted workingDirectory := by
  refine ⟨rooted.tree.put proper parent vacant entry, ?_⟩
  have differs : workingDirectory ≠ location ++ [name] := by
    rintro rfl
    exact vacant rooted.working
  rw [entry?_put_ne differs, rooted.working]

theorem replace (there : disk.entry? location = some entry) (other : entry ≠ .directory)
    (new : Entry) : (disk.put location new).Rooted workingDirectory := by
  induction location using List.reverseRecOn with
  | nil =>
      rw [entry?_root, Option.some.injEq] at there
      exact absurd there.symm other
  | append_singleton parent last _ =>
      obtain ⟨proper, standing⟩ := rooted.tree parent last entry there
      exact rooted.put proper standing (by simpa [there] using other) new

theorem makeDirectory (made : disk.makeDirectory workingDirectory path = .ok later) :
    later.Rooted workingDirectory := by
  obtain ⟨directory, name, located, rfl⟩ := makeDirectory_eq_ok.mp made
  obtain ⟨proper, parent⟩ := rooted.free located
  exact rooted.put proper parent (by simp [entry?_of_locate_free located]) _

theorem makeDirectories (made : disk.makeDirectories workingDirectory path = .ok later) :
    later.Rooted workingDirectory :=
  makeDirectoriesBack_induction (motive := fun disk => disk.Rooted workingDirectory)
    (fun rooted direct => rooted.makeDirectory direct) rooted made

theorem write (written : disk.write workingDirectory path payload = .ok later) :
    later.Rooted workingDirectory := by
  obtain ⟨-, spot, location, mode, located, -, rfl, ⟨rfl, old, standing⟩ |
    ⟨⟨directory, name, rfl, rfl⟩, rfl⟩⟩ := write_eq_ok written
  · exact rooted.replace standing (by simp) _
  · obtain ⟨proper, parent⟩ := rooted.free located
    exact rooted.put proper parent (by simp [entry?_of_locate_free located]) _

theorem setMode (changed : disk.setMode workingDirectory path mode = .ok later) :
    later.Rooted workingDirectory := by
  obtain ⟨place, -, ⟨payload, old, standing, rfl⟩ | ⟨-, rfl⟩⟩ := setMode_eq_ok changed
  · exact rooted.replace standing (by simp) _
  · exact rooted

theorem remove (other : disk.entry? location ≠ some .directory) :
    (disk.remove location).Rooted workingDirectory := by
  refine ⟨rooted.tree.remove location, ?_⟩
  exact ((rooted.tree.stands rooted.working).remove other) _ (List.prefix_refl _)

theorem rename (file : disk.resolve workingDirectory source = .ok place)
    (kind : disk.entry? place = some (.file payload mode))
    (moved : disk.rename workingDirectory source target = .ok later) :
    later.Rooted workingDirectory := by
  obtain ⟨taken, entry, located, -, goal⟩ := rename_eq_ok moved
  have movable := movable_of_rename file kind located
  have left := rooted.remove movable
  have kept {parent : Location} (standing : disk.entry? parent = some .directory) :
      entry? (disk.remove taken) parent = some .directory :=
    ((rooted.tree.stands standing).remove movable) parent (List.prefix_refl _)
  rcases goal with ⟨directory, name, free, rfl⟩ | ⟨other, found, replaceable, ⟨-, rfl⟩ | rfl⟩
  · obtain ⟨proper, parent⟩ := rooted.free free
    refine left.put proper (kept parent) (fun there => ?_) entry
    have before := entry?_of_remove there
    rw [entry?_of_locate_free free] at before
    cases before
  · exact rooted
  · obtain ⟨-, walks⟩ := locate_eq_ok.mp found
    have something : (disk.entry? other).isSome :=
      walks.stands rooted.tree (entry?_startOf rooted.working target)
    obtain ⟨old, there⟩ := Option.isSome_iff_exists.mp something
    rcases List.eq_nil_or_concat' other with rfl | ⟨parent, last, rfl⟩
    · exact absurd entry?_root replaceable
    · obtain ⟨proper, standing⟩ := rooted.tree parent last old there
      exact left.put proper (kept standing)
        (fun again => replaceable (entry?_of_remove again)) entry

end Rooted

/-! ## What a move leaves behind -/

theorem Replaceable.remove (replaceable : disk.Replaceable location) (place : Location) :
    (disk.remove place).Replaceable location := by
  cases stands : entry? (disk.remove place) location with
  | none => exact Or.inl stands
  | some entry =>
      rcases replaceable with missing | ⟨payload, mode, file⟩
      · rw [entry?_of_remove stands] at missing
        cases missing
      · rw [entry?_of_remove stands] at file
        exact Or.inr ⟨payload, mode, stands.trans file⟩

theorem IsTree.entry?_remove_ne (tree : disk.IsTree)
    (file : disk.entry? location = some (.file payload mode)) (differs : place ≠ location) :
    entry? (disk.remove location) place = disk.entry? place := by
  -- Below a file there is nothing to take away.
  by_cases below : location <+: place
  · have inner : place ≠ [] := by
      rintro rfl
      exact differs (List.prefix_nil.mp below).symm
    rw [entry?_remove_below below inner]
    cases stands : disk.entry? place with
    | none => rfl
    | some entry =>
        have directory := tree.above stands below differs.symm
        rw [file] at directory
        cases directory
  · exact entry?_remove_beside below

theorem IsTree.passes_remove (tree : disk.IsTree)
    (file : disk.entry? location = some (.file payload mode)) :
    Passes disk (disk.remove location) := by
  intro place entry stands unlike
  have differs : place ≠ location := by
    rintro rfl
    exact unlike payload mode (Option.some.inj (stands.symm.trans file))
  rw [tree.entry?_remove_ne file differs, stands]

def EndsPlain (disk : Disk) (workingDirectory : Location) (path : String) : Prop :=
  ∀ spot other, disk.locate workingDirectory false path = .ok spot →
    disk.entry? spot.place ≠ some (.link other)

theorem EndsPlain.followed (plain : disk.EndsPlain workingDirectory path)
    (located : disk.locate workingDirectory false path = .ok spot) :
    disk.locate workingDirectory true path = .ok spot := by
  obtain ⟨usable, walks⟩ := locate_eq_ok.mp located
  refine locate_eq_ok.mpr ⟨usable, walks.followed fun place other found => ?_⟩
  subst found
  exact plain _ other located

theorem IsTree.resolve_of_rename (tree : disk.IsTree)
    (led : disk.resolve workingDirectory source = .ok place)
    (file : disk.entry? place = some (.file payload mode))
    (plainSource : disk.EndsPlain workingDirectory source)
    (plainTarget : disk.EndsPlain workingDirectory target)
    (moved : disk.rename workingDirectory source target = .ok later) :
    ∃ goal, later.resolve workingDirectory target = .ok goal ∧
      later.entry? goal = some (.file payload mode) := by
  obtain ⟨taken, entry, located, standing, goal⟩ := rename_eq_ok moved
  have same := plainSource.followed located
  rw [resolve_eq_ok.mp led, Except.ok.injEq, Spot.found.injEq] at same
  subst same
  obtain rfl := Option.some.inj (file.symm.trans standing)
  have left := tree.passes_remove file
  rcases goal with ⟨directory, name, free, rfl⟩ | ⟨other, found, vacant, ⟨rfl, rfl⟩ | rfl⟩
  · have missing : disk.Replaceable (directory ++ [name]) := Or.inl (entry?_of_locate_free free)
    have passes := left.trans (passes_put (missing.remove place) (.file payload mode))
    have put : entry? ((disk.remove place).put (directory ++ [name]) (.file payload mode))
        (directory ++ [name]) = some (.file payload mode) := entry?_put_self (by simp)
    exact ⟨_, resolve_of_passes passes (plainTarget.followed free) put nofun, put⟩
  · exact ⟨other, resolve_eq_ok.mpr (plainTarget.followed found), file⟩
  · have inner : other ≠ [] := by
      rintro rfl
      exact vacant entry?_root
    have replaceable : disk.Replaceable other := by
      cases stands : disk.entry? other with
      | none => exact Or.inl stands
      | some old =>
          cases old with
          | file content bits => exact Or.inr ⟨content, bits, stands⟩
          | directory => exact absurd stands vacant
          | link further => exact absurd stands (plainTarget _ further found)
    have passes := left.trans (passes_put (replaceable.remove place) (.file payload mode))
    have put : entry? ((disk.remove place).put other (.file payload mode)) other =
        some (.file payload mode) := entry?_put_self inner
    exact ⟨_, resolve_of_passes passes (plainTarget.followed found) put nofun, put⟩

end DeployCheck.Disk
