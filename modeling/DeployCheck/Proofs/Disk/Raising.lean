import DeployCheck.Proofs.Disk.Changes
import DeployCheck.Proofs.Disk.Descent
import DeployCheck.Proofs.Disk.Names
import Mathlib.Data.List.Induction
namespace DeployCheck.Disk

open Text

variable {disk between later : Disk} {workingDirectory location above place dir : Location}
  {path : String} {payload : Payload} {entry : Entry}

/-! ## Entries that count -/

def Unshadowed (disk : Disk) (dir : Location) : Prop :=
  ∀ place entry, (place, entry) ∈ disk.entries → dir <+: place → disk.entry? place = some entry

theorem Unshadowed.put (clear : disk.Unshadowed dir) (inner : location ≠ []) (entry : Entry) :
    (disk.put location entry).Unshadowed dir := by
  intro place other member below
  rcases mem_put member with same | ⟨older, differs⟩
  · obtain ⟨rfl, rfl⟩ := Prod.mk.inj same
    exact entry?_put_self inner
  · rw [entry?_put_ne differs]
    exact clear place other older below

/-! ## Raising directories -/

structure Raised (disk later : Disk) (location : Location) : Prop where
  stands : later.Stands location
  added : ∀ place, later.entry? place = disk.entry? place ∨
    (disk.entry? place = none ∧ place <+: location ∧ later.entry? place = some .directory)
  clear : ∀ dir, disk.Unshadowed dir → later.Unshadowed dir

theorem Raised.refl (stands : disk.Stands location) : Raised disk disk location :=
  ⟨stands, fun _ => Or.inl rfl, fun _ clear => clear⟩

theorem Raised.trans (leads : above <+: location) (first : Raised disk between above)
    (second : Raised between later location) : Raised disk later location := by
  refine ⟨second.stands, fun place => ?_, fun dir clear => second.clear dir (first.clear dir clear)⟩
  rcases second.added place with same | ⟨missing, way, raised⟩
  · rcases first.added place with kept | ⟨missing, way, raised⟩
    · exact Or.inl (same.trans kept)
    · exact Or.inr ⟨missing, way.trans leads, same.trans raised⟩
  · rcases first.added place with kept | ⟨-, -, early⟩
    · exact Or.inr ⟨kept ▸ missing, way, raised⟩
    · rw [missing] at early
      cases early

theorem Raised.unlinked (raised : Raised disk later above) (unlinked : Unlinked disk [] location) :
    Unlinked later [] location := by
  intro way target leads
  rcases raised.added ([] ++ way) with same | ⟨-, -, directory⟩
  · rw [same]
    exact unlinked way target leads
  · rw [directory]
    simp

theorem Raised.extends (raised : Raised disk later location) : Extends disk later := by
  intro place entry stands
  rcases raised.added place with same | ⟨missing, -, -⟩
  · rw [same, stands]
  · rw [missing] at stands
    cases stands

theorem Open.stands (opened : Open disk [] location)
    (last : location ≠ [] → disk.entry? location = some .directory) : disk.Stands location := by
  intro way leads
  by_cases top : way = []
  · rw [top, entry?_root]
  · by_cases whole : way = location
    · rw [whole]
      exact last (whole ▸ top)
    · exact opened way leads top whole

theorem Open.put (opened : Open disk [] location) (inner : location ≠ []) :
    (disk.put location .directory).Stands location := by
  refine Open.stands (fun way leads full short => ?_) fun _ => entry?_put_self inner
  rw [List.nil_append, entry?_put_ne short]
  exact opened way leads full short

section

variable (clean : Named location) (unlinked : Unlinked disk [] location)

include clean unlinked

theorem endsBelow_pathOf {follow : Bool} {spot : Spot}
    (located : disk.locate workingDirectory follow (pathOf location) = .ok spot) :
    EndsBelow disk [] location spot := by
  have down : ".." ∉ Path.segments (pathOf location) := by
    rw [Path.segments_pathOf fun text member => (clean text member).1]
    exact fun member => (clean ".." member).2.2 rfl
  have start : startOf workingDirectory (pathOf location) = [] :=
    startOf_of_isAbsolute (Path.isAbsolute_pathOf location)
  have ended := endsBelow_of_locate down (by rwa [start, Path.names_pathOf clean]) located
  rwa [start, Path.names_pathOf clean] at ended

theorem raised_of_makeDirectory
    (made : disk.makeDirectory workingDirectory (pathOf location) = .ok later) :
    Raised disk later location := by
  obtain ⟨directory, name, located, rfl⟩ := makeDirectory_eq_ok.mp made
  obtain ⟨opened, ⟨found, -⟩ | ⟨above, last, names, free, missing⟩⟩ :=
    endsBelow_pathOf clean unlinked located
  · cases found
  · obtain ⟨rfl, rfl⟩ := Spot.free.inj free
    rw [List.nil_append] at *
    rw [← names]
    have inner : location ≠ [] := by simp [names]
    refine ⟨opened.put inner, fun place => ?_, fun dir clear => clear.put inner _⟩
    by_cases same : place = location
    · subst same
      exact Or.inr ⟨missing, List.prefix_refl _, entry?_put_self inner⟩
    · exact Or.inl (entry?_put_ne same)

theorem stands_of_isDirectory
    (standing : disk.isDirectory workingDirectory (pathOf location) = true) :
    disk.Stands location := by
  rw [isDirectory, lookAt] at standing
  cases resolved : disk.resolve workingDirectory (pathOf location) with
  | error reason => simp [resolved] at standing
  | ok place =>
      obtain ⟨opened, ⟨found, -⟩ | ⟨above, last, -, free, -⟩⟩ :=
        endsBelow_pathOf clean unlinked (resolve_eq_ok.mp resolved)
      · obtain rfl : place = location := Spot.found.inj found
        refine opened.stands fun _ => ?_
        cases stands : disk.entry? place with
        | none => simp [resolved, stands] at standing
        | some entry =>
            cases entry with
            | file | link => simp [resolved, stands] at standing
            | directory => rfl
      · cases free

end

theorem raised_of_makeDirectoriesBack_cons {last : Path.Component} {before : List Path.Component}
    (clean : Named location) (unlinked : Unlinked disk [] location)
    (written : Path.ofComponents (last :: before).reverse = pathOf location)
    (higher : ∀ between, disk.makeDirectoriesBack workingDirectory before = .ok between →
      ∃ above, above <+: location ∧ Raised disk between above)
    (made : disk.makeDirectoriesBack workingDirectory (last :: before) = .ok later) :
    Raised disk later location := by
  rcases makeDirectoriesBack_cases made written with
    direct | ⟨rfl, there⟩ | ⟨between, -, raisedAbove, choice⟩
  · exact raised_of_makeDirectory clean unlinked direct
  · exact .refl (stands_of_isDirectory clean unlinked there)
  · obtain ⟨above, leads, raised⟩ := higher between raisedAbove
    have unlinkedThen := raised.unlinked unlinked
    rcases choice with direct | ⟨rfl, there⟩
    · exact raised.trans leads (raised_of_makeDirectory clean unlinkedThen direct)
    · exact raised.trans leads (.refl (stands_of_isDirectory clean unlinkedThen there))

theorem stands_root : disk.Stands [] := by
  intro way leads
  rw [List.prefix_nil.mp leads, entry?_root]

theorem raised_of_makeDirectories (clean : Named location) (unlinked : Unlinked disk [] location)
    (made : disk.makeDirectories workingDirectory (pathOf location) = .ok later) :
    Raised disk later location := by
  rw [makeDirectories, Path.components_pathOf clean] at made
  induction location using List.reverseRecOn generalizing later with
  | nil =>
      rw [List.map_nil, List.reverse_singleton] at made
      refine raised_of_makeDirectoriesBack_cons clean unlinked ?_ (fun between same => ?_) made
      · exact Path.ofComponents_names []
      · exact ⟨[], List.prefix_refl _, Except.ok.inj same ▸ .refl stands_root⟩
  | append_singleton above last ih =>
      rw [List.map_append, List.map_singleton, ← List.cons_append, List.reverse_append,
        List.reverse_singleton, List.singleton_append] at made
      refine raised_of_makeDirectoriesBack_cons clean unlinked ?_ (fun between raised => ?_) made
      · rw [List.reverse_cons, List.reverse_reverse]
        have written := Path.ofComponents_names (above ++ [last])
        rwa [List.map_append] at written
      · refine ⟨above, List.prefix_append _ _, ih ?_ ?_ raised⟩
        · exact fun text member => clean text (List.mem_append_left _ member)
        · exact fun way target leads => unlinked way target (leads.trans (List.prefix_append _ _))

/-! ## Writing below -/

theorem put_of_write (absolute : Path.isAbsolute path = true) (down : ".." ∉ Path.segments path)
    (unlinked : Unlinked disk [] (Path.names path))
    (written : disk.write workingDirectory path payload = .ok later) :
    Path.names path ≠ [] ∧ ∃ mode,
      later = disk.put (Path.names path) (.file payload mode) ∧
      ((∃ old, disk.entry? (Path.names path) = some (.file old mode)) ∨
        (disk.entry? (Path.names path) = none ∧ mode = newFileMode)) := by
  obtain ⟨-, spot, location, mode, located, inner, rfl, kind⟩ := write_eq_ok written
  have start : startOf workingDirectory path = [] := startOf_of_isAbsolute absolute
  have ended := endsBelow_of_locate down (by rwa [start]) located
  rw [start] at ended
  obtain ⟨-, ending⟩ := ended
  rcases kind with ⟨rfl, old, standing⟩ | ⟨⟨directory, name, rfl, rfl⟩, fresh⟩
  · rcases ending with ⟨found, -⟩ | ⟨_, _, -, free, -⟩
    · obtain rfl : location = Path.names path := Spot.found.inj found
      exact ⟨inner, mode, rfl, Or.inl ⟨old, standing⟩⟩
    · cases free
  · rcases ending with ⟨found, -⟩ | ⟨above, last, names, free, missing⟩
    · cases found
    · obtain ⟨rfl, rfl⟩ := Spot.free.inj free
      rw [names] at missing ⊢
      exact ⟨inner, mode, rfl, Or.inr ⟨missing, fresh⟩⟩

end DeployCheck.Disk
