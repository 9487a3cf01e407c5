import DeployCheck.Proofs.Sources
import Mathlib.Data.List.Forall2
import Mathlib.Data.List.Perm.Basic
/-!
Reading sources without loss. The files are read one after the other into a map, and the order of
the paths shows nowhere: every path gives a name and a text on its own, a name tells the place of
its file below the base directory, and a name that comes twice ends the reading. So a source tree
has exactly one text for each path, and reading fails only over one path or two of them.
-/
namespace DeployCheck

section Related

variable {α β : Type} {related : α → β → Prop} {xs zs : List α} {ys : List β}

theorem exists_forall₂ (each : ∀ x ∈ xs, ∃ y, related x y) : ∃ ys, List.Forall₂ related xs ys := by
  induction xs with
  | nil => exact ⟨[], .nil⟩
  | cons x rest ih =>
      obtain ⟨y, first⟩ := each x List.mem_cons_self
      obtain ⟨ys, others⟩ := ih fun z member => each z (List.mem_cons_of_mem x member)
      exact ⟨y :: ys, .cons first others⟩

theorem exists_of_forall₂ (all : List.Forall₂ related xs ys) {x : α} (member : x ∈ xs) :
    ∃ y ∈ ys, related x y := by
  induction all with
  | nil => cases member
  | cons first _ ih =>
      rcases List.mem_cons.mp member with rfl | later
      · exact ⟨_, List.mem_cons_self, first⟩
      · obtain ⟨y, inside, same⟩ := ih later
        exact ⟨y, List.mem_cons_of_mem _ inside, same⟩

theorem exists_sublist_of_forall₂ (all : List.Forall₂ related xs ys) (part : zs.Sublist xs) :
    ∃ ws, List.Forall₂ related zs ws ∧ ws.Sublist ys := by
  induction part generalizing ys with
  | slnil =>
      cases all
      exact ⟨[], .nil, .slnil⟩
  | cons x _ ih =>
      cases all with
      | cons _ others =>
          obtain ⟨ws, same, inside⟩ := ih others
          exact ⟨ws, same, inside.cons _⟩
  | cons_cons x _ ih =>
      cases all with
      | cons first others =>
          obtain ⟨ws, same, inside⟩ := ih others
          exact ⟨_, .cons first same, inside.cons_cons _⟩

end Related

namespace Sources

open Text DeployCheck.Path

variable {host : Host} {path base file root name text : String} {paths others : List String}
  {location above : Location} {sources later : SourceTree} {source : String × String}

/-! ## Reading one path after the other -/

def Gives (host : Host) (root path : String) (source : String × String) : Prop :=
  ∃ file, canonical host path = .ok file ∧ key file root = .ok source.1 ∧
    host.readText file = .ok source.2

theorem add_iff : add host root sources path = .ok later ↔
    ∃ source, Gives host root path source ∧ source.1 ∉ sources.keys ∧
      later = TextMap.insert source.1 source.2 sources := by
  constructor
  · intro added
    obtain ⟨file, name, text, found, given, held, fresh, rfl⟩ := add_eq_ok added
    exact ⟨(name, text), ⟨file, found, given, held⟩, fresh, rfl⟩
  · rintro ⟨⟨name, text⟩, ⟨file, found, given, held⟩, fresh, rfl⟩
    refine bind_eq_ok.mpr ⟨file, found, bind_eq_ok.mpr ⟨name, given, ?_⟩⟩
    simp only [held, TextMap.find?_eq_none.mpr fresh, Option.isSome_none, Bool.false_eq_true,
      if_false]

theorem foldlM_iff : paths.foldlM (add host root) sources = .ok later ↔
    ∃ found, List.Forall₂ (Gives host root) paths found ∧ (found.map Prod.fst).Nodup ∧
      (∀ source ∈ found, source.1 ∉ sources.keys) ∧
      later = found.foldl (fun map (key, value) => TextMap.insert key value map) sources := by
  induction paths generalizing sources with
  | nil =>
      constructor
      · intro folded
        exact ⟨[], .nil, List.nodup_nil, by simp, (Except.ok.inj folded).symm⟩
      · rintro ⟨_, ⟨⟩, -, -, rfl⟩
        rfl
  | cons path rest ih =>
      rw [List.foldlM_cons, bind_eq_ok]
      constructor
      · rintro ⟨next, added, folded⟩
        obtain ⟨source, given, fresh, rfl⟩ := add_iff.mp added
        obtain ⟨found, all, distinct, unused, rfl⟩ := ih.mp folded
        have differs : source.1 ∉ found.map Prod.fst := by
          intro member
          obtain ⟨other, inside, same⟩ := List.mem_map.mp member
          exact unused other inside (TextMap.mem_keys_insert.mpr (Or.inl same))
        refine ⟨source :: found, .cons given all, List.nodup_cons.mpr ⟨differs, distinct⟩, ?_, rfl⟩
        intro other member
        rcases List.mem_cons.mp member with rfl | inside
        · exact fresh
        · exact fun used => unused other inside (TextMap.mem_keys_insert.mpr (Or.inr used))
      · rintro ⟨_, _ | ⟨given, all⟩, distinct, unused, rfl⟩
        rename_i source found
        obtain ⟨differs, distinct⟩ := List.nodup_cons.mp distinct
        have fresh := unused source List.mem_cons_self
        refine ⟨_, add_iff.mpr ⟨source, given, fresh, rfl⟩, ih.mpr ⟨found, all, distinct, ?_, rfl⟩⟩
        intro other member used
        rcases TextMap.mem_keys_insert.mp used with same | older
        · exact differs (List.mem_map.mpr ⟨other, member, same⟩)
        · exact unused other (List.mem_cons_of_mem _ member) older

theorem read_iff : read host paths base = .ok sources ↔
    ∃ root found, canonical host base = .ok root ∧ List.Forall₂ (Gives host root) paths found ∧
      (found.map Prod.fst).Nodup ∧ sources = TextMap.ofList found := by
  rw [read, bind_eq_ok]
  constructor
  · rintro ⟨root, led, folded⟩
    obtain ⟨found, all, distinct, -, same⟩ := foldlM_iff.mp folded
    exact ⟨root, found, led, all, distinct, same⟩
  · rintro ⟨root, found, led, all, distinct, same⟩
    exact ⟨root, led, foldlM_iff.mpr ⟨found, all, distinct, fun _ _ => List.not_mem_nil, same⟩⟩

theorem read_perm (gathered : read host paths base = .ok sources) (same : paths.Perm others) :
    read host others base = .ok sources := by
  obtain ⟨root, found, led, all, distinct, rfl⟩ := read_iff.mp gathered
  obtain ⟨moved, allMoved, alike⟩ := List.perm_comp_forall₂ same.symm all
  have order := alike.symm
  refine read_iff.mpr ⟨root, moved, led, allMoved, ?_, TextMap.ofList_congr distinct order⟩
  exact (order.map Prod.fst).nodup_iff.mp distinct

/-! ## Names of files -/

section

variable (rooted : host.disk.Rooted host.workingDirectory)

include rooted

theorem Gives.led (led : host.disk.resolve host.workingDirectory base = .ok above)
    (gives : Gives host (Disk.pathOf above) path source) :
    host.disk.resolve host.workingDirectory path = .ok (above ++ names source.1) ∧
      names source.1 ≠ [] ∧ "/".intercalate (names source.1) = source.1 ∧
      Disk.Named (above ++ names source.1) := by
  have named := rooted.tree.named rooted.working
  obtain ⟨file, found, given, -⟩ := gives
  obtain ⟨location, ledFile, rfl⟩ := canonical_eq_ok found
  have namedFile := Disk.named_of_resolve named ledFile
  obtain ⟨rfl, below, spelled⟩ :=
    location_of_key namedFile given (Disk.named_of_resolve named led)
  exact ⟨ledFile, below, spelled, namedFile⟩

theorem Gives.canonical_eq (led : host.disk.resolve host.workingDirectory base = .ok above)
    (gives : Gives host (Disk.pathOf above) path source) :
    canonical host path = .ok (Path.join (Disk.pathOf above) source.1) := by
  obtain ⟨ledFile, below, spelled, named⟩ := gives.led rooted led
  have clean : ∀ text ∈ above, IsSegment text :=
    fun text member => (named text (List.mem_append_left _ member)).1
  have further : ∀ text ∈ names source.1, IsSegment text :=
    fun text member => (named text (List.mem_append_right _ member)).1
  have joined := join_intercalate clean further below
  rw [spelled] at joined
  rw [canonical, ledFile, joined]

theorem Gives.readText (gives : Gives host root path source) :
    host.readText path = .ok source.2 := by
  obtain ⟨file, found, -, held⟩ := gives
  obtain ⟨location, led, rfl⟩ := canonical_eq_ok found
  have named := Disk.named_of_resolve (rooted.tree.named rooted.working) led
  obtain ⟨-, program, mode, stands⟩ := Disk.readText_eq_ok named (rooted.unlinked led) held
  simp only [Host.readText, Disk.readText, Disk.readBytes, Disk.lookAt, led, stands,
    Utf8.decode?_eq_some.mpr rfl]

/-! ## What goes wrong -/

/-- What keeps the files at some paths from being the sources below a base directory. -/
inductive Amiss (host : Host) (base : String) (paths : List String) : Prop
  | twice {one other file : String} : [one, other].Sublist paths →
    canonical host one = .ok file → canonical host other = .ok file → Amiss host base paths
  | missing {path : String} : path ∈ paths → host.pathExists path = false → Amiss host base paths
  | unreadable {path file : String} : path ∈ paths → canonical host path = .ok file →
    (∀ text, host.readText file ≠ .ok text) → Amiss host base paths
  | isBase {path file : String} : path ∈ paths → canonical host path = .ok file →
    canonical host base = .ok file → Amiss host base paths
  | outside {path : String} {location above : Location} : path ∈ paths →
    host.disk.resolve host.workingDirectory path = .ok location →
    host.disk.resolve host.workingDirectory base = .ok above → ¬ above <+: location →
    Amiss host base paths

theorem pathExists_iff : host.pathExists path = true ↔ ∃ file, canonical host path = .ok file := by
  rw [canonical, Host.pathExists, Disk.pathExists, Disk.lookAt]
  cases led : host.disk.resolve host.workingDirectory path with
  | error reason => simp [Except.isOk, Except.toBool]
  | ok location =>
      obtain ⟨-, walks⟩ := Disk.locate_eq_ok.mp (Disk.resolve_eq_ok.mp led)
      have stands : (host.disk.entry? location).isSome :=
        walks.stands rooted.tree (Disk.entry?_startOf rooted.working path)
      obtain ⟨entry, there⟩ := Option.isSome_iff_exists.mp stands
      simp [there, Except.isOk, Except.toBool]

theorem exists_gives (led : host.disk.resolve host.workingDirectory base = .ok above)
    (sound : ¬ Amiss host base paths) (member : path ∈ paths) :
    ∃ source, Gives host (Disk.pathOf above) path source := by
  have canonicalBase : canonical host base = .ok (Disk.pathOf above) := by rw [canonical, led]
  have present : host.pathExists path = true := by
    by_contra absent
    exact sound (.missing member (Bool.not_eq_true _ ▸ absent))
  obtain ⟨file, found⟩ := (pathExists_iff rooted).mp present
  obtain ⟨location, ledFile, rfl⟩ := canonical_eq_ok found
  have inside : above <+: location := by
    by_contra beside
    exact sound (.outside member ledFile led beside)
  obtain ⟨rest, rfl⟩ := inside
  have below : rest ≠ [] := by
    rintro rfl
    rw [List.append_nil] at found
    exact sound (.isBase member found canonicalBase)
  have named := Disk.named_of_resolve (rooted.tree.named rooted.working) ledFile
  cases held : host.readText (Disk.pathOf (above ++ rest)) with
  | error reason =>
      refine absurd (Amiss.unreadable member found fun text read => ?_) sound
      rw [held] at read
      cases read
  | ok text => exact ⟨(_, text), _, found, key_append named below, held⟩

theorem nodup_of_sound (led : host.disk.resolve host.workingDirectory base = .ok above)
    (sound : ¬ Amiss host base paths) {found : List (String × String)}
    (all : List.Forall₂ (Gives host (Disk.pathOf above)) paths found) :
    (found.map Prod.fst).Nodup := by
  -- Two paths that give the same name lead to the same file.
  rw [List.nodup_iff_sublist]
  intro name repeated
  obtain ⟨pairs, inside, same⟩ := List.sublist_map_iff.mp repeated
  obtain ⟨one, other, rfl, left, right⟩ :
      ∃ one other, pairs = [one, other] ∧ name = one.1 ∧ name = other.1 := by
    rcases pairs with _ | ⟨one, _ | ⟨other, _ | _⟩⟩ <;> simp at same
    exact ⟨one, other, rfl, same⟩
  obtain ⟨listed, given, part⟩ := exists_sublist_of_forall₂ all.flip inside
  cases given with
  | cons first others =>
      cases others with
      | cons second none =>
          cases none
          refine sound (.twice part (Gives.canonical_eq rooted led first) ?_)
          rw [Gives.canonical_eq rooted led second, ← right, left]

theorem not_read_of_amiss (amiss : Amiss host base paths) :
    read host paths base ≠ .ok sources := by
  intro gathered
  obtain ⟨root, found, canonicalBase, all, distinct, -⟩ := read_iff.mp gathered
  obtain ⟨above, led, rfl⟩ := canonical_eq_ok canonicalBase
  cases amiss with
  | twice listed first second =>
      obtain ⟨pairs, given, inside⟩ := exists_sublist_of_forall₂ all listed
      match pairs, given with
      | [one, other], .cons (.intro _ left) (.cons (.intro _ right) .nil) =>
          obtain rfl := Except.ok.inj (left.1.symm.trans first)
          obtain rfl := Except.ok.inj (right.1.symm.trans second)
          have same := Except.ok.inj (left.2.1.symm.trans right.2.1)
          have repeated := inside.map Prod.fst
          simp only [List.map_cons, List.map_nil, same] at repeated
          exact List.nodup_iff_sublist.mp distinct _ repeated
  | missing member absent =>
      obtain ⟨source, -, file, led, -⟩ := exists_of_forall₂ all member
      rw [(pathExists_iff rooted).mpr ⟨file, led⟩] at absent
      cases absent
  | unreadable member led unread =>
      obtain ⟨source, -, file, again, -, held⟩ := exists_of_forall₂ all member
      obtain rfl := Except.ok.inj (led.symm.trans again)
      exact unread _ held
  | isBase member first second =>
      obtain ⟨source, -, gives⟩ := exists_of_forall₂ all member
      obtain ⟨ledFile, below, -, named⟩ := gives.led rooted led
      obtain rfl := Except.ok.inj (canonicalBase.symm.trans second)
      rw [canonical, ledFile, Except.ok.injEq] at first
      have same := congrArg names first
      rw [names_pathOf named, names_pathOf fun text member =>
        named text (List.mem_append_left _ member)] at same
      exact below (List.append_right_eq_self.mp same)
  | outside member ledFile ledBase beside =>
      obtain ⟨source, -, gives⟩ := exists_of_forall₂ all member
      obtain rfl := Except.ok.inj (led.symm.trans ledBase)
      obtain rfl := Except.ok.inj (ledFile.symm.trans (gives.led rooted led).1)
      exact beside (List.prefix_append _ _)

theorem exists_key (gathered : read host paths base = .ok sources) :
    ∃ root, canonical host base = .ok root ∧ ∀ path ∈ paths, ∃ name text,
      canonical host path = .ok (Path.join root name) ∧ host.readText path = .ok text ∧
      TextMap.find? sources name = some text ∧
      ∀ other ∈ sources.keys, canonical host path = .ok (Path.join root other) → other = name := by
  obtain ⟨root, found, canonicalBase, all, distinct, rfl⟩ := read_iff.mp gathered
  obtain ⟨above, led, rfl⟩ := canonical_eq_ok canonicalBase
  have order := TextMap.ofList_perm distinct
  have unique : (TextMap.ofList found).keys.Nodup :=
    (order.map Prod.fst).nodup_iff.mpr distinct
  refine ⟨_, canonicalBase, fun path member => ?_⟩
  obtain ⟨⟨name, text⟩, listed, gives⟩ := exists_of_forall₂ all member
  have stored := TextMap.find?_of_mem unique (order.mem_iff.mpr listed)
  have file := gives.canonical_eq rooted led
  refine ⟨name, text, file, gives.readText rooted, stored, fun other key same => ?_⟩
  obtain ⟨content, inside⟩ := TextMap.exists_of_mem_keys key
  obtain ⟨another, -, further⟩ := exists_of_forall₂ all.flip (order.mem_iff.mp inside)
  have fileOther := Gives.canonical_eq rooted led further
  obtain ⟨_, ledFile, given, -⟩ := gives
  obtain ⟨_, ledOther, givenOther, -⟩ := further
  obtain rfl := Except.ok.inj (ledFile.symm.trans (same.trans (fileOther.symm.trans ledOther)))
  exact Except.ok.inj (givenOther.symm.trans given)

/-- Reading sources is exact. A source tree has as many entries as there are paths, and each path
leads to the base directory joined with the one key under which the text of its file is kept; the
order of the paths makes no difference. There is no source tree exactly if the base directory is
missing, two paths lead to one file, or one of them leads to nothing, to no readable text, to the
base itself or out of it. -/
theorem read_exact (paths : List String) (base : String) :
    (∀ sources, read host paths base = .ok sources →
      sources.length = paths.length ∧
      (∃ root, canonical host base = .ok root ∧ ∀ path ∈ paths, ∃ name text,
        canonical host path = .ok (Path.join root name) ∧ host.readText path = .ok text ∧
        TextMap.find? sources name = some text ∧
        ∀ other ∈ sources.keys, canonical host path = .ok (Path.join root other) →
          other = name) ∧
      ∀ others, paths.Perm others → read host others base = .ok sources) ∧
    ((∃ fault, read host paths base = .error fault) ↔
      (∃ fault, canonical host base = .error fault) ∨ Amiss host base paths) := by
  refine ⟨fun sources gathered => ⟨?_, exists_key rooted gathered, fun others => ?_⟩, ?_, ?_⟩
  · obtain ⟨root, found, -, all, distinct, rfl⟩ := read_iff.mp gathered
    rw [(TextMap.ofList_perm distinct).length_eq, all.length_eq]
  · exact read_perm gathered
  · rintro ⟨fault, failed⟩
    by_contra sound
    rw [not_or] at sound
    cases canonicalBase : canonical host base with
    | error fault => exact sound.1 ⟨fault, canonicalBase⟩
    | ok root =>
        obtain ⟨above, led, rfl⟩ := canonical_eq_ok canonicalBase
        obtain ⟨found, all⟩ := exists_forall₂ fun path => exists_gives rooted led sound.2
        have distinct := nodup_of_sound rooted led sound.2 all
        rw [read_iff.mpr ⟨_, found, canonicalBase, all, distinct, rfl⟩] at failed
        cases failed
  · intro wrong
    cases gathered : read host paths base with
    | error fault => exact ⟨fault, rfl⟩
    | ok sources =>
        rcases wrong with ⟨fault, missing⟩ | amiss
        · obtain ⟨root, -, led, -⟩ := read_iff.mp gathered
          rw [missing] at led
          cases led
        · exact absurd gathered (not_read_of_amiss rooted amiss)

end

def linkedHost : Host where
  disk := ⟨[(["p"], .directory), (["p", "a.sol"], .file (.ofText "A") Disk.newFileMode),
    (["p", "lib"], .directory), (["p", "lib", "\u00fc.sol"], .file (.ofText "B") Disk.newFileMode),
    (["q"], .link "p/lib")]⟩
  network := .serving [] []
  workingDirectory := []
  scratch := []
  mishaps := []
  runs := []

theorem rooted_linkedHost : linkedHost.disk.Rooted linkedHost.workingDirectory :=
  ⟨Disk.isTree_of_entries (by decide +kernel), rfl⟩

theorem read_exact_linked :
    (∃ sources, read linkedHost ["q/\u00fc.sol", "p/./a.sol"] "p" = .ok sources ∧
      sources = [("a.sol", "A"), ("lib/\u00fc.sol", "B")] ∧
      read linkedHost ["p/./a.sol", "q/\u00fc.sol"] "p" = .ok sources ∧ sources.length = 2) ∧
    ∃ fault, read linkedHost ["q/\u00fc.sol", "p/lib/\u00fc.sol"] "p" = .error fault := by
  -- The link is no second way to name a file.
  have gathered : read linkedHost ["q/\u00fc.sol", "p/./a.sol"] "p" =
      .ok [("a.sol", "A"), ("lib/\u00fc.sol", "B")] := by decide +kernel
  obtain ⟨size, -, moved⟩ := (read_exact rooted_linkedHost _ _).1 _ gathered
  refine ⟨⟨_, gathered, rfl, moved _ (.swap _ _ _), size⟩, ?_⟩
  refine (read_exact rooted_linkedHost _ _).2.mpr (Or.inr ?_)
  have one : canonical linkedHost "q/\u00fc.sol" = .ok "/p/lib/\u00fc.sol" := by decide +kernel
  have other : canonical linkedHost "p/lib/\u00fc.sol" = .ok "/p/lib/\u00fc.sol" := by
    decide +kernel
  exact .twice (List.Sublist.refl _) one other

end Sources

end DeployCheck
