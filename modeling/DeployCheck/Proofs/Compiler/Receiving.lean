import DeployCheck.Proofs.Compiler.Laying
import DeployCheck.Proofs.Sources
/-!
From the files that are read to the files that a compiler is given. The keys of a source tree that
has been read are proper and apart from each other, which is all that it takes to lay the sources
down again. So a compiler is started on just those files, under the same names and in their order,
unless a key is taken for an option or its path has become too long.
-/
namespace DeployCheck.Compiler

open Text Disk DeployCheck.Path

variable {host : Host} {base name : String} {paths : List String} {sources : SourceTree}
  {rest : Location}

/-! ## Keys that were read -/

theorem proper_of_fits (fits : Fits (names name)) (spelled : "/".intercalate (names name) = name)
    (full : names name ≠ []) (unsigned : name.toList.head? ≠ some '-') : Proper name := by
  refine ⟨?_, spelled, fits⟩
  have some_ : name ≠ "" := by
    rintro rfl
    exact full rfl
  have plain : isPlain name = true := spelled ▸ isPlain_intercalate fits.named
  simp [isSafeName, some_, plain, unsigned]

section

variable (rooted : host.disk.Rooted host.workingDirectory)
  (gathered : Sources.read host paths base = .ok sources)

include rooted gathered

theorem proper_of_read (unsigned : ∀ name ∈ sources.keys, name.toList.head? ≠ some '-') :
    ∀ name ∈ sources.keys, Proper name := by
  obtain ⟨root, -, mirrors, further⟩ := Sources.mirrors_of_read rooted gathered
  intro name member
  obtain ⟨full, fits⟩ := further name member
  exact proper_of_fits fits (mirrors.spelled name member) full (unsigned name member)

theorem apart_of_read : sources.keys.Pairwise Apart := by
  obtain ⟨root, -, mirrors, -⟩ := Sources.mirrors_of_read rooted gathered
  refine mirrors.ascending.imp_of_mem fun {one other} first second earlier => ?_
  have differs : one ≠ other := (TextMap.before_iff.mp earlier).ne
  exact ⟨fun leads => differs (mirrors.apart rooted first second leads),
    fun leads => differs (mirrors.apart rooted second first leads).symm⟩

end

/-- A source tree that was read is a part of the file tree, and its keys are accepted and apart from
each other. Wherever it is compiled, its sources are laid down just as they were read, unless a
mishap befalls one of them or its path below the fresh directory is too long. -/
theorem receives_what_was_read (rooted : host.disk.Rooted host.workingDirectory)
    (gathered : Sources.read host paths base = .ok sources)
    (unsigned : ∀ name ∈ sources.keys, name.toList.head? ≠ some '-') :
    (∃ root, host.disk.resolve host.workingDirectory base = .ok root ∧
      Sources.Mirrors host root paths sources) ∧
    (∀ name ∈ sources.keys, isSafeName name = true) ∧ sources.keys.Pairwise Apart ∧
    ∀ (compiler : Compiler) (optimize : Bool) (later begun after : Host) (dir : Location)
      (outcome : Except VerificationError Artifacts),
      later.disk.Rooted later.workingDirectory → later.makeScratch = (.ok dir, begun) → Fits dir →
      compiler.compile sources optimize later = (outcome, after) →
      Proceeds compiler sources optimize dir later begun after outcome := by
  have proper := proper_of_read rooted gathered unsigned
  have apart := apart_of_read rooted gathered
  obtain ⟨root, led, mirrors, -⟩ := Sources.mirrors_of_read rooted gathered
  refine ⟨⟨root, led, mirrors⟩, fun name member => (proper name member).safe, apart, ?_⟩
  intro compiler optimize later begun after dir outcome rootedThen made fits compiled
  exact proceeds_of_compile rootedThen proper apart made fits compiled

/-! ## Two sources -/

theorem entry?_empty (inner : rest ≠ []) : Disk.empty.entry? rest = none := by
  rw [entry?_of_ne_nil inner]
  rfl

theorem rooted_empty : Disk.empty.Rooted [] := by
  refine ⟨fun location name entry there => ?_, rfl⟩
  rw [entry?_empty (by simp)] at there
  cases there

def twoHost : Host where
  disk := ((((Disk.empty.put ["solc"] (.file ⟨[], some emptyProgram⟩ programMode)).put ["p"]
    .directory).put ["p", "a.sol"] (.file (.ofText "") newFileMode)).put ["p", "lib"]
    .directory).put ["p", "lib", "b.sol"] (.file (.ofText "b") newFileMode)
  network := .serving [] []
  workingDirectory := []
  scratch := []
  mishaps := []
  runs := []

theorem rooted_twoHost : twoHost.disk.Rooted twoHost.workingDirectory := by
  have proper (text : String) (segment : text ≠ "" ∧ '/' ∉ text.toList)
      (other : text ≠ "." ∧ text ≠ "..") : IsName text := ⟨segment, other⟩
  have add {disk : Disk} (rooted : disk.Rooted []) (above : Location) (name : String)
      (named : IsName name) (parent : disk.entry? above = some .directory)
      (vacant : disk.entry? (above ++ [name]) ≠ some .directory) (entry : Entry) :
      (disk.put (above ++ [name]) entry).Rooted [] := rooted.put named parent vacant entry
  have first := add rooted_empty [] "solc" (proper _ (by decide) (by decide)) rfl (by decide)
    (.file ⟨[], some emptyProgram⟩ programMode)
  have second := add first [] "p" (proper _ (by decide) (by decide)) rfl (by decide +kernel)
    .directory
  have third := add second ["p"] "a.sol" (proper _ (by decide) (by decide)) (by decide +kernel)
    (by decide +kernel) (.file (.ofText "") newFileMode)
  have fourth := add third ["p"] "lib" (proper _ (by decide) (by decide)) (by decide +kernel)
    (by decide +kernel) .directory
  exact add fourth ["p", "lib"] "b.sol" (proper _ (by decide) (by decide)) (by decide +kernel)
    (by decide +kernel) (.file (.ofText "b") newFileMode)

theorem read_twoHost : Sources.read twoHost ["p/lib/b.sol", "p/a.sol"] "p" =
    .ok [("a.sol", ""), ("lib/b.sol", "b")] := by
  decide +kernel

theorem fits_twoHost : Fits [".tmp0"] := by
  intro name member
  obtain rfl := List.mem_singleton.mp member
  exact ⟨⟨⟨by decide, by decide⟩, by decide, by decide⟩, by decide, by decide⟩

theorem receives_what_was_read_two :
    ∃ staged, Laid [".tmp0"] [("a.sol", ""), ("lib/b.sol", "b")] staged ∧
      Compiler.Starts ⟨"v0.4.7+", "/solc"⟩ [("a.sol", ""), ("lib/b.sol", "b")] true
        (staged.disk.programAt [".tmp0"] "/solc") twoHost
        (compile ⟨"v0.4.7+", "/solc"⟩ [("a.sol", ""), ("lib/b.sol", "b")] true twoHost).2
        (compile ⟨"v0.4.7+", "/solc"⟩ [("a.sol", ""), ("lib/b.sol", "b")] true twoHost).1 := by
  -- No mishap is to come and no path is too long, so the compiler is given both sources.
  have received := (receives_what_was_read rooted_twoHost read_twoHost (by decide)).2.2.2
    ⟨"v0.4.7+", "/solc"⟩ true twoHost _ _ [".tmp0"] _ rooted_twoHost (by rfl) fits_twoHost
    (Prod.eta _).symm
  generalize compile _ _ _ _ = compiled at received ⊢
  obtain ⟨outcome, after⟩ := compiled
  cases received with
  | started _ laid _ starts => exact ⟨_, laid, starts⟩
  | @hindered name reason member hindered =>
      rcases hindered with ⟨_, coming, -⟩ | ⟨-, long⟩
      · cases coming
      · have short : ∀ name ∈ ["a.sol", "lib/b.sol"], Short ([".tmp0"] ++ names name) := by
          decide +kernel
        exact absurd (short name member) long

/-! ## A key that is too long elsewhere -/

def deepName : String :=
  String.ofList (List.replicate 194 'a')

def deepDisk : Nat → Disk
  | 0 => .empty
  | depth + 1 => (deepDisk depth).put (List.replicate (depth + 1) deepName) .directory

def deepHost : Host where
  disk := (deepDisk 20).put (List.replicate 21 deepName) (.file (.ofText "") newFileMode)
  network := .serving [] []
  workingDirectory := []
  scratch := []
  mishaps := []
  runs := []

def deepKey : String :=
  "/".intercalate (List.replicate 21 deepName)

theorem utf8Length_replicate (count : Nat) (c : Char) :
    utf8Length (List.replicate count c) = count * c.utf8Size := by
  induction count with
  | zero => rw [Nat.zero_mul]; rfl
  | succ count ih =>
      rw [List.replicate_succ, Nat.succ_mul, ← ih, Nat.add_comm]
      rfl

theorem toList_deepName : deepName.toList = List.replicate 194 'a' :=
  String.toList_ofList

theorem utf8Length_deepName : utf8Length deepName.toList = 194 := by
  rw [toList_deepName, utf8Length_replicate]
  rfl

theorem eq_of_mem_deepName {c : Char} (member : c ∈ deepName.toList) : c = 'a' := by
  rw [toList_deepName] at member
  exact List.eq_of_mem_replicate member

theorem fits_deep (depth : Nat) : Fits (List.replicate depth deepName) := by
  have other (text : String) (short : utf8Length text.toList < 194) : deepName ≠ text := by
    rintro rfl
    rw [utf8Length_deepName] at short
    omega
  intro name member
  obtain rfl := List.eq_of_mem_replicate member
  refine ⟨⟨⟨other "" (by decide), fun slash => ?_⟩, other "." (by decide), other ".." (by decide)⟩,
    ?_, fun nul => ?_⟩
  · exact absurd (eq_of_mem_deepName slash) (by decide)
  · rw [utf8Length_deepName]
    decide
  · exact absurd (eq_of_mem_deepName nul) (by decide)

theorem rooted_deepDisk (depth : Nat) : (deepDisk depth).Rooted [] ∧
    entry? (deepDisk depth) (List.replicate depth deepName) = some .directory ∧
    ∀ further, depth < further →
      entry? (deepDisk depth) (List.replicate further deepName) = none := by
  induction depth with
  | zero => exact ⟨rooted_empty, rfl, fun further deeper => entry?_empty (by simp; omega)⟩
  | succ depth ih =>
      obtain ⟨rooted, stands, missing⟩ := ih
      have longer : List.replicate (depth + 1) deepName =
          List.replicate depth deepName ++ [deepName] := List.replicate_succ'
      have vacant := missing (depth + 1) (by omega)
      have proper : IsName deepName := (fits_deep 1 deepName (by simp)).1
      refine ⟨?_, entry?_put_self (by simp), fun further deeper => ?_⟩
      · rw [deepDisk, longer]
        rw [longer] at vacant
        exact rooted.put proper stands (by rw [vacant]; nofun) _
      · rw [deepDisk, entry?_put_ne fun same => ?_]
        · exact missing further (by omega)
        · have lengths := congrArg List.length same
          simp at lengths
          omega

theorem rooted_deepHost : deepHost.disk.Rooted deepHost.workingDirectory := by
  obtain ⟨rooted, stands, missing⟩ := rooted_deepDisk 20
  have vacant := missing 21 (by omega)
  rw [List.replicate_succ'] at vacant
  exact rooted.put (fits_deep 1 deepName (by simp)).1 stands (by rw [vacant]; nofun) _

theorem short_deep : Short (List.replicate 21 deepName) := by
  rw [Short, utf8Length_pathOf (by simp), List.map_replicate, List.sum_replicate_nat,
    utf8Length_deepName]
  decide

theorem not_short_below (name : String) : ¬ Short ([name] ++ List.replicate 21 deepName) := by
  rw [Short, utf8Length_pathOf (by simp), List.map_append, List.sum_append, List.map_replicate,
    List.sum_replicate_nat, utf8Length_deepName, List.map_singleton, List.sum_singleton,
    maxPathLength]
  omega

theorem read_deepHost : Sources.read deepHost [pathOf (List.replicate 21 deepName)] "/" =
    .ok [(deepKey, "")] := by
  have file : deepHost.disk.entry? (List.replicate 21 deepName) =
      some (.file (.ofText "") newFileMode) := entry?_put_self (by simp)
  have root : pathOf [] = "/" := rfl
  have full : List.replicate 21 deepName ≠ [] := by simp
  have fits := fits_deep 21
  have short := short_deep
  rw [← List.nil_append (List.replicate 21 deepName)] at fits short file
  have read := Sources.read_of_file rooted_deepHost fits short full file
  rwa [List.nil_append, root] at read

theorem unsigned_deepKey : deepKey.toList.head? ≠ some '-' := by
  intro signed
  have inside : '-' ∈ (pathOf (List.replicate 21 deepName)).toList := by
    rw [pathOf, String.toList_append]
    exact List.mem_append_right _ (List.mem_of_head? signed)
  rcases mem_pathOf.mp inside with slash | ⟨name, member, letter⟩
  · exact absurd slash (by decide)
  · rw [List.eq_of_mem_replicate member] at letter
    exact absurd (eq_of_mem_deepName letter) (by decide)

/-- The file can be read, but below a fresh directory its path is too long. -/
theorem not_receives_what_was_read : ¬ ∀ (host : Host) (paths : List String) (base : String)
    (sources : SourceTree), host.disk.Rooted host.workingDirectory →
    Sources.read host paths base = .ok sources →
    (∀ name ∈ sources.keys, name.toList.head? ≠ some '-') → host.mishaps = [] →
    (∃ dir begun, host.makeScratch = (.ok dir, begun)) → Prepares host sources := by
  intro always
  have names_ : names deepKey = List.replicate 21 deepName :=
    names_intercalate (fits_deep 21).named
  have unsigned : ∀ name ∈ TextMap.keys [(deepKey, "")], name.toList.head? ≠ some '-' :=
    fun name member => List.mem_singleton.mp member ▸ unsigned_deepKey
  have fresh : deepHost.makeScratch.1 = .ok [".tmp0"] := by decide +kernel
  obtain ⟨begun, made⟩ : ∃ begun, deepHost.makeScratch = (.ok [".tmp0"], begun) := by
    rw [← fresh]
    exact ⟨_, (Prod.eta _).symm⟩
  obtain ⟨dir, _, staged, again, written⟩ := always deepHost _ _ _ rooted_deepHost read_deepHost
    unsigned rfl ⟨_, _, made⟩
  obtain ⟨same, rfl⟩ := Prod.mk.inj (made.symm.trans again)
  obtain rfl := Except.ok.inj same
  have room : Room ([] ++ [".tmp0"]) [] begun := room_of_makeScratch rooted_deepHost made
  have proper := proper_of_read rooted_deepHost read_deepHost unsigned
  have apart := apart_of_read rooted_deepHost read_deepHost
  rcases room.stage fits_twoHost proper apart written with
    ⟨-, -, short⟩ | ⟨name, -, reason, failed, -⟩
  · have whole := short deepKey (by simp [TextMap.keys])
    rw [names_] at whole
    exact not_short_below _ whole
  · cases failed

end DeployCheck.Compiler
