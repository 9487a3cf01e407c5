import DeployCheck.Proofs.Disk.Inside
import DeployCheck.Proofs.Disk.Raising
import DeployCheck.Proofs.Text.Utf8
namespace DeployCheck.Disk

open Text DeployCheck.Path

variable {disk later : Disk} {follow : Bool} {links : Nat}
  {here workingDirectory location above rest : Location} {steps : List String}
  {name text path : String} {mode : Nat} {spot : Spot}

/-! ## The text of an absolute path -/

def Fits (location : Location) : Prop :=
  ∀ name ∈ location, IsName name ∧ utf8Length name.toList ≤ maxNameLength ∧ '\x00' ∉ name.toList

def Short (location : Location) : Prop :=
  utf8Length (pathOf location).toList ≤ maxPathLength

instance (location : Location) : Decidable (Short location) :=
  inferInstanceAs (Decidable (_ ≤ _))

theorem Fits.named (fits : Fits location) : Named location :=
  fun name member => (fits name member).1

theorem Fits.isStep (fits : Fits location) (member : name ∈ location) : IsStep name :=
  ⟨(fits name member).1.2.1, (fits name member).1.2.2, (fits name member).2.1⟩

theorem Fits.mono (fits : Fits location) (within : above ⊆ location) : Fits above :=
  fun name member => fits name (within member)

theorem utf8Length_append (front back : List Char) :
    utf8Length (front ++ back) = utf8Length front + utf8Length back := by
  induction front with
  | nil => rw [List.nil_append, show utf8Length [] = 0 from rfl, Nat.zero_add]
  | cons c rest ih =>
      have first (text : List Char) : utf8Length (c :: text) = c.utf8Size + utf8Length text := rfl
      rw [List.cons_append, first, first, ih, Nat.add_assoc]

theorem pathOf_append (full : above ≠ []) (below : rest ≠ []) :
    pathOf (above ++ rest) = pathOf above ++ "/" ++ "/".intercalate rest := by
  rw [pathOf, pathOf, String.intercalate_append_of_ne_nil full below]
  simp only [String.append_assoc]

theorem utf8Length_pathOf_le (leads : above <+: location) :
    utf8Length (pathOf above).toList ≤ utf8Length (pathOf location).toList := by
  obtain ⟨rest, rfl⟩ := leads
  by_cases below : rest = []
  · rw [below, List.append_nil]
  by_cases full : above = []
  · rw [full, List.nil_append, pathOf, pathOf, String.intercalate_nil, String.append_empty,
      String.toList_append, utf8Length_append]
    exact Nat.le_add_right _ _
  · rw [pathOf_append full below, String.toList_append, String.toList_append, utf8Length_append,
      utf8Length_append, Nat.add_assoc]
    exact Nat.le_add_right _ _

theorem utf8Length_pathOf (full : location ≠ []) : utf8Length (pathOf location).toList =
    (location.map fun name => 1 + utf8Length name.toList).sum := by
  have slash : utf8Length "/".toList = 1 := by decide
  rw [pathOf, String.toList_append, utf8Length_append, slash]
  induction location with
  | nil => exact absurd rfl full
  | cons head more ih =>
      cases more with
      | nil => simp
      | cons next others =>
          rw [String.intercalate_cons_cons, String.toList_append, String.toList_append,
            utf8Length_append, utf8Length_append, slash, List.map_cons, List.sum_cons,
            ← ih (by simp)]
          omega

theorem Short.mono (short : Short location) (leads : above <+: location) : Short above :=
  Nat.le_trans (utf8Length_pathOf_le leads) short

theorem short_root : Short [] := by
  decide

theorem mem_pathOf {c : Char} :
    c ∈ (pathOf location).toList ↔ c = '/' ∨ ∃ name ∈ location, c ∈ name.toList := by
  have slash : "/".toList = ['/'] := rfl
  rw [pathOf, String.toList_append, slash, List.singleton_append, List.mem_cons]
  induction location with
  | nil => simp
  | cons head more ih =>
      cases more with
      | nil => simp
      | cons next others =>
          rw [String.intercalate_cons_cons, String.toList_append, String.toList_append, slash]
          simp only [List.mem_append, List.mem_singleton, List.exists_mem_cons_iff] at ih ⊢
          grind

theorem unusable?_pathOf (fits : Fits location) :
    unusable? (pathOf location) =
      if maxPathLength < utf8Length (pathOf location).toList then some .nameTooLong else none := by
  have clean : '\x00' ∉ (pathOf location).toList := by
    intro member
    rcases mem_pathOf.mp member with slash | ⟨name, inside, found⟩
    · exact absurd slash (by decide)
    · exact (fits name inside).2.2 found
  have full : pathOf location ≠ "" := by
    intro empty
    simp [pathOf] at empty
  rw [unusable?, if_neg clean, if_neg full]

theorem stepsOf_pathOf (named : Named location) (full : location ≠ []) :
    stepsOf (pathOf location) = location := by
  obtain ⟨above, last, rfl⟩ := (List.eq_nil_or_concat' location).resolve_left full
  have segments : ∀ text ∈ above ++ [last], IsSegment text := fun text member =>
    (named text member).1
  rw [stepsOf, segments_pathOf segments, endsInSlash_pathOf (segments last (by simp))]
  simp

/-! ## Ways through directories -/

theorem goes_of_stands (steps : ∀ name ∈ location, IsStep name)
    (stands : disk.Stands (here ++ location)) :
    Goes disk follow here location (.spot (.found (here ++ location))) := by
  induction location generalizing here with
  | nil =>
      rw [List.append_nil]
      exact .stay here
  | cons name more ih =>
      rw [← List.singleton_append, ← List.append_assoc] at stands ⊢
      refine .enter (steps name List.mem_cons_self) (stands _ (List.prefix_append _ _)) ?_
      exact ih (fun text member => steps text (List.mem_cons_of_mem name member)) stands

theorem walk_append (fits : Fits above) (stands : disk.Stands above) (links : Nat)
    (rest : List String) :
    disk.walk follow links [] (above ++ rest) = disk.walk follow links above rest := by
  have goes : Goes disk true [] above (.spot (.found above)) :=
    goes_of_stands (fun _ => fits.isStep) stands
  have same : disk.advance follow [] (above ++ rest) = disk.advance follow above rest :=
    goes.advance_append (stands above (List.prefix_refl _)) rest
  rw [walk, walk, same]

theorem locate_pathOf (fits : Fits location) (short : Short location) (full : location ≠ []) :
    disk.locate workingDirectory follow (pathOf location) =
      disk.walk follow maxLinks [] location := by
  rw [locate, unusable?_pathOf fits, if_neg (Nat.not_lt.mpr short),
    startOf_of_isAbsolute (isAbsolute_pathOf location), stepsOf_pathOf fits.named full]

theorem locate_of_not_short (fits : Fits location) (long : ¬ Short location) :
    disk.locate workingDirectory follow (pathOf location) = .error .nameTooLong := by
  rw [locate, unusable?_pathOf fits, if_pos (Nat.lt_of_not_le long)]

theorem locate_concat (fits : Fits (above ++ [name])) (short : Short (above ++ [name]))
    (stands : disk.Stands above)
    (unlinked : ∀ target, disk.entry? (above ++ [name]) ≠ some (.link target)) :
    disk.locate workingDirectory follow (pathOf (above ++ [name])) =
      if (disk.entry? (above ++ [name])).isSome then .ok (.found (above ++ [name]))
      else .ok (.free above name) := by
  obtain ⟨proper, fitting, -⟩ := fits name (by simp)
  rw [locate_pathOf fits short (by simp),
    walk_append (fits.mono (List.subset_append_left _ _)) stands,
    walk_name proper fun _ _ => unlinked, spotIn, if_neg (Nat.not_lt.mpr fitting)]

theorem locate_of_gap (fits : Fits (above ++ name :: rest)) (short : Short (above ++ name :: rest))
    (stands : disk.Stands above) (missing : disk.entry? (above ++ [name]) = none)
    (further : rest ≠ []) :
    disk.locate workingDirectory follow (pathOf (above ++ name :: rest)) = .error .notFound := by
  have member : name ∈ above ++ name :: rest := by simp
  obtain ⟨unpointed, downward, fitting⟩ := fits.isStep member
  rw [locate_pathOf fits short (by simp),
    walk_append (fits.mono (List.subset_append_left _ _)) stands, walk, advance, if_neg unpointed,
    if_neg downward, if_neg (Nat.not_lt.mpr fitting), missing]
  simp only [if_neg further]

theorem locate_root : disk.locate workingDirectory follow (pathOf []) = .ok (.found []) := by
  rfl

theorem resolve_pathOf (tree : disk.IsTree) (fits : Fits location) (short : Short location)
    (there : (disk.entry? location).isSome)
    (plain : ∀ target, disk.entry? location ≠ some (.link target)) :
    disk.resolve workingDirectory (pathOf location) = .ok location := by
  rw [resolve_eq_ok]
  rcases List.eq_nil_or_concat' location with rfl | ⟨above, name, rfl⟩
  · exact locate_root
  · obtain ⟨entry, stands⟩ := Option.isSome_iff_exists.mp there
    have standing := tree.stands (tree above name entry stands).2
    rw [locate_concat fits short standing plain, if_pos there]

theorem readText_pathOf (tree : disk.IsTree) (fits : Fits location) (short : Short location)
    (file : disk.entry? location = some (.file (.ofText text) mode)) :
    disk.readText workingDirectory (pathOf location) = .ok text := by
  have led : disk.resolve workingDirectory (pathOf location) = .ok location :=
    resolve_pathOf tree fits short (by simp [file]) (by simp [file])
  have spelled : Utf8.decode? (Payload.ofText text).bytes = some text :=
    Utf8.decode?_eq_some.mpr rfl
  simp only [readText, readBytes, lookAt, led, file, spelled]

/-! ## Paths that have been followed -/

theorem Goes.isStep (goes : Goes disk follow here steps (.spot spot)) (member : name ∈ steps)
    (unpointed : name ≠ ".") (downward : name ≠ "..") : IsStep name := by
  generalize ended : Stop.spot spot = stop at goes
  induction goes with
  | stay => cases member
  | point _ ih => exact ih ((List.mem_cons.mp member).resolve_left unpointed) ended
  | up _ ih => exact ih ((List.mem_cons.mp member).resolve_left downward) ended
  | free step | file step | keep step => exact List.mem_singleton.mp member ▸ step
  | enter step _ _ ih =>
      rcases List.mem_cons.mp member with rfl | later
      · exact step
      · exact ih later ended
  | halt => cases ended

theorem fits_of_locate (named : Named location) (unlinked : Unlinked disk [] location)
    (located : disk.locate workingDirectory follow (pathOf location) = .ok spot) :
    Fits location := by
  obtain ⟨usable, walks⟩ := locate_eq_ok.mp located
  have clean : '\x00' ∉ (pathOf location).toList := by
    intro member
    simp [unusable?, member] at usable
  have clear : Unlinked disk [] ((stepsOf (pathOf location)).filter (· ≠ ".")) := by
    rwa [filter_stepsOf, names_pathOf named]
  have down : ".." ∉ Path.segments (pathOf location) := by
    rw [Path.segments_pathOf fun text member => (named text member).1]
    exact fun member => (named ".." member).2.2 rfl
  rw [startOf_of_isAbsolute (isAbsolute_pathOf location)] at walks
  intro name member
  refine ⟨named name member, ?_, fun nul => clean (mem_pathOf.mpr (.inr ⟨name, member, nul⟩))⟩
  have inside : name ∈ stepsOf (pathOf location) := by
    rw [stepsOf_pathOf named (List.ne_nil_of_mem member)]
    exact member
  cases walks with
  | arrive goes => exact (goes.isStep inside (named name member).2.1 (named name member).2.2).2.2
  | pass goes _ =>
      obtain ⟨_, same, -⟩ := goes.down (down_of_segments down) clear
      cases same

theorem Goes.plain (tree : disk.IsTree) (goes : Goes disk true here steps (.spot (.found location)))
    (there : disk.entry? here = some .directory) (target : String) :
    disk.entry? location ≠ some (.link target) := by
  generalize ended : Stop.spot (.found location) = stop at goes
  induction goes with
  | stay =>
      obtain rfl := Spot.found.inj (Stop.spot.inj ended)
      simp [there]
  | file _ stands =>
      obtain rfl := Spot.found.inj (Stop.spot.inj ended)
      simp [stands]
  | point _ ih => exact ih there ended
  | up _ ih => exact ih (tree.dropLast there) ended
  | enter _ stands _ ih => exact ih stands ended
  | keep _ _ unfollowed => cases unfollowed
  | free | halt => cases ended

theorem Walks.plain (tree : disk.IsTree)
    (walks : Walks disk true links here steps (.found location))
    (there : disk.entry? here = some .directory) (target : String) :
    disk.entry? location ≠ some (.link target) := by
  generalize ended : Spot.found location = spot at walks
  induction walks with
  | arrive goes =>
      subst ended
      exact goes.plain tree there target
  | @pass _ _ directory _ _ other _ goes _ ih =>
      exact ih (entry?_startOf (goes.stands tree there) other) ended

theorem Rooted.unlinked (rooted : disk.Rooted workingDirectory)
    (led : disk.resolve workingDirectory path = .ok location) : Unlinked disk [] location := by
  obtain ⟨-, walks⟩ := locate_eq_ok.mp (resolve_eq_ok.mp led)
  have there := entry?_startOf rooted.working path
  obtain ⟨entry, stands⟩ : ∃ entry, disk.entry? location = some entry :=
    Option.isSome_iff_exists.mp (walks.stands rooted.tree there)
  intro way target leads
  by_cases whole : way = location
  · exact whole ▸ walks.plain rooted.tree there target
  · rw [List.nil_append, rooted.tree.above stands leads whole]
    nofun

theorem readText_eq_ok (named : Named location) (unlinked : Unlinked disk [] location)
    (read : disk.readText workingDirectory (pathOf location) = .ok text) :
    Fits location ∧
      ∃ program mode, disk.entry? location = some (.file ⟨Utf8.encode text, program⟩ mode) := by
  unfold readText readBytes lookAt at read
  cases led : disk.resolve workingDirectory (pathOf location) with
  | error reason => simp [led] at read
  | ok place =>
      have located := resolve_eq_ok.mp led
      refine ⟨fits_of_locate named unlinked located, ?_⟩
      obtain rfl : place = location := by
        obtain ⟨-, ⟨found, -⟩ | ⟨_, _, -, free, -⟩⟩ := endsBelow_pathOf named unlinked located
        · exact Spot.found.inj found
        · cases free
      cases stands : disk.entry? place with
      | none => simp [led, stands] at read
      | some entry =>
          cases entry with
          | directory | link => simp [led, stands] at read
          | file payload mode =>
              obtain ⟨bytes, program⟩ := payload
              simp only [led, stands] at read
              split at read
              · rename_i spelled
                obtain rfl := Except.ok.inj read
                exact ⟨program, mode, by rw [Utf8.decode?_eq_some.mp spelled]⟩
              · cases read

/-! ## Paths read from a directory on the way -/

section

variable {place : Location} {front back : List String} {last : String} {stop : Stop}

theorem Goes.behind (named : Named front) (stands : disk.Stands (here ++ front))
    (goes : Goes disk follow here (front ++ back) stop) :
    Goes disk follow (here ++ front) back stop := by
  induction front generalizing here with
  | nil => rwa [List.append_nil]
  | cons head more ih =>
      obtain ⟨-, unpointed, downward⟩ := named head List.mem_cons_self
      have whole : here ++ head :: more = here ++ [head] ++ more := by simp
      rw [whole] at stands ⊢
      have entered := stands (here ++ [head]) (List.prefix_append _ _)
      rw [List.cons_append] at goes
      generalize left : more ++ back = steps at goes
      cases goes with
      | point => exact absurd rfl unpointed
      | up => exact absurd rfl downward
      | enter _ _ goes =>
          have others : Named more := fun text member => named text (List.mem_cons_of_mem _ member)
          exact ih others stands (left ▸ goes)
      | free _ missing => simp [entered] at missing
      | file _ file => simp [entered] at file
      | keep _ link | halt _ link => simp [entered] at link

theorem Walks.behind (named : Named front) (stands : disk.Stands front)
    (walks : Walks disk follow links [] (front ++ back) spot) :
    Walks disk follow links front back spot := by
  cases walks with
  | arrive goes => exact .arrive (goes.behind named stands)
  | pass goes walks => exact .pass (goes.behind named stands) walks

theorem stepsOf_join_pathOf (clean : Named (above ++ [last])) (plain : isPlain name = true)
    (full : name ≠ "") :
    stepsOf (join (pathOf (above ++ [last])) name) = above ++ [last] ++ stepsOf name := by
  have ending : endsInSlash (join (pathOf (above ++ [last])) name) = endsInSlash name := by
    have chars : name.toList ≠ [] := by simpa using full
    rw [join_pathOf (isSegment_last clean) (isAbsolute_of_isPlain plain), endsInSlash, endsInSlash,
      String.toList_append, List.getLast?_append_of_ne_nil _ chars]
  rw [stepsOf, stepsOf, segments_join clean plain, ending, List.append_assoc]

theorem unusable?_eq_none {path : String} : unusable? path = none ↔
    '\x00' ∉ path.toList ∧ path ≠ "" ∧ utf8Length path.toList ≤ maxPathLength := by
  unfold unusable?
  split
  · simp [*]
  · split
    · simp [*]
    · split
      · simp [*]
      · simp only [true_iff]
        exact ⟨‹_›, ‹_›, Nat.le_of_not_lt ‹_›⟩

theorem unusable?_of_append {start : String} (usable : unusable? (start ++ name) = none)
    (full : name ≠ "") : unusable? name = none := by
  obtain ⟨clean, -, short⟩ := unusable?_eq_none.mp usable
  rw [String.toList_append] at clean short
  rw [utf8Length_append] at short
  refine unusable?_eq_none.mpr ⟨fun nul => clean (List.mem_append_right _ nul), full, ?_⟩
  exact Nat.le_trans (Nat.le_add_left _ _) short

theorem resolve_of_join (clean : Named (above ++ [last])) (stands : disk.Stands (above ++ [last]))
    (plain : isPlain name = true) (full : name ≠ "")
    (led : disk.resolve workingDirectory (join (pathOf (above ++ [last])) name) = .ok place) :
    disk.resolve (above ++ [last]) name = .ok place := by
  obtain ⟨usable, walks⟩ := locate_eq_ok.mp (resolve_eq_ok.mp led)
  rw [startOf_of_isAbsolute (Path.isAbsolute_join clean plain), stepsOf_join_pathOf clean plain full]
    at walks
  rw [join_pathOf (isSegment_last clean) (isAbsolute_of_isPlain plain)] at usable
  refine resolve_eq_ok.mpr (locate_eq_ok.mpr ⟨unusable?_of_append usable full, ?_⟩)
  rw [startOf_of_relative (isAbsolute_of_isPlain plain)]
  exact walks.behind clean stands

end

/-! ## Making what is missing -/

def Vacant (disk : Disk) (location : Location) : Prop :=
  ∀ way entry, way <+: location → disk.entry? way = some entry → entry = .directory

theorem Vacant.mono (vacant : disk.Vacant location) (leads : above <+: location) :
    disk.Vacant above :=
  fun way entry further => vacant way entry (further.trans leads)

theorem Vacant.unlinked (vacant : disk.Vacant location) : Unlinked disk [] location := by
  intro way target leads linked
  cases vacant way _ leads linked

theorem Vacant.gap (vacant : disk.Vacant location) (tree : disk.IsTree)
    (missing : disk.entry? location = none) :
    ∃ above name rest, location = above ++ name :: rest ∧ disk.Stands above ∧
      disk.entry? (above ++ [name]) = none := by
  induction location using List.reverseRecOn with
  | nil => cases missing
  | append_singleton above last ih =>
      have leads := List.prefix_append above [last]
      cases standing : disk.entry? above with
      | none =>
          obtain ⟨upper, name, rest, rfl, stands, first⟩ := ih (vacant.mono leads) standing
          exact ⟨upper, name, rest ++ [last], by simp, stands, first⟩
      | some entry =>
          obtain rfl := vacant above entry leads standing
          exact ⟨above, last, [], rfl, tree.stands standing, missing⟩

theorem isDirectory_pathOf (tree : disk.IsTree) (fits : Fits location) (short : Short location)
    (stands : disk.entry? location = some .directory) :
    disk.isDirectory workingDirectory (pathOf location) = true := by
  have led : disk.resolve workingDirectory (pathOf location) = .ok location :=
    resolve_pathOf tree fits short (by simp [stands]) (by simp [stands])
  simp only [isDirectory, lookAt, led, stands]

theorem makeDirectory_of_stands (tree : disk.IsTree) (fits : Fits location) (short : Short location)
    (stands : disk.entry? location = some .directory) :
    disk.makeDirectory workingDirectory (pathOf location) = .error .exists := by
  have found : disk.locate workingDirectory false (pathOf location) = .ok (.found location) := by
    rcases List.eq_nil_or_concat' location with rfl | ⟨above, name, rfl⟩
    · exact locate_root
    · rw [locate_concat fits short (tree.stands (tree above name _ stands).2) (by simp [stands]),
        if_pos (by simp [stands])]
  simp only [makeDirectory, found]

theorem makeDirectory_concat (fits : Fits (above ++ [name])) (short : Short (above ++ [name]))
    (stands : disk.Stands above) (missing : disk.entry? (above ++ [name]) = none) :
    disk.makeDirectory workingDirectory (pathOf (above ++ [name])) =
      .ok (disk.put (above ++ [name]) .directory) := by
  have free : disk.locate workingDirectory false (pathOf (above ++ [name])) =
      .ok (.free above name) := by
    rw [locate_concat fits short stands (by simp [missing]), if_neg (by simp [missing])]
  simp only [makeDirectory, free]

theorem makeDirectory_of_gap (fits : Fits (above ++ name :: rest))
    (short : Short (above ++ name :: rest)) (stands : disk.Stands above)
    (missing : disk.entry? (above ++ [name]) = none) (further : rest ≠ []) :
    disk.makeDirectory workingDirectory (pathOf (above ++ name :: rest)) = .error .notFound := by
  simp only [makeDirectory, locate_of_gap fits short stands missing further]

theorem Raised.missing (raised : Raised disk later above)
    (missing : disk.entry? location = none) (beside : ¬ location <+: above) :
    later.entry? location = none := by
  rcases raised.added location with same | ⟨-, leads, -⟩
  · rw [same, missing]
  · exact absurd leads beside

theorem makeDirectories_concat (named : Named (above ++ [name])) :
    disk.makeDirectories workingDirectory (pathOf (above ++ [name])) =
      match disk.makeDirectory workingDirectory (pathOf (above ++ [name])) with
      | .ok disk => .ok disk
      | .error .notFound =>
        match disk.makeDirectories workingDirectory (pathOf above) with
        | .error reason => .error reason
        | .ok disk =>
          match disk.makeDirectory workingDirectory (pathOf (above ++ [name])) with
          | .ok disk => .ok disk
          | .error reason =>
            if disk.isDirectory workingDirectory (pathOf (above ++ [name])) then .ok disk
            else .error reason
      | .error reason =>
        if disk.isDirectory workingDirectory (pathOf (above ++ [name])) then .ok disk
        else .error reason := by
  have written := Path.ofComponents_names (above ++ [name])
  have higher : components (pathOf above) = .root :: above.map .name :=
    components_pathOf fun text member => named text (List.mem_append_left _ member)
  rewrite [makeDirectories, makeDirectories, components_pathOf named, higher, List.map_append,
    List.map_singleton, ← List.cons_append, List.reverse_append, List.reverse_singleton,
    List.singleton_append, makeDirectoriesBack, List.reverse_cons, List.reverse_reverse,
    List.cons_append, ← List.map_singleton, ← List.map_append, written]
  rfl

theorem makeDirectories_of_vacant (tree : disk.IsTree) (fits : Fits location)
    (short : Short location) (vacant : disk.Vacant location) :
    ∃ later, disk.makeDirectories workingDirectory (pathOf location) = .ok later := by
  induction location using List.reverseRecOn with
  | nil => exact ⟨disk, by rfl⟩
  | append_singleton above last ih =>
      have leads := List.prefix_append above [last]
      obtain ⟨between, made⟩ := ih (fits.mono leads.subset) (short.mono leads) (vacant.mono leads)
      have raised := raised_of_makeDirectories (fits.mono leads.subset).named
        (vacant.mono leads).unlinked made
      rw [makeDirectories_concat fits.named]
      cases standing : disk.entry? (above ++ [last]) with
      | some entry =>
          obtain rfl := vacant _ entry (List.prefix_refl _) standing
          simp only [makeDirectory_of_stands tree fits short standing,
            isDirectory_pathOf tree fits short standing, if_true]
          exact ⟨disk, rfl⟩
      | none =>
          obtain ⟨upper, name, rest, whole, stands, missing⟩ := vacant.gap tree standing
          by_cases direct : rest = []
          · subst direct
            obtain ⟨rfl, same⟩ := List.append_inj' whole rfl
            obtain rfl := List.singleton_inj.mp same
            simp only [makeDirectory_concat fits short stands missing]
            exact ⟨_, rfl⟩
          · have refused : disk.makeDirectory workingDirectory (pathOf (above ++ [last])) =
                .error .notFound := by
              rw [whole] at fits short ⊢
              exact makeDirectory_of_gap fits short stands missing direct
            simp only [refused, made,
              makeDirectory_concat fits short raised.stands
                (raised.missing standing (not_prefix_above above last))]
            exact ⟨_, rfl⟩

theorem makeDirectories_of_not_short (fits : Fits location) (long : ¬ Short location) :
    disk.makeDirectories workingDirectory (pathOf location) = .error .nameTooLong := by
  have refused : disk.makeDirectory workingDirectory (pathOf location) = .error .nameTooLong := by
    simp only [makeDirectory, locate_of_not_short fits long]
  have nowhere : disk.isDirectory workingDirectory (pathOf location) = false := by
    simp only [isDirectory, lookAt, resolve, locate_of_not_short fits long]
  rcases List.eq_nil_or_concat' location with rfl | ⟨above, last, rfl⟩
  · exact absurd short_root long
  · rw [makeDirectories_concat fits.named]
    simp [refused, nowhere]

/-! ## Writing a file -/

variable (fits : Fits (above ++ [name]))

include fits

theorem write_of_free (short : Short (above ++ [name])) (stands : disk.Stands above)
    (missing : disk.entry? (above ++ [name]) = none) (payload : Payload) :
    disk.write workingDirectory (pathOf (above ++ [name])) payload =
      .ok (disk.put (above ++ [name]) (.file payload newFileMode)) := by
  have free : disk.locate workingDirectory true (pathOf (above ++ [name])) =
      .ok (.free above name) := by
    rw [locate_concat fits short stands (by simp [missing]), if_neg (by simp [missing])]
  rw [write, if_neg (by simp [endsInSlash_pathOf (fits name (by simp)).1.1])]
  simp only [free]

theorem write_of_not_short (long : ¬ Short (above ++ [name])) (payload : Payload) :
    disk.write workingDirectory (pathOf (above ++ [name])) payload = .error .nameTooLong := by
  rw [write, if_neg (by simp [endsInSlash_pathOf (fits name (by simp)).1.1])]
  simp only [locate_of_not_short fits long]

end DeployCheck.Disk
