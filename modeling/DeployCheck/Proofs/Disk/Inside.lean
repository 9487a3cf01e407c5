import DeployCheck.Proofs.Disk.Descent
import DeployCheck.Proofs.Disk.Trees
namespace DeployCheck.Disk

open Text

variable {disk later : Disk} {follow : Bool} {links : Nat}
  {here home location workingDirectory : Location} {steps rest other : List String}
  {name path target : String} {stop : Stop} {spot : Spot}

/-! ## Points -/

def Stop.pointless : Stop → Stop
  | .spot spot => .spot spot
  | .atLink directory target rest => .atLink directory target (rest.filter (· ≠ "."))

def Stop.Further (disk : Disk) : Stop → Prop
  | .spot (.found location) => disk.entry? location = some .directory
  | .spot (.free ..) => False
  | .atLink .. => True

theorem Goes.pointless (goes : Goes disk true here steps stop) (further : stop.Further disk) :
    Goes disk true here (steps.filter (· ≠ ".")) stop.pointless := by
  induction goes with
  | stay here => exact .stay here
  | point _ ih =>
      rw [List.filter_cons_of_neg (by simp)]
      exact ih further
  | up _ ih =>
      rw [List.filter_cons_of_pos (by decide)]
      exact .up (ih further)
  | free => exact further.elim
  | file _ stands => simp [Stop.Further, stands] at further
  | enter step stands _ ih =>
      rw [List.filter_cons_of_pos (by simpa using step.1)]
      exact .enter step stands (ih further)
  | keep _ stands => simp [Stop.Further, stands] at further
  | halt step stands =>
      rw [List.filter_cons_of_pos (by simpa using step.1)]
      exact .halt step stands (by simp)

theorem Goes.pointed (goes : Goes disk true here (steps.filter (· ≠ ".")) stop)
    (further : stop.Further disk) :
    ∃ pointed, Goes disk true here steps pointed ∧ pointed.pointless = stop.pointless := by
  induction steps generalizing here with
  | nil => exact ⟨stop, goes, rfl⟩
  | cons name rest ih =>
      by_cases point : name = "."
      · rw [List.filter_cons_of_neg (by simp [point])] at goes
        obtain ⟨pointed, went, same⟩ := ih goes
        exact ⟨pointed, point ▸ .point went, same⟩
      · rw [List.filter_cons_of_pos (by simpa using point)] at goes
        generalize left : rest.filter (· ≠ ".") = filtered at goes
        cases goes with
        | point => exact absurd rfl point
        | up goes =>
            obtain ⟨pointed, went, same⟩ := ih (left ▸ goes)
            exact ⟨pointed, .up went, same⟩
        | free => exact further.elim
        | file _ stands => simp [Stop.Further, stands] at further
        | enter step stands goes =>
            obtain ⟨pointed, went, same⟩ := ih (left ▸ goes)
            exact ⟨pointed, .enter step stands went, same⟩
        | keep _ stands => simp [Stop.Further, stands] at further
        | @halt _ _ target _ step stands =>
            refine ⟨.atLink here target rest, .halt step stands (by simp), ?_⟩
            simp only [Stop.pointless, ← left, List.filter_filter, Bool.and_self]

theorem Walks.pointed (walks : Walks disk true links here steps (.found home))
    (stands : disk.entry? home = some .directory)
    (same : other.filter (· ≠ ".") = steps.filter (· ≠ ".")) :
    Walks disk true links here other (.found home) := by
  generalize ended : Spot.found home = spot at walks
  induction walks generalizing other with
  | arrive goes =>
      subst ended
      obtain ⟨pointed, went, kept⟩ := (same ▸ goes.pointless stands).pointed (by exact stands)
      cases pointed with
      | spot spot =>
          simp only [Stop.pointless, Stop.spot.injEq] at kept
          exact kept ▸ .arrive went
      | atLink => cases kept
  | pass goes _ ih =>
      obtain ⟨pointed, went, kept⟩ := (same ▸ goes.pointless trivial).pointed trivial
      cases pointed with
      | spot => cases kept
      | atLink directory target rest =>
          simp only [Stop.pointless, List.filter_filter, Bool.and_self, Stop.atLink.injEq] at kept
          obtain ⟨rfl, rfl, left⟩ := kept
          exact .pass went (ih (by simp only [List.filter_append, left]) ended)

/-! ## Further on from a directory -/

theorem Goes.advance_append (goes : Goes disk true here steps (.spot (.found home)))
    (stands : disk.entry? home = some .directory) (more : List String) :
    disk.advance follow here (steps ++ more) = disk.advance follow home more := by
  generalize ended : Stop.spot (.found home) = stop at goes
  induction goes with
  | stay here =>
      obtain rfl := Spot.found.inj (Stop.spot.inj ended)
      rfl
  | point _ ih => rw [List.cons_append, Disk.advance, if_pos rfl, ih ended]
  | up _ ih => rw [List.cons_append, Disk.advance, if_neg (by decide), if_pos rfl, ih ended]
  | enter step standing _ ih =>
      rw [List.cons_append, Disk.advance, if_neg step.1, if_neg step.2.1,
        if_neg (Nat.not_lt.mpr step.2.2), standing]
      exact ih ended
  | file _ file =>
      obtain rfl := Spot.found.inj (Stop.spot.inj ended)
      simp [stands] at file
  | keep _ link =>
      obtain rfl := Spot.found.inj (Stop.spot.inj ended)
      simp [stands] at link
  | free | halt => cases ended

theorem Goes.advance_concat_link (goes : Goes disk true here steps (.atLink location target rest)) :
    disk.advance follow here (steps ++ [name]) = .ok (.atLink location target (rest ++ [name])) := by
  generalize ended : Stop.atLink location target rest = stop at goes
  induction goes with
  | point _ ih => rw [List.cons_append, Disk.advance, if_pos rfl, ih ended]
  | up _ ih => rw [List.cons_append, Disk.advance, if_neg (by decide), if_pos rfl, ih ended]
  | enter step standing _ ih =>
      rw [List.cons_append, Disk.advance, if_neg step.1, if_neg step.2.1,
        if_neg (Nat.not_lt.mpr step.2.2), standing]
      exact ih ended
  | halt step standing =>
      obtain ⟨rfl, rfl, rfl⟩ := Stop.atLink.inj ended
      rw [List.cons_append, Disk.advance, if_neg step.1, if_neg step.2.1,
        if_neg (Nat.not_lt.mpr step.2.2), standing]
      simp
  | stay | free | file | keep => cases ended

def spotIn (disk : Disk) (home : Location) (name : String) : Except OsError Spot :=
  if maxNameLength < utf8Length name.toList then .error .nameTooLong
  else if (disk.entry? (home ++ [name])).isSome then .ok (.found (home ++ [name]))
  else .ok (.free home name)

section

variable (proper : Path.IsName name)
  (unlinked : follow = true → utf8Length name.toList ≤ maxNameLength →
    ∀ target, disk.entry? (home ++ [name]) ≠ some (.link target))

include proper unlinked

theorem walk_name : disk.walk follow links home [name] = spotIn disk home name := by
  have stopped : disk.advance follow home [name] =
      (spotIn disk home name).map Stop.spot := by
    rw [advance, if_neg proper.2.1, if_neg proper.2.2, spotIn]
    split
    · rfl
    · rename_i short
      cases standing : disk.entry? (home ++ [name]) with
      | none => rfl
      | some entry =>
          cases entry with
          | file payload mode => rfl
          | directory => rfl
          | link target =>
              cases follow with
              | false => rfl
              | true => exact absurd standing (unlinked rfl (Nat.le_of_not_lt short) target)
  rw [walk, stopped]
  cases spotIn disk home name <;> rfl

theorem Walks.walk_concat (walks : Walks disk true links here steps (.found home))
    (stands : disk.entry? home = some .directory) :
    disk.walk follow links here (steps ++ [name]) = spotIn disk home name := by
  generalize ended : Spot.found home = spot at walks
  induction walks with
  | @arrive links here steps spot goes =>
      subst ended
      have same : disk.advance follow here (steps ++ [name]) = disk.advance follow home [name] :=
        goes.advance_append stands [name]
      have last : disk.walk follow links home [name] = spotIn disk home name :=
        walk_name proper unlinked
      rw [walk] at last ⊢
      rw [same, last]
  | pass goes _ ih =>
      rw [walk, goes.advance_concat_link]
      simp only
      rw [← List.append_assoc]
      exact ih ended

end

/-! ## Paths into a directory -/

theorem isAbsolute_of_isName (proper : Path.IsName name) : Path.isAbsolute name = false := by
  cases chars : name.toList with
  | nil => simp [Path.isAbsolute, chars]
  | cons c rest =>
      have differs : c ≠ '/' := by
        rintro rfl
        exact proper.1.2 (chars ▸ List.mem_cons_self)
      simpa [Path.isAbsolute, chars] using differs

theorem eq_append_slash (slashed : Path.endsInSlash path = true) : ∃ front, path = front ++ "/" := by
  have last : path.toList.getLast? = some '/' := by simpa [Path.endsInSlash] using slashed
  obtain ⟨front, chars⟩ := List.getLast?_eq_some_iff.mp last
  refine ⟨String.ofList front, String.toList_injective ?_⟩
  rw [String.toList_append, String.toList_ofList, chars]
  rfl

theorem endsInSlash_append {front : String} (proper : Path.IsName name) :
    Path.endsInSlash (front ++ name) = false := by
  have full : name.toList ≠ [] := by simpa using proper.1.1
  rw [Path.endsInSlash, String.toList_append, List.getLast?_append_of_ne_nil _ full]
  cases ending : name.toList.getLast? with
  | none => rfl
  | some c =>
      have differs : c ≠ '/' := fun same => proper.1.2 (same ▸ List.mem_of_getLast? ending)
      simpa using differs

theorem stepsOf_join (proper : Path.IsName name) (path : String) :
    stepsOf (Path.join path name) = Path.segments path ++ [name] := by
  have single := Path.segments_of_isSegment proper.1
  rw [Path.join, if_neg (by simp [isAbsolute_of_isName proper])]
  by_cases slashed : Path.endsInSlash path = true
  · obtain ⟨front, rfl⟩ := eq_append_slash slashed
    have bare : Path.segments (front ++ "/") = Path.segments front := by
      have cut := Path.segments_append front ""
      rwa [String.append_empty, Path.segments_empty, List.append_nil] at cut
    rw [if_pos (Or.inr slashed), stepsOf, endsInSlash_append proper, Path.segments_append, single,
      bare]
    simp
  · by_cases empty : path = ""
    · rw [if_pos (Or.inl empty), stepsOf, endsInSlash_append proper, empty, String.empty_append,
        single, Path.segments_empty]
      simp
    · rw [if_neg (by simp [empty, slashed]), stepsOf, endsInSlash_append proper,
        Path.segments_append, single]
      simp

theorem isAbsolute_join (proper : Path.IsName name) (path : String) :
    Path.isAbsolute (Path.join path name) = Path.isAbsolute path := by
  rw [Path.join, if_neg (by simp [isAbsolute_of_isName proper])]
  by_cases empty : path = ""
  · rw [if_pos (Or.inl empty), empty, String.empty_append, isAbsolute_of_isName proper]
    rfl
  · have chars : path.toList ≠ [] := by simpa using empty
    have heads (back : String) : Path.isAbsolute (path ++ back) = Path.isAbsolute path := by
      rw [Path.isAbsolute, Path.isAbsolute, String.toList_append,
        List.head?_append_of_ne_nil _ chars]
    split
    · exact heads name
    · rw [String.append_assoc, heads]

theorem startOf_join (proper : Path.IsName name) (path : String) :
    startOf workingDirectory (Path.join path name) = startOf workingDirectory path := by
  rw [startOf, startOf, isAbsolute_join proper]

structure Seat (disk : Disk) (workingDirectory : Location) (path : String) (home : Location) :
    Prop where
  walks : Walks disk true maxLinks (startOf workingDirectory path) (Path.segments path)
    (.found home)
  stands : disk.entry? home = some .directory

theorem seat_of_resolve (led : disk.resolve workingDirectory path = .ok home)
    (stands : disk.entry? home = some .directory) : disk.Seat workingDirectory path home := by
  obtain ⟨-, walks⟩ := locate_eq_ok.mp (resolve_eq_ok.mp led)
  refine ⟨walks.pointed stands ?_, stands⟩
  rw [filter_stepsOf]
  rfl

theorem Seat.congr {spelling : String} (seat : disk.Seat workingDirectory path home)
    (names : Path.names spelling = Path.names path)
    (start : Path.isAbsolute spelling = Path.isAbsolute path) :
    disk.Seat workingDirectory spelling home := by
  have begun : startOf workingDirectory spelling = startOf workingDirectory path := by
    rw [startOf, startOf, start]
  exact ⟨begun ▸ seat.walks.pointed seat.stands names, seat.stands⟩

/-! ## The last name of a path -/

def Stop.Last (name : String) : Stop → Prop
  | .spot spot => ∃ above, spot.place = above ++ [name]
  | .atLink _ _ rest => rest.getLast? = some name

theorem getLast?_cons_eq_some {head : String} (last : (head :: rest).getLast? = some name) :
    (rest = [] ∧ head = name) ∨ rest.getLast? = some name := by
  cases rest with
  | nil => exact Or.inl ⟨rfl, Option.some.inj last⟩
  | cons next more => exact Or.inr (by rwa [List.getLast?_cons_cons] at last)

theorem Goes.last (proper : Path.IsName name) (goes : Goes disk false here steps stop)
    (last : steps.getLast? = some name) : stop.Last name := by
  induction goes with
  | stay => cases last
  | point _ ih =>
      rcases getLast?_cons_eq_some last with ⟨-, same⟩ | further
      · exact absurd same.symm proper.2.1
      · exact ih further
  | up _ ih =>
      rcases getLast?_cons_eq_some last with ⟨-, same⟩ | further
      · exact absurd same.symm proper.2.2
      · exact ih further
  | free | file | keep =>
      obtain rfl := Option.some.inj last
      exact ⟨_, rfl⟩
  | @enter here _ _ _ _ _ goes ih =>
      -- Only behind the last name may the way end in the directory that is entered.
      rcases getLast?_cons_eq_some last with ⟨rfl, rfl⟩ | further
      · cases goes with
        | stay => exact ⟨here, rfl⟩
      · exact ih further
  | halt _ _ beyond =>
      rcases getLast?_cons_eq_some last with ⟨rfl, -⟩ | further
      · exact absurd ⟨rfl, rfl⟩ beyond
      · exact further

theorem Walks.last (proper : Path.IsName name) (walks : Walks disk false links here steps spot)
    (last : steps.getLast? = some name) : ∃ above, spot.place = above ++ [name] := by
  induction walks with
  | arrive goes => exact goes.last proper last
  | pass goes _ ih =>
      have ending : List.getLast? _ = some name := goes.last proper last
      exact ih (by rw [List.getLast?_append, ending, Option.some_or])

def NoLinkNamed (disk : Disk) (name : String) : Prop :=
  ∀ above target, disk.entry? (above ++ [name]) ≠ some (.link target)

theorem NoLinkNamed.put {entry : Entry} (unlinked : disk.NoLinkNamed name)
    (other : ∀ target, entry ≠ .link target) (inner : location ≠ []) :
    (disk.put location entry).NoLinkNamed name := by
  intro above target linked
  by_cases same : above ++ [name] = location
  · rw [same, entry?_put_self inner, Option.some.injEq] at linked
    exact other target linked
  · rw [entry?_put_ne same] at linked
    exact unlinked above target linked

theorem NoLinkNamed.makeDirectories (unlinked : disk.NoLinkNamed name)
    (made : disk.makeDirectories workingDirectory path = .ok later) : later.NoLinkNamed name := by
  refine makeDirectoriesBack_induction (motive := fun disk => disk.NoLinkNamed name)
    (fun unlinked direct => ?_) unlinked made
  obtain ⟨directory, last, -, rfl⟩ := makeDirectory_eq_ok.mp direct
  exact unlinked.put nofun (by simp)

theorem NoLinkNamed.endsPlain (unlinked : disk.NoLinkNamed name) (proper : Path.IsName name)
    (workingDirectory : Location) (path : String) :
    disk.EndsPlain workingDirectory (Path.join path name) := by
  intro spot target located
  obtain ⟨-, walks⟩ := locate_eq_ok.mp located
  rw [stepsOf_join proper] at walks
  obtain ⟨above, ended⟩ := walks.last proper List.getLast?_concat
  rw [ended]
  exact unlinked above target

/-! ## Directories that are there already -/

theorem Goes.unfollowed (goes : Goes disk true here steps stop) :
    Goes disk false here steps stop ∨
      ∃ location, Goes disk false here steps (.spot (.found location)) := by
  induction goes with
  | stay here => exact Or.inl (.stay here)
  | point _ ih => exact ih.imp .point fun ⟨location, goes⟩ => ⟨location, .point goes⟩
  | up _ ih => exact ih.imp .up fun ⟨location, goes⟩ => ⟨location, .up goes⟩
  | free step missing => exact Or.inl (.free step missing)
  | file step file => exact Or.inl (.file step file)
  | enter step standing _ ih =>
      exact ih.imp (.enter step standing) fun ⟨location, goes⟩ => ⟨location, .enter step standing goes⟩
  | keep step standing => exact Or.inr ⟨_, .keep step standing rfl⟩
  | @halt here name target rest step standing =>
      by_cases last : rest = []
      · subst last
        exact Or.inr ⟨_, .keep step standing rfl⟩
      · exact Or.inl (.halt step standing (by simp [last]))

theorem Walks.unfollowed (walks : Walks disk true links here steps (.found location)) :
    ∃ place, Walks disk false links here steps (.found place) := by
  generalize ended : Spot.found location = spot at walks
  induction walks with
  | arrive goes =>
      rcases goes.unfollowed with same | ⟨place, other⟩
      · exact ⟨location, .arrive (ended ▸ same)⟩
      · exact ⟨place, .arrive other⟩
  | pass goes _ ih =>
      rcases goes.unfollowed with same | ⟨place, other⟩
      · obtain ⟨place, further⟩ := ih ended
        exact ⟨place, .pass same further⟩
      · exact ⟨place, .arrive other⟩

theorem unusable?_eq_notFound (unusable : unusable? path = some .notFound) : path = "" := by
  rw [unusable?] at unusable
  split at unusable
  · cases unusable
  · split at unusable
    · assumption
    · split at unusable <;> cases unusable

theorem makeDirectory_of_walks (full : path ≠ "")
    (walks : Walks disk true maxLinks (startOf workingDirectory path) (stepsOf path)
      (.found home)) :
    ∃ reason, disk.makeDirectory workingDirectory path = .error reason ∧ reason ≠ .notFound := by
  obtain ⟨place, found⟩ := walks.unfollowed
  rw [makeDirectory, locate]
  cases usable : unusable? path with
  | some reason =>
      refine ⟨reason, rfl, ?_⟩
      rintro rfl
      exact full (unusable?_eq_notFound usable)
  | none =>
      simp only [walk_eq_ok.mpr found]
      exact ⟨.exists, rfl, by decide⟩

theorem Seat.makeDirectoriesBack_eq {front : List Path.Component}
    (seat : disk.Seat workingDirectory (Path.ofComponents front) home)
    (full : Path.ofComponents front = "" → front = [])
    (made : disk.makeDirectoriesBack workingDirectory front.reverse = .ok later) :
    later = disk := by
  cases steps : front.reverse with
  | nil =>
      rw [steps] at made
      exact (Except.ok.inj made).symm
  | cons last before =>
      have whole : (last :: before).reverse = front := by
        rw [← steps, List.reverse_reverse]
      have some_ : Path.ofComponents front ≠ "" := by
        intro empty
        rw [full empty] at steps
        cases steps
      -- The refusal is not that something is missing, so the directories above are not tried.
      obtain ⟨reason, refused, differs⟩ :=
        makeDirectory_of_walks some_ (seat.walks.pointed seat.stands (filter_stepsOf _))
      rw [steps, makeDirectoriesBack, whole, refused] at made
      split at made
      · contradiction
      · rename_i same
        exact absurd (Except.error.inj same) differs
      · split at made
        · exact (Except.ok.inj made).symm
        · cases made

theorem Seat.makeDirectories_eq (seat : disk.Seat workingDirectory path home)
    (made : disk.makeDirectories workingDirectory path = .ok later) : later = disk := by
  obtain ⟨names, start, full⟩ := Path.ofComponents_components path
  exact (seat.congr names start).makeDirectoriesBack_eq full made

end DeployCheck.Disk
