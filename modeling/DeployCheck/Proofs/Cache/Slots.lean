import DeployCheck.Proofs.Cache.Runs
import DeployCheck.Proofs.Cache.Tables
/-!
Who may fill a slot. As long as a slot is empty, every call that may still have to fill it finds it
in the pending table under its own label, and at most one of them has the permit. So the calls that
are loading a label share one slot, and are one call.
-/
namespace DeployCheck.Cache

variable {α : Type}

/-- The slot that a call may still have to fill. -/
def Stage.wanted? : Stage α → Option Nat
  | missed slot | waiting slot | permitted slot | counted slot | loading slot _ => some slot
  | _ => none

theorem Stage.slot?_of_wanted? {stage : Stage α} {slot : Nat} (wanted : stage.wanted? = some slot) :
    stage.slot? = some slot := by
  cases stage <;> simp_all [wanted?, slot?]

theorem Stage.wanted?_of_permit? {stage : Stage α} {slot : Nat}
    (permitted : stage.permit? = some slot) : stage.wanted? = some slot := by
  cases stage <;> simp_all [wanted?, permit?]

/-- How a call stands to the tables and the loads, by its stage. -/
structure Call.Placed (made : Call α) (cache : Cache α) (loads : List (Load α)) : Prop where
  inside : ∀ slot, made.stage.slot? = some slot → slot < cache.slots.length
  pending : ∀ slot, made.stage.wanted? = some slot → cache.slotValue slot = none →
    List.lookup made.label cache.pending = some slot
  unfilled : ∀ slot, made.stage.permit? = some slot → cache.slotValue slot = none
  running : ∀ slot load, made.stage = .loading slot load →
    loads[load]? = some ⟨made.label, .running⟩
  filled : ∀ slot handle, made.stage = .served slot handle → cache.slotValue slot = some handle

namespace Call.Placed

variable {made : Call α} {cache next : Cache α} {loads : List (Load α)} {label : String}

theorem of_unwanting (inside : ∀ slot, made.stage.slot? = some slot → slot < cache.slots.length)
    (unwanting : made.stage.wanted? = none)
    (unserved : ∀ slot handle, made.stage ≠ .served slot handle) : made.Placed cache loads where
  inside := inside
  pending := fun slot wanted => by simp [unwanting] at wanted
  unfilled := fun slot permitted => by
    have wanted := Stage.wanted?_of_permit? permitted
    simp [unwanting] at wanted
  running := fun slot load loading => by simp [loading, Stage.wanted?] at unwanting
  filled := fun slot handle served => absurd served (unserved slot handle)

theorem of_free (free : made.stage.slot? = none) : made.Placed cache loads := by
  refine of_unwanting (fun slot held => ?_) ?_ ?_
  · rw [free] at held
    cases held
  · cases wanted : made.stage.wanted? with
    | none => rfl
    | some slot => rw [Stage.slot?_of_wanted? wanted] at free; cases free
  · intro slot handle served
    rw [served] at free
    cases free

theorem of_wanting {slot : Nat} (wanting : made.stage.wanted? = some slot)
    (inside : slot < cache.slots.length)
    (pending : cache.slotValue slot = none → List.lookup made.label cache.pending = some slot)
    (unfilled : made.stage.permit? = some slot → cache.slotValue slot = none)
    (running : ∀ load, made.stage = .loading slot load →
      loads[load]? = some ⟨made.label, .running⟩) : made.Placed cache loads where
  inside := by
    intro place held
    rw [Stage.slot?_of_wanted? wanting, Option.some.injEq] at held
    exact held ▸ inside
  pending := by
    intro place wanted
    rw [wanting, Option.some.injEq] at wanted
    exact wanted ▸ pending
  unfilled := by
    intro place permitted
    have same := Stage.wanted?_of_permit? permitted
    rw [wanting, Option.some.injEq] at same
    exact same ▸ unfilled (same ▸ permitted)
  running := by
    intro place load loading
    have same : place = slot := by simpa [loading, Stage.wanted?] using wanting
    exact running load (same ▸ loading)
  filled := by
    intro place handle served
    rw [served] at wanting
    cases wanting

theorem lookUp (placed : made.Placed cache loads) {outcome : Lookup α}
    (looked : cache.lookUp label = (outcome, next)) : made.Placed next loads := by
  cases outcome with
  | found handle =>
      rcases lookUp_found looked with ⟨-, rfl⟩ | ⟨-, -, rfl⟩
      · exact ⟨placed.inside, placed.pending, placed.unfilled, placed.running, placed.filled⟩
      · exact placed
  | missed slot =>
      obtain ⟨-, ⟨-, -, rfl⟩ | ⟨absent, -, rfl⟩⟩ := lookUp_missed looked
      · exact placed
      · refine ⟨?_, ?_, ?_, placed.running, ?_⟩
        · intro slot held
          rw [List.length_append, List.length_singleton]
          exact Nat.lt_succ_of_lt (placed.inside slot held)
        · intro slot wanted empty
          rw [slotValue_addSlot] at empty
          have found := placed.pending slot wanted empty
          have differs : made.label ≠ label := by
            intro same
            rw [same, absent] at found
            cases found
          rw [List.lookup_cons, beq_false_of_ne differs]
          exact found
        · intro slot permitted
          rw [slotValue_addSlot]
          exact placed.unfilled slot permitted
        · intro slot handle served
          rw [slotValue_addSlot]
          exact placed.filled slot handle served

theorem fill (placed : made.Placed cache loads) {slot : Nat} (empty : cache.slotValue slot = none)
    (foreign : made.stage.permit? ≠ some slot) (handle : α) :
    made.Placed (cache.fill slot handle) loads where
  inside := fun place held => by simpa [Cache.fill] using placed.inside place held
  pending := by
    intro place wanted open_
    have differs : place ≠ slot := by
      rintro rfl
      rw [slotValue_fill_self (placed.inside place (Stage.slot?_of_wanted? wanted))] at open_
      cases open_
    rw [slotValue_fill_ne differs] at open_
    exact placed.pending place wanted open_
  unfilled := by
    intro place permitted
    have differs : place ≠ slot := fun same => foreign (same ▸ permitted)
    rw [slotValue_fill_ne differs]
    exact placed.unfilled place permitted
  running := placed.running
  filled := by
    intro place other served
    have value := placed.filled place other served
    have differs : place ≠ slot := by
      rintro rfl
      rw [empty] at value
      cases value
    rw [slotValue_fill_ne differs]
    exact value

theorem forget (placed : made.Placed cache loads) {slot : Nat}
    (owner : List.lookup label cache.pending = some slot)
    (settled : made.stage.wanted? = some slot → cache.slotValue slot ≠ none) :
    made.Placed (cache.forget label) loads where
  inside := placed.inside
  pending := by
    intro place wanted empty
    have found := placed.pending place wanted empty
    have differs : made.label ≠ label := by
      intro same
      rw [same, owner, Option.some.injEq] at found
      exact settled (found ▸ wanted) (found ▸ empty)
    rw [lookup_forget, if_neg differs]
    exact found
  unfilled := placed.unfilled
  running := placed.running
  filled := placed.filled

theorem adopt (placed : made.Placed cache loads) {slot : Nat} {handle : α}
    (filled : cache.slotValue slot = some handle) (label : String) :
    made.Placed (cache.adopt label slot handle) loads := by
  by_cases owner : List.lookup label cache.pending = some slot
  · rw [adopt_of_owner owner]
    have forgotten := placed.forget owner (fun _ empty => by simp [filled] at empty)
    exact ⟨forgotten.inside, forgotten.pending, forgotten.unfilled, forgotten.running,
      forgotten.filled⟩
  · rw [adopt_of_not_owner owner]
    exact placed

theorem release (placed : made.Placed cache loads) {slot : Nat} {shared : Bool}
    (holds : made.stage.slot? = some slot → made.stage.wanted? = some slot → shared = true) :
    made.Placed (cache.release label slot shared) loads := by
  rcases release_cases cache label slot shared with ⟨owner, -, alone, same⟩ | same
  · rw [same]
    refine placed.forget owner fun wanted => ?_
    rw [holds (Stage.slot?_of_wanted? wanted) wanted] at alone
    cases alone
  · rw [same]
    exact placed

theorem of_loads (placed : made.Placed cache loads) {later : List (Load α)}
    (kept : ∀ slot load, made.stage = .loading slot load → later[load]? = loads[load]?) :
    made.Placed cache later :=
  ⟨placed.inside, placed.pending, placed.unfilled,
    fun slot load loading => (kept slot load loading).trans (placed.running slot load loading),
    placed.filled⟩

end Call.Placed

namespace Traffic

structure Slots (capacity : Nat) (traffic : Traffic α) : Prop where
  sound : traffic.cache.Sound capacity
  placed : ∀ (call : Nat) (made : Call α), traffic.calls[call]? = some made →
    made.Placed traffic.cache traffic.loads
  alone : ∀ (i j slot : Nat) (first second : Call α), traffic.calls[i]? = some first →
    traffic.calls[j]? = some second → first.stage.permit? = some slot →
    second.stage.permit? = some slot → i = j
  invoked : ∀ (load : Nat) (label : String), traffic.loads[load]? = some ⟨label, .running⟩ →
    ∃ call slot : Nat, traffic.calls[call]? = some ⟨label, .loading slot load⟩

variable {capacity call : Nat} {traffic next : Traffic α} {label : String}

theorem Slots.one_permit (slots : Slots capacity traffic) {i j s t : Nat} {first second : Call α}
    (here : traffic.calls[i]? = some first) (there : traffic.calls[j]? = some second)
    (same : first.label = second.label) (mine : first.stage.permit? = some s)
    (yours : second.stage.permit? = some t) : i = j := by
  have left := slots.placed i first here
  have right := slots.placed j second there
  have mineFound := left.pending s (Stage.wanted?_of_permit? mine) (left.unfilled s mine)
  have yoursFound := right.pending t (Stage.wanted?_of_permit? yours) (right.unfilled t yours)
  rw [same, yoursFound, Option.some.injEq] at mineFound
  exact slots.alone i j s first second here there mine (mineFound ▸ yours)

theorem Slots.one_load (slots : Slots capacity traffic) {i j s t load : Nat}
    {first second : Call α} (here : traffic.calls[i]? = some first)
    (there : traffic.calls[j]? = some second) (mine : first.stage = .loading s load)
    (yours : second.stage = .loading t load) : i = j := by
  have left := (slots.placed i first here).running s load mine
  have right := (slots.placed j second there).running t load yours
  rw [left, Option.some.injEq, Load.mk.injEq] at right
  exact slots.one_permit here there right.1 (s := s) (t := t) (by simp [mine, Stage.permit?])
    (by simp [yours, Stage.permit?])

theorem slots_idle (capacity : Nat) : Slots capacity (idle capacity : Traffic α) where
  sound := sound_empty capacity
  placed := fun _ _ found => nomatch found
  alone := fun _ _ _ _ _ found => nomatch found
  invoked := fun _ _ found => nomatch found

/-! ## One step -/

theorem Advance.sound {before after : Stage α} {cache : Cache α} {loads : List (Load α)}
    (advance : Advance traffic call label before after cache loads)
    (sound : traffic.cache.Sound capacity) : cache.Sound capacity := by
  cases advance with
  | find _ _ looked => exact sound.lookUp looked
  | miss _ _ looked => exact sound.lookUp looked
  | succeed slot _ handle => exact sound.fill slot handle
  | adopt slot handle => exact sound.adopt label slot handle
  | release slot fault => exact sound.release label slot _
  | countHit | countMiss | countLoad | countFailure =>
      exact ⟨sound.capacity_eq, sound.bound, sound.distinct, sound.apart, sound.made⟩
  | observe | permit | begin | fail | leave => exact sound

theorem setOutcome_ne {i load : Nat} (differs : i ≠ load) (outcome : Outcome α) :
    (traffic.setOutcome load outcome).loads[i]? = traffic.loads[i]? :=
  List.getElem?_modify_ne _ _ differs.symm

theorem setOutcome_self {load : Nat} {begun : Load α} (found : traffic.loads[load]? = some begun)
    (outcome : Outcome α) :
    (traffic.setOutcome load outcome).loads[load]? = some { begun with outcome } := by
  simp [setOutcome, found]

theorem isShared_of_other {i slot : Nat} {other : Call α}
    (present : traffic.calls[i]? = some other) (differs : i ≠ call)
    (held : other.stage.slot? = some slot) : traffic.isShared call slot = true := by
  rw [isShared, List.any_eq_true]
  exact ⟨other, List.mem_eraseIdx_iff_getElem?.mpr ⟨i, differs, present⟩, by simp [held]⟩

theorem isTaken_of_permit {i slot : Nat} {other : Call α}
    (present : traffic.calls[i]? = some other) (permitted : other.stage.permit? = some slot) :
    traffic.isTaken slot = true := by
  rw [isTaken, List.any_eq_true]
  exact ⟨other, List.mem_of_getElem? present, by simp [permitted]⟩

theorem Slots.placed_self (slots : Slots capacity traffic) {before after : Stage α}
    {cache : Cache α} {loads : List (Load α)} (made : traffic.calls[call]? = some ⟨label, before⟩)
    (advance : Advance traffic call label before after cache loads) :
    (⟨label, after⟩ : Call α).Placed cache loads := by
  have placed := slots.placed call _ made
  cases advance with
  | find => exact .of_free rfl
  | miss slot cache looked =>
      obtain ⟨-, ⟨found, -, rfl⟩ | ⟨-, rfl, rfl⟩⟩ := lookUp_missed looked
      · exact .of_wanting rfl (slots.sound.made label slot found) (fun _ => found)
          (by simp [Stage.permit?])
          (by simp)
      · exact .of_wanting rfl (by simp) (by simp) (by simp [Stage.permit?]) (by simp)
  | countHit => exact .of_free rfl
  | countMiss slot =>
      exact .of_wanting rfl (placed.inside slot rfl) (placed.pending slot rfl)
        (by simp [Stage.permit?])
        (by simp)
  | observe slot handle filled =>
      exact ⟨placed.inside, by simp [Stage.wanted?], by simp [Stage.permit?], by simp, by simp_all⟩
  | permit slot empty =>
      exact .of_wanting rfl (placed.inside slot rfl) (placed.pending slot rfl) (fun _ => empty)
        (by simp)
  | countLoad slot =>
      exact .of_wanting rfl (placed.inside slot rfl) (placed.pending slot rfl)
        (fun _ => placed.unfilled slot rfl) (by simp)
  | begin slot =>
      exact .of_wanting rfl (placed.inside slot rfl) (placed.pending slot rfl)
        (fun _ => placed.unfilled slot rfl) (by simp)
  | succeed slot load handle =>
      refine ⟨?_, by simp [Stage.wanted?], by simp [Stage.permit?], by simp, ?_⟩
      · intro place held
        rw [fill, List.length_set]
        exact placed.inside place held
      · intro place other served
        obtain ⟨rfl, rfl⟩ := Stage.served.inj served
        exact slotValue_fill_self (placed.inside slot rfl)
  | fail slot load fault => exact .of_unwanting placed.inside rfl (by simp)
  | adopt slot handle =>
      refine .of_unwanting ?_ rfl (by simp)
      exact (placed.adopt (placed.filled slot handle rfl) label).inside
  | countFailure slot fault => exact .of_unwanting placed.inside rfl (by simp)
  | release slot fault =>
      refine .of_unwanting ?_ rfl (by simp)
      exact (placed.release (by simp [Stage.wanted?])).inside
  | leave => exact .of_free rfl

theorem Slots.placed_other (slots : Slots capacity traffic) {before after : Stage α}
    {cache : Cache α} {loads : List (Load α)} (made : traffic.calls[call]? = some ⟨label, before⟩)
    (advance : Advance traffic call label before after cache loads) {i : Nat} {other : Call α}
    (present : traffic.calls[i]? = some other) (differs : i ≠ call) :
    other.Placed cache loads := by
  have placed := slots.placed call _ made
  have others := slots.placed i other present
  have foreign (slot load : Nat) (mine : before = .loading slot load) :
      ∀ place begun, other.stage = .loading place begun →
        ∀ outcome, (traffic.setOutcome load outcome).loads[begun]? = traffic.loads[begun]? := by
    intro place begun yours outcome
    apply setOutcome_ne
    rintro rfl
    exact differs (slots.one_load present made yours mine)
  cases advance with
  | find _ _ looked => exact others.lookUp looked
  | miss _ _ looked => exact others.lookUp looked
  | begin slot =>
      apply others.of_loads
      intro place load loading
      exact List.getElem?_append_left
        (List.getElem?_eq_some_iff.mp (others.running place load loading)).1
  | succeed slot load handle =>
      have empty := placed.unfilled slot rfl
      have unpermitted : other.stage.permit? ≠ some slot := fun permitted =>
        differs (slots.alone i call slot other _ present made permitted rfl)
      exact (others.fill empty unpermitted handle).of_loads
        fun place begun loading => foreign slot load rfl place begun loading _
  | fail slot load fault =>
      exact others.of_loads fun place begun loading => foreign slot load rfl place begun loading _
  | adopt slot handle => exact others.adopt (placed.filled slot handle rfl) label
  | release slot fault =>
      exact others.release fun held _ => isShared_of_other present differs held
  | countHit | countMiss | countLoad | countFailure =>
      exact ⟨others.inside, others.pending, others.unfilled, others.running, others.filled⟩
  | observe | permit | leave => exact others

theorem Advance.permit_before {before after : Stage α} {cache : Cache α} {loads : List (Load α)}
    (advance : Advance traffic call label before after cache loads) {slot : Nat}
    (permitted : after.permit? = some slot) :
    before.permit? = some slot ∨ traffic.isTaken slot = false := by
  cases advance with
  | permit place empty free =>
      cases permitted
      exact Or.inr free
  | countLoad | begin => exact Or.inl permitted
  | _ => cases permitted

theorem Advance.running_before {before after : Stage α} {cache : Cache α} {loads : List (Load α)}
    (advance : Advance traffic call label before after cache loads)
    (placed : (⟨label, before⟩ : Call α).Placed traffic.cache traffic.loads) {load : Nat}
    {owner : String} (running : loads[load]? = some ⟨owner, .running⟩) :
    (traffic.loads[load]? = some ⟨owner, .running⟩ ∧ ∀ slot, before ≠ .loading slot load) ∨
      (owner = label ∧ ∃ slot, after = .loading slot load) := by
  have settled (slot begun : Nat) (outcome : Outcome α) (ended : outcome ≠ .running)
      (mine : before = .loading slot begun)
      (found : (traffic.setOutcome begun outcome).loads[load]? = some ⟨owner, .running⟩) :
      traffic.loads[load]? = some ⟨owner, .running⟩ ∧ ∀ slot, before ≠ .loading slot load := by
    by_cases same : load = begun
    · rw [same, setOutcome_self (placed.running slot begun mine), Option.some.injEq,
        Load.mk.injEq] at found
      exact absurd found.2 ended
    · rw [setOutcome_ne same] at found
      refine ⟨found, fun place yours => ?_⟩
      rw [mine, Stage.loading.injEq] at yours
      exact same yours.2.symm
  cases advance with
  | begin slot =>
      rw [List.getElem?_append] at running
      split at running
      · exact Or.inl ⟨running, by simp⟩
      · rename_i beyond
        obtain ⟨inside, same⟩ := List.getElem?_eq_some_iff.mp running
        rw [List.length_singleton] at inside
        have last : load = traffic.loads.length := by omega
        rw [List.getElem_singleton, Load.mk.injEq] at same
        exact Or.inr ⟨same.1.symm, slot, by rw [last]⟩
  | succeed slot begun handle => exact Or.inl (settled slot begun _ (by simp) rfl running)
  | fail slot begun fault => exact Or.inl (settled slot begun _ (by simp) rfl running)
  | _ => exact Or.inl ⟨running, by simp⟩

theorem Slots.enter (slots : Slots capacity traffic) (label : String) :
    Slots capacity (traffic.enter label) where
  sound := slots.sound
  placed := by
    intro i made found
    rcases mem_enter found with older | rfl
    · exact slots.placed i made older
    · exact .of_free rfl
  alone := by
    intro i j slot first second here there mine yours
    rcases mem_enter here with here | rfl
    · rcases mem_enter there with there | rfl
      · exact slots.alone i j slot first second here there mine yours
      · cases yours
    · cases mine
  invoked := by
    intro load owner running
    obtain ⟨i, slot, found⟩ := slots.invoked load owner running
    exact ⟨i, slot, (List.getElem?_append_left (List.getElem?_eq_some_iff.mp found).1).trans found⟩

theorem Slots.advance (slots : Slots capacity traffic) (advances : traffic.Advances call next) :
    Slots capacity next := by
  obtain ⟨label, before, after, cache, loads, made, advance, rfl⟩ := advances
  refine ⟨advance.sound slots.sound, ?_, ?_, ?_⟩
  · intro i other found
    rcases mem_set found with ⟨-, rfl⟩ | ⟨differs, older⟩
    · exact slots.placed_self made advance
    · exact slots.placed_other made advance older differs
  · -- A new permit is granted only while no call has it.
    have exclusive (i slot : Nat) (other : Call α) (older : traffic.calls[i]? = some other)
        (yours : other.stage.permit? = some slot) (mine : after.permit? = some slot) :
        i = call := by
      rcases advance.permit_before mine with permitted | free
      · exact slots.alone i call slot other _ older made yours permitted
      · rw [isTaken_of_permit older yours] at free
        cases free
    intro i j slot first second here there mine yours
    rcases mem_set here with ⟨rfl, rfl⟩ | ⟨-, left⟩
    · rcases mem_set there with ⟨rfl, -⟩ | ⟨-, right⟩
      · rfl
      · exact (exclusive j slot second right yours mine).symm
    · rcases mem_set there with ⟨rfl, rfl⟩ | ⟨-, right⟩
      · exact exclusive i slot first left mine yours
      · exact slots.alone i j slot first second left right mine yours
  · intro load owner running
    have inside := (List.getElem?_eq_some_iff.mp made).1
    rcases advance.running_before (slots.placed call _ made) running with
      ⟨older, unmoved⟩ | ⟨rfl, slot, rfl⟩
    · obtain ⟨i, slot, found⟩ := slots.invoked load owner older
      have differs : call ≠ i := by
        rintro rfl
        rw [made, Option.some.injEq, Call.mk.injEq] at found
        exact unmoved slot found.2
      exact ⟨i, slot, (List.getElem?_set_ne differs).trans found⟩
    · exact ⟨call, slot, List.getElem?_set_self inside⟩

theorem slots_reachable (reachable : Reachable capacity traffic) : Slots capacity traffic := by
  induction reachable with
  | idle => exact slots_idle capacity
  | step _ step slots =>
      rcases step_cases step with ⟨label, rfl⟩ | ⟨call, advances⟩
      · exact slots.enter label
      · exact slots.advance advances

theorem slots_follow {actions : List (Action α)}
    (ran : (idle capacity).follow? actions = some traffic) :
    Slots capacity traffic :=
  slots_reachable (reachable_iff_follow.mpr ⟨actions, ran⟩)

/-! ## Single flight -/

def IsLoading (traffic : Traffic α) (label : String) (load : Nat) : Prop :=
  traffic.loads[load]? = some ⟨label, .running⟩

theorem Slots.isLoading_unique (slots : Slots capacity traffic) {i j : Nat}
    (here : traffic.IsLoading label i) (there : traffic.IsLoading label j) : i = j := by
  obtain ⟨first, s, mine⟩ := slots.invoked i label here
  obtain ⟨second, t, yours⟩ := slots.invoked j label there
  have same := slots.one_permit mine yours rfl (s := s) (t := t) rfl rfl
  rw [same, yours, Option.some.injEq, Call.mk.injEq] at mine
  exact (Stage.loading.inj mine.2).2.symm

theorem Slots.permit_pending (slots : Slots capacity traffic) {slot : Nat} {made : Call α}
    (present : traffic.calls[call]? = some made) (permitted : made.stage.permit? = some slot) :
    List.lookup made.label traffic.cache.pending = some slot :=
  (slots.placed call made present).pending slot (Stage.wanted?_of_permit? permitted)
    ((slots.placed call made present).unfilled slot permitted)

theorem Slots.no_permit (slots : Slots capacity traffic)
    (kept : traffic.cache.contains label = true) {made : Call α}
    (present : traffic.calls[call]? = some made) (same : made.label = label) :
    made.stage.permit? = none := by
  cases permitted : made.stage.permit? with
  | none => rfl
  | some slot =>
      have found := slots.permit_pending present permitted
      rw [same, slots.sound.apart label kept] at found
      cases found

theorem Slots.not_isLoading (slots : Slots capacity traffic)
    (kept : traffic.cache.contains label = true) (load : Nat) : ¬ traffic.IsLoading label load := by
  intro running
  obtain ⟨call, slot, present⟩ := slots.invoked load label running
  cases slots.no_permit kept present rfl

theorem Slots.not_isLoading_step (slots : Slots capacity traffic)
    (kept : traffic.cache.contains label = true) (step : Step traffic next) (load : Nat) :
    ¬ next.IsLoading label load := by
  rcases step_cases step with ⟨made, rfl⟩ | ⟨call, _, before, after, _, _, made, advance, rfl⟩
  · exact slots.not_isLoading kept load
  · intro running
    rcases advance.running_before (slots.placed call _ made) running with
      ⟨older, -⟩ | ⟨rfl, slot, rfl⟩
    · exact slots.not_isLoading kept load older
    · cases advance with
      | begin place => cases slots.no_permit kept made rfl

/-- Whatever the callers do and in whatever order, at most one load of a label is running; while the
handle of a label is kept, the label has no pending slot, no load of it is running and none is
begun; and no more handles are kept than fit. -/
theorem single_flight (reachable : Reachable capacity traffic) (label : String) :
    (∀ i j, traffic.IsLoading label i → traffic.IsLoading label j → i = j) ∧
      (traffic.cache.contains label = true →
        List.lookup label traffic.cache.pending = none ∧
        (∀ load, ¬ traffic.IsLoading label load) ∧
        ∀ next, Step traffic next → ∀ load, ¬ next.IsLoading label load) ∧
      traffic.cache.entries.length ≤ capacity := by
  have slots := slots_reachable reachable
  refine ⟨fun i j here there => slots.isLoading_unique here there, fun kept => ?_,
    slots.sound.bound⟩
  exact ⟨slots.sound.apart label kept, slots.not_isLoading kept,
    fun next step => slots.not_isLoading_step kept step⟩

theorem single_flight_with_waiter : ∃ traffic : Traffic Nat, Reachable 1 traffic ∧
    traffic.cache.contains "a" = true ∧ traffic.IsLoading "b" 1 ∧
    (∀ load, traffic.IsLoading "b" load → load = 1) ∧
    ∀ next, Step traffic next → ∀ load, ¬ next.IsLoading "a" load := by
  -- One handle is kept; of two callers that ask for another label, one loads and one waits.
  have reachable : Reachable 1 _ := reachable_iff_follow.mpr
    ⟨[.enter "a"] ++ List.replicate 5 (.move 0) ++ [.answer 0 (.ok 7), .move 0] ++
      [.enter "b", .enter "b"] ++ List.replicate 5 (.move 1) ++ List.replicate 2 (.move 2), rfl⟩
  refine ⟨_, reachable, rfl, rfl, fun load running => ?_, ?_⟩
  · exact (single_flight reachable "b").1 load 1 running rfl
  · exact ((single_flight reachable "a").2.1 rfl).2.2

end Traffic

end DeployCheck.Cache
