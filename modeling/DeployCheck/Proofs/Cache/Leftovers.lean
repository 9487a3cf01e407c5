import DeployCheck.Proofs.Cache.Adoptions
/-!
What is left in the pending table. A caller whose load has failed checks whether another one still
holds on to the slot, and lets go of the slot itself in a later step. A caller that has made its own
check may be seen by the check of the next one in between; then both leave, and the empty slot stays
pending with no one to wait on it.
-/
namespace DeployCheck.Cache

variable {α : Type}

def Stage.unchecked? : Stage α → Option Nat
  | missed slot | waiting slot | permitted slot | counted slot => some slot
  | loading slot _ | failed slot _ | refused slot _ => some slot
  | _ => none

/-- The slot that a call checks in its next move. -/
def Stage.due? : Stage α → Option Nat
  | refused slot _ => some slot
  | _ => none

/-- The slot that a call has checked or adopted and still holds on to. -/
def Stage.parting? : Stage α → Option Nat
  | leaving slot _ => slot
  | _ => none

theorem Stage.unchecked?_of_due? {stage : Stage α} {slot : Nat} (due : stage.due? = some slot) :
    stage.unchecked? = some slot := by
  cases stage <;> simp_all [due?, unchecked?]

theorem Stage.slot?_of_unchecked? {stage : Stage α} {slot : Nat}
    (unchecked : stage.unchecked? = some slot) : stage.slot? = some slot := by
  cases stage <;> simp_all [unchecked?, slot?]

theorem Stage.slot?_of_parting? {stage : Stage α} {slot : Nat}
    (parting : stage.parting? = some slot) : stage.slot? = some slot := by
  cases stage <;> simp_all [parting?, slot?]

theorem Stage.cases_of_slot? {stage : Stage α} {slot : Nat} (held : stage.slot? = some slot) :
    stage.unchecked? = some slot ∨ (∃ handle, stage = .served slot handle) ∨
      stage.parting? = some slot := by
  cases stage <;> simp_all [slot?, unchecked?, parting?]

theorem release_alone {cache : Cache α} {label : String} {slot : Nat}
    (owner : List.lookup label cache.pending = some slot) (empty : cache.slotValue slot = none) :
    cache.release label slot false = cache.forget label :=
  if_pos ⟨owner, by simp [empty], rfl⟩

/-- A caller's look at its slot after a failed load. It is crossed if a caller that has made its own
look and has not left yet is among the others that hold on to the slot. -/
structure Check where
  label : String
  slot : Nat
  crossed : Bool
  deriving DecidableEq

namespace Traffic

variable {capacity call : Nat} {traffic next : Traffic α} {label other : String} {slot : Nat}
  {before after : Stage α} {cache : Cache α} {loads : List (Load α)} {action : Action α}
  {actions : List (Action α)}

def isCrossed (traffic : Traffic α) (call slot : Nat) : Bool :=
  (traffic.calls.eraseIdx call).any fun made => made.stage.parting? == some slot

def checked? (traffic : Traffic α) : Action α → Option Check
  | .move call =>
    (traffic.calls[call]?).bind fun made =>
      made.stage.due?.map fun slot => ⟨made.label, slot, traffic.isCrossed call slot⟩
  | _ => none

def checks (capacity : Nat) (actions : List (Action α)) : List Check :=
  (idle capacity).chronicle checked? actions

def lastCheck? (capacity : Nat) (actions : List (Action α)) (slot : Nat) : Option Check :=
  (checks capacity actions).reverse.find? (·.slot = slot)

theorem isShared_of_isCrossed (crossed : traffic.isCrossed call slot = true) :
    traffic.isShared call slot = true := by
  obtain ⟨made, member, parting⟩ := List.any_eq_true.mp crossed
  refine List.any_eq_true.mpr ⟨made, member, ?_⟩
  rw [beq_iff_eq] at parting ⊢
  exact Stage.slot?_of_parting? parting

theorem exists_of_isShared (shared : traffic.isShared call slot = true) :
    ∃ (i : Nat) (made : Call α), i ≠ call ∧ traffic.calls[i]? = some made ∧
      made.stage.slot? = some slot := by
  obtain ⟨made, member, held⟩ := List.any_eq_true.mp shared
  obtain ⟨i, differs, present⟩ := List.mem_eraseIdx_iff_getElem?.mp member
  exact ⟨i, made, differs, present, beq_iff_eq.mp held⟩

theorem isCrossed_of_parting {i : Nat} {made : Call α} (present : traffic.calls[i]? = some made)
    (differs : i ≠ call) (parting : made.stage.parting? = some slot) :
    traffic.isCrossed call slot = true := by
  rw [isCrossed, List.any_eq_true]
  exact ⟨made, List.mem_eraseIdx_iff_getElem?.mpr ⟨i, differs, present⟩, by simp [parting]⟩

/-! ## One step -/

theorem Advance.empty_before (advance : Advance traffic call label before after cache loads)
    (placed : (⟨label, before⟩ : Call α).Placed traffic.cache traffic.loads)
    (empty : cache.slotValue slot = none) : traffic.cache.slotValue slot = none := by
  cases value : traffic.cache.slotValue slot with
  | none => rfl
  | some handle =>
      rw [advance.lasting placed value] at empty
      cases empty

theorem Advance.pending_cases (advance : Advance traffic call label before after cache loads) :
    cache.pending = traffic.cache.pending ∨
    (List.lookup label traffic.cache.pending = none ∧
      cache.pending = (label, traffic.cache.slots.length) :: traffic.cache.pending ∧
      after = .missed traffic.cache.slots.length) ∨
    ∃ slot, List.lookup label traffic.cache.pending = some slot ∧
      cache.pending = (traffic.cache.forget label).pending ∧
      ((∃ handle, before = .served slot handle) ∨
        (before.due? = some slot ∧ traffic.isShared call slot = false)) := by
  cases advance with
  | find handle cache looked =>
      rcases lookUp_found looked with ⟨-, rfl⟩ | ⟨-, -, rfl⟩
      · exact Or.inl rfl
      · exact Or.inl rfl
  | miss slot cache looked =>
      obtain ⟨-, ⟨-, -, rfl⟩ | ⟨absent, rfl, rfl⟩⟩ := lookUp_missed looked
      · exact Or.inl rfl
      · exact Or.inr (Or.inl ⟨absent, rfl, rfl⟩)
  | adopt slot handle =>
      by_cases owner : List.lookup label traffic.cache.pending = some slot
      · rw [adopt_of_owner owner]
        exact Or.inr (Or.inr ⟨slot, owner, rfl, Or.inl ⟨handle, rfl⟩⟩)
      · rw [adopt_of_not_owner owner]
        exact Or.inl rfl
  | release slot fault =>
      rcases release_cases traffic.cache label slot (traffic.isShared call slot) with
        ⟨owner, -, alone, same⟩ | same
      · rw [same]
        exact Or.inr (Or.inr ⟨slot, owner, rfl, Or.inr ⟨rfl, alone⟩⟩)
      · rw [same]
        exact Or.inl rfl
  | _ => exact Or.inl rfl

theorem Advance.pending_after (advance : Advance traffic call label before after cache loads)
    (placed : (⟨label, before⟩ : Call α).Placed traffic.cache traffic.loads)
    (empty : traffic.cache.slotValue slot = none)
    (found : List.lookup other traffic.cache.pending = some slot) :
    List.lookup other cache.pending = some slot ∨
      (before.due? = some slot ∧ traffic.isShared call slot = false) := by
  rcases advance.pending_cases with same | ⟨absent, same, -⟩ | ⟨gone, owner, same, why⟩
  · rw [same]
    exact Or.inl found
  · have differs : other ≠ label := by
      rintro rfl
      rw [absent] at found
      cases found
    rw [same, lookup_cons_ite, if_neg differs]
    exact Or.inl found
  · rw [same, lookup_forget]
    by_cases mine : other = label
    · rw [mine, owner, Option.some.injEq] at found
      subst found
      rcases why with ⟨handle, rfl⟩ | unseen
      · rw [placed.filled gone handle rfl] at empty
        cases empty
      · exact Or.inr unseen
    · rw [if_neg mine]
      exact Or.inl found

theorem Advance.pending_before (advance : Advance traffic call label before after cache loads)
    (found : List.lookup other cache.pending = some slot) :
    List.lookup other traffic.cache.pending = some slot ∨ after.unchecked? = some slot := by
  rcases advance.pending_cases with same | ⟨-, same, rfl⟩ | ⟨gone, -, same, -⟩
  · rw [same] at found
    exact Or.inl found
  · rw [same, lookup_cons_ite] at found
    split at found
    · exact Or.inr found
    · exact Or.inl found
  · rw [same, lookup_forget] at found
    split at found
    · cases found
    · exact Or.inl found

theorem Advance.unchecked_after (advance : Advance traffic call label before after cache loads)
    (placed : (⟨label, before⟩ : Call α).Placed traffic.cache traffic.loads)
    (empty : cache.slotValue slot = none) (unchecked : before.unchecked? = some slot) :
    after.unchecked? = some slot ∨ before.due? = some slot := by
  cases advance with
  | observe place handle filled =>
      obtain rfl := Option.some.inj unchecked
      rw [filled] at empty
      cases empty
  | succeed place load handle =>
      obtain rfl := Option.some.inj unchecked
      rw [slotValue_fill_self (placed.inside place rfl)] at empty
      cases empty
  | release => exact Or.inr unchecked
  | countMiss | permit | countLoad | begin | fail | countFailure => exact Or.inl unchecked
  | find | miss | countHit | adopt | leave => cases unchecked

theorem Advance.unchecked_before (advance : Advance traffic call label before after cache loads)
    (unchecked : after.unchecked? = some slot) :
    before.due? = none ∧
      (before.unchecked? = some slot ∨ List.lookup label cache.pending = some slot) := by
  cases advance with
  | miss place cache looked =>
      obtain rfl := Option.some.inj unchecked
      obtain ⟨-, ⟨found, -, rfl⟩ | ⟨-, rfl, rfl⟩⟩ := lookUp_missed looked
      · exact ⟨rfl, Or.inr found⟩
      · exact ⟨rfl, Or.inr (by simp)⟩
  | countMiss | permit | countLoad | begin | fail | countFailure => exact ⟨rfl, Or.inl unchecked⟩
  | find | countHit | observe | succeed | adopt | release | leave => cases unchecked

theorem Advance.pending_of_alone (advance : Advance traffic call label before after cache loads)
    (due : before.due? = some slot) (empty : cache.slotValue slot = none)
    (owner : List.lookup label traffic.cache.pending = some slot)
    (alone : traffic.isShared call slot = false) : List.lookup label cache.pending = none := by
  cases advance with
  | release place fault =>
      obtain rfl := Option.some.inj due
      rw [slotValue_release] at empty
      rw [alone, release_alone owner empty, lookup_forget, if_pos rfl]
  | _ => cases due

/-! ## Runs -/

theorem checked_of_act (acted : traffic.act? action = some next) :
    (∃ label, next = traffic.enter label ∧ traffic.checked? action = none) ∨
      ∃ (call : Nat) (label : String) (before after : Stage α) (cache : Cache α)
        (loads : List (Load α)), traffic.calls[call]? = some ⟨label, before⟩ ∧
        Advance traffic call label before after cache loads ∧
        next = ⟨cache, traffic.calls.set call ⟨label, after⟩, loads⟩ ∧
        traffic.checked? action =
          before.due?.map fun slot => ⟨label, slot, traffic.isCrossed call slot⟩ := by
  cases action with
  | enter label => exact Or.inl ⟨label, (Option.some.inj acted).symm, rfl⟩
  | move call =>
      obtain ⟨label, before, after, cache, loads, made, advance, rfl⟩ := advances_of_move acted
      exact Or.inr ⟨call, label, before, after, cache, loads, made, advance, rfl,
        by simp only [checked?, made, Option.bind_some]⟩
  | answer call result =>
      obtain ⟨label, before, after, cache, loads, made, advance, rfl⟩ := advances_of_answer acted
      obtain ⟨_, slot, load, loading⟩ := loading_of_answer acted
      rw [loading, Option.some.injEq, Call.mk.injEq] at made
      obtain ⟨rfl, rfl⟩ := made
      exact Or.inr ⟨call, _, _, after, cache, loads, loading, advance, rfl, rfl⟩

theorem lastCheck?_concat (ran : (idle capacity).follow? actions = some traffic)
    (action : Action α) (slot : Nat) :
    lastCheck? capacity (actions ++ [action]) slot =
      ((traffic.checked? action).filter (·.slot = slot)).or (lastCheck? capacity actions slot) := by
  unfold lastCheck? checks
  rw [chronicle_concat checked? ran action, List.reverse_append, List.find?_append]
  congr 1
  cases traffic.checked? action with
  | none => rfl
  | some check => simp [Option.filter, List.find?_singleton]

structure Watched (capacity : Nat) (actions : List (Action α)) (traffic : Traffic α) : Prop where
  held : ∀ (call : Nat) (made : Call α) (slot : Nat), traffic.calls[call]? = some made →
    made.stage.unchecked? = some slot → traffic.cache.slotValue slot = none →
    List.lookup made.label traffic.cache.pending = some slot
  kept : ∀ label slot, List.lookup label traffic.cache.pending = some slot →
    traffic.cache.slotValue slot = none →
    (∃ (call : Nat) (made : Call α), traffic.calls[call]? = some made ∧
      made.stage.unchecked? = some slot) ∨
    lastCheck? capacity actions slot = some ⟨label, slot, true⟩
  left : ∀ label slot, lastCheck? capacity actions slot = some ⟨label, slot, true⟩ →
    traffic.cache.slotValue slot = none → List.lookup label traffic.cache.pending = some slot

theorem watched_idle (capacity : Nat) : Watched capacity [] (idle capacity : Traffic α) where
  held := fun _ _ _ found => nomatch found
  kept := fun _ _ found => nomatch found
  left := fun _ _ found => nomatch found

theorem Watched.enter (watched : Watched capacity actions traffic)
    (ran : (idle capacity).follow? actions = some traffic)
    (unchecked : traffic.checked? action = none) (label : String) :
    Watched capacity (actions ++ [action]) (traffic.enter label) where
  held := by
    intro call made slot found waits
    rcases mem_enter found with older | rfl
    · exact watched.held call made slot older waits
    · cases waits
  kept := by
    intro other slot found empty
    rw [lastCheck?_concat ran, unchecked]
    rcases watched.kept other slot found empty with ⟨call, made, present, waits⟩ | last
    · have inside := (List.getElem?_eq_some_iff.mp present).1
      exact Or.inl ⟨call, made, (List.getElem?_append_left inside).trans present, waits⟩
    · exact Or.inr last
  left := by
    intro other slot last
    rw [lastCheck?_concat ran, unchecked] at last
    exact watched.left other slot last

section

variable (watched : Watched capacity actions traffic) (slots : Slots capacity traffic)
  (made : traffic.calls[call]? = some ⟨label, before⟩)
  (advance : Advance traffic call label before after cache loads)

include watched slots made advance

theorem Watched.held_advance {i : Nat} {holder : Call α}
    (found : (traffic.calls.set call ⟨label, after⟩)[i]? = some holder)
    (unchecked : holder.stage.unchecked? = some slot) (empty : cache.slotValue slot = none) :
    List.lookup holder.label cache.pending = some slot := by
  have placed := slots.placed call _ made
  have emptyBefore := advance.empty_before placed empty
  rcases mem_set found with ⟨rfl, rfl⟩ | ⟨differs, older⟩
  · obtain ⟨undue, earlier | pending⟩ := advance.unchecked_before unchecked
    · have owner := watched.held i _ slot made earlier emptyBefore
      rcases advance.pending_after placed emptyBefore owner with pending | ⟨due, -⟩
      · exact pending
      · rw [undue] at due
        cases due
    · exact pending
  · have owner := watched.held i holder slot older unchecked emptyBefore
    rcases advance.pending_after placed emptyBefore owner with pending | ⟨-, alone⟩
    · exact pending
    · rw [isShared_of_other older differs (Stage.slot?_of_unchecked? unchecked)] at alone
      cases alone

theorem Watched.crossed_or_unchecked (due : before.due? = some slot)
    (empty : cache.slotValue slot = none) (found : List.lookup label cache.pending = some slot) :
    traffic.isCrossed call slot = true ∨ ∃ (i : Nat) (holder : Call α), i ≠ call ∧
      traffic.calls[i]? = some holder ∧ holder.stage.unchecked? = some slot := by
  have emptyBefore := advance.empty_before (slots.placed call _ made) empty
  have owner := watched.held call _ slot made (Stage.unchecked?_of_due? due) emptyBefore
  cases shared : traffic.isShared call slot with
  | false =>
      rw [advance.pending_of_alone due empty owner shared] at found
      cases found
  | true =>
      obtain ⟨i, holder, differs, present, held⟩ := exists_of_isShared shared
      -- None of the others can have been served, for the slot is empty.
      rcases Stage.cases_of_slot? held with unchecked | ⟨handle, served⟩ | parting
      · exact Or.inr ⟨i, holder, differs, present, unchecked⟩
      · rw [(slots.placed i holder present).filled slot handle served] at emptyBefore
        cases emptyBefore
      · exact Or.inl (isCrossed_of_parting present differs parting)

theorem Watched.kept_advance (undue : before.due? ≠ some slot)
    (empty : cache.slotValue slot = none) (found : List.lookup other cache.pending = some slot) :
    (∃ (i : Nat) (holder : Call α),
      (traffic.calls.set call ⟨label, after⟩)[i]? = some holder ∧
      holder.stage.unchecked? = some slot) ∨
    lastCheck? capacity actions slot = some ⟨other, slot, true⟩ := by
  have placed := slots.placed call _ made
  have inside := (List.getElem?_eq_some_iff.mp made).1
  rcases advance.pending_before found with older | new
  · have emptyBefore := advance.empty_before placed empty
    rcases watched.kept other slot older emptyBefore with ⟨i, holder, present, waits⟩ | last
    · by_cases same : i = call
      · subst same
        rw [made, Option.some.injEq] at present
        subst present
        have still := (advance.unchecked_after placed empty waits).resolve_right undue
        exact Or.inl ⟨i, _, List.getElem?_set_self inside, still⟩
      · exact Or.inl ⟨i, holder, (List.getElem?_set_ne (Ne.symm same)).trans present, waits⟩
    · exact Or.inr last
  · exact Or.inl ⟨call, _, List.getElem?_set_self inside, new⟩

end

theorem Watched.advance (watched : Watched capacity actions traffic)
    (ran : (idle capacity).follow? actions = some traffic)
    (made : traffic.calls[call]? = some ⟨label, before⟩)
    (advance : Advance traffic call label before after cache loads)
    (checks : traffic.checked? action =
      before.due?.map fun slot => ⟨label, slot, traffic.isCrossed call slot⟩) :
    Watched capacity (actions ++ [action]) ⟨cache, traffic.calls.set call ⟨label, after⟩, loads⟩ := by
  have reachable := reachable_iff_follow.mpr ⟨actions, ran⟩
  have slots := slots_reachable reachable
  have placed := slots.placed call _ made
  have last_of_due (slot : Nat) (due : before.due? = some slot) :
      lastCheck? capacity (actions ++ [action]) slot =
        some ⟨label, slot, traffic.isCrossed call slot⟩ := by
    simp [lastCheck?_concat ran, checks, due, Option.filter]
  have last_of_undue (slot : Nat) (undue : before.due? ≠ some slot) :
      lastCheck? capacity (actions ++ [action]) slot = lastCheck? capacity actions slot := by
    rw [lastCheck?_concat ran, checks]
    cases place : before.due? with
    | none => rfl
    | some checked =>
        have differs : checked ≠ slot := fun same => undue (same ▸ place)
        simp [Option.filter, differs]
  refine ⟨?_, ?_, ?_⟩
  · exact fun i holder slot found => watched.held_advance slots made advance found
  · intro other slot found empty
    by_cases due : before.due? = some slot
    · -- The slot belongs to the label of the call that checks it, and to no other.
      have owner := watched.held call _ slot made (Stage.unchecked?_of_due? due)
        (advance.empty_before placed empty)
      have mine : other = label := by
        rcases advance.pending_before found with older | new
        · obtain ⟨owners, origins⟩ := origins_reachable reachable
          exact (origins.owned.pending other slot older).symm.trans
            (origins.owned.pending label slot owner)
        · rw [(advance.unchecked_before new).1] at due
          cases due
      rw [mine] at found ⊢
      rcases watched.crossed_or_unchecked slots made advance due empty found with
        crossed | ⟨i, holder, differs, present, unchecked⟩
      · rw [last_of_due slot due, crossed]
        exact Or.inr rfl
      · exact Or.inl ⟨i, holder, (List.getElem?_set_ne (Ne.symm differs)).trans present, unchecked⟩
    · rw [last_of_undue slot due]
      exact watched.kept_advance slots made advance due empty found
  · intro other slot last empty
    have emptyBefore := advance.empty_before placed empty
    by_cases due : before.due? = some slot
    · rw [last_of_due slot due, Option.some.injEq, Check.mk.injEq] at last
      obtain ⟨rfl, -, crossed⟩ := last
      have owner := watched.held call _ slot made (Stage.unchecked?_of_due? due) emptyBefore
      rcases advance.pending_after placed emptyBefore owner with pending | ⟨-, alone⟩
      · exact pending
      · rw [isShared_of_isCrossed crossed] at alone
        cases alone
    · rw [last_of_undue slot due] at last
      have older := watched.left other slot last emptyBefore
      exact (advance.pending_after placed emptyBefore older).resolve_right
        fun checked => due checked.1

theorem watched_follow (ran : (idle capacity).follow? actions = some traffic) :
    Watched capacity actions traffic := by
  refine follow?_induction (Watched capacity) (watched_idle capacity) ?_ ran
  intro earlier traffic action after ranBefore watched acted
  rcases checked_of_act acted with ⟨label, rfl, unchecked⟩ |
    ⟨call, label, before, after, cache, loads, made, advance, rfl, checks⟩
  · exact watched.enter ranBefore unchecked label
  · exact watched.advance ranBefore made advance checks

/-- Once no call is under way, a slot is left in the pending table exactly if it is empty and the
last check of it was crossed. So none is left if no caller was between its check and its leave when
another one checked the same slot. -/
theorem pending_iff_crossed (ran : (idle capacity).follow? actions = some traffic)
    (past : ∀ made ∈ traffic.calls, made.stage.isOver = true) :
    (∀ label slot, List.lookup label traffic.cache.pending = some slot ↔
      traffic.cache.slotValue slot = none ∧
        lastCheck? capacity actions slot = some ⟨label, slot, true⟩) ∧
    ((∀ check ∈ checks capacity actions, check.crossed = false) → traffic.cache.pending = []) := by
  have watched := watched_follow ran
  have adopts := adopts_follow ran
  have left (label : String) (slot : Nat)
      (found : List.lookup label traffic.cache.pending = some slot) :
      traffic.cache.slotValue slot = none ∧
        lastCheck? capacity actions slot = some ⟨label, slot, true⟩ := by
    cases value : traffic.cache.slotValue slot with
    | some handle =>
        obtain ⟨call, served⟩ := adopts.served ⟨label, slot, handle⟩ ⟨found, value⟩
        cases past _ (List.mem_of_getElem? served)
    | none =>
        -- Who has yet to check a slot is not over, so the slot was left by a crossed check.
        refine ⟨rfl, ?_⟩
        rcases watched.kept label slot found value with ⟨call, made, present, waits⟩ | last
        · have ended := past made (List.mem_of_getElem? present)
          cases stage : made.stage <;> simp_all [Stage.isOver, Stage.unchecked?]
        · exact last
  refine ⟨fun label slot => ⟨left label slot, fun owed => ?_⟩, fun uncrossed => ?_⟩
  · exact watched.left label slot owed.2 owed.1
  · cases table : traffic.cache.pending with
    | nil => rfl
    | cons first rest =>
        obtain ⟨label, slot⟩ := first
        obtain ⟨-, last⟩ := left label slot (by simp [table])
        have member := List.mem_reverse.mp (List.mem_of_find?_eq_some last)
        cases uncrossed _ member

/-- Two callers of a label whose loads both fail. The first one makes its check while the other
waits, and is seen by the check of the other before it leaves. -/
def overlapping (fault : VerificationError) : List (Action Nat) :=
  List.flatten [[.enter "a", .enter "a"], .replicate 5 (.move 0), .replicate 2 (.move 1),
    [.answer 0 (.error fault)], .replicate 2 (.move 0), .replicate 3 (.move 1),
    [.answer 1 (.error fault)], .replicate 2 (.move 1), [.move 0, .move 1]]

def successive (fault : VerificationError) : List (Action Nat) :=
  List.flatten [[.enter "a", .enter "a"], .replicate 5 (.move 0), .replicate 2 (.move 1),
    [.answer 0 (.error fault)], .replicate 3 (.move 0), .replicate 3 (.move 1),
    [.answer 1 (.error fault)], .replicate 3 (.move 1)]

def failedTwice (fault : VerificationError) (pending : List (String × Nat)) : Traffic Nat :=
  ⟨⟨1, [], pending, [none], ⟨0, 2, 2, 2, 0⟩⟩,
    [⟨"a", .returned (.error fault)⟩, ⟨"a", .returned (.error fault)⟩],
    [⟨"a", .answered (.error fault)⟩, ⟨"a", .answered (.error fault)⟩]⟩

theorem overlapping_ends (fault : VerificationError) :
    (idle 1).follow? (overlapping fault) = some (failedTwice fault [("a", 0)]) :=
  rfl

theorem successive_ends (fault : VerificationError) :
    (idle 1).follow? (successive fault) = some (failedTwice fault []) :=
  rfl

theorem over_of_failedTwice (fault : VerificationError) (pending : List (String × Nat)) :
    ∀ made ∈ (failedTwice fault pending).calls, made.stage.isOver = true := by
  simp [failedTwice, Stage.isOver]

theorem pending_iff_crossed_twice :
    (∃ (actions : List (Action Nat)) (traffic : Traffic Nat),
      (idle 1).follow? actions = some traffic ∧
      (∀ made ∈ traffic.calls, made.stage.isOver = true) ∧
      lastCheck? 1 actions 0 = some ⟨"a", 0, true⟩ ∧
      List.lookup "a" traffic.cache.pending = some 0) ∧
    ∃ (actions : List (Action Nat)) (traffic : Traffic Nat),
      (idle 1).follow? actions = some traffic ∧
      (∀ made ∈ traffic.calls, made.stage.isOver = true) ∧
      checks 1 actions = [⟨"a", 0, false⟩, ⟨"a", 0, false⟩] ∧ traffic.cache.pending = [] := by
  -- After overlapping failures the slot is pending and its last check was crossed; after
  -- successive ones none is left.
  let gone : VerificationError := .compilerLoad "a" "gone"
  constructor
  · refine ⟨overlapping gone, _, overlapping_ends gone, over_of_failedTwice _ _, rfl, ?_⟩
    obtain ⟨left, -⟩ := pending_iff_crossed (overlapping_ends gone) (over_of_failedTwice _ _)
    exact (left "a" 0).mpr ⟨rfl, rfl⟩
  · have seen : checks 1 (successive gone) = [⟨"a", 0, false⟩, ⟨"a", 0, false⟩] := rfl
    refine ⟨successive gone, _, successive_ends gone, over_of_failedTwice _ _, seen, ?_⟩
    obtain ⟨-, none_left⟩ := pending_iff_crossed (successive_ends gone) (over_of_failedTwice _ _)
    refine none_left fun check member => ?_
    rw [seen] at member
    simp_all

/-- A slot may be left pending with no call under way, though no call was ever given up. -/
theorem pending_without_calls :
    ¬ ∀ (capacity : Nat) (traffic : Traffic Nat), Reachable capacity traffic →
      (∀ made ∈ traffic.calls, made.stage.isOver = true) → traffic.cache.pending = [] := by
  intro unpending
  let gone : VerificationError := .compilerLoad "a" "gone"
  have reachable := reachable_iff_follow.mpr ⟨overlapping gone, overlapping_ends gone⟩
  cases unpending 1 _ reachable (over_of_failedTwice _ _)

end Traffic

end DeployCheck.Cache
