import DeployCheck.Proofs.Cache.Balance
import DeployCheck.Proofs.Cache.Results
import DeployCheck.Proofs.Cache.Recency
import Mathlib.Data.List.Perm.Basic
/-!
Every handle that a load brings is adopted once. It fills an empty slot that is pending, it stays
there until some caller of the slot adopts it, and it then takes a place of its own among the
entries or makes an older one give way. So once no call is under way, the loads are accounted for by
the failures, the evictions and the entries.
-/
namespace DeployCheck.Cache

variable {α : Type}

/-- A slot of a label with the handle that was put into it. -/
structure Filling (α : Type) where
  label : String
  slot : Nat
  handle : α

namespace Filling

variable {cache next : Cache α} {filling : Filling α} {label : String} {slot : Nat} {handle : α}

def IsPending (filling : Filling α) (cache : Cache α) : Prop :=
  List.lookup filling.label cache.pending = some filling.slot ∧
    cache.slotValue filling.slot = some filling.handle

theorem isPending_forget :
    filling.IsPending (cache.forget label) ↔ filling.IsPending cache ∧ filling.label ≠ label := by
  unfold IsPending
  rw [lookup_forget]
  split
  · rename_i same
    simp [same]
  · rename_i differs
    exact (and_iff_left differs).symm

theorem isPending_lookUp {outcome : Lookup α} (looked : cache.lookUp label = (outcome, next)) :
    filling.IsPending next ↔ filling.IsPending cache := by
  cases outcome with
  | found handle =>
      rcases lookUp_found looked with ⟨-, rfl⟩ | ⟨-, -, rfl⟩
      · exact Iff.rfl
      · exact Iff.rfl
  | missed slot =>
      obtain ⟨-, ⟨-, -, rfl⟩ | ⟨absent, -, rfl⟩⟩ := lookUp_missed looked
      · exact Iff.rfl
      · unfold IsPending
        rw [slotValue_addSlot, lookup_cons_ite]
        by_cases same : filling.label = label
        · -- A new slot is empty, and before there was none of this label.
          rw [if_pos same, same, absent]
          refine iff_of_false (fun ⟨fresh, value⟩ => ?_) (fun ⟨gone, _⟩ => nomatch gone)
          have inside := slotValue_lt value
          rw [Option.some.inj fresh] at inside
          exact Nat.lt_irrefl _ inside
        · rw [if_neg same]

theorem isPending_release (cache : Cache α) (label : String) (slot : Nat) (shared : Bool) :
    filling.IsPending (cache.release label slot shared) ↔ filling.IsPending cache := by
  rcases release_cases cache label slot shared with ⟨owner, empty, -, same⟩ | same
  · rw [same, isPending_forget]
    refine and_iff_left_of_imp fun ⟨found, value⟩ mine => ?_
    rw [mine, owner, Option.some.injEq] at found
    rw [← found, empty] at value
    cases value
  · rw [same]

theorem isPending_fill (owner : List.lookup label cache.pending = some slot)
    (inside : slot < cache.slots.length) (empty : cache.slotValue slot = none)
    (alone : ∀ other, List.lookup other cache.pending = some slot → other = label) :
    filling.IsPending (cache.fill slot handle) ↔
      filling = ⟨label, slot, handle⟩ ∨ filling.IsPending cache := by
  obtain ⟨other, place, held⟩ := filling
  simp only [IsPending, Filling.mk.injEq]
  change List.lookup other cache.pending = some place ∧ _ ↔ _
  by_cases same : place = slot
  · subst same
    rw [slotValue_fill_self inside, Option.some.injEq, empty]
    constructor
    · rintro ⟨found, rfl⟩
      exact Or.inl ⟨alone other found, rfl, rfl⟩
    · rintro (⟨rfl, -, rfl⟩ | ⟨-, value⟩)
      · exact ⟨owner, rfl⟩
      · cases value
  · rw [slotValue_fill_ne same]
    exact (or_iff_right fun ⟨_, equal, _⟩ => same equal).symm

end Filling

/-! ## Slots -/

section

variable {cache next : Cache α} {label : String} {slot : Nat} {handle : α}

theorem slotValue_lookUp {outcome : Lookup α} (looked : cache.lookUp label = (outcome, next))
    (slot : Nat) : next.slotValue slot = cache.slotValue slot := by
  cases outcome with
  | found handle =>
      rcases lookUp_found looked with ⟨-, rfl⟩ | ⟨-, -, rfl⟩
      · rfl
      · rfl
  | missed fresh =>
      obtain ⟨-, ⟨-, -, rfl⟩ | ⟨-, -, rfl⟩⟩ := lookUp_missed looked
      · rfl
      · exact slotValue_addSlot _ slot

theorem slotValue_adopt (cache : Cache α) (label : String) (slot : Nat) (handle : α) (place : Nat) :
    (cache.adopt label slot handle).slotValue place = cache.slotValue place := by
  by_cases owner : List.lookup label cache.pending = some slot
  · rw [adopt_of_owner owner]
    rfl
  · rw [adopt_of_not_owner owner]

theorem slotValue_release (cache : Cache α) (label : String) (slot : Nat) (shared : Bool)
    (place : Nat) : (cache.release label slot shared).slotValue place = cache.slotValue place := by
  rcases release_cases cache label slot shared with ⟨-, -, -, same⟩ | same
  · rw [same]
    rfl
  · rw [same]

end

/-! ## Admissions -/

def admitted (cache : Cache α) : Nat :=
  cache.tally.evictions + cache.entries.length

section

variable {cache next : Cache α} {label : String} {slot : Nat} {handle : α}

theorem length_front_eq (distinct : (cache.entries.map Prod.fst).Nodup)
    (found : List.lookup label cache.entries = some handle) :
    ((label, handle) :: cache.entries.filter (·.1 ≠ label)).length = cache.entries.length := by
  refine Nat.le_antisymm (length_front found) ?_
  have bound := length_le_filter_ne distinct label
  have front := congrArg List.length (labels_front label handle cache.entries)
  rw [List.length_map] at front bound
  rw [front]
  exact bound

theorem admitted_lookUp (distinct : (cache.entries.map Prod.fst).Nodup) {outcome : Lookup α}
    (looked : cache.lookUp label = (outcome, next)) : next.admitted = cache.admitted := by
  rw [admitted, lookUp_tally looked, admitted]
  cases outcome with
  | found handle =>
      rcases lookUp_found looked with ⟨kept, rfl⟩ | ⟨-, -, rfl⟩
      · rw [length_front_eq distinct kept]
      · rfl
  | missed slot =>
      obtain ⟨-, ⟨-, -, rfl⟩ | ⟨-, -, rfl⟩⟩ := lookUp_missed looked
      · rfl
      · rfl

theorem admitted_release (cache : Cache α) (label : String) (slot : Nat) (shared : Bool) :
    (cache.release label slot shared).admitted = cache.admitted := by
  rcases release_cases cache label slot shared with ⟨-, -, -, same⟩ | same
  · rw [same]
    rfl
  · rw [same]

theorem admitted_keep (absent : List.lookup label cache.entries = none) (handle : α) :
    (cache.keep label handle).admitted = cache.admitted + 1 := by
  have others : cache.entries.filter (·.1 ≠ label) = cache.entries := by
    refine List.filter_eq_self.mpr fun entry member => ?_
    have differs : entry.1 ≠ label := by
      rintro rfl
      exact lookup_eq_none_iff_labels.mp absent (List.mem_map_of_mem member)
    simpa using differs
  simp only [admitted, keep, others, List.length_take, List.length_cons]
  omega

end

/-! ## What one step brings and adopts -/

def Stage.brought? (label : String) : Stage α → Stage α → Option (Filling α)
  | loading slot _, served _ handle => some ⟨label, slot, handle⟩
  | _, _ => none

def Stage.adopted? (cache : Cache α) (label : String) : Stage α → Option (Filling α)
  | served slot handle =>
    if List.lookup label cache.pending = some slot then some ⟨label, slot, handle⟩ else none
  | _ => none

namespace Traffic

variable {capacity call : Nat} {traffic next : Traffic α} {label : String} {before after : Stage α}
  {cache : Cache α} {loads : List (Load α)} {filling : Filling α} {action : Action α}
  {actions : List (Action α)}

/-- The slot that an action fills: a load that is answered with a handle. -/
def brought? (traffic : Traffic α) : Action α → Option (Filling α)
  | .answer call (.ok handle) =>
    match traffic.calls[call]? with
    | some ⟨label, .loading slot _⟩ => some ⟨label, slot, handle⟩
    | _ => none
  | _ => none

/-- The slot whose handle an action moves from the pending table into the entries. -/
def adopted? (traffic : Traffic α) : Action α → Option (Filling α)
  | .move call =>
    match traffic.calls[call]? with
    | some ⟨label, .served slot handle⟩ =>
      if List.lookup label traffic.cache.pending = some slot then some ⟨label, slot, handle⟩
      else none
    | _ => none
  | _ => none

theorem Advance.lasting (advance : Advance traffic call label before after cache loads)
    (placed : (⟨label, before⟩ : Call α).Placed traffic.cache traffic.loads) {slot : Nat}
    {handle : α} (value : traffic.cache.slotValue slot = some handle) :
    cache.slotValue slot = some handle := by
  cases advance with
  | find _ _ looked | miss _ _ looked => rw [slotValue_lookUp looked, value]
  | succeed place load brought =>
      have differs : slot ≠ place := by
        rintro rfl
        rw [placed.unfilled slot rfl] at value
        cases value
      rw [slotValue_fill_ne differs, value]
  | adopt place taken => rw [slotValue_adopt, value]
  | release place fault => rw [slotValue_release, value]
  | _ => exact value

theorem Advance.fresh (advance : Advance traffic call label before after cache loads)
    (placed : (⟨label, before⟩ : Call α).Placed traffic.cache traffic.loads)
    (brought : before.brought? label after = some filling) :
    traffic.cache.slotValue filling.slot = none ∧
      cache.slotValue filling.slot = some filling.handle := by
  cases advance with
  | succeed slot load handle =>
      obtain rfl := Option.some.inj brought
      exact ⟨placed.unfilled slot rfl, slotValue_fill_self (placed.inside slot rfl)⟩
  | _ => cases brought

theorem isPending_of_adopted?
    (placed : (⟨label, before⟩ : Call α).Placed traffic.cache traffic.loads)
    (adopted : before.adopted? traffic.cache label = some filling) :
    filling.label = label ∧ filling.IsPending traffic.cache := by
  cases before with
  | served slot handle =>
      simp only [Stage.adopted?, Option.ite_none_right_eq_some, Option.some.injEq] at adopted
      obtain ⟨owner, rfl⟩ := adopted
      exact ⟨rfl, owner, placed.filled slot handle rfl⟩
  | _ => cases adopted

theorem Advance.pending (advance : Advance traffic call label before after cache loads)
    (placed : (⟨label, before⟩ : Call α).Placed traffic.cache traffic.loads)
    (alone : ∀ slot other, List.lookup label traffic.cache.pending = some slot →
      List.lookup other traffic.cache.pending = some slot → other = label)
    (filling : Filling α) :
    filling.IsPending cache ↔ (filling.IsPending traffic.cache ∨
      before.brought? label after = some filling) ∧
        before.adopted? traffic.cache label ≠ some filling := by
  cases advance with
  | find _ _ looked | miss _ _ looked =>
      rw [Filling.isPending_lookUp looked]
      simp [Stage.brought?, Stage.adopted?]
  | succeed slot load handle =>
      have empty := placed.unfilled slot rfl
      have owner := placed.pending slot rfl empty
      have only (other : String) := alone slot other owner
      rw [Filling.isPending_fill owner (placed.inside slot rfl) empty only]
      simp [Stage.brought?, Stage.adopted?, or_comm, eq_comm]
  | adopt slot handle =>
      by_cases owner : List.lookup label traffic.cache.pending = some slot
      · rw [adopt_of_owner owner]
        change filling.IsPending (traffic.cache.forget label) ↔ _
        rw [Filling.isPending_forget]
        simp only [Stage.brought?, Stage.adopted?, if_pos owner, reduceCtorEq, or_false, ne_eq,
          Option.some.injEq]
        refine and_congr_right fun waits => not_congr ⟨fun mine => ?_, fun same => same ▸ rfl⟩
        -- The label has one slot, and the slot one handle.
        obtain ⟨own, place, held⟩ := filling
        obtain ⟨found, value⟩ := waits
        obtain rfl : own = label := mine
        rw [owner, Option.some.injEq] at found
        obtain rfl : slot = place := found
        rw [placed.filled slot handle rfl, Option.some.injEq] at value
        obtain rfl : handle = held := value
        rfl
      · rw [adopt_of_not_owner owner]
        simp [Stage.brought?, Stage.adopted?, owner]
  | release slot fault =>
      rw [Filling.isPending_release]
      simp [Stage.brought?, Stage.adopted?]
  | countHit | countMiss | observe | permit | countLoad | begin | fail | countFailure | leave =>
      simp [Stage.brought?, Stage.adopted?, Filling.IsPending, Cache.slotValue, Cache.countHit,
        Cache.countMiss, Cache.countLoad, Cache.countFailure]

theorem Advance.admitted (advance : Advance traffic call label before after cache loads)
    (sound : traffic.cache.Sound capacity) :
    cache.admitted = traffic.cache.admitted +
      (before.adopted? traffic.cache label).toList.length := by
  cases advance with
  | find _ _ looked | miss _ _ looked => exact admitted_lookUp sound.distinct looked
  | adopt slot handle =>
      by_cases owner : List.lookup label traffic.cache.pending = some slot
      · have absent : List.lookup label traffic.cache.entries = none := by
          cases kept : List.lookup label traffic.cache.entries with
          | none => rfl
          | some held =>
              rw [sound.apart label (by rw [contains, kept]; rfl)] at owner
              cases owner
        have forgotten : List.lookup label (traffic.cache.forget label).entries = none := absent
        rw [adopt_of_owner owner, admitted_keep forgotten, Stage.adopted?, if_pos owner]
        rfl
      · rw [adopt_of_not_owner owner, Stage.adopted?, if_neg owner]
        rfl
  | release slot fault => exact admitted_release _ _ _ _
  | _ => rfl

theorem Advance.begun (advance : Advance traffic call label before after cache loads) :
    cache.tally.loads + traffic.cache.tally.loadFailures + before.isOpen.toNat =
      traffic.cache.tally.loads + cache.tally.loadFailures + after.isOpen.toNat +
        (before.brought? label after).toList.length := by
  cases advance with
  | find _ _ looked | miss _ _ looked =>
      rw [lookUp_tally looked]
      rfl
  | countLoad slot =>
      simp only [Cache.countLoad, Stage.isOpen, Stage.brought?, Bool.toNat_true, Bool.toNat_false,
        Option.toList_none, List.length_nil]
      omega
  | countFailure slot fault =>
      simp only [Cache.countFailure, Stage.isOpen, Stage.brought?, Bool.toNat_true,
        Bool.toNat_false, Option.toList_none, List.length_nil]
      omega
  | adopt slot handle =>
      obtain ⟨evictions, same⟩ := adopt_tally traffic.cache label slot handle
      rw [same]
      rfl
  | release slot fault =>
      rw [release_tally]
      rfl
  | _ => rfl

/-! ## Actions -/

theorem seen_of_act (acted : traffic.act? action = some next) :
    (∃ label, next = traffic.enter label ∧ traffic.brought? action = none ∧
      traffic.adopted? action = none) ∨
    ∃ call label before after cache loads, traffic.calls[call]? = some ⟨label, before⟩ ∧
      Advance traffic call label before after cache loads ∧
      next = ⟨cache, traffic.calls.set call ⟨label, after⟩, loads⟩ ∧
      traffic.brought? action = before.brought? label after ∧
      traffic.adopted? action = before.adopted? traffic.cache label := by
  cases action with
  | enter label => exact Or.inl ⟨label, (Option.some.inj acted).symm, rfl, rfl⟩
  | move call =>
      obtain ⟨label, before, after, cache, loads, made, advance, rfl⟩ := advances_of_move acted
      refine Or.inr ⟨call, label, before, after, cache, loads, made, advance, rfl, ?_, ?_⟩
      · cases advance with
        | succeed slot load handle => exact absurd made (not_loading_of_move acted)
        | _ => rfl
      · simp only [adopted?, made]
        cases before <;> rfl
  | answer call result =>
      obtain ⟨label, slot, load, made⟩ := loading_of_answer acted
      have found : traffic.stage? call = some (.loading slot load) := by simp [stage?, made]
      simp only [act?, answer?, found] at acted
      cases result with
      | ok handle =>
          refine Or.inr ⟨call, label, _, _, _, _, made, .succeed slot load handle, ?_, ?_, rfl⟩
          · exact (Option.some.inj acted).symm.trans (setStage_eq made _ _ _)
          · simp only [brought?, made]
            rfl
      | error fault =>
          refine Or.inr ⟨call, label, _, _, _, _, made, .fail slot load fault, ?_, rfl, rfl⟩
          exact (Option.some.inj acted).symm.trans (setStage_eq made _ _ _)

structure Handled (traffic next : Traffic α) (brought adopted : Option (Filling α)) : Prop where
  lasting : ∀ slot handle, traffic.cache.slotValue slot = some handle →
    next.cache.slotValue slot = some handle
  fresh : ∀ filling, brought = some filling → traffic.cache.slotValue filling.slot = none ∧
    next.cache.slotValue filling.slot = some filling.handle
  taken : ∀ filling, adopted = some filling → filling.IsPending traffic.cache ∧
    traffic.cache.contains filling.label = false
  pending : ∀ filling : Filling α, filling.IsPending next.cache ↔
    (filling.IsPending traffic.cache ∨ brought = some filling) ∧ adopted ≠ some filling
  admitted : next.cache.admitted = traffic.cache.admitted + adopted.toList.length
  begun : next.cache.tally.loads + traffic.cache.tally.loadFailures + traffic.count Stage.isOpen =
    traffic.cache.tally.loads + next.cache.tally.loadFailures + next.count Stage.isOpen +
      brought.toList.length
  served : ∀ filling : Filling α, filling.IsPending next.cache →
    (∃ call : Nat, traffic.calls[call]? =
      some ⟨filling.label, .served filling.slot filling.handle⟩) ∨ brought = some filling →
    ∃ call : Nat, next.calls[call]? = some ⟨filling.label, .served filling.slot filling.handle⟩

theorem handled_enter (traffic : Traffic α) (label : String) :
    Handled traffic (traffic.enter label) none none where
  lasting := fun _ _ value => value
  fresh := fun _ brought => nomatch brought
  taken := fun _ adopted => nomatch adopted
  pending := fun filling => by simp [enter]
  admitted := rfl
  begun := by
    rw [count_enter]
    rfl
  served := by
    rintro filling - (⟨call, found⟩ | brought)
    · have inside := (List.getElem?_eq_some_iff.mp found).1
      exact ⟨call, (List.getElem?_append_left inside).trans found⟩
    · cases brought

theorem handled_act (reachable : Reachable capacity traffic)
    (acted : traffic.act? action = some next) :
    Handled traffic next (traffic.brought? action) (traffic.adopted? action) := by
  have slots := slots_reachable reachable
  rcases seen_of_act acted with ⟨label, rfl, unbrought, unadopted⟩ |
    ⟨call, label, before, after, cache, loads, made, advance, rfl, brings, adopts⟩
  · rw [unbrought, unadopted]
    exact handled_enter traffic label
  · rw [brings, adopts]
    have placed := slots.placed call _ made
    have alone (slot : Nat) (other : String)
        (owner : List.lookup label traffic.cache.pending = some slot)
        (found : List.lookup other traffic.cache.pending = some slot) : other = label := by
      obtain ⟨owners, origins⟩ := origins_reachable reachable
      exact (origins.owned.pending other slot found).symm.trans
        (origins.owned.pending label slot owner)
    have pending := advance.pending placed alone
    refine ⟨fun _ _ => advance.lasting placed, fun _ => advance.fresh placed, ?_, pending,
      advance.admitted slots.sound, ?_, ?_⟩
    · intro filling adopted
      obtain ⟨-, waits⟩ := isPending_of_adopted? placed adopted
      refine ⟨waits, Bool.eq_false_iff.mpr fun kept => ?_⟩
      have gone := slots.sound.apart filling.label kept
      rw [waits.1] at gone
      cases gone
    · have counted := count_set made cache after loads Stage.isOpen
      have begun := advance.begun
      simp only
      omega
    · have inside := (List.getElem?_eq_some_iff.mp made).1
      rintro filling waits (⟨other, found⟩ | brought)
      · by_cases same : other = call
        · -- A caller that is served adopts what still waits, so nothing is left of it afterwards.
          subst same
          rw [made, Option.some.injEq, Call.mk.injEq] at found
          obtain ⟨rfl, rfl⟩ := found
          have ⟨earlier, unadopted⟩ := (pending filling).mp waits
          rcases earlier with older | brought
          · exact absurd (if_pos older.1) unadopted
          · cases brought
        · exact ⟨other, (List.getElem?_set_ne (Ne.symm same)).trans found⟩
      · cases advance with
        | succeed slot load handle =>
            obtain rfl := Option.some.inj brought
            exact ⟨call, List.getElem?_set_self inside⟩
        | _ => cases brought

/-! ## Runs -/

def fillings (capacity : Nat) (actions : List (Action α)) : List (Filling α) :=
  (idle capacity).chronicle brought? actions

def adoptions (capacity : Nat) (actions : List (Action α)) : List (Filling α) :=
  (idle capacity).chronicle adopted? actions

structure Adopts (capacity : Nat) (actions : List (Action α)) (traffic : Traffic α) : Prop where
  filled : ∀ filling ∈ fillings capacity actions,
    traffic.cache.slotValue filling.slot = some filling.handle
  brought_once : (fillings capacity actions).Nodup
  adopted_once : (adoptions capacity actions).Nodup
  split : ∀ filling, filling ∈ fillings capacity actions ↔
    filling ∈ adoptions capacity actions ∨ filling.IsPending traffic.cache
  apart : ∀ filling ∈ adoptions capacity actions, ¬ filling.IsPending traffic.cache
  admitted : traffic.cache.admitted = (adoptions capacity actions).length
  begun : traffic.cache.tally.loads = traffic.cache.tally.loadFailures +
    traffic.count Stage.isOpen + (fillings capacity actions).length
  served : ∀ filling : Filling α, filling.IsPending traffic.cache → ∃ call : Nat,
    traffic.calls[call]? = some ⟨filling.label, .served filling.slot filling.handle⟩

theorem adopts_idle (capacity : Nat) : Adopts capacity [] (idle capacity : Traffic α) where
  filled := fun _ member => nomatch member
  brought_once := List.nodup_nil
  adopted_once := List.nodup_nil
  split := fun _ => iff_of_false (fun member => nomatch member)
    (fun either => either.elim (fun member => nomatch member) fun waits => nomatch waits.1)
  apart := fun _ member => nomatch member
  admitted := rfl
  begun := rfl
  served := fun _ waits => nomatch waits.1

theorem nodup_append_toList {β : Type} {list : List β} {more : Option β} (distinct : list.Nodup)
    (fresh : ∀ value, more = some value → value ∉ list) : (list ++ more.toList).Nodup := by
  cases more with
  | none => simpa using distinct
  | some value => exact List.nodup_append_comm.mp (List.nodup_cons.mpr ⟨fresh value rfl, distinct⟩)

theorem Adopts.act (adopts : Adopts capacity actions traffic)
    (ran : (idle capacity).follow? actions = some traffic)
    (handled : Handled traffic next (traffic.brought? action) (traffic.adopted? action)) :
    Adopts capacity (actions ++ [action]) next := by
  have brings : fillings capacity (actions ++ [action]) =
      fillings capacity actions ++ (traffic.brought? action).toList :=
    chronicle_concat brought? ran action
  have takes : adoptions capacity (actions ++ [action]) =
      adoptions capacity actions ++ (traffic.adopted? action).toList :=
    chronicle_concat adopted? ran action
  have unfilled (filling : Filling α) (brought : traffic.brought? action = some filling) :
      filling ∉ fillings capacity actions := by
    intro older
    have value := adopts.filled filling older
    rw [(handled.fresh filling brought).1] at value
    cases value
  refine ⟨?_, ?_, ?_, ?_, ?_, ?_, ?_, ?_⟩
  · intro filling member
    rw [brings, List.mem_append, Option.mem_toList] at member
    rcases member with older | brought
    · exact handled.lasting _ _ (adopts.filled filling older)
    · exact (handled.fresh filling brought).2
  · rw [brings]
    exact nodup_append_toList adopts.brought_once unfilled
  · rw [takes]
    refine nodup_append_toList adopts.adopted_once fun filling adopted older => ?_
    exact adopts.apart filling older (handled.taken filling adopted).1
  · intro filling
    rw [brings, takes, List.mem_append, List.mem_append, Option.mem_toList, Option.mem_toList,
      handled.pending, adopts.split]
    have taken := handled.taken filling
    tauto
  · intro filling member waits
    rw [takes, List.mem_append, Option.mem_toList] at member
    obtain ⟨earlier, unadopted⟩ := (handled.pending filling).mp waits
    rcases member with older | adopted
    · rcases earlier with waited | brought
      · exact adopts.apart filling older waited
      · exact unfilled filling brought ((adopts.split filling).mpr (Or.inl older))
    · exact unadopted adopted
  · rw [takes, List.length_append, handled.admitted, adopts.admitted]
  · rw [brings, List.length_append]
    have before := adopts.begun
    have step := handled.begun
    omega
  · intro filling waits
    refine handled.served filling waits ?_
    obtain ⟨earlier, -⟩ := (handled.pending filling).mp waits
    exact earlier.imp_left (adopts.served filling)

theorem adopts_follow (ran : (idle capacity).follow? actions = some traffic) :
    Adopts capacity actions traffic := by
  refine follow?_induction (Adopts capacity) (adopts_idle capacity) ?_ ran
  intro earlier before action after ranBefore adopts acted
  have reachable := reachable_iff_follow.mpr ⟨earlier, ranBefore⟩
  exact adopts.act ranBefore (handled_act reachable acted)

/-- Once no call is under way, the counters of a cache balance: every call was counted as a hit or
as a miss, every load once, and each load has failed, was evicted or is kept. For every handle that
a load brought was moved into the entries exactly once, and never in place of one that was there. -/
theorem counts_conserved (ran : (idle capacity).follow? actions = some traffic)
    (past : ∀ made ∈ traffic.calls, made.stage.isOver = true) :
    traffic.cache.tally.hits + traffic.cache.tally.misses = traffic.calls.length ∧
    traffic.cache.tally.loads = traffic.loads.length ∧
    traffic.cache.tally.loads = traffic.cache.tally.loadFailures + traffic.cache.tally.evictions +
      traffic.cache.entries.length ∧
    traffic.cache.tally.loads ≤ traffic.cache.tally.misses ∧
    traffic.cache.entries.length ≤ capacity ∧
    (fillings capacity actions).Nodup ∧
    (adoptions capacity actions).Perm (fillings capacity actions) ∧
    ∀ earlier action later before filling, actions = earlier ++ action :: later →
      (idle capacity).follow? earlier = some before → before.adopted? action = some filling →
      before.cache.contains filling.label = false := by
  have reachable := reachable_iff_follow.mpr ⟨actions, ran⟩
  have balanced := balanced_reachable reachable
  have adopts := adopts_follow ran
  -- No call is at a stage where a count is due, and none is left to adopt a handle.
  have nothing_waits (filling : Filling α) : ¬ filling.IsPending traffic.cache := by
    intro waits
    obtain ⟨call, found⟩ := adopts.served filling waits
    cases past _ (List.mem_of_getElem? found)
  have adopted : (adoptions capacity actions).Perm (fillings capacity actions) := by
    rw [List.perm_ext_iff_of_nodup adopts.adopted_once adopts.brought_once]
    intro filling
    rw [adopts.split, or_iff_left (nothing_waits filling)]
  have begun := adopts.begun
  have admitted := adopts.admitted
  rw [count_eq_zero past (fun _ => rfl) rfl, ← adopted.length_eq, ← admitted] at begun
  refine ⟨?_, ?_, ?_, ?_, (slots_reachable reachable).sound.bound, adopts.brought_once, adopted, ?_⟩
  · rw [← balanced.lookups, count_eq_zero past (fun _ => rfl) rfl, Nat.add_zero]
  · rw [balanced.begun, count_eq_zero past (fun _ => rfl) rfl, Nat.add_zero]
  · rw [begun, Cache.admitted, Nat.add_zero, Nat.add_assoc]
  · exact Nat.le_trans (Nat.le_add_right _ _) balanced.missed
  · rintro earlier action later before filling rfl ranBefore moved
    obtain ⟨between, ranEarlier, ranLater⟩ := follow?_append_eq_some.mp ran
    obtain rfl := Option.some.inj (ranBefore.symm.trans ranEarlier)
    obtain ⟨after, acted, -⟩ := follow?_cons_eq_some.mp ranLater
    have reached := reachable_iff_follow.mpr ⟨earlier, ranBefore⟩
    exact ((handled_act reached acted).taken filling moved).2

theorem counts_conserved_shared :
    ∃ (actions : List (Action Nat)) (traffic : Traffic Nat),
      (idle 1).follow? actions = some traffic ∧
      (∀ made ∈ traffic.calls, made.stage.isOver = true) ∧
      traffic.cache.tally = ⟨1, 4, 3, 1, 1⟩ ∧ traffic.cache.entries = [("b", 8)] ∧
      fillings 1 actions = [⟨"a", 0, 7⟩, ⟨"b", 2, 8⟩] ∧
      (adoptions 1 actions).Perm (fillings 1 actions) ∧
      traffic.cache.tally.loads = traffic.cache.tally.loadFailures +
        traffic.cache.tally.evictions + traffic.cache.entries.length := by
  -- One handle fits. Two callers of a label share a load, and the one that waited adopts its
  -- handle, which a third caller finds. A load of another label fails, and the second one has
  -- the first handle evicted.
  let gone : VerificationError := .compilerLoad "b" "gone"
  let last : Traffic Nat :=
    ⟨⟨1, [("b", 8)], [], [some 7, none, some 8], ⟨1, 4, 3, 1, 1⟩⟩,
      [⟨"a", .returned (.ok 7)⟩, ⟨"a", .returned (.ok 7)⟩, ⟨"a", .returned (.ok 7)⟩,
        ⟨"b", .returned (.error gone)⟩, ⟨"b", .returned (.ok 8)⟩],
      [⟨"a", .answered (.ok 7)⟩, ⟨"b", .answered (.error gone)⟩, ⟨"b", .answered (.ok 8)⟩]⟩
  have ran : (idle 1).follow? (List.flatten [[.enter "a", .enter "a"], .replicate 5 (.move 0),
      .replicate 2 (.move 1), [.answer 0 (.ok 7)], .replicate 3 (.move 1), .replicate 2 (.move 0),
      [.enter "a"], .replicate 3 (.move 2), [.enter "b"], .replicate 5 (.move 3),
      [.answer 3 (.error gone)], .replicate 3 (.move 3), [.enter "b"], .replicate 5 (.move 4),
      [.answer 4 (.ok 8)], .replicate 2 (.move 4)]) = some last := rfl
  have past : ∀ made ∈ last.calls, made.stage.isOver = true := by decide
  obtain ⟨-, -, balance, -, -, -, adopted, -⟩ := counts_conserved ran past
  exact ⟨_, last, ran, past, rfl, rfl, rfl, adopted, balance⟩

end Traffic

end DeployCheck.Cache
