import DeployCheck.Proofs.Cache.Slots
namespace DeployCheck.Cache

variable {α : Type}

def Stage.handle? : Stage α → Option α
  | found handle | served _ handle => some handle
  | leaving _ (.ok handle) | returned (.ok handle) => some handle
  | _ => none

def Stage.fault? : Stage α → Option VerificationError
  | failed _ fault | refused _ fault => some fault
  | leaving _ (.error fault) | returned (.error fault) => some fault
  | _ => none

def Stage.result? : Stage α → Option (Except VerificationError α)
  | leaving _ result | returned result => some result
  | _ => none

theorem Stage.handle?_of_result? {stage : Stage α} {handle : α}
    (result : stage.result? = some (.ok handle)) : stage.handle? = some handle := by
  cases stage <;> simp_all [result?, handle?]

theorem Stage.fault?_of_result? {stage : Stage α} {fault : VerificationError}
    (result : stage.result? = some (.error fault)) : stage.fault? = some fault := by
  cases stage <;> simp_all [result?, fault?]

theorem Stage.fault?_of_handle? {stage : Stage α} {handle : α}
    (found : stage.handle? = some handle) : stage.fault? = none := by
  cases stage with
  | failed | refused => cases found
  | leaving _ result | returned result => cases result <;> simp_all [fault?, handle?]
  | _ => rfl

def Brought (loads : List (Load α)) (label : String) (handle : α) : Prop :=
  ∃ load : Nat, loads[load]? = some ⟨label, .answered (.ok handle)⟩

/-! ## Owners of slots -/

structure Owned (owner : Nat → String) (cache : Cache α) (loads : List (Load α)) : Prop where
  pending : ∀ label slot, List.lookup label cache.pending = some slot → owner slot = label
  filled : ∀ slot handle, cache.slotValue slot = some handle → Brought loads (owner slot) handle
  kept : ∀ label handle, (label, handle) ∈ cache.entries → Brought loads label handle

namespace Owned

variable {owner : Nat → String} {cache next : Cache α} {loads later : List (Load α)}
  {label : String} {slot : Nat} {handle : α}

theorem of_loads (owned : Owned owner cache loads)
    (lasting : ∀ label handle, Brought loads label handle → Brought later label handle) :
    Owned owner cache later where
  pending := owned.pending
  filled := fun slot handle value => lasting _ _ (owned.filled slot handle value)
  kept := fun label handle member => lasting _ _ (owned.kept label handle member)

theorem found (owned : Owned owner cache loads)
    (looked : cache.lookUp label = (.found handle, next)) :
    Owned owner next loads ∧ Brought loads label handle := by
  rcases lookUp_found looked with ⟨kept, rfl⟩ | ⟨-, ⟨slot, waiting, value⟩, rfl⟩
  · have brought := owned.kept label handle (mem_of_lookup kept)
    refine ⟨⟨owned.pending, owned.filled, ?_⟩, brought⟩
    intro other held member
    rcases List.mem_cons.mp member with same | older
    · rw [Prod.mk.injEq] at same
      exact same.1 ▸ same.2 ▸ brought
    · exact owned.kept other held (List.mem_of_mem_filter older)
  · have brought := owned.filled slot handle value
    rw [owned.pending label slot waiting] at brought
    exact ⟨owned, brought⟩

theorem addSlot (owned : Owned owner cache loads)
    (made : ∀ label slot, List.lookup label cache.pending = some slot → slot < cache.slots.length) :
    Owned (Function.update owner cache.slots.length label)
      { cache with
        pending := (label, cache.slots.length) :: cache.pending
        slots := cache.slots ++ [none] } loads where
  pending := by
    intro other slot found
    rw [List.lookup_cons] at found
    split at found
    · rename_i same
      obtain rfl := Option.some.inj found
      rw [Function.update_self, eq_of_beq same]
    · rw [Function.update_of_ne (Nat.ne_of_lt (made other slot found))]
      exact owned.pending other slot found
  filled := by
    intro slot handle value
    rw [slotValue_addSlot] at value
    rw [Function.update_of_ne (Nat.ne_of_lt (slotValue_lt value))]
    exact owned.filled slot handle value
  kept := owned.kept

theorem fill (owned : Owned owner cache loads) (brought : Brought loads (owner slot) handle) :
    Owned owner (cache.fill slot handle) loads where
  pending := owned.pending
  filled := by
    intro place other value
    by_cases same : place = slot
    · subst same
      have inside : place < cache.slots.length := by simpa [Cache.fill] using slotValue_lt value
      rw [slotValue_fill_self inside, Option.some.injEq] at value
      exact value ▸ brought
    · rw [slotValue_fill_ne same] at value
      exact owned.filled place other value
  kept := owned.kept

theorem forget (owned : Owned owner cache loads) (label : String) :
    Owned owner (cache.forget label) loads where
  pending := by
    intro other slot found
    rw [lookup_forget] at found
    split at found
    · cases found
    · exact owned.pending other slot found
  filled := owned.filled
  kept := owned.kept

theorem adopt (owned : Owned owner cache loads) (brought : Brought loads label handle)
    (slot : Nat) : Owned owner (cache.adopt label slot handle) loads := by
  by_cases mine : List.lookup label cache.pending = some slot
  · rw [adopt_of_owner mine]
    have forgotten := owned.forget label
    refine ⟨forgotten.pending, forgotten.filled, ?_⟩
    intro other held member
    rcases mem_keep member with same | older
    · rw [Prod.mk.injEq] at same
      exact same.1 ▸ same.2 ▸ brought
    · exact owned.kept other held older
  · rw [adopt_of_not_owner mine]
    exact owned

theorem release (owned : Owned owner cache loads) (label : String) (slot : Nat) (shared : Bool) :
    Owned owner (cache.release label slot shared) loads := by
  rcases release_cases cache label slot shared with ⟨-, -, -, same⟩ | same
  · exact same ▸ owned.forget label
  · exact same.symm ▸ owned

end Owned

structure Call.Honest (owner : Nat → String) (loads : List (Load α)) (made : Call α) : Prop where
  held : ∀ slot, made.stage.slot? = some slot → owner slot = made.label
  taken : ∀ handle, made.stage.handle? = some handle → Brought loads made.label handle

theorem Call.Honest.of_free {owner : Nat → String} {loads : List (Load α)} {made : Call α}
    (free : made.stage.slot? = none)
    (taken : ∀ handle, made.stage.handle? = some handle → Brought loads made.label handle) :
    made.Honest owner loads where
  held := fun slot held => by simp [free] at held
  taken := taken

namespace Traffic

variable {capacity call : Nat} {traffic next : Traffic α} {label : String} {before after : Stage α}
  {cache : Cache α} {loads : List (Load α)}

/-! ## Answers are final -/

theorem Advance.answered_after (advance : Advance traffic call label before after cache loads)
    (placed : (⟨label, before⟩ : Call α).Placed traffic.cache traffic.loads) {load : Nat}
    {owner : String} {result : Except VerificationError α}
    (answered : traffic.loads[load]? = some ⟨owner, .answered result⟩) :
    loads[load]? = some ⟨owner, .answered result⟩ := by
  have settled (slot begun : Nat) (outcome : Outcome α) (mine : before = .loading slot begun) :
      (traffic.setOutcome begun outcome).loads[load]? = some ⟨owner, .answered result⟩ := by
    have differs : load ≠ begun := by
      rintro rfl
      simp [placed.running slot load mine] at answered
    rw [setOutcome_ne differs, answered]
  cases advance with
  | begin slot =>
      exact (List.getElem?_append_left (List.getElem?_eq_some_iff.mp answered).1).trans answered
  | succeed slot begun handle => exact settled slot begun _ rfl
  | fail slot begun fault => exact settled slot begun _ rfl
  | _ => exact answered

theorem Slots.answered_act (slots : Slots capacity traffic) {action : Action α}
    (acted : traffic.act? action = some next) {load : Nat} {result : Except VerificationError α}
    (answered : traffic.loads[load]? = some ⟨label, .answered result⟩) :
    next.loads[load]? = some ⟨label, .answered result⟩ := by
  rcases act_cases acted with ⟨_, -, rfl⟩ | ⟨call, -, _, _, _, _, _, made, advance, rfl⟩
  · exact answered
  · exact advance.answered_after (slots.placed call _ made) answered

/-! ## Handles -/

structure Origins (owner : Nat → String) (traffic : Traffic α) : Prop where
  owned : Owned owner traffic.cache traffic.loads
  honest : ∀ (call : Nat) (made : Call α), traffic.calls[call]? = some made →
    made.Honest owner traffic.loads

theorem origins_idle (capacity : Nat) (owner : Nat → String) :
    Origins owner (idle capacity : Traffic α) where
  owned :=
    { pending := fun _ _ found => nomatch found
      filled := fun _ _ value => nomatch value
      kept := fun _ _ member => nomatch member }
  honest := fun _ made found => nomatch (found : none = some made)

variable {owner : Nat → String}

theorem Origins.enter (origins : Origins owner traffic) (label : String) :
    Origins owner (traffic.enter label) where
  owned := origins.owned
  honest := by
    intro i made found
    rcases mem_enter found with older | rfl
    · exact origins.honest i made older
    · exact .of_free rfl fun _ taken => nomatch taken

theorem Advance.owned (advance : Advance traffic call label before after cache loads)
    (slots : Slots capacity traffic) (origins : Origins owner traffic)
    (made : traffic.calls[call]? = some ⟨label, before⟩) :
    ∃ owners : Nat → String, (∀ slot < traffic.cache.slots.length, owners slot = owner slot) ∧
      Owned owners cache loads ∧ (⟨label, after⟩ : Call α).Honest owners loads := by
  have placed := slots.placed call _ made
  have honest := origins.honest call _ made
  have lasting : ∀ label handle, Brought traffic.loads label handle → Brought loads label handle :=
    fun _ _ ⟨load, answered⟩ => ⟨load, advance.answered_after placed answered⟩
  have owned := origins.owned.of_loads lasting
  cases advance with
  | find handle cache looked =>
      obtain ⟨kept, brought⟩ := owned.found looked
      refine ⟨owner, fun _ _ => rfl, kept, .of_free rfl fun _ taken => ?_⟩
      exact Option.some.inj taken ▸ brought
  | miss slot cache looked =>
      obtain ⟨-, ⟨waiting, -, rfl⟩ | ⟨-, rfl, rfl⟩⟩ := lookUp_missed looked
      · refine ⟨owner, fun _ _ => rfl, owned, ⟨fun _ held => ?_, fun _ taken => nomatch taken⟩⟩
        exact Option.some.inj held ▸ owned.pending label slot waiting
      · refine ⟨_, fun _ inside => Function.update_of_ne (Nat.ne_of_lt inside) label owner,
          owned.addSlot slots.sound.made, ⟨fun _ held => ?_, fun _ taken => nomatch taken⟩⟩
        exact Option.some.inj held ▸ Function.update_self _ _ _
  | succeed slot load handle =>
      have brought :
          Brought (traffic.setOutcome load (.answered (.ok handle))).loads label handle :=
        ⟨load, setOutcome_self (placed.running slot load rfl) _⟩
      refine ⟨owner, fun _ _ => rfl, ?_, ⟨honest.held, ?_⟩⟩
      · apply owned.fill
        rw [honest.held slot rfl]
        exact brought
      · exact fun _ taken => Option.some.inj taken ▸ brought
  | observe slot handle filled =>
      refine ⟨owner, fun _ _ => rfl, owned, ⟨honest.held, fun _ taken => ?_⟩⟩
      have brought := owned.filled slot handle filled
      rw [honest.held slot rfl] at brought
      exact Option.some.inj taken ▸ brought
  | adopt slot handle =>
      have brought : Brought traffic.loads label handle := honest.taken handle rfl
      exact ⟨owner, fun _ _ => rfl, owned.adopt brought slot, ⟨honest.held, honest.taken⟩⟩
  | release slot fault =>
      exact ⟨owner, fun _ _ => rfl, owned.release label slot _,
        ⟨honest.held, fun _ taken => nomatch taken⟩⟩
  | countHit handle =>
      exact ⟨owner, fun _ _ => rfl, ⟨owned.pending, owned.filled, owned.kept⟩,
        .of_free rfl honest.taken⟩
  | countMiss | countLoad | countFailure =>
      exact ⟨owner, fun _ _ => rfl, ⟨owned.pending, owned.filled, owned.kept⟩,
        ⟨honest.held, fun _ taken => nomatch taken⟩⟩
  | permit | begin | fail =>
      exact ⟨owner, fun _ _ => rfl, owned, ⟨honest.held, fun _ taken => nomatch taken⟩⟩
  | leave slot result =>
      refine ⟨owner, fun _ _ => rfl, owned, .of_free rfl ?_⟩
      cases result with
      | ok handle => exact honest.taken
      | error fault => exact fun _ taken => nomatch taken

theorem Origins.advance (origins : Origins owner traffic) (slots : Slots capacity traffic)
    (advances : traffic.Advances call next) : ∃ owners, Origins owners next := by
  obtain ⟨label, before, after, cache, loads, made, advance, rfl⟩ := advances
  obtain ⟨owners, same, owned, honest⟩ := advance.owned slots origins made
  refine ⟨owners, owned, ?_⟩
  intro i other found
  rcases mem_set found with ⟨-, rfl⟩ | ⟨-, older⟩
  · exact honest
  · have others := origins.honest i other older
    refine ⟨fun slot held => ?_, fun handle taken => ?_⟩
    · rw [same slot ((slots.placed i other older).inside slot held)]
      exact others.held slot held
    · obtain ⟨load, answered⟩ := others.taken handle taken
      exact ⟨load, advance.answered_after (slots.placed call _ made) answered⟩

theorem origins_reachable (reachable : Reachable capacity traffic) :
    ∃ owner, Origins owner traffic := by
  induction reachable with
  | idle => exact ⟨fun _ => "", origins_idle capacity _⟩
  | step before step ih =>
      obtain ⟨owner, origins⟩ := ih
      rcases step_cases step with ⟨label, rfl⟩ | ⟨call, advances⟩
      · exact ⟨owner, origins.enter label⟩
      · exact origins.advance (slots_reachable before) advances

end Traffic

end DeployCheck.Cache
