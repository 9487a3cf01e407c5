import DeployCheck.Proofs.Cache.Handles
/-!
What a call returns, in terms of the run that it returns in. A handle was brought by a load of the
call's own label; a failure is the answer to a load that the call itself began, and such a call has
left the order and the content of the entries alone.
-/
namespace DeployCheck.Cache.Traffic

variable {α : Type} {capacity call load slot : Nat} {traffic next : Traffic α} {label : String}
  {before after : Stage α} {cache : Cache α} {loads : List (Load α)} {action : Action α}
  {actions : List (Action α)} {result : Except VerificationError α}

def Began (capacity : Nat) (actions : List (Action α)) (call : Nat) (label : String) (load : Nat) :
    Prop :=
  ∃ earlier later before slot, actions = earlier ++ .move call :: later ∧
    (idle capacity).follow? earlier = some before ∧
    before.calls[call]? = some ⟨label, .counted slot⟩ ∧ before.loads.length = load

/-- In the run, a load of the label that the call itself has begun is answered with this result. -/
def Invoked (capacity : Nat) (actions : List (Action α)) (call : Nat) (label : String)
    (result : Except VerificationError α) : Prop :=
  ∃ earlier later before slot load, actions = earlier ++ .answer call result :: later ∧
    Began capacity earlier call label load ∧ (idle capacity).follow? earlier = some before ∧
    before.calls[call]? = some ⟨label, .loading slot load⟩

/-- In the run, nothing that the call does changes the entries. -/
def SparesEntries (capacity : Nat) (actions : List (Action α)) (call : Nat) : Prop :=
  ∀ earlier action later before after, actions = earlier ++ action :: later →
    action.caller? = some call → (idle capacity).follow? earlier = some before →
    before.act? action = some after → after.cache.entries = before.cache.entries

theorem Began.append (began : Began capacity actions call label load) (more : List (Action α)) :
    Began capacity (actions ++ more) call label load := by
  obtain ⟨earlier, later, before, slot, rfl, ran, counted⟩ := began
  exact ⟨earlier, later ++ more, before, slot, by simp, ran, counted⟩

theorem Invoked.append (invoked : Invoked capacity actions call label result)
    (more : List (Action α)) : Invoked capacity (actions ++ more) call label result := by
  obtain ⟨earlier, later, before, slot, load, rfl, began, ran, loading⟩ := invoked
  exact ⟨earlier, later ++ more, before, slot, load, by simp, began, ran, loading⟩

theorem invoked_concat (invoked : Invoked capacity (actions ++ [action]) call label result) :
    Invoked capacity actions call label result ∨ ∃ before slot load,
      action = .answer call result ∧ (idle capacity).follow? actions = some before ∧
      before.calls[call]? = some ⟨label, .loading slot load⟩ := by
  obtain ⟨earlier, later, before, slot, load, split, began, ran, loading⟩ := invoked
  rcases later.eq_nil_or_concat with rfl | ⟨rest, last, rfl⟩
  · obtain ⟨rfl, same⟩ := List.append_inj' split rfl
    exact Or.inr ⟨before, slot, load, List.singleton_inj.mp same, ran, loading⟩
  · rw [List.concat_eq_append, ← List.cons_append, ← List.append_assoc] at split
    obtain ⟨rfl, -⟩ := List.append_inj' split rfl
    exact Or.inl ⟨earlier, rest, before, slot, load, rfl, began, ran, loading⟩

/-! ## One step -/

theorem Advance.loading_before (advance : Advance traffic call label before after cache loads)
    (loading : after = .loading slot load) :
    before = .counted slot ∧ traffic.loads.length = load := by
  cases advance with
  | begin place =>
      rw [Stage.loading.injEq] at loading
      exact ⟨congrArg Stage.counted loading.1, loading.2⟩
  | _ => cases loading

theorem Advance.fault_before (advance : Advance traffic call label before after cache loads)
    {fault : VerificationError} (failed : after.fault? = some fault) :
    before.fault? = some fault ∨ ∃ slot load, before = .loading slot load := by
  cases advance with
  | fail slot load => exact Or.inr ⟨slot, load, rfl⟩
  | countFailure | release => exact Or.inl failed
  | leave slot result =>
      cases result with
      | ok handle => cases failed
      | error fault => exact Or.inl failed
  | _ => cases failed

theorem Advance.answered_before (advance : Advance traffic call label before after cache loads)
    {owner : String} (answered : loads[load]? = some ⟨owner, .answered result⟩) :
    traffic.loads[load]? = some ⟨owner, .answered result⟩ ∨
      ∃ slot load, before = .loading slot load := by
  cases advance with
  | begin slot =>
      rw [List.getElem?_append] at answered
      split at answered
      · exact Or.inl answered
      · have last := List.mem_of_getElem? answered
        simp at last
  | succeed slot load | fail slot load => exact Or.inr ⟨slot, load, rfl⟩
  | _ => exact Or.inl answered

theorem Advance.entries_or_handle (advance : Advance traffic call label before after cache loads) :
    cache.entries = traffic.cache.entries ∨ after.handle?.isSome := by
  cases advance with
  | miss slot cache looked =>
      obtain ⟨-, ⟨-, -, rfl⟩ | ⟨-, -, rfl⟩⟩ := lookUp_missed looked
      · exact Or.inl rfl
      · exact Or.inl rfl
  | release slot fault =>
      rcases release_cases traffic.cache label slot (traffic.isShared call slot) with
        ⟨-, -, -, same⟩ | same
      · rw [same]
        exact Or.inl rfl
      · rw [same]
        exact Or.inl rfl
  | find | adopt => exact Or.inr rfl
  | _ => exact Or.inl rfl

theorem Advance.handle_after (advance : Advance traffic call label before after cache loads)
    (handed : before.handle?.isSome) : after.handle?.isSome := by
  cases advance with
  | countHit | adopt => rfl
  | leave slot result =>
      cases result with
      | ok handle => rfl
      | error fault => cases handed
  | _ => cases handed

theorem not_loading_of_move (moved : traffic.move? call = some next) :
    traffic.calls[call]? ≠ some ⟨label, .loading slot load⟩ := by
  intro made
  rw [move?_of_loading made] at moved
  cases moved

theorem answer_cases (answered : traffic.answer? call result = some next) :
    ∃ label slot load stage, traffic.calls[call]? = some ⟨label, .loading slot load⟩ ∧
      next.loads = (traffic.setOutcome load (.answered result)).loads ∧
      next.calls = traffic.calls.set call ⟨label, stage⟩ ∧
      ∀ fault, stage.fault? = some fault → result = .error fault := by
  obtain ⟨label, slot, load, made⟩ := loading_of_answer answered
  have found : traffic.stage? call = some (.loading slot load) := by simp [stage?, made]
  simp only [answer?, found] at answered
  have settled (cache : Cache α) (stage : Stage α) :=
    setStage_eq made cache (traffic.setOutcome load (.answered result)).loads stage
  cases result with
  | ok handle =>
      obtain rfl := (settled _ _).symm.trans (Option.some.inj answered)
      refine ⟨label, slot, load, _, made, rfl, rfl, fun other failed => ?_⟩
      cases failed
  | error fault =>
      obtain rfl := (settled _ _).symm.trans (Option.some.inj answered)
      refine ⟨label, slot, load, _, made, rfl, rfl, fun other failed => ?_⟩
      rw [Option.some.inj failed]

/-! ## Runs -/

structure Accounted (capacity : Nat) (actions : List (Action α)) (traffic : Traffic α) : Prop where
  answered : ∀ (load : Nat) (label : String) (result : Except VerificationError α),
    traffic.loads[load]? = some ⟨label, .answered result⟩ →
    ∃ call, Invoked capacity actions call label result
  begun : ∀ (call : Nat) (label : String) (slot load : Nat),
    traffic.calls[call]? = some ⟨label, .loading slot load⟩ →
    Began capacity actions call label load
  failed : ∀ (call : Nat) (label : String) (stage : Stage α) (fault : VerificationError),
    traffic.calls[call]? = some ⟨label, stage⟩ → stage.fault? = some fault →
    Invoked capacity actions call label (.error fault)

theorem accounted_idle (capacity : Nat) : Accounted capacity [] (idle capacity : Traffic α) where
  answered := fun _ _ _ found => nomatch found
  begun := fun _ _ _ _ found => nomatch found
  failed := fun _ _ _ _ found => nomatch found

section

variable (ran : (idle capacity).follow? actions = some traffic)
  (accounted : Accounted capacity actions traffic)

include ran accounted

theorem Accounted.invoked_of_answer
    (made : traffic.calls[call]? = some ⟨label, .loading slot load⟩) :
    Invoked capacity (actions ++ [.answer call result]) call label result :=
  ⟨actions, [], traffic, slot, load, rfl, accounted.begun call label slot load made, ran, made⟩

theorem Accounted.answered_act (acted : traffic.act? action = some next)
    (answered : next.loads[load]? = some ⟨label, .answered result⟩) :
    ∃ call, Invoked capacity (actions ++ [action]) call label result := by
  have slots := slots_follow ran
  have older (found : traffic.loads[load]? = some ⟨label, .answered result⟩) :
      ∃ call, Invoked capacity (actions ++ [action]) call label result := by
    obtain ⟨call, invoked⟩ := accounted.answered load label result found
    exact ⟨call, invoked.append _⟩
  cases action with
  | enter fresh =>
      obtain rfl := Option.some.inj acted
      exact older answered
  | move call =>
      obtain ⟨own, before, after, cache, loads, made, advance, rfl⟩ := advances_of_move acted
      rcases advance.answered_before answered with found | ⟨slot, begun, rfl⟩
      · exact older found
      · exact absurd made (not_loading_of_move acted)
  | answer call given =>
      obtain ⟨own, slot, begun, stage, made, outcome, -, -⟩ := answer_cases acted
      by_cases same : load = begun
      · subst same
        have running := (slots.placed call _ made).running slot load rfl
        rw [outcome, setOutcome_self running, Option.some.injEq, Load.mk.injEq,
          Outcome.answered.injEq] at answered
        obtain ⟨rfl, rfl⟩ := answered
        exact ⟨call, accounted.invoked_of_answer ran made⟩
      · rw [outcome, setOutcome_ne same] at answered
        exact older answered

theorem Accounted.begun_act (acted : traffic.act? action = some next)
    (present : next.calls[call]? = some ⟨label, .loading slot load⟩) :
    Began capacity (actions ++ [action]) call label load := by
  rcases act_origin acted present with older | new | ⟨before, caller, made, advance⟩
  · exact (accounted.begun call label slot load older).append _
  · cases new
  · obtain ⟨rfl, length⟩ := advance.loading_before rfl
    cases action with
    | enter fresh => cases caller
    | move mover =>
        obtain rfl := Option.some.inj caller
        exact ⟨actions, [], traffic, slot, rfl, ran, made, length⟩
    | answer answerer given =>
        obtain rfl := Option.some.inj caller
        obtain ⟨own, place, begun, loading⟩ := loading_of_answer acted
        simp [loading] at made

theorem Accounted.failed_act (acted : traffic.act? action = some next) {stage : Stage α}
    {fault : VerificationError} (present : next.calls[call]? = some ⟨label, stage⟩)
    (failed : stage.fault? = some fault) :
    Invoked capacity (actions ++ [action]) call label (.error fault) := by
  rcases act_origin acted present with older | rfl | ⟨before, caller, made, advance⟩
  · exact (accounted.failed call label stage fault older failed).append _
  · cases failed
  · rcases advance.fault_before failed with earlier | ⟨slot, load, rfl⟩
    · exact (accounted.failed call label before fault made earlier).append _
    · cases action with
      | enter fresh => cases caller
      | move mover =>
          obtain rfl := Option.some.inj caller
          exact absurd made (not_loading_of_move acted)
      | answer answerer given =>
          obtain rfl := Option.some.inj caller
          obtain ⟨own, place, begun, ending, loading, -, moved, faulted⟩ := answer_cases acted
          rw [moved, List.getElem?_set_self (List.getElem?_eq_some_iff.mp loading).1,
            Option.some.injEq, Call.mk.injEq] at present
          obtain rfl := faulted fault (present.2 ▸ failed)
          exact accounted.invoked_of_answer ran made

end

theorem accounted_follow (ran : (idle capacity).follow? actions = some traffic) :
    Accounted capacity actions traffic := by
  refine follow?_induction (Accounted capacity) (accounted_idle capacity) ?_ ran
  intro actions before action after ranBefore accounted acted
  exact
    { answered := fun _ _ _ found => accounted.answered_act ranBefore acted found
      begun := fun _ _ _ _ found => accounted.begun_act ranBefore acted found
      failed := fun _ _ _ _ found failed => accounted.failed_act ranBefore acted found failed }

theorem sparesEntries_of_fault (ran : (idle capacity).follow? actions = some traffic)
    {stage : Stage α} {fault : VerificationError}
    (present : traffic.calls[call]? = some ⟨label, stage⟩) (failed : stage.fault? = some fault) :
    SparesEntries capacity actions call := by
  -- A call that ends with a failure has never had a handle, and so it has never touched the
  -- entries.
  rintro earlier action later before after rfl caller ranBefore acted
  obtain ⟨own, start, ending, cache, loads, made, advance, same⟩ := advances_of_act acted caller
  rcases advance.entries_or_handle with kept | handed
  · rw [same]
    exact kept
  · obtain ⟨between, ranEarlier, ranRest⟩ := follow?_append_eq_some.mp ran
    obtain rfl := Option.some.inj (ranBefore.symm.trans ranEarlier)
    obtain ⟨next, actedAgain, ranLater⟩ := follow?_cons_eq_some.mp ranRest
    obtain rfl := Option.some.inj (acted.symm.trans actedAgain)
    have arrived : after.calls[call]? = some ⟨own, ending⟩ := by
      rw [same]
      exact List.getElem?_set_self (List.getElem?_eq_some_iff.mp made).1
    obtain ⟨last, found, lasting⟩ := follow?_lasting (fun stage => stage.handle?.isSome)
      Advance.handle_after ranLater arrived handed
    rw [present, Option.some.injEq, Call.mk.injEq] at found
    obtain ⟨handle, taken⟩ := Option.isSome_iff_exists.mp lasting
    rw [found.2, Stage.fault?_of_handle? taken] at failed
    cases failed

theorem invoked_of_brought (ran : (idle capacity).follow? actions = some traffic) {handle : α}
    (brought : Brought traffic.loads label handle) :
    ∃ other, Invoked capacity actions other label (.ok handle) := by
  obtain ⟨load, answered⟩ := brought
  exact (accounted_follow ran).answered load label _ answered

/-- Results are never crossed. Whatever the callers do and in whatever order, a handle that a call
is about to return was the answer to a load of exactly its label, and a failure was the answer to a
load that this very call began; a call that fails leaves the entries as they are; and every entry
holds a handle that was loaded for its label. -/
theorem results_never_crossed (ran : (idle capacity).follow? actions = some traffic) :
    (∀ (call : Nat) (label : String) (stage : Stage α), traffic.calls[call]? = some ⟨label, stage⟩ →
      (∀ handle, stage.result? = some (.ok handle) →
        ∃ other, Invoked capacity actions other label (.ok handle)) ∧
      ∀ fault, stage.result? = some (.error fault) →
        Invoked capacity actions call label (.error fault) ∧ SparesEntries capacity actions call) ∧
    ∀ label handle, (label, handle) ∈ traffic.cache.entries →
      ∃ other, Invoked capacity actions other label (.ok handle) := by
  obtain ⟨owner, origins⟩ := origins_reachable (reachable_iff_follow.mpr ⟨actions, ran⟩)
  constructor
  · intro call label stage present
    constructor
    · intro handle returns
      have taken := Stage.handle?_of_result? returns
      exact invoked_of_brought ran ((origins.honest call _ present).taken handle taken)
    · intro fault returns
      have failed := Stage.fault?_of_result? returns
      exact ⟨(accounted_follow ran).failed call label stage fault present failed,
        sparesEntries_of_fault ran present failed⟩
  · intro label handle member
    exact invoked_of_brought ran (origins.owned.kept label handle member)

theorem results_never_crossed_retry :
    ∃ (actions : List (Action Nat)) (traffic : Traffic Nat),
      (idle 1).follow? actions = some traffic ∧ traffic.cache.entries = [("a", 7)] ∧
      traffic.stage? 0 = some (.returned (.error (.compilerLoad "a" "gone"))) ∧
      traffic.stage? 1 = some (.leaving (some 0) (.ok 7)) ∧
      Invoked 1 actions 0 "a" (.error (.compilerLoad "a" "gone")) ∧ SparesEntries 1 actions 0 ∧
      ∃ other, Invoked 1 actions other "a" (.ok 7) := by
  -- Two callers share a slot; the first one's load fails, the second one loads again.
  have ran : (idle 1).follow? ([.enter "a", .enter "a"] ++ List.replicate 5 (.move 0) ++
      List.replicate 2 (.move 1) ++ [.answer 0 (.error (.compilerLoad "a" "gone"))] ++
      List.replicate 3 (.move 0) ++
      List.replicate 3 (.move 1) ++ [.answer 1 (.ok 7), .move 1]) = some _ := rfl
  have claims := results_never_crossed ran
  have failure := (claims.1 0 "a" _ rfl).2 _ rfl
  exact ⟨_, _, ran, rfl, rfl, rfl, failure.1, failure.2, (claims.1 1 "a" _ rfl).1 7 rfl⟩

end DeployCheck.Cache.Traffic
