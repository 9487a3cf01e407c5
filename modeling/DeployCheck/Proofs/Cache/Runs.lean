import DeployCheck.Proofs.Cache.Steps
import Mathlib.Data.List.Induction
namespace DeployCheck.Cache.Traffic

/-- What is done in one step: a call is made, a call moves by itself, or its load is answered. -/
inductive Action (α : Type)
  | enter (label : String)
  | move (call : Nat)
  | answer (call : Nat) (result : Except VerificationError α)

variable {α : Type} {capacity call : Nat} {traffic next : Traffic α} {label : String}
  {action : Action α} {actions earlier later : List (Action α)}

def Action.caller? : Action α → Option Nat
  | enter _ => none
  | move call | answer call _ => some call

def act? (traffic : Traffic α) : Action α → Option (Traffic α)
  | .enter label => some (traffic.enter label)
  | .move call => traffic.move? call
  | .answer call result => traffic.answer? call result

def follow? : Traffic α → List (Action α) → Option (Traffic α)
  | traffic, [] => some traffic
  | traffic, action :: later => (traffic.act? action).bind (·.follow? later)

theorem step_iff_act : Step traffic next ↔ ∃ action, traffic.act? action = some next := by
  constructor
  · intro step
    cases step with
    | enter label => exact ⟨.enter label, rfl⟩
    | move call moved => exact ⟨.move call, moved⟩
    | answer call result answered => exact ⟨.answer call result, answered⟩
  · rintro ⟨action, acted⟩
    cases action with
    | enter label => exact Option.some.inj acted ▸ .enter traffic label
    | move call => exact .move call acted
    | answer call result => exact .answer call result acted

theorem follow?_append (earlier later : List (Action α)) :
    traffic.follow? (earlier ++ later) = (traffic.follow? earlier).bind (·.follow? later) := by
  induction earlier generalizing traffic with
  | nil => rfl
  | cons action rest ih =>
      simp only [List.cons_append, follow?]
      cases traffic.act? action with
      | none => rfl
      | some after => exact ih

theorem follow?_append_eq_some :
    traffic.follow? (earlier ++ later) = some next ↔
      ∃ between, traffic.follow? earlier = some between ∧ between.follow? later = some next := by
  rw [follow?_append, Option.bind_eq_some_iff]

theorem follow?_cons_eq_some :
    traffic.follow? (action :: later) = some next ↔
      ∃ after, traffic.act? action = some after ∧ after.follow? later = some next :=
  Option.bind_eq_some_iff

theorem follow?_concat_eq_some :
    traffic.follow? (actions ++ [action]) = some next ↔
      ∃ before, traffic.follow? actions = some before ∧ before.act? action = some next := by
  simp [follow?_append_eq_some, follow?]

theorem follow?_induction (holds : List (Action α) → Traffic α → Prop)
    (start : holds [] traffic)
    (step : ∀ actions before action after, traffic.follow? actions = some before →
      holds actions before → before.act? action = some after → holds (actions ++ [action]) after) :
    ∀ {actions : List (Action α)} {last : Traffic α}, traffic.follow? actions = some last →
      holds actions last := by
  intro actions
  induction actions using List.reverseRecOn with
  | nil =>
      intro last ran
      exact Option.some.inj ran ▸ start
  | append_singleton actions action ih =>
      intro last ran
      obtain ⟨before, ranBefore, acted⟩ := follow?_concat_eq_some.mp ran
      exact step actions before action last ranBefore (ih ranBefore) acted

theorem reachable_iff_follow :
    Reachable capacity traffic ↔
      ∃ actions, (Traffic.idle capacity).follow? actions = some traffic := by
  constructor
  · intro reachable
    induction reachable with
    | idle => exact ⟨[], rfl⟩
    | step _ step ih =>
        obtain ⟨actions, ran⟩ := ih
        obtain ⟨action, acted⟩ := step_iff_act.mp step
        exact ⟨actions ++ [action], follow?_concat_eq_some.mpr ⟨_, ran, acted⟩⟩
  · rintro ⟨actions, ran⟩
    refine follow?_induction (fun _ => Reachable capacity) .idle ?_ ran
    intro _ _ action _ _ reachable acted
    exact .step reachable (step_iff_act.mpr ⟨action, acted⟩)

/-- What is seen in a run, in order, by one who looks at each action just before it is done. -/
def chronicle {β : Type} (look : Traffic α → Action α → Option β) :
    Traffic α → List (Action α) → List β
  | _, [] => []
  | traffic, action :: later =>
    (look traffic action).toList ++
      match traffic.act? action with
      | some next => next.chronicle look later
      | none => []

theorem chronicle_concat {β : Type} (look : Traffic α → Action α → Option β)
    (ran : traffic.follow? actions = some next) (action : Action α) :
    traffic.chronicle look (actions ++ [action]) =
      traffic.chronicle look actions ++ (look next action).toList := by
  induction actions generalizing traffic with
  | nil =>
      obtain rfl := Option.some.inj ran
      cases acted : traffic.act? action <;> simp [chronicle, acted]
  | cons first rest ih =>
      obtain ⟨after, acted, ranRest⟩ := follow?_cons_eq_some.mp ran
      simp only [List.cons_append, chronicle, acted, ih ranRest, List.append_assoc]

/-! ## The acting call -/

theorem act_cases (acted : traffic.act? action = some next) :
    (∃ label, action = .enter label ∧ next = traffic.enter label) ∨
      ∃ call, action.caller? = some call ∧ traffic.Advances call next := by
  cases action with
  | enter label => exact Or.inl ⟨label, rfl, (Option.some.inj acted).symm⟩
  | move call => exact Or.inr ⟨call, rfl, advances_of_move acted⟩
  | answer call result => exact Or.inr ⟨call, rfl, advances_of_answer acted⟩

theorem advances_of_act (acted : traffic.act? action = some next)
    (mine : action.caller? = some call) : traffic.Advances call next := by
  rcases act_cases acted with ⟨label, rfl, -⟩ | ⟨other, yours, advances⟩
  · cases mine
  · rw [mine, Option.some.injEq] at yours
    exact yours ▸ advances

theorem act_present (acted : traffic.act? action = some next) {stage : Stage α}
    (present : traffic.calls[call]? = some ⟨label, stage⟩) :
    next.calls[call]? = some ⟨label, stage⟩ ∨
      ∃ after cache loads, action.caller? = some call ∧
        Advance traffic call label stage after cache loads ∧
        next.calls[call]? = some ⟨label, after⟩ := by
  have inside := (List.getElem?_eq_some_iff.mp present).1
  rcases act_cases acted with ⟨fresh, -, rfl⟩ |
    ⟨other, caller, own, before, after, cache, loads, made, advance, rfl⟩
  · exact Or.inl ((List.getElem?_append_left inside).trans present)
  · by_cases same : other = call
    · subst same
      rw [present, Option.some.injEq, Call.mk.injEq] at made
      obtain ⟨rfl, rfl⟩ := made
      exact Or.inr ⟨after, cache, loads, caller, advance, List.getElem?_set_self inside⟩
    · exact Or.inl ((List.getElem?_set_ne same).trans present)

theorem act_origin (acted : traffic.act? action = some next) {stage : Stage α}
    (present : next.calls[call]? = some ⟨label, stage⟩) :
    traffic.calls[call]? = some ⟨label, stage⟩ ∨ stage = .entered ∨
      ∃ before, action.caller? = some call ∧ traffic.calls[call]? = some ⟨label, before⟩ ∧
        Advance traffic call label before stage next.cache next.loads := by
  rcases act_cases acted with ⟨fresh, -, rfl⟩ |
    ⟨other, caller, own, before, after, cache, loads, made, advance, rfl⟩
  · rcases mem_enter present with older | new
    · exact Or.inl older
    · rw [Call.mk.injEq] at new
      exact Or.inr (Or.inl new.2)
  · rcases mem_set present with ⟨rfl, new⟩ | ⟨-, older⟩
    · rw [Call.mk.injEq] at new
      obtain ⟨rfl, rfl⟩ := new
      exact Or.inr (Or.inr ⟨before, caller, made, advance⟩)
    · exact Or.inl older

theorem follow?_lasting (lasting : Stage α → Prop)
    (closed : ∀ {traffic : Traffic α} {label before after cache loads},
      Advance traffic call label before after cache loads → lasting before → lasting after)
    (ran : traffic.follow? actions = some next) {stage : Stage α}
    (present : traffic.calls[call]? = some ⟨label, stage⟩) (holds : lasting stage) :
    ∃ last, next.calls[call]? = some ⟨label, last⟩ ∧ lasting last := by
  induction actions generalizing traffic stage with
  | nil =>
      obtain rfl := Option.some.inj ran
      exact ⟨stage, present, holds⟩
  | cons action rest ih =>
      obtain ⟨between, acted, ranRest⟩ := follow?_cons_eq_some.mp ran
      rcases act_present acted present with unmoved | ⟨after, _, _, -, advance, moved⟩
      · exact ih ranRest unmoved holds
      · exact ih ranRest moved (closed advance holds)

end DeployCheck.Cache.Traffic
