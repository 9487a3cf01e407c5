import DeployCheck.Proofs.Cache.Tables
import DeployCheck.Proofs.Cache.Steps
import Mathlib.Logic.Relation
namespace DeployCheck.Cache.Traffic

variable {α σ : Type} {traffic next : Traffic α} {cache : Cache α} {calls : List (Call α)}
  {loads : List (Load α)} {label : String} {call slot : Nat} {stage : Stage α}

theorem Advances.step (advances : traffic.Advances call next) : Step traffic next := by
  obtain ⟨label, before, after, cache, loads, made, advance, rfl⟩ := advances
  rw [← setStage_eq made cache loads after]
  cases advance with
  | find handle cache looked => exact .move call (by simp only [move?, made, lookUp, looked])
  | miss slot cache looked => exact .move call (by simp only [move?, made, lookUp, looked])
  | countHit handle => exact .move call (by simp only [move?, made])
  | countMiss slot => exact .move call (by simp only [move?, made])
  | observe slot handle filled => exact .move call (by simp only [move?, made, filled])
  | permit slot empty free => exact .move call (by simp [move?, made, empty, free])
  | countLoad slot => exact .move call (by simp only [move?, made])
  | begin slot => exact .move call (by simp only [move?, made, beginLoad])
  | succeed slot load handle =>
      have found : traffic.stage? call = some (.loading slot load) := by simp [stage?, made]
      exact .answer call (.ok handle) (by simp only [answer?, found]; rfl)
  | fail slot load fault =>
      have found : traffic.stage? call = some (.loading slot load) := by simp [stage?, made]
      exact .answer call (.error fault) (by simp only [answer?, found]; rfl)
  | adopt slot handle => exact .move call (by simp only [move?, made])
  | countFailure slot fault => exact .move call (by simp only [move?, made])
  | release slot fault => exact .move call (by simp only [move?, made])
  | leave slot result => exact .move call (by simp only [move?, made])

def withLast (calls : List (Call α)) (label : String) (stage : Stage α) (cache : Cache α)
    (loads : List (Load α)) : Traffic α :=
  ⟨cache, calls ++ [⟨label, stage⟩], loads⟩

theorem step_last {after : Stage α} {next : Cache α} {more : List (Load α)}
    (advance : Advance (withLast calls label stage cache loads) calls.length label stage after
      next more) :
    Step (withLast calls label stage cache loads) (withLast calls label after next more) :=
  Advances.step ⟨label, stage, after, next, more, by simp [withLast], advance, by simp [withLast]⟩

/-! ## No other call is in the way -/

section

variable (past : ∀ made ∈ calls, made.stage.isOver = true)

include past

theorem slot?_of_over {made : Call α} (member : made ∈ calls) : made.stage.slot? = none := by
  have ended := past made member
  cases stage : made.stage <;> simp_all [Stage.isOver, Stage.slot?]

theorem permit?_of_over {made : Call α} (member : made ∈ calls) : made.stage.permit? = none := by
  have ended := past made member
  cases stage : made.stage <;> simp_all [Stage.isOver, Stage.permit?]

theorem not_isTaken (waits : stage.permit? = none) (slot : Nat) :
    (withLast calls label stage cache loads).isTaken slot = false := by
  refine List.any_eq_false.mpr fun made member => ?_
  rcases List.mem_append.mp member with earlier | last
  · simp [permit?_of_over past earlier]
  · rw [List.mem_singleton.mp last]
    simp [waits]

theorem not_isShared (slot : Nat) :
    (withLast calls label stage cache loads).isShared calls.length slot = false := by
  have others : (calls ++ [(⟨label, stage⟩ : Call α)]).eraseIdx calls.length = calls := by
    rw [List.eraseIdx_append_of_length_le (Nat.le_refl _), Nat.sub_self]
    exact List.append_nil calls
  rw [isShared, withLast, others]
  exact List.any_eq_false.mpr fun made member => by simp [slot?_of_over past member]

end

/-! ## The steps of the last call -/

theorem setOutcome_last (outcome : Outcome α) :
    ((withLast calls label stage cache (loads ++ [⟨label, .running⟩])).setOutcome loads.length
      outcome).loads = loads ++ [⟨label, outcome⟩] := by
  rw [setOutcome, List.modify_eq_set_getElem?]
  simp [withLast]

theorem steps_found (handle : α) :
    Relation.ReflTransGen Step (withLast calls label (.found handle) cache loads)
      (withLast calls label (.returned (.ok handle)) cache.countHit loads) := by
  have counted : Step (withLast calls label (.found handle) cache loads)
      (withLast calls label (.leaving none (.ok handle)) cache.countHit loads) :=
    step_last (.countHit handle)
  exact .tail (.single counted) (step_last (.leave none (.ok handle)))

theorem steps_missed (past : ∀ made ∈ calls, made.stage.isOver = true)
    (empty : cache.slotValue slot = none) :
    Relation.ReflTransGen Step (withLast calls label (.missed slot) cache loads)
      (withLast calls label (.loading slot loads.length) cache.countMiss.countLoad
        (loads ++ [⟨label, .running⟩])) := by
  have counted : Step (withLast calls label (.missed slot) cache loads)
      (withLast calls label (.waiting slot) cache.countMiss loads) := step_last (.countMiss slot)
  have permitted : Step (withLast calls label (.waiting slot) cache.countMiss loads)
      (withLast calls label (.permitted slot) cache.countMiss loads) :=
    step_last (.permit slot empty (not_isTaken past rfl slot))
  have loaded : Step (withLast calls label (.permitted slot) cache.countMiss loads)
      (withLast calls label (.counted slot) cache.countMiss.countLoad loads) :=
    step_last (.countLoad slot)
  exact .tail (.tail (.tail (.single counted) permitted) loaded) (step_last (.begin slot))

theorem steps_loaded (handle : α) :
    Relation.ReflTransGen Step
      (withLast calls label (.loading slot loads.length) cache (loads ++ [⟨label, .running⟩]))
      (withLast calls label (.returned (.ok handle))
        ((cache.fill slot handle).adopt label slot handle)
        (loads ++ [⟨label, .answered (.ok handle)⟩])) := by
  let loading := withLast calls label (.loading slot loads.length) cache
    (loads ++ [⟨label, .running⟩])
  have filled : Advance loading calls.length label _ _ _ _ := .succeed slot loads.length handle
  rw [setOutcome_last] at filled
  exact .tail (.tail (.single (step_last filled)) (step_last (.adopt slot handle)))
    (step_last (.leave (some slot) (.ok handle)))

theorem steps_failed (past : ∀ made ∈ calls, made.stage.isOver = true)
    (fault : VerificationError) :
    Relation.ReflTransGen Step
      (withLast calls label (.loading slot loads.length) cache (loads ++ [⟨label, .running⟩]))
      (withLast calls label (.returned (.error fault))
        (cache.countFailure.release label slot false)
        (loads ++ [⟨label, .answered (.error fault)⟩])) := by
  let loading := withLast calls label (.loading slot loads.length) cache
    (loads ++ [⟨label, .running⟩])
  have failed : Advance loading calls.length label _ _ _ _ := .fail slot loads.length fault
  rw [setOutcome_last] at failed
  have counted : Step
      (withLast calls label (.failed slot fault) cache (loads ++ [⟨label, .answered (.error fault)⟩]))
      (withLast calls label (.refused slot fault) cache.countFailure
        (loads ++ [⟨label, .answered (.error fault)⟩])) := step_last (.countFailure slot fault)
  let refused := withLast calls label (.refused slot fault) cache.countFailure
    (loads ++ [⟨label, .answered (.error fault)⟩])
  have released : Advance refused calls.length label _ _ _ _ := .release slot fault
  rw [not_isShared past] at released
  exact .tail (.tail (.tail (.single (step_last failed)) counted) (step_last released))
    (step_last (.leave (some slot) (.error fault)))

theorem slotValue_of_missed {after : Cache α} (looked : cache.lookUp label = (.missed slot, after)) :
    after.slotValue slot = none := by
  rcases (lookUp_missed looked).2 with ⟨-, empty, rfl⟩ | ⟨-, rfl, rfl⟩
  · exact empty
  · rw [slotValue_addSlot]
    simp [slotValue]

theorem undisturbed_entered (load : String → σ → Except VerificationError α × σ) (world : σ)
    (label : String) (traffic : Traffic α)
    (past : ∀ made ∈ traffic.calls, made.stage.isOver = true) :
    ∃ next, Relation.ReflTransGen Step (traffic.enter label) next ∧
      next.cache = (traffic.cache.obtain load label world).2.1 ∧
      next.calls = traffic.calls ++
        [⟨label, .returned (traffic.cache.obtain load label world).1⟩] ∧
      (next.loads = traffic.loads ∨
        next.loads = traffic.loads ++ [⟨label, .answered (load label world).1⟩]) := by
  obtain ⟨cache, calls, loads⟩ := traffic
  change ∃ next, Relation.ReflTransGen Step (withLast calls label .entered cache loads) next ∧ _
  cases looked : cache.lookUp label with
  | mk outcome after =>
      cases outcome with
      | found handle =>
          have found : Step (withLast calls label .entered cache loads)
              (withLast calls label (.found handle) after loads) :=
            step_last (.find handle after looked)
          refine ⟨_, .head found (steps_found handle), ?_, ?_, .inl rfl⟩
          · simp only [obtain, looked]
            rfl
          · simp only [obtain, looked]
            rfl
      | missed slot =>
          have missed : Step (withLast calls label .entered cache loads)
              (withLast calls label (.missed slot) after loads) :=
            step_last (.miss slot after looked)
          -- The slot is empty, also if it was left over, so the call has to load.
          have begun := Relation.ReflTransGen.head missed
            (steps_missed past (slotValue_of_missed looked))
          cases answered : load label world with
          | mk result later =>
              cases result with
              | ok handle =>
                  refine ⟨_, begun.trans (steps_loaded handle), ?_, ?_, .inr rfl⟩
                  · simp only [obtain, looked, answered]
                    rfl
                  · simp only [obtain, looked, answered]
                    rfl
              | error fault =>
                  refine ⟨_, begun.trans (steps_failed past fault), ?_, ?_, .inr rfl⟩
                  · simp only [obtain, looked, answered]
                    rfl
                  · simp only [obtain, looked, answered]
                    rfl

end DeployCheck.Cache.Traffic
