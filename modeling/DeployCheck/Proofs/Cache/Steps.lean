import DeployCheck.Cache.Traffic
import Mathlib.Data.List.Basic
namespace DeployCheck.Cache.Traffic

variable {α : Type} {traffic next : Traffic α} {call : Nat} {label : String}

/-- A call for a label goes from one stage to another, which leaves this cache and these loads. -/
inductive Advance (traffic : Traffic α) (call : Nat) (label : String) :
    Stage α → Stage α → Cache α → List (Load α) → Prop
  | find (handle : α) (cache : Cache α)
    (looked : traffic.cache.lookUp label = (.found handle, cache)) :
    Advance traffic call label .entered (.found handle) cache traffic.loads
  | miss (slot : Nat) (cache : Cache α)
    (looked : traffic.cache.lookUp label = (.missed slot, cache)) :
    Advance traffic call label .entered (.missed slot) cache traffic.loads
  | countHit (handle : α) :
    Advance traffic call label (.found handle) (.leaving none (.ok handle)) traffic.cache.countHit
      traffic.loads
  | countMiss (slot : Nat) :
    Advance traffic call label (.missed slot) (.waiting slot) traffic.cache.countMiss traffic.loads
  | observe (slot : Nat) (handle : α) (filled : traffic.cache.slotValue slot = some handle) :
    Advance traffic call label (.waiting slot) (.served slot handle) traffic.cache traffic.loads
  | permit (slot : Nat) (empty : traffic.cache.slotValue slot = none)
    (free : traffic.isTaken slot = false) :
    Advance traffic call label (.waiting slot) (.permitted slot) traffic.cache traffic.loads
  | countLoad (slot : Nat) :
    Advance traffic call label (.permitted slot) (.counted slot) traffic.cache.countLoad
      traffic.loads
  | begin (slot : Nat) :
    Advance traffic call label (.counted slot) (.loading slot traffic.loads.length) traffic.cache
      (traffic.loads ++ [⟨label, .running⟩])
  | succeed (slot load : Nat) (handle : α) :
    Advance traffic call label (.loading slot load) (.served slot handle)
      (traffic.cache.fill slot handle) (traffic.setOutcome load (.answered (.ok handle))).loads
  | fail (slot load : Nat) (fault : VerificationError) :
    Advance traffic call label (.loading slot load) (.failed slot fault) traffic.cache
      (traffic.setOutcome load (.answered (.error fault))).loads
  | adopt (slot : Nat) (handle : α) :
    Advance traffic call label (.served slot handle) (.leaving (some slot) (.ok handle))
      (traffic.cache.adopt label slot handle) traffic.loads
  | countFailure (slot : Nat) (fault : VerificationError) :
    Advance traffic call label (.failed slot fault) (.refused slot fault) traffic.cache.countFailure
      traffic.loads
  | release (slot : Nat) (fault : VerificationError) :
    Advance traffic call label (.refused slot fault) (.leaving (some slot) (.error fault))
      (traffic.cache.release label slot (traffic.isShared call slot)) traffic.loads
  | leave (slot : Option Nat) (result : Except VerificationError α) :
    Advance traffic call label (.leaving slot result) (.returned result) traffic.cache traffic.loads

def Advances (traffic : Traffic α) (call : Nat) (next : Traffic α) : Prop :=
  ∃ label before after cache loads, traffic.calls[call]? = some ⟨label, before⟩ ∧
    Advance traffic call label before after cache loads ∧
    next = ⟨cache, traffic.calls.set call ⟨label, after⟩, loads⟩

theorem setStage_eq {calls : List (Call α)} {before : Stage α}
    (made : calls[call]? = some ⟨label, before⟩) (cache : Cache α) (loads : List (Load α))
    (after : Stage α) :
    (⟨cache, calls, loads⟩ : Traffic α).setStage call after =
      ⟨cache, calls.set call ⟨label, after⟩, loads⟩ := by
  have modified : calls.modify call (fun made => { made with stage := after }) =
      calls.set call ⟨label, after⟩ := by
    rw [List.modify_eq_set_getElem?, made]
    rfl
  rw [setStage, modified]

theorem Advance.advances {before after : Stage α} {cache : Cache α} {loads : List (Load α)}
    (advance : Advance traffic call label before after cache loads)
    (made : traffic.calls[call]? = some ⟨label, before⟩) :
    traffic.Advances call ((⟨cache, traffic.calls, loads⟩ : Traffic α).setStage call after) :=
  ⟨label, before, after, cache, loads, made, advance, setStage_eq made cache loads after⟩

theorem move?_of_loading {slot load : Nat}
    (made : traffic.calls[call]? = some ⟨label, .loading slot load⟩) :
    traffic.move? call = none := by
  simp [move?, made]

theorem advances_of_move (moved : traffic.move? call = some next) : traffic.Advances call next := by
  unfold move? at moved
  cases made : traffic.calls[call]? with
  | none => simp [made] at moved
  | some present =>
      obtain ⟨label, stage⟩ := present
      simp only [made] at moved
      cases stage with
      | entered =>
          simp only [Option.some.injEq, lookUp] at moved
          cases looked : traffic.cache.lookUp label with
          | mk outcome cache =>
              cases outcome with
              | found handle =>
                  rw [looked] at moved
                  exact moved ▸ (Advance.find handle cache looked).advances made
              | missed slot =>
                  rw [looked] at moved
                  exact moved ▸ (Advance.miss slot cache looked).advances made
      | found handle => exact Option.some.inj moved ▸ (Advance.countHit handle).advances made
      | missed slot => exact Option.some.inj moved ▸ (Advance.countMiss slot).advances made
      | waiting slot =>
          cases value : traffic.cache.slotValue slot with
          | some handle =>
              simp only [value] at moved
              exact Option.some.inj moved ▸ (Advance.observe slot handle value).advances made
          | none =>
              cases taken : traffic.isTaken slot with
              | true => simp [value, taken] at moved
              | false =>
                  simp only [value, taken] at moved
                  exact Option.some.inj moved ▸ (Advance.permit slot value taken).advances made
      | permitted slot => exact Option.some.inj moved ▸ (Advance.countLoad slot).advances made
      | counted slot => exact Option.some.inj moved ▸ (Advance.begin slot).advances made
      | loading slot load => simp at moved
      | served slot handle =>
          exact Option.some.inj moved ▸ (Advance.adopt slot handle).advances made
      | failed slot fault =>
          exact Option.some.inj moved ▸ (Advance.countFailure slot fault).advances made
      | refused slot fault =>
          exact Option.some.inj moved ▸ (Advance.release slot fault).advances made
      | leaving slot result =>
          exact Option.some.inj moved ▸ (Advance.leave slot result).advances made
      | returned result => simp at moved
      | cancelled => simp at moved

theorem stage?_eq_some {stage : Stage α} (found : traffic.stage? call = some stage) :
    ∃ label, traffic.calls[call]? = some ⟨label, stage⟩ := by
  obtain ⟨made, present, rfl⟩ := Option.map_eq_some_iff.mp found
  exact ⟨made.label, present⟩

theorem loading_of_answer {result : Except VerificationError α}
    (answered : traffic.answer? call result = some next) :
    ∃ label slot load, traffic.calls[call]? = some ⟨label, .loading slot load⟩ := by
  unfold answer? at answered
  split at answered
  · rename_i slot load found
    obtain ⟨label, made⟩ := stage?_eq_some found
    exact ⟨label, slot, load, made⟩
  · contradiction

theorem advances_of_answer {result : Except VerificationError α}
    (answered : traffic.answer? call result = some next) : traffic.Advances call next := by
  obtain ⟨label, slot, load, made⟩ := loading_of_answer answered
  have found : traffic.stage? call = some (.loading slot load) := by simp [stage?, made]
  simp only [answer?, found] at answered
  cases result with
  | ok handle => exact Option.some.inj answered ▸ (Advance.succeed slot load handle).advances made
  | error fault => exact Option.some.inj answered ▸ (Advance.fail slot load fault).advances made

theorem step_cases (step : Step traffic next) :
    (∃ label, next = traffic.enter label) ∨ ∃ call, traffic.Advances call next := by
  cases step with
  | enter label => exact Or.inl ⟨label, rfl⟩
  | move call moved => exact Or.inr ⟨call, advances_of_move moved⟩
  | answer call result answered => exact Or.inr ⟨call, advances_of_answer answered⟩

/-! ## Calls afterwards -/

theorem mem_set {calls : List (Call α)} {i : Nat} {made new : Call α}
    (found : (calls.set call new)[i]? = some made) :
    (i = call ∧ made = new) ∨ (i ≠ call ∧ calls[i]? = some made) := by
  by_cases same : i = call
  · subst same
    obtain ⟨inside, value⟩ := List.getElem?_eq_some_iff.mp found
    rw [List.getElem_set_self] at value
    exact Or.inl ⟨rfl, value.symm⟩
  · rw [List.getElem?_set_ne (Ne.symm same)] at found
    exact Or.inr ⟨same, found⟩

theorem mem_enter {i : Nat} {made : Call α} (found : (traffic.enter label).calls[i]? = some made) :
    traffic.calls[i]? = some made ∨ made = ⟨label, .entered⟩ := by
  rw [enter, List.getElem?_append] at found
  split at found
  · exact Or.inl found
  · exact Or.inr (List.mem_singleton.mp (List.mem_of_getElem? found))

end DeployCheck.Cache.Traffic
