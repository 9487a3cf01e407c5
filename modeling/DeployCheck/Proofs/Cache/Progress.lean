import DeployCheck.Proofs.Cache.Runs
import Mathlib.Algebra.GroupWithZero.Nat
namespace DeployCheck

theorem sum_map_set {β : Type} (size : β → Nat) {list : List β} {i : Nat} {old : β}
    (found : list[i]? = some old) (new : β) :
    ((list.set i new).map size).sum + size old = (list.map size).sum + size new := by
  induction list generalizing i with
  | nil => cases found
  | cons first rest ih =>
      cases i with
      | zero =>
          obtain rfl := Option.some.inj found
          simp only [List.set_cons_zero, List.map_cons, List.sum_cons]
          omega
      | succ i =>
          have shifted := ih found
          simp only [List.set_cons_succ, List.map_cons, List.sum_cons]
          omega

namespace Cache

variable {α : Type}

def Stage.rank : Stage α → Nat
  | entered => 10
  | missed _ => 9
  | waiting _ => 8
  | permitted _ => 7
  | counted _ => 6
  | loading .. => 5
  | failed .. => 4
  | refused .. => 3
  | found _ | served .. => 2
  | leaving .. => 1
  | returned _ | cancelled => 0

namespace Traffic

variable {capacity call : Nat} {traffic next : Traffic α} {label : String}
  {before after stage : Stage α} {cache : Cache α} {loads : List (Load α)}

def remaining (traffic : Traffic α) : Nat :=
  (traffic.calls.map (·.stage.rank)).sum

theorem Advance.rank_lt (advance : Advance traffic call label before after cache loads) :
    after.rank < before.rank := by
  cases advance <;> simp [Stage.rank]

theorem Advance.uncancelled (advance : Advance traffic call label before after cache loads) :
    after ≠ .cancelled := by
  cases advance <;> simp

theorem Advances.remaining_lt (advances : traffic.Advances call next) :
    next.remaining < traffic.remaining := by
  obtain ⟨label, before, after, cache, loads, made, advance, rfl⟩ := advances
  have closer := advance.rank_lt
  have balance : Traffic.remaining ⟨cache, traffic.calls.set call ⟨label, after⟩, loads⟩ +
      before.rank = traffic.remaining + after.rank :=
    sum_map_set (·.stage.rank) made ⟨label, after⟩
  omega

theorem uncancelled (reachable : Reachable capacity traffic)
    (made : traffic.calls[call]? = some ⟨label, stage⟩) : stage ≠ .cancelled := by
  induction reachable generalizing label stage with
  | idle => exact nomatch made
  | step _ step ih =>
      obtain ⟨action, acted⟩ := step_iff_act.mp step
      rcases act_origin acted made with older | rfl | ⟨before, -, -, advance⟩
      · exact ih older
      · simp
      · exact advance.uncancelled

theorem move?_isSome_of_permit {slot : Nat} (made : traffic.calls[call]? = some ⟨label, stage⟩)
    (permitted : stage.permit? = some slot) :
    (traffic.move? call).isSome ∨ ∃ slot load, stage = .loading slot load := by
  cases stage with
  | permitted place | counted place => exact Or.inl (by simp [move?, made])
  | loading place load => exact Or.inr ⟨place, load, rfl⟩
  | _ => cases permitted

theorem exists_move_or_loading (made : traffic.calls[call]? = some ⟨label, stage⟩)
    (unfinished : stage.isOver = false) :
    (∃ mover, (traffic.move? mover).isSome) ∨
      ∃ (caller : Nat) (own : String) (slot load : Nat),
        traffic.calls[caller]? = some ⟨own, .loading slot load⟩ := by
  cases stage with
  | waiting slot =>
      cases value : traffic.cache.slotValue slot with
      | some handle => exact Or.inl ⟨call, by simp [move?, made, value]⟩
      | none =>
          cases taken : traffic.isTaken slot with
          | false => exact Or.inl ⟨call, by simp [move?, made, value, taken]⟩
          | true =>
              -- Another caller has the permit, and with it something to do or a load to wait for.
              obtain ⟨⟨own, held⟩, member, permitted⟩ := List.any_eq_true.mp taken
              obtain ⟨i, present⟩ := List.getElem?_of_mem member
              rcases move?_isSome_of_permit present (beq_iff_eq.mp permitted) with
                moves | ⟨place, load, rfl⟩
              · exact Or.inl ⟨i, moves⟩
              · exact Or.inr ⟨i, own, place, load, present⟩
  | entered | found | missed | permitted | counted | served | failed | refused | leaving =>
      exact Or.inl ⟨call, by simp [move?, made]⟩
  | loading slot load => exact Or.inr ⟨call, label, slot, load, made⟩
  | returned | cancelled => cases unfinished

theorem answer?_isSome {slot load : Nat}
    (made : traffic.calls[call]? = some ⟨label, .loading slot load⟩)
    (result : Except VerificationError α) : (traffic.answer? call result).isSome := by
  have found : traffic.stage? call = some (.loading slot load) := by simp [stage?, made]
  cases result <;> simp [answer?, found]

end Traffic

end Cache

end DeployCheck
