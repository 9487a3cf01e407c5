import Mathlib.Data.List.Basic
import Mathlib.Data.List.Nodup
namespace DeployCheck

variable {κ α : Type} [BEq κ] [LawfulBEq κ] {key : κ} {value : α} {pairs : List (κ × α)}

theorem lookup_cons_ite [DecidableEq κ] (key first : κ) (value : α) (pairs : List (κ × α)) :
    List.lookup key ((first, value) :: pairs) =
      if key = first then some value else List.lookup key pairs := by
  rw [List.lookup_cons]
  by_cases same : key = first
  · simp [same]
  · rw [beq_false_of_ne same, if_neg same]

theorem mem_of_lookup (found : List.lookup key pairs = some value) : (key, value) ∈ pairs := by
  obtain ⟨before, after, rfl, -⟩ := List.lookup_eq_some_iff.mp found
  simp

theorem lookup_isSome_iff_mem : (List.lookup key pairs).isSome ↔ key ∈ pairs.map Prod.fst := by
  rw [List.lookup_isSome_iff, List.mem_map]
  simp only [beq_iff_eq]
  exact ⟨fun ⟨pair, member, same⟩ => ⟨pair, member, same.symm⟩,
    fun ⟨pair, member, same⟩ => ⟨pair, member, same.symm⟩⟩

theorem lookup_eq_none_iff_not_mem : List.lookup key pairs = none ↔ key ∉ pairs.map Prod.fst := by
  rw [← lookup_isSome_iff_mem, Option.not_isSome_iff_eq_none]

theorem lookup_filter_key (keeps : κ → Bool) (key : κ) (pairs : List (κ × α)) :
    List.lookup key (pairs.filter fun pair => keeps pair.1) =
      if keeps key then List.lookup key pairs else none := by
  induction pairs with
  | nil => simp
  | cons head rest ih =>
      obtain ⟨first, other⟩ := head
      cases kept : keeps first with
      | true =>
          rw [List.filter_cons, if_pos kept, List.lookup_cons, List.lookup_cons, ih]
          by_cases same : key = first
          · simp [same, kept]
          · simp [beq_false_of_ne same]
      | false =>
          rw [List.filter_cons, if_neg (by simp [kept]), ih, List.lookup_cons]
          by_cases same : key = first
          · simp [same, kept]
          · simp [beq_false_of_ne same]

theorem lookup_filter_ne [DecidableEq κ] (dropped key : κ) (pairs : List (κ × α)) :
    List.lookup key (pairs.filter (·.1 ≠ dropped)) =
      if key = dropped then none else List.lookup key pairs := by
  have kept := lookup_filter_key (fun other => decide (other ≠ dropped)) key pairs
  simp only [ne_eq, decide_not, Bool.not_eq_eq_eq_not, Bool.not_true, decide_eq_false_iff_not,
    ite_not] at kept ⊢
  exact kept

theorem lookup_cons_filter_ne [DecidableEq κ] (placed key : κ) (value : α)
    (pairs : List (κ × α)) :
    List.lookup key ((placed, value) :: pairs.filter (·.1 ≠ placed)) =
      if key = placed then some value else List.lookup key pairs := by
  by_cases same : key = placed
  · simp [same]
  · rw [List.lookup_cons, beq_false_of_ne same]
    simp only [lookup_filter_ne, if_neg same]

end DeployCheck
