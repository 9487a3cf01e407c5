import DeployCheck.Proofs.Lookup
import DeployCheck.TextMap
import Mathlib.Data.String.Basic
namespace DeployCheck.TextMap

open Text

variable {α : Type} {map : TextMap α} {key other : String} {value : α}

theorem find?_insert (key other : String) (value : α) (map : TextMap α) :
    find? (insert key value map) other = if other = key then some value else find? map other := by
  unfold find?
  induction map with
  | nil => rw [insert, lookup_cons_ite]
  | cons head rest ih =>
      obtain ⟨first, kept⟩ := head
      rw [insert]
      split
      · rename_i same
        rw [lookup_cons_ite, lookup_cons_ite, same]
        split <;> rfl
      · rename_i differs
        split
        · rw [lookup_cons_ite]
        · rw [lookup_cons_ite, lookup_cons_ite, ih]
          by_cases same : other = first
          · rw [if_pos same, if_pos same, if_neg fun equal => differs (equal.symm.trans same)]
          · rw [if_neg same, if_neg same]

theorem find?_eq_none : find? map key = none ↔ key ∉ map.keys :=
  lookup_eq_none_iff_not_mem

theorem mem_keys_of_mem (member : (key, value) ∈ map) : key ∈ map.keys :=
  List.mem_map.mpr ⟨(key, value), member, rfl⟩

theorem exists_of_mem_keys (member : key ∈ map.keys) : ∃ value, (key, value) ∈ map := by
  obtain ⟨⟨_, value⟩, inside, rfl⟩ := List.mem_map.mp member
  exact ⟨value, inside⟩

theorem mem_keys_concat {last : String} :
    key ∈ keys (map ++ [(last, value)]) ↔ key ∈ map.keys ∨ key = last := by
  simp [keys]

theorem insert_perm (value : α) (fresh : key ∉ map.keys) :
    (insert key value map).Perm ((key, value) :: map) := by
  induction map with
  | nil => rfl
  | cons head rest ih =>
      obtain ⟨first, kept⟩ := head
      have differs : key ≠ first := fun same => fresh (same ▸ List.mem_cons_self)
      rw [insert, if_neg differs]
      split
      · rfl
      · have later := ih fun member => fresh (List.mem_cons_of_mem first member)
        exact (later.cons (first, kept)).trans (.swap _ _ rest)

theorem nodup_keys_insert (value : α) (fresh : key ∉ map.keys) (distinct : map.keys.Nodup) :
    (insert key value map).keys.Nodup := by
  have same := (insert_perm value fresh).map Prod.fst
  exact same.nodup_iff.mpr (List.nodup_cons.mpr ⟨fresh, distinct⟩)

/-! ## The order of the keys -/

/-- The keys come in the order of their bytes, none of them twice. -/
def Ascending (map : TextMap α) : Prop :=
  map.keys.Pairwise fun one other => before one other

theorem before_iff : before key other = true ↔ key < other := by
  rw [before, decide_eq_true_iff, String.lt_iff_toList_lt]

theorem Ascending.nodup_keys (ascending : Ascending map) : map.keys.Nodup := by
  refine List.Pairwise.imp ?_ ascending
  rintro key _ earlier rfl
  exact lt_irrefl key (before_iff.mp earlier)

theorem mem_keys_insert {found : String} :
    found ∈ (insert key value map).keys ↔ found = key ∨ found ∈ map.keys := by
  rw [← not_iff_not, ← find?_eq_none, find?_insert, not_or, ← find?_eq_none]
  split <;> simp [*]

theorem Ascending.insert (ascending : Ascending map) (key : String) (value : α) :
    Ascending (insert key value map) := by
  induction map with
  | nil => exact List.pairwise_singleton _ _
  | cons head rest ih =>
      obtain ⟨other, kept⟩ := head
      obtain ⟨first, others⟩ := List.pairwise_cons.mp ascending
      rw [TextMap.insert]
      split
      · rename_i same
        exact same ▸ ascending
      · rename_i differs
        split
        · rename_i earlier
          refine List.pairwise_cons.mpr ⟨fun found member => ?_, ascending⟩
          rcases List.mem_cons.mp member with rfl | later
          · exact earlier
          · have further := before_iff.mp (first found later)
            exact before_iff.mpr ((before_iff.mp earlier).trans further)
        · rename_i later
          refine List.pairwise_cons.mpr ⟨fun found member => ?_, ih others⟩
          rcases mem_keys_insert.mp member with rfl | older
          · rw [before_iff] at later ⊢
            exact lt_of_le_of_ne (not_lt.mp later) (Ne.symm differs)
          · exact first found older

/-! ## Maps of pairs with different keys -/

variable {pairs : List (String × α)}

theorem foldl_insert_perm (distinct : (pairs.map Prod.fst).Nodup)
    (fresh : ∀ pair ∈ pairs, pair.1 ∉ map.keys) :
    (pairs.foldl (fun map (key, value) => insert key value map) map).Perm (pairs ++ map) := by
  induction pairs generalizing map with
  | nil => rfl
  | cons head rest ih =>
      obtain ⟨key, value⟩ := head
      obtain ⟨first, others⟩ := List.nodup_cons.mp distinct
      have put := insert_perm value (fresh (key, value) List.mem_cons_self)
      have later : ∀ pair ∈ rest, pair.1 ∉ (insert key value map).keys := by
        intro pair member inside
        rcases mem_keys_insert.mp inside with same | older
        · exact first (List.mem_map.mpr ⟨pair, member, same⟩)
        · exact fresh pair (List.mem_cons_of_mem _ member) older
      have moved : (rest ++ (key, value) :: map).Perm ((key, value) :: rest ++ map) :=
        List.perm_middle
      exact ((ih others later).trans (put.append_left rest)).trans moved

theorem ofList_perm (distinct : (pairs.map Prod.fst).Nodup) : (ofList pairs).Perm pairs := by
  have fresh : ∀ pair ∈ pairs, pair.1 ∉ keys ([] : TextMap α) := fun _ _ => List.not_mem_nil
  have same := foldl_insert_perm distinct fresh
  rwa [List.append_nil] at same

theorem ascending_foldl (start : Ascending map) :
    Ascending (pairs.foldl (fun map (key, value) => insert key value map) map) := by
  induction pairs generalizing map with
  | nil => exact start
  | cons head rest ih => exact ih (start.insert head.1 head.2)

theorem ascending_ofList (pairs : List (String × α)) : Ascending (ofList pairs) :=
  ascending_foldl List.Pairwise.nil

theorem Ascending.eq_of_perm {one another : TextMap α} (first : Ascending one)
    (second : Ascending another) (same : one.Perm another) : one = another := by
  refine same.eq_of_pairwise (fun left right _ _ lower upper => ?_) (List.pairwise_map.mp first)
    (List.pairwise_map.mp second)
  exact absurd (before_iff.mp lower) (lt_asymm (before_iff.mp upper))

theorem ofList_congr {others : List (String × α)} (distinct : (pairs.map Prod.fst).Nodup)
    (same : pairs.Perm others) : ofList pairs = ofList others := by
  have distinctThen := (same.map Prod.fst).nodup_iff.mp distinct
  exact (ascending_ofList pairs).eq_of_perm (ascending_ofList others)
    (((ofList_perm distinct).trans same).trans (ofList_perm distinctThen).symm)

theorem find?_of_mem (distinct : map.keys.Nodup) (member : (key, value) ∈ map) :
    find? map key = some value := by
  induction map with
  | nil => cases member
  | cons head rest ih =>
      obtain ⟨first, others⟩ := List.nodup_cons.mp distinct
      rw [find?, lookup_cons_ite]
      rcases List.mem_cons.mp member with same | later
      · obtain ⟨rfl, rfl⟩ := Prod.mk.inj same
        exact if_pos rfl
      · have differs : key ≠ head.1 := by
          rintro rfl
          exact first (mem_keys_of_mem later)
        rw [if_neg differs]
        exact ih others later

end DeployCheck.TextMap
