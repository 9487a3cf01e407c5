import DeployCheck.Proofs.Cache.Tables
import Mathlib.Data.List.Induction
import Mathlib.Data.List.Nodup
/-!
Calls that follow one another. What a cache keeps is told by the history of the calls that brought a
handle: the distinct labels from the latest call back, as many as fit. A label leaves the cache
exactly when it leaves that list, and the loader is asked exactly for labels that are not on it.
-/
namespace DeployCheck.Cache

variable {α σ : Type} {cache : Cache α} {capacity : Nat} {label : String} {past : List String}
  {handle : α} {fault : VerificationError} {world after : σ}
  {load : String → σ → Except VerificationError α × σ}

/-! ## First occurrences -/

theorem eraseDups_filter (keeps : String → Bool) (labels : List String) :
    (labels.filter keeps).eraseDups = labels.eraseDups.filter keeps := by
  match labels with
  | [] => rfl
  | label :: rest =>
      have shorter : (rest.filter fun other => !other == label).length < (label :: rest).length :=
        Nat.lt_succ_of_le (List.length_filter_le _ _)
      have ih := eraseDups_filter keeps (rest.filter fun other => !other == label)
      rw [List.eraseDups_cons]
      cases kept : keeps label with
      | true =>
          rw [List.filter_cons_of_pos kept, List.filter_cons_of_pos kept, List.eraseDups_cons, ← ih,
            List.filter_comm]
      | false =>
          have gone : (rest.filter fun other => !other == label).filter keeps =
              rest.filter keeps := by
            rw [List.filter_filter]
            refine List.filter_congr fun other _ => ?_
            by_cases same : other = label
            · simp [same, kept]
            · simp [same]
          rw [List.filter_cons_of_neg (by simp [kept]), List.filter_cons_of_neg (by simp [kept]),
            ← ih, gone]
  termination_by labels.length
  decreasing_by exact shorter

theorem eraseDups_cons_ne (label : String) (past : List String) :
    (label :: past).eraseDups = label :: past.eraseDups.filter (· ≠ label) := by
  rw [List.eraseDups_cons, eraseDups_filter]
  congr 2
  funext other
  by_cases same : other = label <;> simp [same]

theorem nodup_eraseDups (past : List String) : past.eraseDups.Nodup := by
  induction past with
  | nil => exact List.nodup_nil
  | cons label past ih =>
      rw [eraseDups_cons_ne, List.nodup_cons]
      exact ⟨by simp, ih.filter _⟩

/-! ## The list of recent labels -/

/-- The labels to keep after lookups with success, which are given from the latest one back: the
first distinct ones, as many as fit. -/
def recent (capacity : Nat) (past : List String) : List String :=
  past.eraseDups.take capacity

theorem nodup_recent (capacity : Nat) (past : List String) : (recent capacity past).Nodup :=
  (nodup_eraseDups past).sublist (List.take_sublist _ _)

theorem length_recent_le (capacity : Nat) (past : List String) :
    (recent capacity past).length ≤ capacity :=
  List.length_take_le _ _

theorem length_le_filter_ne {labels : List String} (distinct : labels.Nodup) (label : String) :
    labels.length ≤ (labels.filter (· ≠ label)).length + 1 := by
  have erased : labels.erase label = labels.filter (· ≠ label) := by
    rw [distinct.erase_eq_filter]
    exact List.filter_congr fun other _ => by simp [bne, beq_eq_decide]
  have lengths := List.le_length_erase (a := label) (l := labels)
  rw [erased] at lengths
  omega

theorem take_filter_take {labels : List String} (distinct : labels.Nodup) (n : Nat) :
    ((labels.take (n + 1)).filter (· ≠ label)).take n = (labels.filter (· ≠ label)).take n := by
  have short := length_le_filter_ne (distinct.sublist (List.take_sublist (n + 1) labels)) label
  conv_rhs => rw [← List.take_append_drop (n + 1) labels, List.filter_append]
  by_cases full : n ≤ ((labels.take (n + 1)).filter (· ≠ label)).length
  · rw [List.take_append_of_le_length full]
  · -- Only one label can have been taken out, so a list that is short now was short before.
    have nothing : labels.drop (n + 1) = [] := by
      rw [List.length_take] at short
      exact List.drop_eq_nil_of_le (by omega)
    rw [nothing, List.filter_nil, List.append_nil]

theorem recent_cons (room : 0 < capacity) (label : String) (past : List String) :
    recent capacity (label :: past) =
      (label :: (recent capacity past).filter (· ≠ label)).take capacity := by
  obtain ⟨n, rfl⟩ : ∃ n, capacity = n + 1 := ⟨capacity - 1, by omega⟩
  rw [recent, eraseDups_cons_ne, List.take_succ_cons, List.take_succ_cons, recent,
    take_filter_take (nodup_eraseDups past)]

theorem recent_cons_of_mem (room : 0 < capacity) (listed : label ∈ recent capacity past) :
    recent capacity (label :: past) = label :: (recent capacity past).filter (· ≠ label) := by
  rw [recent_cons room]
  refine List.take_of_length_le (Nat.le_trans ?_ (length_recent_le capacity past))
  exact List.length_filter_lt_length_iff_exists.mpr ⟨label, listed, by simp⟩

theorem recent_cons_of_not_mem (room : 0 < capacity) (missing : label ∉ recent capacity past) :
    recent capacity (label :: past) = (label :: recent capacity past).take capacity := by
  rw [recent_cons room, List.filter_eq_self.mpr]
  intro other listed
  have differs : other ≠ label := by
    rintro rfl
    exact missing listed
  simpa using differs

/-! ## Labels that leave -/

def left (before after : List String) : List String :=
  before.filter (· ∉ after)

def departures (capacity : Nat) : List String → Nat
  | [] => 0
  | label :: past =>
    departures capacity past + (left (recent capacity past) (recent capacity (label :: past))).length

theorem left_of_mem (room : 0 < capacity) (listed : label ∈ recent capacity past) :
    left (recent capacity past) (recent capacity (label :: past)) = [] := by
  rw [recent_cons_of_mem room listed, left, List.filter_eq_nil_iff]
  intro other stays
  by_cases same : other = label <;> simp [same, stays]

theorem length_left_of_not_mem (room : 0 < capacity) (missing : label ∉ recent capacity past) :
    (left (recent capacity past) (recent capacity (label :: past))).length =
      (recent capacity past).length + 1 - capacity := by
  obtain ⟨n, rfl⟩ : ∃ n, capacity = n + 1 := ⟨capacity - 1, by omega⟩
  rw [recent_cons_of_not_mem room missing, List.take_succ_cons]
  have distinct := nodup_recent (n + 1) past
  generalize recent (n + 1) past = labels at missing distinct
  -- The front stays listed, and nothing behind it is listed again.
  have kept : left (labels.take n) (label :: labels.take n) = [] := by
    refine List.filter_eq_nil_iff.mpr fun other front => ?_
    simp [front]
  have gone : left (labels.drop n) (label :: labels.take n) = labels.drop n := by
    refine List.filter_eq_self.mpr fun other listed => ?_
    have differs : other ≠ label := by
      rintro rfl
      exact missing (List.mem_of_mem_drop listed)
    have apart : other ∉ labels.take n := fun front =>
      List.disjoint_take_drop distinct (Nat.le_refl n) front listed
    simp [differs, apart]
  have cut : left labels (label :: labels.take n) = labels.drop n := by
    conv_lhs => rw [← List.take_append_drop n labels]
    rw [left, List.filter_append]
    change left (labels.take n) _ ++ left (labels.drop n) _ = _
    rw [List.take_append_drop, kept, gone, List.nil_append]
  rw [cut, List.length_drop]
  omega

/-! ## One call -/

def labels (cache : Cache α) : List String :=
  cache.entries.map Prod.fst

theorem labels_front (label : String) (handle : α) (entries : List (String × α)) :
    ((label, handle) :: entries.filter (·.1 ≠ label)).map Prod.fst =
      label :: (entries.map Prod.fst).filter (· ≠ label) := by
  rw [List.map_cons, List.filter_map]
  rfl

theorem lookup_eq_none_iff_labels :
    List.lookup label cache.entries = none ↔ label ∉ cache.labels :=
  lookup_eq_none_iff_not_mem

theorem obtain_kept (kept : List.lookup label cache.entries = some handle) :
    ∃ next, cache.obtain load label world = (.ok handle, next, world) ∧
      next.entries = (label, handle) :: cache.entries.filter (·.1 ≠ label) ∧
      next.pending = cache.pending ∧ next.capacity = cache.capacity ∧
      next.tally.evictions = cache.tally.evictions := by
  refine ⟨_, by simp only [obtain, lookUp, kept]; rfl, ?_⟩
  exact ⟨rfl, rfl, rfl, rfl⟩

section

variable (absent : List.lookup label cache.entries = none) (quiet : cache.pending = [])

include absent quiet

theorem lookUp_quiet : cache.lookUp label =
    (.missed cache.slots.length,
      { cache with pending := [(label, cache.slots.length)], slots := cache.slots ++ [none] }) := by
  simp only [lookUp, absent, quiet, List.lookup_nil]

theorem obtain_loaded (loaded : load label world = (.ok handle, after)) :
    ∃ next, cache.obtain load label world = (.ok handle, next, after) ∧
      next.entries = ((label, handle) :: cache.entries).take cache.capacity ∧
      next.pending = [] ∧ next.capacity = cache.capacity ∧
      next.tally.evictions =
        cache.tally.evictions + (cache.entries.length + 1 - cache.capacity) := by
  have others : cache.entries.filter (·.1 ≠ label) = cache.entries := by
    refine List.filter_eq_self.mpr fun entry member => ?_
    have differs : entry.1 ≠ label := by
      rintro rfl
      exact lookup_eq_none_iff_labels.mp absent (List.mem_map_of_mem member)
    simpa using differs
  refine ⟨_, by simp only [obtain, lookUp_quiet absent quiet, loaded]; rfl, ?_⟩
  rw [adopt_of_owner (by simp [fill, countLoad, countMiss])]
  refine ⟨?_, ?_, rfl, ?_⟩
  · simp only [keep, forget, fill, countLoad, countMiss, others]
  · simp [keep, forget, fill, countLoad, countMiss]
  · simp only [keep, forget, fill, countLoad, countMiss, others, List.length_cons]

theorem obtain_failed (failed : load label world = (.error fault, after)) :
    ∃ next, cache.obtain load label world = (.error fault, next, after) ∧
      next.entries = cache.entries ∧ next.pending = [] ∧ next.capacity = cache.capacity ∧
      next.tally.evictions = cache.tally.evictions := by
  refine ⟨_, by simp only [obtain, lookUp_quiet absent quiet, failed]; rfl, ?_⟩
  have owner : List.lookup label [(label, cache.slots.length)] = some cache.slots.length := by simp
  simp [release, forget, slotValue, countFailure, countLoad, countMiss, owner]

end

/-! ## Calls one after another -/

/-- A loader that also keeps a record of the labels that it is asked for. -/
def recorded (load : String → σ → Except VerificationError α × σ) (label : String)
    (world : σ × List String) : Except VerificationError α × (σ × List String) :=
  let (result, after) := load label world.1
  (result, after, world.2 ++ [label])

/-- A cache that is called again and again, the world of its loader with the labels that the loader
was asked for, and the labels of the calls that brought a handle, from the latest one back. -/
structure Session (σ α : Type) where
  cache : Cache α
  world : σ × List String
  past : List String

namespace Session

def begin (capacity : Nat) (world : σ) : Session σ α :=
  ⟨.empty capacity, (world, []), []⟩

def answer (load : String → σ → Except VerificationError α × σ) (session : Session σ α)
    (label : String) : Except VerificationError α :=
  (session.cache.obtain (recorded load) label session.world).1

def call (load : String → σ → Except VerificationError α × σ) (session : Session σ α)
    (label : String) : Session σ α :=
  let (result, cache, world) := session.cache.obtain (recorded load) label session.world
  ⟨cache, world, if result.isOk then label :: session.past else session.past⟩

def calls (load : String → σ → Except VerificationError α × σ) (session : Session σ α)
    (labels : List String) : Session σ α :=
  labels.foldl (call load) session

structure Refines (capacity : Nat) (session : Session σ α) : Prop where
  labels : session.cache.labels = recent capacity session.past
  evictions : session.cache.tally.evictions = departures capacity session.past
  quiet : session.cache.pending = []
  capacity_eq : session.cache.capacity = capacity

structure Keeps (capacity : Nat) (load : String → σ → Except VerificationError α × σ)
    (session : Session σ α) (label : String) : Prop where
  asked : (session.call load label).world.2 =
    session.world.2 ++ if label ∈ recent capacity session.past then [] else [label]
  past : (session.call load label).past =
    if (session.answer load label).isOk then label :: session.past else session.past
  failed : ∀ fault, session.answer load label = .error fault →
    (session.call load label).cache.entries = session.cache.entries

variable {session : Session σ α}

theorem refines_begin (capacity : Nat) (world : σ) :
    (begin capacity world : Session σ α).Refines capacity :=
  ⟨by simp [begin, empty, Cache.labels, recent], rfl, rfl, rfl⟩

theorem refines_of_brought {next : Cache α} {later : σ × List String}
    (obtained : session.cache.obtain (recorded load) label session.world = (.ok handle, next, later))
    (listed : next.labels = recent capacity (label :: session.past))
    (evictions : next.tally.evictions = departures capacity (label :: session.past))
    (quiet : next.pending = []) (capacity_eq : next.capacity = capacity)
    (asked : later.2 =
      session.world.2 ++ if label ∈ recent capacity session.past then [] else [label]) :
    (session.call load label).Refines capacity ∧ session.Keeps capacity load label := by
  have answered : session.answer load label = .ok handle := by rw [answer, obtained]
  have after : session.call load label = ⟨next, later, label :: session.past⟩ := by
    simp only [call, obtained]
    rfl
  refine ⟨?_, ?_, ?_, ?_⟩
  · rw [after]
    exact ⟨listed, evictions, quiet, capacity_eq⟩
  · rw [after]
    exact asked
  · rw [after, answered]
    rfl
  · rw [answered]
    rintro fault ⟨⟩

theorem call_of_listed (room : 0 < capacity) (refines : session.Refines capacity)
    (listed : label ∈ recent capacity session.past) :
    (session.call load label).Refines capacity ∧ session.Keeps capacity load label := by
  have member := refines.labels ▸ listed
  obtain ⟨handle, kept⟩ := Option.isSome_iff_exists.mp (lookup_isSome_iff_mem.mpr member)
  obtain ⟨next, obtained, entries, quiet, capacity_eq, evictions⟩ := obtain_kept kept
  refine refines_of_brought obtained ?_ ?_ (quiet.trans refines.quiet)
    (capacity_eq.trans refines.capacity_eq) ?_
  · rw [recent_cons_of_mem room listed, ← refines.labels, labels, entries]
    exact labels_front label handle session.cache.entries
  · rw [departures, left_of_mem room listed]
    exact evictions.trans refines.evictions
  · rw [if_pos listed, List.append_nil]

theorem call_of_loaded (room : 0 < capacity) (refines : session.Refines capacity)
    (missing : label ∉ recent capacity session.past)
    (loaded : load label session.world.1 = (.ok handle, after)) :
    (session.call load label).Refines capacity ∧ session.Keeps capacity load label := by
  have absent := lookup_eq_none_iff_labels.mpr (refines.labels ▸ missing)
  have brought : recorded load label session.world =
      (.ok handle, after, session.world.2 ++ [label]) := by
    simp only [recorded, loaded]
  have lengths : session.cache.entries.length = (recent capacity session.past).length := by
    rw [← refines.labels, labels, List.length_map]
  obtain ⟨next, obtained, entries, quiet, capacity_eq, evictions⟩ :=
    obtain_loaded absent refines.quiet brought
  rw [refines.capacity_eq] at entries evictions
  refine refines_of_brought obtained ?_ ?_ quiet (capacity_eq.trans refines.capacity_eq) ?_
  · rw [recent_cons_of_not_mem room missing, ← refines.labels, labels, entries, List.map_take]
    rfl
  · rw [departures, length_left_of_not_mem room missing, ← lengths, ← refines.evictions, evictions]
  · rw [if_neg missing]

theorem call_of_failed (refines : session.Refines capacity)
    (missing : label ∉ recent capacity session.past)
    (failed : load label session.world.1 = (.error fault, after)) :
    (session.call load label).Refines capacity ∧ session.Keeps capacity load label := by
  have absent := lookup_eq_none_iff_labels.mpr (refines.labels ▸ missing)
  have brought : recorded load label session.world =
      (.error fault, after, session.world.2 ++ [label]) := by
    simp only [recorded, failed]
  obtain ⟨next, obtained, entries, quiet, capacity_eq, evictions⟩ :=
    obtain_failed absent refines.quiet brought
  have answered : session.answer load label = .error fault := by rw [answer, obtained]
  have later : session.call load label =
      ⟨next, (after, session.world.2 ++ [label]), session.past⟩ := by
    simp only [call, obtained]
    rfl
  refine ⟨⟨?_, ?_, ?_, ?_⟩, ?_, ?_, ?_⟩
  · rw [later, ← refines.labels, labels, entries, labels]
  · rw [later, ← refines.evictions]
    exact evictions
  · rw [later]
    exact quiet
  · rw [later]
    exact capacity_eq.trans refines.capacity_eq
  · rw [later, if_neg missing]
  · rw [later, answered]
    rfl
  · intro _ _
    rw [later]
    exact entries

theorem refines_call (room : 0 < capacity) (refines : session.Refines capacity)
    (load : String → σ → Except VerificationError α × σ) (label : String) :
    (session.call load label).Refines capacity ∧ session.Keeps capacity load label := by
  -- The list decides whether the loader is asked, and then its answer decides.
  by_cases listed : label ∈ recent capacity session.past
  · exact call_of_listed room refines listed
  · cases answered : load label session.world.1 with
    | mk result after =>
        cases result with
        | ok handle => exact call_of_loaded room refines listed answered
        | error fault => exact call_of_failed refines listed answered

theorem refines_calls (room : 0 < capacity) (load : String → σ → Except VerificationError α × σ)
    (world : σ) (labels : List String) :
    ((begin capacity world).calls load labels).Refines capacity := by
  -- From the last call back: `Refines` is what one call preserves.
  induction labels using List.reverseRecOn with
  | nil => exact refines_begin capacity world
  | append_singleton earlier label ih =>
      rw [calls, List.foldl_append]
      exact (refines_call room ih load label).1

/-- After any calls, whatever the loader answered, a cache keeps the distinct labels of the calls
that brought a handle from the latest one back, as many as fit; it has evicted a label each time one
left that list; and no slot is pending. One more call asks the loader exactly if its label is not on
the list, leaves a cache of the same kind, and changes nothing on the list if it fails. -/
theorem recency_refined (room : 0 < capacity) (load : String → σ → Except VerificationError α × σ)
    (world : σ) (labels : List String) (label : String) :
    let session := (begin capacity world).calls load labels
    session.Refines capacity ∧ session.Keeps capacity load label ∧
      (session.call load label).Refines capacity := by
  have refines := refines_calls room load world labels
  obtain ⟨after, keeps⟩ := refines_call room refines load label
  exact ⟨refines, keeps, after⟩

theorem recency_refined_two :
    let load : String → Nat → Except VerificationError Nat × Nat := fun label count =>
      (if label = "x" then .error (.compilerLoad label "gone") else .ok count, count + 1)
    let session := (begin 2 0).calls load ["a", "b", "a", "x", "c"]
    0 < 2 ∧ session.Refines 2 ∧ session.Keeps 2 load "b" ∧ (session.call load "b").Refines 2 ∧
      session.cache.entries = [("c", 3), ("a", 0)] ∧ session.past = ["c", "a", "b", "a"] ∧
      session.world.2 = ["a", "b", "x", "c"] ∧ session.cache.tally.evictions = 1 := by
  -- Two handles fit. A hit brings its label to the front, so that another one is evicted; a
  -- failure does nothing.
  intro load session
  obtain ⟨refines, keeps, after⟩ :=
    recency_refined (by decide : 0 < 2) load 0 ["a", "b", "a", "x", "c"] "b"
  refine ⟨by decide, refines, keeps, after, ?_⟩
  clear refines keeps after
  subst session load
  decide +kernel

end Session

end DeployCheck.Cache
