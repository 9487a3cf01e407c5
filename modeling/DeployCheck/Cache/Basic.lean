import DeployCheck.Error
import DeployCheck.Number.Binary64
import DeployCheck.Text.Ascii
/-!
A cache of loaded compilers by release label. Loaded handles are kept in the order of their last
use, and the least recently used one gives way when the cache is full. A label that is being loaded
has a slot in a pending table; callers that miss share the slot, and a handle enters the cache only
once its load has ended well. Each operation here is atomic; a caller goes through several of them.
-/
namespace DeployCheck

open Text

namespace Cache

/-- What has happened so far. The counters are natural numbers, so unlike 64-bit words they do not
overflow. -/
structure Tally where
  hits : Nat
  misses : Nat
  loads : Nat
  loadFailures : Nat
  evictions : Nat
  deriving DecidableEq, Repr

def Tally.zero : Tally := ⟨0, 0, 0, 0, 0⟩

/-- The share of hits among all lookups in percent, rounded as numbers of the 64-bit format. -/
def Tally.hitRate (tally : Tally) : Binary64 :=
  if tally.hits + tally.misses = 0 then .zero
  else
    let percent? := do
      let hits ← Binary64.ofNat? tally.hits
      let total ← Binary64.ofNat? (tally.hits + tally.misses)
      let share ← hits.div? total
      share.mul? (← Binary64.ofNat? 100)
    percent?.getD .zero

def Tally.hitRateText (tally : Tally) : String :=
  let millionths := tally.hitRate.fixedPoint 6
  let decimals := Nat.toDigits 10 (millionths % 1000000)
  showNat (millionths / 1000000) ++ "." ++
    String.ofList (List.replicate (6 - decimals.length) '0' ++ decimals)

/-- The number of handles that are kept if nothing else is asked for. -/
def standardCapacity : Nat := 16

end Cache

/-- A cache of handles by label. A slot is known by its place among all slots ever made; it holds a
handle once its load has ended well. -/
structure Cache (α : Type) where
  capacity : Nat
  /-- The most recently used handle stands first. -/
  entries : List (String × α)
  /-- The labels that are being loaded, with their slots. -/
  pending : List (String × Nat)
  slots : List (Option α)
  tally : Cache.Tally

namespace Cache

variable {α : Type}

def empty (capacity : Nat) : Cache α :=
  ⟨capacity, [], [], [], .zero⟩

def contains (cache : Cache α) (label : String) : Bool :=
  (List.lookup label cache.entries).isSome

def slotValue (cache : Cache α) (slot : Nat) : Option α :=
  (cache.slots[slot]?).join

/-- What a lookup brings: a handle, or the slot to wait on. -/
inductive Lookup (α : Type)
  | found (handle : α)
  | missed (slot : Nat)

/-- Looks a label up in both tables. A handle that is kept becomes the most recently used one; a
handle still in its slot is found too; a label in neither table gets a new slot. -/
def lookUp (cache : Cache α) (label : String) : Lookup α × Cache α :=
  match List.lookup label cache.entries with
  | some handle =>
    (.found handle,
      { cache with entries := (label, handle) :: cache.entries.filter (·.1 ≠ label) })
  | none =>
    match List.lookup label cache.pending with
    | some slot =>
      match cache.slotValue slot with
      | some handle => (.found handle, cache)
      | none => (.missed slot, cache)
    | none =>
      (.missed cache.slots.length,
        { cache with
          pending := (label, cache.slots.length) :: cache.pending
          slots := cache.slots ++ [none] })

def countHit (cache : Cache α) : Cache α :=
  { cache with tally := { cache.tally with hits := cache.tally.hits + 1 } }

def countMiss (cache : Cache α) : Cache α :=
  { cache with tally := { cache.tally with misses := cache.tally.misses + 1 } }

def countLoad (cache : Cache α) : Cache α :=
  { cache with tally := { cache.tally with loads := cache.tally.loads + 1 } }

def countFailure (cache : Cache α) : Cache α :=
  { cache with tally := { cache.tally with loadFailures := cache.tally.loadFailures + 1 } }

def fill (cache : Cache α) (slot : Nat) (handle : α) : Cache α :=
  { cache with slots := cache.slots.set slot (some handle) }

/-- The pending table without a label. -/
def forget (cache : Cache α) (label : String) : Cache α :=
  { cache with pending := cache.pending.filter (·.1 ≠ label) }

/-- Keeps a handle as the most recently used one, in place of one of the same label; what no longer
fits is evicted from the end. -/
def keep (cache : Cache α) (label : String) (handle : α) : Cache α :=
  let entries := (label, handle) :: cache.entries.filter (·.1 ≠ label)
  { cache with
    entries := entries.take cache.capacity
    tally :=
      { cache.tally with
        evictions := cache.tally.evictions + (entries.length - cache.capacity) } }

/-- Moves the handle of a filled slot from the pending table into the cache. Only the first caller
to come finds the slot in the table; the others change nothing. -/
def adopt (cache : Cache α) (label : String) (slot : Nat) (handle : α) : Cache α :=
  if List.lookup label cache.pending = some slot then (cache.forget label).keep label handle
  else cache

/-- Takes the slot of a failed load out of the pending table, unless it has been filled or another
caller shares it. -/
def release (cache : Cache α) (label : String) (slot : Nat) (shared : Bool) : Cache α :=
  if List.lookup label cache.pending = some slot ∧ (cache.slotValue slot).isNone ∧ !shared then
    cache.forget label
  else cache

/-- What a caller goes through that meets no other: the handle that is kept, or else one loaded now.
A failed load leaves nothing behind but its counts. -/
def obtain {σ : Type} (load : String → σ → Except VerificationError α × σ) (label : String)
    (cache : Cache α) (world : σ) : Except VerificationError α × Cache α × σ :=
  match cache.lookUp label with
  | (.found handle, cache) => (.ok handle, cache.countHit, world)
  | (.missed slot, cache) =>
    match load label world with
    | (.ok handle, world) =>
      (.ok handle, (cache.countMiss.countLoad.fill slot handle).adopt label slot handle, world)
    | (.error fault, world) =>
      (.error fault, cache.countMiss.countLoad.countFailure.release label slot false, world)

end Cache

end DeployCheck
