import DeployCheck.Cache.Basic
/-!
Many callers of one cache at once. Each call is at a stage between two atomic operations, and every
caller may move in any order. A slot grants one caller at a time the permit to load; the others wait
until it is filled or free again. A load runs outside of the cache and is answered when its outcome
is known.
-/
namespace DeployCheck

namespace Cache

inductive Stage (α : Type)
  /-- The label is to be looked up. -/
  | entered
  /-- A hit is to be counted. -/
  | found (handle : α)
  /-- A miss is to be counted. -/
  | missed (slot : Nat)
  /-- The slot has to be filled, or the permit to load has to be free. -/
  | waiting (slot : Nat)
  /-- The caller has the permit; a load is to be counted. -/
  | permitted (slot : Nat)
  /-- The load is to be begun. -/
  | counted (slot : Nat)
  /-- The load has been begun and is not answered. -/
  | loading (slot load : Nat)
  /-- A handle is to be adopted by the cache. -/
  | served (slot : Nat) (handle : α)
  /-- A failure is to be counted. -/
  | failed (slot : Nat) (fault : VerificationError)
  /-- The slot is to be released if no one else needs it. -/
  | refused (slot : Nat) (fault : VerificationError)
  /-- The slot is to be let go of. -/
  | leaving (slot : Option Nat) (result : Except VerificationError α)
  /-- The call is over. -/
  | returned (result : Except VerificationError α)
  /-- The call was given up. -/
  | cancelled

namespace Stage

variable {α : Type}

def slot? : Stage α → Option Nat
  | missed slot | waiting slot | permitted slot | counted slot => some slot
  | loading slot _ | served slot _ | failed slot _ | refused slot _ => some slot
  | leaving slot _ => slot
  | entered | found _ | returned _ | cancelled => none

def permit? : Stage α → Option Nat
  | permitted slot | counted slot | loading slot _ => some slot
  | _ => none

def awaited? : Stage α → Option Nat
  | waiting slot => some slot
  | _ => none

def isOver : Stage α → Bool
  | returned _ | cancelled => true
  | _ => false

end Stage

structure Call (α : Type) where
  label : String
  stage : Stage α

inductive Outcome (α : Type)
  | running
  | answered (result : Except VerificationError α)
  /-- The caller gave up before there was an answer. -/
  | abandoned

structure Load (α : Type) where
  label : String
  outcome : Outcome α

structure Traffic (α : Type) where
  cache : Cache α
  calls : List (Call α)
  loads : List (Load α)

namespace Traffic

variable {α : Type}

def idle (capacity : Nat) : Traffic α :=
  ⟨.empty capacity, [], []⟩

def enter (traffic : Traffic α) (label : String) : Traffic α :=
  { traffic with calls := traffic.calls ++ [⟨label, .entered⟩] }

def stage? (traffic : Traffic α) (call : Nat) : Option (Stage α) :=
  (traffic.calls[call]?).map Call.stage

def setStage (traffic : Traffic α) (call : Nat) (stage : Stage α) : Traffic α :=
  { traffic with calls := traffic.calls.modify call fun made => { made with stage } }

def beginLoad (traffic : Traffic α) (label : String) : Traffic α :=
  { traffic with loads := traffic.loads ++ [⟨label, .running⟩] }

def setOutcome (traffic : Traffic α) (load : Nat) (outcome : Outcome α) : Traffic α :=
  { traffic with loads := traffic.loads.modify load fun begun => { begun with outcome } }

def isTaken (traffic : Traffic α) (slot : Nat) : Bool :=
  traffic.calls.any fun made => made.stage.permit? == some slot

def isShared (traffic : Traffic α) (call slot : Nat) : Bool :=
  (traffic.calls.eraseIdx call).any fun made => made.stage.slot? == some slot

def lookUp (traffic : Traffic α) (call : Nat) (label : String) : Traffic α :=
  match traffic.cache.lookUp label with
  | (.found handle, cache) => { traffic with cache }.setStage call (.found handle)
  | (.missed slot, cache) => { traffic with cache }.setStage call (.missed slot)

/-- The next move of a call, if it can make one by itself. A waiting caller takes the handle of a
filled slot or a free permit; a caller whose load is not answered stays where it is. -/
def move? (traffic : Traffic α) (call : Nat) : Option (Traffic α) :=
  match traffic.calls[call]? with
  | none => none
  | some ⟨label, stage⟩ =>
    match stage with
    | .entered => some (traffic.lookUp call label)
    | .found handle =>
      some ({ traffic with cache := traffic.cache.countHit }.setStage call
        (.leaving none (.ok handle)))
    | .missed slot =>
      some ({ traffic with cache := traffic.cache.countMiss }.setStage call (.waiting slot))
    | .waiting slot =>
      match traffic.cache.slotValue slot with
      | some handle => some (traffic.setStage call (.served slot handle))
      | none =>
        if traffic.isTaken slot then none else some (traffic.setStage call (.permitted slot))
    | .permitted slot =>
      some ({ traffic with cache := traffic.cache.countLoad }.setStage call (.counted slot))
    | .counted slot =>
      some ((traffic.beginLoad label).setStage call (.loading slot traffic.loads.length))
    | .loading .. => none
    | .served slot handle =>
      some ({ traffic with cache := traffic.cache.adopt label slot handle }.setStage call
        (.leaving (some slot) (.ok handle)))
    | .failed slot fault =>
      some ({ traffic with cache := traffic.cache.countFailure }.setStage call
        (.refused slot fault))
    | .refused slot fault =>
      let shared := traffic.isShared call slot
      some ({ traffic with cache := traffic.cache.release label slot shared }.setStage call
        (.leaving (some slot) (.error fault)))
    | .leaving _ result => some (traffic.setStage call (.returned result))
    | .returned _ | .cancelled => none

/-- Answers the load of a call. A handle fills the slot; a failure stays with this caller and frees
the permit. -/
def answer? (traffic : Traffic α) (call : Nat) (result : Except VerificationError α) :
    Option (Traffic α) :=
  match traffic.stage? call with
  | some (.loading slot load) =>
    let settled := traffic.setOutcome load (.answered result)
    match result with
    | .ok handle =>
      some ({ settled with cache := settled.cache.fill slot handle }.setStage call
        (.served slot handle))
    | .error fault => some (settled.setStage call (.failed slot fault))
  | _ => none

/-- Gives a call up, wherever it stands. Its load is abandoned and its permit free again. -/
def cancel (traffic : Traffic α) (call : Nat) : Traffic α :=
  match traffic.stage? call with
  | some (.loading _ load) => (traffic.setOutcome load .abandoned).setStage call .cancelled
  | some stage => if stage.isOver then traffic else traffic.setStage call .cancelled
  | none => traffic

inductive Step : Traffic α → Traffic α → Prop
  | enter (traffic : Traffic α) (label : String) : Step traffic (traffic.enter label)
  | move {traffic next : Traffic α} (call : Nat) : traffic.move? call = some next →
    Step traffic next
  | answer {traffic next : Traffic α} (call : Nat) (result : Except VerificationError α) :
    traffic.answer? call result = some next → Step traffic next

inductive Reachable (capacity : Nat) : Traffic α → Prop
  | idle : Reachable capacity (idle capacity)
  | step {traffic next : Traffic α} : Reachable capacity traffic → Step traffic next →
    Reachable capacity next

end Traffic

end Cache

end DeployCheck
