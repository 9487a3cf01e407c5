import DeployCheck.Cache.Traffic
/-!
Callers that take turns. One caller runs at a time, until it has to wait or is done; callers that
become able to go on queue up behind those already due. The permit of a slot goes to the caller that
has waited longest.
-/
namespace DeployCheck

namespace Cache

/-- A cache and its callers, with the callers that are due, the outcomes of loads that their callers
have not taken up yet, the callers to be given up at their next turn, and the calls that have
returned, in that order. -/
structure Turns (α : Type) where
  traffic : Traffic α
  due : List Nat
  outcomes : List (Nat × Except VerificationError α)
  doomed : List Nat
  returned : List Nat

namespace Turns

variable {α : Type}

def idle (capacity : Nat) : Turns α :=
  ⟨.idle capacity, [], [], [], []⟩

def wake (turns : Turns α) (call : Nat) : Turns α :=
  if call ∈ turns.due then turns else { turns with due := turns.due ++ [call] }

def enter (turns : Turns α) (label : String) : Turns α :=
  { turns with traffic := turns.traffic.enter label }.wake turns.traffic.calls.length

def callerOf? (turns : Turns α) (load : Nat) : Option Nat :=
  turns.traffic.calls.findIdx? fun made =>
    match made.stage with
    | .loading _ own => own == load
    | _ => false

def isOpen (turns : Turns α) (label : String) (load : Nat) : Bool :=
  match turns.traffic.loads[load]? with
  | some ⟨own, .running⟩ => own == label && !(turns.outcomes.any (·.1 == load))
  | _ => false

/-- Ends the oldest open load of a label; the number of the load decides on the outcome. -/
def conclude (turns : Turns α) (label : String) (outcome : Nat → Except VerificationError α) :
    Turns α :=
  match (List.range turns.traffic.loads.length).find? (turns.isOpen label) with
  | none => turns
  | some load =>
    let turns := { turns with outcomes := turns.outcomes ++ [(load, outcome load)] }
    match turns.callerOf? load with
    | some call => turns.wake call
    | none => turns

def giveUp (turns : Turns α) (call : Nat) : Turns α :=
  match turns.traffic.stage? call with
  | some stage =>
    if stage.isOver then turns else { turns with doomed := call :: turns.doomed }.wake call
  | none => turns

def isFirstInLine (traffic : Traffic α) (call : Nat) : Bool :=
  match traffic.stage? call with
  | some (.waiting slot) =>
    (traffic.cache.slotValue slot).isSome ||
      (traffic.calls.take call).all (·.stage.awaited? != some slot)
  | _ => true

def advance (call : Nat) : Nat → Traffic α → Traffic α
  | 0, traffic => traffic
  | fuel + 1, traffic =>
    if isFirstInLine traffic call then
      match traffic.move? call with
      | some traffic => advance call fuel traffic
      | none => traffic
    else traffic

def longestRun : Nat := 6

def takeUp (turns : Turns α) (call : Nat) : Turns α :=
  match turns.traffic.stage? call with
  | some (.loading _ load) =>
    match (List.lookup load turns.outcomes).bind (turns.traffic.answer? call) with
    | some traffic => { turns with traffic }
    | none => turns
  | _ => turns

def wakeWaiting (turns : Turns α) : Turns α :=
  (List.range turns.traffic.calls.length).foldl
    (fun turns call =>
      match turns.traffic.stage? call with
      | some (.waiting _) =>
        if isFirstInLine turns.traffic call && (turns.traffic.move? call).isSome then
          turns.wake call
        else turns
      | _ => turns)
    turns

def runCall (turns : Turns α) (call : Nat) : Turns α :=
  if call ∈ turns.doomed then
    { turns with traffic := turns.traffic.cancel call }.wakeWaiting
  else
    let turns := turns.takeUp call
    let turns := { turns with traffic := advance call longestRun turns.traffic }
    let turns := turns.wakeWaiting
    match turns.traffic.stage? call with
    | some (.returned _) => { turns with returned := turns.returned ++ [call] }
    | _ => turns

def runTurns : Nat → Turns α → Turns α
  | 0, turns => turns
  | fuel + 1, turns =>
    match turns.due with
    | [] => turns
    | call :: due => runTurns fuel ({ turns with due }.runCall call)

/-- Runs until no caller is due. Within such a run a caller has at most one turn to enter, one to
take a permit and one to be done. -/
def runUntilIdle (turns : Turns α) : Turns α :=
  runTurns (3 * turns.traffic.calls.length) turns

def inFlight (turns : Turns α) : List String :=
  turns.traffic.loads.filterMap fun load =>
    match load.outcome with
    | .running => some load.label
    | _ => none

end Turns

end Cache

end DeployCheck
