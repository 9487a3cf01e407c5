import DeployCheck.Cache.Traffic
import DeployCheck.Verification.Course
/-!
Many verifications at once over one cache. Each one calls the cache for its compiler and then has
the sources compiled and the code fetched side by side; the first of the two to fail decides. The
collaborators answer when they are done, in whatever world they find then.
-/
namespace DeployCheck

namespace Verification

inductive Work (α : Type)
  | idle
  | running
  | done (outcome : Except VerificationError α)

/-- A verification that has been asked for. Work that still runs when there is a result is given
up. -/
structure Inquiry where
  request : Request
  compilation : Work Artifacts
  retrieval : Work String
  /-- The counters of the cache, which are read before its entries are counted. -/
  tally : Option Cache.Tally
  result : Option (Except VerificationError Report)

namespace Inquiry

variable {κ : Type}

def new (request : Request) : Inquiry :=
  ⟨request, .idle, .idle, none, none⟩

def failure? {α : Type} : Except VerificationError α → Option (Except VerificationError Report)
  | .ok _ => none
  | .error fault => some (.error fault)

/-- The next step that an inquiry makes by itself once its call of the cache has returned. The
compilation is begun before the node is asked. -/
def proceed? (table : Policies) (cache : Cache κ) (returned : Except VerificationError κ)
    (inquiry : Inquiry) : Option Inquiry :=
  match inquiry.result, returned with
  | some _, _ => none
  | none, .error fault => some { inquiry with result := some (.error fault) }
  | none, .ok _ =>
    match inquiry.compilation, inquiry.retrieval with
    | .idle, _ => some { inquiry with compilation := .running }
    | _, .idle => some { inquiry with retrieval := .running }
    | .done (.ok artifacts), .done (.ok code) =>
      match inquiry.tally with
      | none => some { inquiry with tally := some cache.tally }
      | some tally =>
        let counts : CacheCounts := ⟨tally, cache.entries.length⟩
        some { inquiry with result := some (report table inquiry.request artifacts code counts) }
    | _, _ => none

def compiled? (outcome : Except VerificationError Artifacts) (inquiry : Inquiry) : Option Inquiry :=
  match inquiry.result, inquiry.compilation with
  | none, .running =>
    some { inquiry with compilation := .done outcome, result := failure? outcome }
  | _, _ => none

def fetched? (outcome : Except VerificationError String) (inquiry : Inquiry) : Option Inquiry :=
  match inquiry.result, inquiry.retrieval with
  | none, .running => some { inquiry with retrieval := .done outcome, result := failure? outcome }
  | _, _ => none

end Inquiry

/-- A cache with its callers, and the inquiries that they call for: the call of an inquiry stands at
the same place among the calls. -/
structure Service (κ : Type) where
  traffic : Cache.Traffic κ
  inquiries : List Inquiry

namespace Service

variable {σ κ : Type}

def idle (capacity : Nat) : Service κ :=
  ⟨.idle capacity, []⟩

/-- What happens in one step. Where a collaborator answers, it does so in a certain world. -/
inductive Action (σ : Type)
  | ask (request : Request)
  | move (call : Nat)
  | load (call : Nat) (world : σ)
  | proceed (inquiry : Nat)
  | compile (inquiry : Nat) (world : σ)
  | fetch (inquiry : Nat) (world : σ)

def advance? (service : Service κ) (i : Nat)
    (step : Except VerificationError κ → Inquiry → Option Inquiry) : Option (Service κ) :=
  match service.traffic.stage? i, service.inquiries[i]? with
  | some (.returned outcome), some inquiry =>
    (step outcome inquiry).map fun inquiry =>
      { service with inquiries := service.inquiries.set i inquiry }
  | _, _ => none

def act? (collaborators : Collaborators σ κ) (table : Policies) (service : Service κ) :
    Action σ → Option (Service κ)
  | .ask request =>
    some ⟨service.traffic.enter request.label, service.inquiries ++ [.new request]⟩
  | .move call => (service.traffic.move? call).map fun traffic => { service with traffic }
  | .load call world =>
    (service.traffic.calls[call]?).bind fun made =>
      (service.traffic.answer? call (collaborators.load made.label world).1).map fun traffic =>
        { service with traffic }
  | .proceed i => service.advance? i (Inquiry.proceed? table service.traffic.cache)
  | .compile i world =>
    service.advance? i fun returned inquiry =>
      match returned with
      | .ok compiler =>
        inquiry.compiled? (collaborators.compile compiler inquiry.request.sources optimize world).1
      | .error _ => none
  | .fetch i world =>
    service.advance? i fun _ inquiry =>
      inquiry.fetched? (collaborators.code inquiry.request.address world).1

inductive Reachable (collaborators : Collaborators σ κ) (table : Policies) (capacity : Nat) :
    Service κ → Prop
  | idle : Reachable collaborators table capacity (idle capacity)
  | step {service next : Service κ} (action : Action σ) :
    Reachable collaborators table capacity service →
    service.act? collaborators table action = some next →
    Reachable collaborators table capacity next

end Service

end Verification

end DeployCheck
