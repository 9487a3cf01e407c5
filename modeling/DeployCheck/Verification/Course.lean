import DeployCheck.Verification.Report
/-!
The course of a verification: load the compiler through the cache, compile the sources while the
node is asked for the deployed code, and report on what both gave. The loader, the compilers and the
node are collaborators that act on a world of any kind; whatever one of them fails with is the
answer, unchanged.
-/
namespace DeployCheck

namespace Verification

def optimize : Bool := true

/-- Those who do the work: a loader of compilers, the compilers, and a node. -/
structure Collaborators (σ κ : Type) where
  load : String → σ → Except VerificationError κ × σ
  compile : κ → SourceTree → Bool → σ → Except VerificationError Artifacts × σ
  code : String → σ → Except VerificationError String × σ
  /-- A compilation that fails without waiting for anything, and so before the node is asked. -/
  failsAtOnce : κ → SourceTree → σ → Bool

/-- Who of two that work side by side is done first. -/
inductive Lead
  | compiler
  | node
  deriving DecidableEq, Repr

def Lead.choose (lead : Lead) (compiler node : VerificationError) : VerificationError :=
  match lead with
  | .compiler => compiler
  | .node => node

variable {σ κ : Type}

/-- Has the compiler and the node work side by side. If both fail, the first to be done decides; a
compilation that fails at once leaves the node unasked. -/
def gather (collaborators : Collaborators σ κ) (lead : Lead) (compiler : κ) (request : Request)
    (world : σ) : Except VerificationError (Artifacts × String) × σ :=
  let hasty := collaborators.failsAtOnce compiler request.sources world
  match collaborators.compile compiler request.sources optimize world with
  | (.ok artifacts, world) =>
    match collaborators.code request.address world with
    | (.ok code, world) => (.ok (artifacts, code), world)
    | (.error fault, world) => (.error fault, world)
  | (.error fault, world) =>
    if hasty then (.error fault, world)
    else
      match collaborators.code request.address world with
      | (.ok _, world) => (.error fault, world)
      | (.error other, world) => (.error (lead.choose fault other), world)

def verify (collaborators : Collaborators σ κ) (table : Policies) (lead : Lead)
    (request : Request) (cache : Cache κ) (world : σ) :
    Except VerificationError Report × Cache κ × σ :=
  match cache.obtain collaborators.load request.label world with
  | (.error fault, cache, world) => (.error fault, cache, world)
  | (.ok compiler, cache, world) =>
    match gather collaborators lead compiler request world with
    | (.error fault, world) => (.error fault, cache, world)
    | (.ok (artifacts, code), world) =>
      (report table request artifacts code (.of cache), cache, world)

end Verification

end DeployCheck
