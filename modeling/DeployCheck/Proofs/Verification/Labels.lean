import DeployCheck.Proofs.Compiler.Starting
import DeployCheck.Proofs.Node
import DeployCheck.Proofs.Verification.Isolation
import DeployCheck.Verification.OnHost
/-!
Labels in a service whose compilers come from a store. The store reads a label before it hands out a
compiler for it, so a label that cannot be read fails as a load: nothing has been looked up, sent or
run for it by then. Where the label is read again for the report, reading it cannot fail any more.
-/
namespace DeployCheck.Verification

open Cache

def fromStore (store : CompilerStore)
    (code : String → Host → Except VerificationError String × Host) :
    Collaborators Host Compiler :=
  ⟨store.load, Compiler.compile, code, Compiler.failsAtOnce⟩

variable {store : CompilerStore} {code : String → Host → Except VerificationError String × Host}
  {table : Policies} {label : String} {compiler : Compiler} {fault : VerificationError}
  {inquiry : Inquiry}

/-! ## Handles -/

def Belongs (label : String) (compiler : Compiler) : Prop :=
  compiler.label = label ∧ ∃ version, Version.ofLabel label = .ok version

theorem belongs_of_loads (loads : Service.Loads (fromStore store code) label (.ok compiler)) :
    Belongs label compiler := by
  obtain ⟨host, loaded⟩ := loads
  have brought : store.load label host = (.ok compiler, (store.load label host).2) :=
    Prod.ext loaded rfl
  obtain ⟨rfl, -⟩ := CompilerStore.load_steps brought
  exact ⟨rfl, (CompilerStore.accepted_iff.mp (CompilerStore.checkLabel_of_load brought)).2⟩

namespace Service

variable {capacity i : Nat} {service : Service Compiler}

/-- Every handle that a service has belongs to the label that it is found under: among the answers
of the loader, in the entries, in the slot of a label, and in the hands of a call, which is about to
return it or has returned it. -/
structure HandlesBelong (service : Service Compiler) : Prop where
  answered : ∀ (load : Nat) label compiler,
    service.traffic.loads[load]? = some ⟨label, .answered (.ok compiler)⟩ → Belongs label compiler
  kept : ∀ label compiler, (label, compiler) ∈ service.traffic.cache.entries →
    Belongs label compiler
  filled : ∀ slot compiler, service.traffic.cache.slotValue slot = some compiler →
    ∃ label, Belongs label compiler ∧
      ∀ other, List.lookup other service.traffic.cache.pending = some slot → other = label
  taken : ∀ (call : Nat) (made : Call Compiler) compiler, service.traffic.calls[call]? = some made →
    made.stage.handle? = some compiler → Belongs made.label compiler

theorem Orderly.belongs_of_brought (orderly : Orderly (fromStore store code) table capacity service)
    (brought : Brought service.traffic.loads label compiler) : Belongs label compiler := by
  obtain ⟨steps, ran, loads⟩ := orderly.ran
  obtain ⟨call, invoked⟩ := Traffic.invoked_of_brought ran brought
  exact belongs_of_loads (loads call label _ invoked)

theorem Orderly.handlesBelong (orderly : Orderly (fromStore store code) table capacity service) :
    service.HandlesBelong := by
  obtain ⟨steps, ran, -⟩ := orderly.ran
  obtain ⟨owner, origins⟩ :=
    Traffic.origins_reachable (Traffic.reachable_iff_follow.mpr ⟨steps, ran⟩)
  constructor
  · exact fun load label compiler answered => orderly.belongs_of_brought ⟨load, answered⟩
  · exact fun label compiler member =>
      orderly.belongs_of_brought (origins.owned.kept label compiler member)
  · intro slot compiler value
    refine ⟨owner slot, orderly.belongs_of_brought (origins.owned.filled slot compiler value), ?_⟩
    exact fun other waiting => (origins.owned.pending other slot waiting).symm
  · exact fun call made compiler present held =>
      orderly.belongs_of_brought ((origins.honest call made present).taken compiler held)

end Service

/-! ## Refused labels -/

/-- The store's answer to a label is this failure, whatever host it looks at and without a look at
it, and an inquiry for the label comes to nothing else: neither its compilation nor the question to
the node can be begun or answered, and until it has its result something can still be done. -/
structure Inquiry.Refused (store : CompilerStore)
    (code : String → Host → Except VerificationError String × Host) (table : Policies)
    (service : Service Compiler) (i : Nat) (inquiry : Inquiry) (fault : VerificationError) : Prop
    where
  named : ∃ reason, fault = .compilerLoad inquiry.request.label reason
  untouched : ∀ host : Host, store.load inquiry.request.label host = (.error fault, host)
  idle : inquiry.compilation = .idle ∧ inquiry.retrieval = .idle
  unasked : ∀ host : Host, service.act? (fromStore store code) table (.compile i host) = none ∧
    service.act? (fromStore store code) table (.fetch i host) = none
  answered : ∀ result, inquiry.result = some result → result = .error fault
  continues : inquiry.result = none → ∀ _ : Host, ∃ action, (∀ request, action ≠ .ask request) ∧
    (service.act? (fromStore store code) table action).isSome = true

namespace Service

variable {capacity i : Nat} {service : Service Compiler}

theorem act?_of_idle {σ κ : Type} {collaborators : Collaborators σ κ} {service : Service κ}
    (present : service.inquiries[i]? = some inquiry)
    (idle : inquiry.compilation = .idle ∧ inquiry.retrieval = .idle) (world : σ) :
    service.act? collaborators table (.compile i world) = none ∧
      service.act? collaborators table (.fetch i world) = none := by
  constructor
  · refine Option.eq_none_iff_forall_ne_some.mpr fun after acted => ?_
    obtain ⟨returned, other, next, -, found, stepped, -⟩ := advance?_eq_some acted
    obtain rfl := Option.some.inj (found.symm.trans present)
    cases returned with
    | error fault => cases stepped
    | ok compiler =>
      obtain ⟨-, running, -⟩ := Inquiry.compiled?_eq_some stepped
      rw [idle.1] at running
      cases running
  · refine Option.eq_none_iff_forall_ne_some.mpr fun after acted => ?_
    obtain ⟨returned, other, next, -, found, stepped, -⟩ := advance?_eq_some acted
    obtain rfl := Option.some.inj (found.symm.trans present)
    obtain ⟨-, running, -⟩ := Inquiry.fetched?_eq_some stepped
    rw [idle.2] at running
    cases running

theorem refused_of_checkLabel (reachable : Reachable (fromStore store code) table capacity service)
    (present : service.inquiries[i]? = some inquiry)
    (refused : checkLabel inquiry.request.label = .error fault) :
    inquiry.Refused store code table service i fault := by
  have orderly := orderly_reachable reachable
  have stands := orderly.stands i inquiry present
  have untouched : ∀ host, store.load inquiry.request.label host = (.error fault, host) :=
    fun host => CompilerStore.load_of_refused refused
  have only (loaded : Except VerificationError Compiler)
      (back : service.traffic.returned? i = some loaded) : loaded = .error fault := by
    obtain ⟨host, answer⟩ := orderly.loads present back
    rw [← answer]
    exact congrArg Prod.fst (untouched host)
  have uncompiled : inquiry.compilation = .idle := by
    by_contra busy
    obtain ⟨compiler, back⟩ := stands.begun busy
    cases only _ back
  have idle : inquiry.compilation = .idle ∧ inquiry.retrieval = .idle :=
    ⟨uncompiled, by_contra fun busy => stands.ordered busy uncompiled⟩
  refine ⟨CompilerStore.checkLabel_eq_error refused, untouched, idle,
    fun host => act?_of_idle present idle host, ?_,
    fun unsettled host => exists_act reachable present unsettled host⟩
  intro result decided
  obtain ⟨loaded, back, concluded⟩ := orderly.concluded present decided
  obtain rfl := only loaded back
  exact concluded.settled_outcomes

/-! ## Labels that cannot be read -/

theorem said_by_node (orderly : Orderly (fromStore store code) table capacity service)
    (present : service.inquiries[i]? = some inquiry)
    (decided : inquiry.result = some (.error (.malformedVersion label))) :
    ∃ host, (code inquiry.request.address host).1 = .error (.malformedVersion label) := by
  -- Only the node can have said that a label is malformed: the store has another word for it,
  -- the compilers do not read labels, and the label of a compiler that was handed out can be
  -- read.
  obtain ⟨loaded, back, concluded⟩ := orderly.concluded present decided
  have settled := concluded.settled_outcomes
  cases loaded with
  | error fault =>
    obtain ⟨host, failed⟩ := orderly.loads present back
    obtain ⟨reason, rfl⟩ := CompilerStore.load_eq_error (Prod.ext failed rfl)
    cases settled
  | ok compiler =>
    have readable := (belongs_of_loads (orderly.loads present back)).2
    rcases settled.eq_error with compiled | fetched | ⟨artifacts, held, judged⟩
    · rcases Work.outcome_eq_error compiled with done | same
      · obtain ⟨handle, host, -, failed⟩ := concluded.compiled _ done
        rcases Compiler.compile_eq_error failed with ⟨reason, same⟩ | ⟨lines, same⟩ <;> cases same
      · cases same
    · rcases Work.outcome_eq_error fetched with done | same
      · exact concluded.fetched _ done
      · cases same
    · obtain ⟨version, carried⟩ := readable
      exact absurd carried (judged.unreadable version)

/-- In a service whose compilers come from a store, a label that cannot be read is found out by the
store. No inquiry has a result that calls a label malformed unless the node itself says so, which a
node on the network never does. An inquiry for a label that the store refuses fails as a load,
without a look at files or the network and without a compilation or a question to the node, whatever
else is kept or being loaded; and as every run without new inquiries comes to an end, it does get
this answer. All handles belong to labels that can be read. -/
theorem labels_read_first (reachable : Reachable (fromStore store code) table capacity service) :
    (∀ (i : Nat) (inquiry : Inquiry), service.inquiries[i]? = some inquiry →
      (∀ label, inquiry.result = some (.error (.malformedVersion label)) →
        ∃ host, (code inquiry.request.address host).1 = .error (.malformedVersion label)) ∧
      (∀ node : Node, code = node.code → ∀ label,
        inquiry.result ≠ some (.error (.malformedVersion label))) ∧
      ∀ fault, checkLabel inquiry.request.label = .error fault →
        inquiry.Refused store code table service i fault) ∧
    (∀ actions last, (∀ request, .ask request ∉ actions) →
      follow? (fromStore store code) table service actions = some last →
      actions.length ≤ service.remaining) ∧
    service.HandlesBelong := by
  have orderly := orderly_reachable reachable
  refine ⟨fun i inquiry present => ⟨?_, ?_, ?_⟩, ?_, orderly.handlesBelong⟩
  · exact fun label decided => said_by_node orderly present decided
  · rintro node rfl label decided
    obtain ⟨host, said⟩ := said_by_node orderly present decided
    obtain ⟨reason, same⟩ := Node.code_eq_error said
    cases same
  · exact fun fault refused => refused_of_checkLabel reachable present refused
  · intro actions last nothing_asked ran
    have bound := length_le_remaining ran nothing_asked
    omega

theorem labels_read_first_two :
    ∃ (service : Service Compiler) (node : Node) (inquiry : Inquiry),
      Reachable (fromStore ⟨"http://[::1]", "/c"⟩ node.code) .standard 1 service ∧
      service.traffic.cache.entries = [("v0.4.7+", ⟨"v0.4.7+", "/c/solc-v0.4.7+"⟩)] ∧
      service.HandlesBelong ∧ service.inquiries[1]? = some inquiry ∧
      inquiry.result = some (.error (.compilerLoad "latest" "not a release label")) ∧
      inquiry.Refused ⟨"http://[::1]", "/c"⟩ node.code .standard service 1
        (.compilerLoad "latest" "not a release label") := by
  -- A label that is none beside one whose compiler is found.
  let node : Node := ⟨"http://[::1]"⟩
  have ran : follow? (fromStore ⟨"http://[::1]", "/c"⟩ node.code) .standard (idle 1)
      (List.flatten
        [[.ask (smallRequest "v0.4.7+" "0x8d12"), .ask (smallRequest "latest" "0x8d12")],
          .replicate 5 (.move 0), .replicate 5 (.move 1),
          [.load 1 Compiler.keptHost, .load 0 Compiler.keptHost],
          .replicate 3 (.move 1), .replicate 2 (.move 0), [.proceed 1]]) = some _ := rfl
  have reachable := reachable_follow .idle ran
  obtain ⟨inquiries, -, belong⟩ := labels_read_first reachable
  obtain ⟨-, -, refused⟩ := inquiries 1 _ rfl
  have none_such : checkLabel "latest" =
      .error (.compilerLoad "latest" "not a release label") := by decide +kernel
  exact ⟨_, node, _, reachable, rfl, belong, rfl, rfl, refused _ none_such⟩

end Service

end DeployCheck.Verification
