import DeployCheck.CommandLine.Program
import DeployCheck.Proofs.Sources
namespace DeployCheck

variable {α β : Type} {first : Except CommandError α} {next : α → Except CommandError β}

/-! ## Failures that are no mismatch -/

def Spares (outcome : Except CommandError α) : Prop :=
  ∀ contract address, outcome ≠ .error (.notVerified contract address)

theorem spares_ok (value : α) : Spares (.ok value) := by
  simp [Spares]

theorem Spares.bind (early : Spares first) (late : ∀ value, Spares (next value)) :
    Spares (first >>= next) := by
  intro contract address failed
  rcases bind_eq_error.mp failed with failed | ⟨value, -, failed⟩
  · exact early contract address failed
  · exact late value contract address failed

theorem Spares.foldlM {step : α → β → Except CommandError α} (each : ∀ a b, Spares (step a b))
    (start : α) (items : List β) : Spares (items.foldlM step start) := by
  induction items generalizing start with
  | nil => exact spares_ok start
  | cons item rest ih =>
      rw [List.foldlM_cons]
      exact (each start item).bind ih

theorem spares_ofName (word : String) : Spares (Format.ofName word) := by
  unfold Format.ofName Spares
  intro contract address
  simp only
  repeat' split
  all_goals simp

namespace Config

theorem spares_text (members : Toml.Members) (key : String) : Spares (text members key) := by
  unfold text Spares
  intro contract address
  split <;> simp [invalid]

theorem spares_count (members : Toml.Members) (key : String) : Spares (count members key) := by
  unfold count Spares
  intro contract address
  repeat' split
  all_goals simp [invalid]

theorem spares_ofMembers (members : Toml.Members) : Spares (ofMembers members) :=
  (spares_text members _).bind fun _ => (spares_text members _).bind fun _ =>
    (spares_text members _).bind fun _ => (spares_text members _).bind fun _ =>
      (spares_count members _).bind fun _ => (spares_count members _).bind fun _ => spares_ok _

theorem spares_read (host : Host) (path : String) : Spares (read host path) := by
  unfold read ofText
  repeat' split
  · exact spares_ofMembers _
  · simp [Spares, invalid]
  · simp [Spares]

theorem spares_load (host : Host) (home path : Option String) : Spares (load host home path) := by
  unfold load
  repeat' split
  · exact spares_read host _
  · simp [Spares]
  · exact spares_read host _
  · exact spares_ok _

end Config

namespace Settings

theorem spares_checkUrl (name url : String) : Spares (checkUrl name url) := by
  unfold checkUrl Spares
  intro contract address
  simp only
  split <;> simp

theorem spares_expandTilde (path : String) (home : Option String) :
    Spares (expandTilde path home) := by
  unfold expandTilde Spares
  intro contract address
  repeat' split
  all_goals simp

theorem spares_checkCapacity (capacity : Nat) : Spares (checkCapacity capacity) := by
  unfold checkCapacity Spares
  intro contract address
  split <;> simp

theorem spares_checkTimeout (timeout : Nat) : Spares (checkTimeout timeout) := by
  unfold checkTimeout Spares
  intro contract address
  split <;> simp

theorem spares_resolve (config : Config) (overrides : Overrides) (home : Option String) :
    Spares (resolve config overrides home) :=
  (spares_checkUrl _ _).bind fun _ => (spares_checkUrl _ _).bind fun _ =>
    (spares_checkUrl _ _).bind fun _ => (spares_expandTilde _ home).bind fun _ =>
      (spares_checkCapacity _).bind fun _ => (spares_checkTimeout _).bind fun _ => spares_ok _

end Settings

namespace Sources

theorem spares_canonical (host : Host) (path : String) : Spares (canonical host path) := by
  unfold canonical Spares
  intro contract address
  split <;> simp

theorem spares_key (path base : String) : Spares (key path base) := by
  unfold key Spares
  intro contract address
  simp only
  repeat' split
  all_goals simp

theorem spares_add (host : Host) (base : String) (sources : SourceTree) (path : String) :
    Spares (add host base sources path) := by
  refine (spares_canonical host path).bind fun file => (spares_key file base).bind fun name => ?_
  repeat' split
  · simp [Spares]
  · simp [Spares]
  · exact spares_ok _

theorem spares_read (host : Host) (paths : List String) (base : String) :
    Spares (read host paths base) :=
  (spares_canonical host base).bind fun _ => .foldlM (fun _ _ => spares_add host _ _ _) _ paths

theorem spares_request (sources : SourceTree) (label contract filename address : String) :
    Spares (request sources label contract filename address) := by
  refine Spares.bind ?_ fun _ => spares_ok _
  unfold checkContractFile Spares
  intro contract address
  split <;> simp

end Sources

namespace Program

variable {invocation : CommandLine.Invocation} {home : Option String} {host : Host}
  {label contract file address base : String} {paths : List String} {format : Format}
  {settings : Settings} {request : Verification.Request}

theorem spares_settings (invocation : CommandLine.Invocation) (home : Option String) (host : Host) :
    Spares (Program.settings invocation home host) :=
  (Config.spares_load host home _).bind fun _ => Settings.spares_resolve _ _ _

theorem spares_prepare (invocation : CommandLine.Invocation) (home : Option String) (host : Host)
    (label contract file address base : String) (paths : List String) :
    Spares (prepare invocation home host label contract file address base paths) :=
  (spares_ofName _).bind fun _ => (spares_settings invocation home host).bind fun _ =>
    (Sources.spares_read host paths base).bind fun _ =>
      (Sources.spares_request _ _ _ _ _).bind fun _ => spares_ok _

/-! ## What has been prepared -/

theorem prepare_eq_ok
    (prepared : prepare invocation home host label contract file address base paths =
      .ok (format, settings, request)) :
    Program.settings invocation home host = .ok settings ∧
      ∃ sources, Sources.ReadFrom host base paths sources ∧ file ∈ sources.keys ∧
        request = ⟨sources, label, contract, file, address⟩ := by
  obtain ⟨_, -, prepared⟩ := bind_eq_ok.mp prepared
  obtain ⟨_, resolved, prepared⟩ := bind_eq_ok.mp prepared
  obtain ⟨sources, gathered, prepared⟩ := bind_eq_ok.mp prepared
  obtain ⟨_, made, same⟩ := bind_eq_ok.mp prepared
  obtain ⟨rfl, rfl, rfl⟩ : _ ∧ _ ∧ _ := by simpa [pure, Except.pure] using same
  obtain ⟨listed, rfl⟩ := Sources.request_eq_ok made
  exact ⟨resolved, sources, Sources.readFrom_of_read gathered, listed, rfl⟩

end Program

end DeployCheck
