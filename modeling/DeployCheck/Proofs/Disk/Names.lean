import DeployCheck.Proofs.Disk.Walk
import DeployCheck.Proofs.Path
namespace DeployCheck.Disk

open Text DeployCheck.Path

variable {disk : Disk} {follow : Bool} {links : Nat} {here workingDirectory location : Location}
  {steps : List String} {path : String} {stop : Stop} {spot : Spot}

def Named (location : Location) : Prop :=
  ∀ text ∈ location, IsName text

theorem Named.root : Named [] := by
  simp [Named]

theorem Named.below {name : String} (named : Named here) (proper : IsName name) :
    Named (here ++ [name]) := by
  intro text member
  rcases List.mem_append.mp member with inside | last
  · exact named text inside
  · exact List.mem_singleton.mp last ▸ proper

theorem Named.above (named : Named here) : Named here.dropLast :=
  fun text member => named text (List.dropLast_subset here member)

def Stop.Named : Stop → Prop
  | .spot (.found location) => Disk.Named location
  | .spot (.free directory name) => Disk.Named (directory ++ [name])
  | .atLink directory _ rest => Disk.Named directory ∧ ∀ step ∈ rest, IsSegment step

theorem Goes.named (goes : Goes disk follow here steps stop) (named : Named here)
    (cut : ∀ step ∈ steps, IsSegment step) : stop.Named := by
  induction goes with
  | stay => exact named
  | point _ ih => exact ih named fun step member => cut step (List.mem_cons_of_mem _ member)
  | up _ ih => exact ih named.above fun step member => cut step (List.mem_cons_of_mem _ member)
  | free step | file step | keep step =>
      exact named.below ⟨cut _ List.mem_cons_self, step.1, step.2.1⟩
  | enter step _ _ ih =>
      exact ih (named.below ⟨cut _ List.mem_cons_self, step.1, step.2.1⟩)
        fun step member => cut step (List.mem_cons_of_mem _ member)
  | halt => exact ⟨named, fun step member => cut step (List.mem_cons_of_mem _ member)⟩

theorem isSegment_of_mem_stepsOf {step : String} (member : step ∈ stepsOf path) :
    IsSegment step := by
  rcases List.mem_append.mp member with inside | slash
  · exact isSegment_of_mem inside
  · have point : step = "." := by
      split at slash
      · exact List.mem_singleton.mp slash
      · cases slash
    rw [point]
    exact ⟨by decide, by decide⟩

theorem Named.startOf (named : Named here) (path : String) : Named (startOf here path) := by
  rw [Disk.startOf]
  split
  · exact .root
  · exact named

theorem Walks.named (walks : Walks disk follow links here steps spot) (named : Named here)
    (cut : ∀ step ∈ steps, IsSegment step) : (Stop.spot spot).Named := by
  induction walks with
  | arrive goes => exact goes.named named cut
  | @pass _ _ directory _ _ target _ goes _ ih =>
      obtain ⟨halted, left⟩ := goes.named named cut
      refine ih (halted.startOf target) fun step member => ?_
      rcases List.mem_append.mp member with target | rest
      · exact isSegment_of_mem_stepsOf target
      · exact left step rest

theorem named_of_locate (named : Named workingDirectory)
    (located : disk.locate workingDirectory follow path = .ok spot) : (Stop.spot spot).Named := by
  obtain ⟨-, walks⟩ := locate_eq_ok.mp located
  exact walks.named (named.startOf path) fun step => isSegment_of_mem_stepsOf

theorem named_of_resolve (named : Named workingDirectory)
    (resolved : disk.resolve workingDirectory path = .ok location) : Named location :=
  named_of_locate named (resolve_eq_ok.mp resolved)

end DeployCheck.Disk
