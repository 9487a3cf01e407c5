import DeployCheck.Text.Ascii
import DeployCheck.Version
/-!
Which markers bound the comparable part of a bytecode. Each row of a policy table covers a band of
compiler versions; the first row that covers a version decides.
-/
namespace DeployCheck

open Text

/-- A lower bound on both numbers of a version, each on its own. -/
structure VersionBand where
  minMinor : Nat
  minPatch : Nat
  deriving DecidableEq, Repr

/-- Both numbers reach their bounds. The bounds are not one bound in the order of versions: `5.3` is
not covered by `4.22`. -/
def VersionBand.covers (band : VersionBand) (version : Version) : Bool :=
  band.minMinor ≤ version.minor && band.minPatch ≤ version.patch

/-- The sequences of digits that bound the comparable part, in lower case. -/
structure Markers where
  start : List Char
  stop : List Char
  lower_start : lower start = start
  lower_stop : lower stop = stop
  deriving DecidableEq, Repr

def Markers.ofTexts (start stop : String) : Markers :=
  ⟨lower start.toList, lower stop.toList, lower_lower _, lower_lower _⟩

structure Policy where
  name : String
  band : VersionBand
  markers : Markers
  deriving DecidableEq, Repr

structure Policies where
  rows : List Policy
  deriving DecidableEq, Repr

namespace Policies

/-- The first row that covers the version. -/
def select (table : Policies) (version : Version) : Option Policy :=
  table.rows.find? (·.band.covers version)

/-- How runtime code starts from 0.4.22 on. -/
def prologueFrom22 : String := "6080604052"

/-- How runtime code starts from 0.4.7 to 0.4.21. -/
def prologueFrom7 : String := "6060604052"

def metadataStart : String := "a165627a7a72305820"

/-- The table for the releases of `solc`. -/
def standard : Policies where
  rows :=
    [⟨"solc>=0.4.22", ⟨4, 22⟩, .ofTexts prologueFrom22 metadataStart⟩,
      ⟨"solc>=0.4.7", ⟨4, 7⟩, .ofTexts prologueFrom7 metadataStart⟩]

end Policies

end DeployCheck
