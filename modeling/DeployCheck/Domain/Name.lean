import DeployCheck.Domain.Direction
import DeployCheck.Domain.Label
namespace DeployCheck.Domain

open Text

/-- Characters that a name cannot hold because they mean something in a URL: controls, blanks and
some punctuation. -/
def isReserved (c : Char) : Bool :=
  c.toNat ≤ 0x20 || c.toNat == 0x7F || "#/:<>?@[\\]^|%".toList.contains c

def keepDirections (labels : List Label) : Bool :=
  !labels.any (·.letters.any fun c => (direction c).turnsDomain) ||
    labels.all fun label => keepsDirection label.letters

def ascii? (text : List Char) : Option (List Char) :=
  match map? text with
  | none => none
  | some mapped =>
    let name := normalize mapped
    if name.any isReserved then none
    else
      match (pieces '.' name).mapM Label.read? with
      | none => none
      | some labels =>
        if keepDirections labels then some (['.'].intercalate (labels.map (·.ascii))) else none

end DeployCheck.Domain
