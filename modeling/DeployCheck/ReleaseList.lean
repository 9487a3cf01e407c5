import DeployCheck.Host
import DeployCheck.Network.Charset
import DeployCheck.Text.Blank
import DeployCheck.Text.Search
/-!
The published list of compiler releases, one entry a line. Nightly builds are not offered, and of an
entry only the label remains that a compiler is loaded by.
-/
namespace DeployCheck

open Text

namespace ReleaseList

def decorations : List String := ["soljson-", "solc-linux-amd64-"]

/-- The label of an entry, without one decoration in front and one `.js` behind. -/
def label (entry : List Char) : List Char :=
  let bare := (decorations.findSome? fun front => dropFront? front.toList entry).getD entry
  (dropBack? ".js".toList bare).getD bare

def isRelease (line : List Char) : Bool :=
  line ≠ [] && !contains "nightly".toList line

def releases (text : String) : List String :=
  ((((lines text.toList).map trim).filter isRelease).map label).map String.ofList

inductive Stage
  | sending
  | status
  | body
  deriving DecidableEq, Repr

def Stage.text : Stage → String
  | sending => "Failed to fetch compiler list"
  | status => "Compiler list request rejected"
  | body => "Failed to read compiler list"

structure FetchError where
  stage : Stage
  cause : TransportError
  deriving DecidableEq, Repr

def FetchError.message (error : FetchError) : String :=
  error.stage.text ++ ": " ++ error.cause.chain

/-- The releases of the list at an address. Only an answer that blames someone is rejected for its
status. -/
def fetch (url : String) (host : Host) : Except FetchError (List String) × Host :=
  match host.send .get url none with
  | (.error cause, host) => (.error ⟨.sending, cause⟩, host)
  | (.ok answer, host) =>
    if Status.isClientError answer.status || Status.isServerError answer.status then
      let shown := match Url.ofText url with
        | .ok parsed => parsed.withoutUser.text
        | .error _ => url
      (.error ⟨.status, .badStatus answer.status shown⟩, host)
    else
      match answer.readBody with
      | .error cause => (.error ⟨.body, cause⟩, host)
      | .ok body => (.ok (releases (Charset.decode answer.contentType body.bytes)), host)

end ReleaseList

end DeployCheck
