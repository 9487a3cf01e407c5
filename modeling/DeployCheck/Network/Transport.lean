import DeployCheck.Disk.Basic
import DeployCheck.Json.Fault
import DeployCheck.Network.Status
import DeployCheck.Network.Url.Reader
/-!
The network as data. A network that serves holds the replies it will give, one queue for each method
and an empty queue standing for "not found", and the requests it has seen. A network that cannot be
reached refuses every connection with a reason of the operating system and sees nothing.

This is the transport of prepared replies and not that of web clients in general: the tunnel that an
encrypted request needs is always refused, and since a reply has no field for another address, no
request is redirected.
-/
namespace DeployCheck

open Text

inductive Method
  | get
  | post
  /-- A tunnel to a host, for requests that are to be encrypted. -/
  | connect
  deriving DecidableEq, Repr

def Method.name : Method → String
  | get => "GET"
  | post => "POST"
  | connect => "CONNECT"

structure Request where
  method : Method
  target : String
  body : Option String
  deriving DecidableEq, Repr

/-- An answer to a request. The body promises `missing` more bytes than it sends. -/
structure Answer where
  status : Nat
  body : Payload
  contentType : Option String
  missing : Nat
  deriving DecidableEq, Repr

inductive Reply
  | answer (answer : Answer)
  | drop
  deriving DecidableEq, Repr

def Reply.exhausted : Reply :=
  .answer ⟨404, ⟨[], none⟩, none, 0⟩

inductive Route
  | serving
  | refusing (reason : OsError)
  deriving DecidableEq, Repr

/-- A network: its route, the replies still to be given, and the requests seen so far. -/
structure Network where
  route : Route
  gets : List Reply
  posts : List Reply
  seen : List Request
  deriving DecidableEq, Repr

inductive TransportError
  | badUrl (fault : UrlError)
  | foreignScheme (url : String)
  | unusableUrl (url : String)
  | noConnection (url : String) (reason : OsError)
  | noTunnel (url : String)
  | closed (url : String)
  | truncated
  | notJson (fault : Json.Fault)
  | badStatus (status : Nat) (url : String)
  deriving DecidableEq, Repr

namespace TransportError

/-- The causes of an error, outermost first. Each names those below it. -/
def causes : TransportError → List String
  | badUrl fault => ["builder error: " ++ fault.message, fault.message]
  | foreignScheme url =>
    ["builder error for url (" ++ url ++ "): URL scheme is not allowed",
      "URL scheme is not allowed"]
  | unusableUrl url =>
    ["builder error for url (" ++ url ++ "): Parsed Url is not a valid Uri",
      "Parsed Url is not a valid Uri"]
  | noConnection url reason =>
    let tcp := "tcp connect error: " ++ reason.message
    let connect := "error trying to connect: " ++ tcp
    ["error sending request for url (" ++ url ++ "): " ++ connect, connect, tcp, reason.message]
  | noTunnel url =>
    let connect := "error trying to connect: unsuccessful tunnel"
    ["error sending request for url (" ++ url ++ "): " ++ connect, connect, "unsuccessful tunnel"]
  | closed url =>
    let cause := "connection closed before message completed"
    ["error sending request for url (" ++ url ++ "): " ++ cause, cause]
  | truncated =>
    let ending := "end of file before message length reached"
    let reading := "error reading a body from connection: " ++ ending
    ["request or response body error: " ++ reading, reading, ending]
  | notJson fault => ["error decoding response body: " ++ fault.message, fault.message]
  | badStatus status url =>
    let side := if Status.isClientError status then "client" else "server"
    ["HTTP status " ++ side ++ " error (" ++ Status.text status ++ ") for url (" ++ url ++ ")"]

def message (error : TransportError) : String :=
  (error.causes.head?).getD ""

def chain (error : TransportError) : String :=
  ": ".intercalate error.causes

end TransportError

namespace Network

def unreachable : Network :=
  ⟨.refusing .networkUnreachable, [], [], []⟩

def serving (gets posts : List Reply) : Network :=
  ⟨.serving, gets, posts, []⟩

def takeReply (network : Network) : Method → Reply × Network
  | .post => (network.posts.head?.getD .exhausted, { network with posts := network.posts.drop 1 })
  | _ => (network.gets.head?.getD .exhausted, { network with gets := network.gets.drop 1 })

def note (network : Network) (request : Request) : Network :=
  { network with seen := network.seen ++ [request] }

def tunnelTarget (url : Url) : String :=
  url.host ++ ":" ++ showNat ((url.authority.bind (·.port)).getD 443)

/-- Sends a request. Encrypted connections need a tunnel, which is refused. An interim status is no
answer, so the connection ends without one. -/
def send (network : Network) (method : Method) (url : String) (body : Option String) :
    Except TransportError Answer × Network :=
  match Url.ofText url with
  | .error fault => (.error (.badUrl fault), network)
  | .ok parsed =>
    let url := parsed.withoutUser
    if !url.isWeb then (.error (.foreignScheme url.text), network)
    else if !url.isRequestable then (.error (.unusableUrl url.text), network)
    else
      match network.route with
      | .refusing reason => (.error (.noConnection url.text reason), network)
      | .serving =>
        if url.scheme = "https" then
          (.error (.noTunnel url.text), network.note ⟨.connect, tunnelTarget url, none⟩)
        else
          let (reply, network) := (network.note ⟨method, url.text, body⟩).takeReply method
          match reply with
          | .drop => (.error (.closed url.text), network)
          | .answer answer =>
            if answer.status < 200 then (.error (.closed url.text), network)
            else (.ok answer, network)

end Network

def Answer.readBody (answer : Answer) : Except TransportError Payload :=
  if Status.isBodiless answer.status then .ok ⟨[], none⟩
  else if answer.missing = 0 then .ok answer.body
  else .error .truncated

end DeployCheck
