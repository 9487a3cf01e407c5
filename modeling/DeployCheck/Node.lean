import DeployCheck.Error
import DeployCheck.Host
import DeployCheck.Json.Printer
import DeployCheck.Json.Reader
/-!
A node that is asked for the code deployed at an address. The question is one JSON-RPC call; of its
answer nothing is believed but a result that is a string beside no error.
-/
namespace DeployCheck

open Text

structure Node where
  url : String
  deriving DecidableEq, Repr

namespace Node

/-- An account's address: `0x` and forty hexadecimal digits. -/
def isAddress (text : String) : Bool :=
  match dropFront? "0x".toList text.toList with
  | some digits => digits.length == 40 && digits.all isHexDigit
  | none => false

def checkAddress (address : String) : Except VerificationError Unit :=
  if isAddress address then .ok () else .error (.chainFetch address "malformed address")

def question (address : String) : Json :=
  .object
    [("jsonrpc", .string "2.0"), ("method", .string "eth_getCode"),
      ("params", .array [.string address, .string "latest"]), ("id", .nat 1)]

structure Complaint where
  code : Int
  message : String
  deriving DecidableEq, Repr

structure Response where
  result : Option Json
  complaint : Option Complaint

open Json in
def readComplaint (source : Source) : Reading Complaint :=
  (readRecordOfTwo "RpcErrorObject" ⟨"code", readInteger, none⟩ ⟨"message", readText, none⟩
    source).map fun ((code, message), rest) => (⟨code, message⟩, rest)

open Json in
def readResponse (source : Source) : Reading Response :=
  let anyValue (source : Source) := readValue (source.length + 1) (nestingLimit - 1) source
  (readRecordOfTwo "RpcResponse" ⟨"result", readOption anyValue, some none⟩
    ⟨"error", readOption readComplaint, some none⟩ source).map
    fun ((result, complaint), rest) => (⟨result, complaint⟩, rest)

def signedText (n : Int) : String :=
  if n < 0 then "-" ++ showNat n.natAbs else showNat n.natAbs

def Response.code (response : Response) : Except String String :=
  match response.complaint, response.result with
  | some complaint, _ =>
    .error ("RPC error " ++ signedText complaint.code ++ ": " ++ complaint.message)
  | none, some (.string code) => .ok code
  | none, some other => .error ("unexpected result type: " ++ other.compact)
  | none, none => .error "response carries no result"

def codeOfBody (body : Payload) : Except String String :=
  match Json.finish (readResponse (Utf8.symbols body.bytes)) with
  | .error fault => .error ("invalid JSON-RPC response: " ++ (TransportError.notJson fault).message)
  | .ok response => response.code

def codeOfAnswer (node : Node) (answer : Answer) : Except String String :=
  if !Status.isSuccess answer.status then
    .error ("HTTP " ++ Status.text answer.status ++ " from " ++ node.url)
  else
    match answer.readBody with
    | .error fault => .error ("invalid JSON-RPC response: " ++ fault.message)
    | .ok body => codeOfBody body

/-- The code deployed at an address, as the node writes it. What is no address is never asked
about. -/
def code (node : Node) (address : String) (host : Host) : Except VerificationError String × Host :=
  match checkAddress address with
  | .error fault => (.error fault, host)
  | .ok () =>
    match host.send .post node.url (some (question address).compact) with
    | (.error fault, host) =>
      (.error (.chainFetch address ("request failed: " ++ fault.message)), host)
    | (.ok answer, host) => ((node.codeOfAnswer answer).mapError (.chainFetch address), host)

end Node

end DeployCheck
