import DeployCheck.Domain.Name
import DeployCheck.Network.Url.Address
import DeployCheck.Network.Url.Escape
namespace DeployCheck

open Text

inductive UrlError
  | noScheme
  | emptyHost
  | badPort
  | badDomain
  | badCharacter
  | badAddress4
  | badAddress6
  deriving DecidableEq, Repr

def UrlError.message : UrlError → String
  | noScheme => "relative URL without a base"
  | emptyHost => "empty host"
  | badPort => "invalid port number"
  | badDomain => "invalid international domain name"
  | badCharacter => "invalid domain character"
  | badAddress4 => "invalid IPv4 address"
  | badAddress6 => "invalid IPv6 address"

namespace Url

def readBracketed (text : List Char) : Except UrlError String :=
  if text.getLast? = some ']' then
    match address6? text.dropLast with
    | some groups => .ok (address6Text groups)
    | none => .error .badAddress6
  else .error .badAddress6

/-- The host of a scheme that the web knows. Escapes are undone before it is read. -/
def readHost : List Char → Except UrlError String
  | [] => .error .emptyHost
  | '[' :: rest => readBracketed rest
  | text =>
    match Domain.ascii? (Utf8.decodeLossy (unescape text)).toList with
    | none => .error .badDomain
    | some [] => .error .emptyHost
    | some domain =>
      if endsInNumber domain then
        match address4? domain with
        | some bytes => .ok (address4Text bytes)
        | none => .error .badAddress4
      else .ok (String.ofList domain)

def hostSeparators : List Char :=
  ['\x00', '\t', '\n', '\r', ' ', '#', '/', ':', '<', '>', '?', '@', '[', '\\', ']', '^', '|']

def readOpaqueHost : List Char → Except UrlError String
  | '[' :: rest => readBracketed rest
  | text =>
    if text.any (· ∈ hostSeparators) then .error .badCharacter
    else .ok (String.ofList (escape [] text))

end Url

end DeployCheck
