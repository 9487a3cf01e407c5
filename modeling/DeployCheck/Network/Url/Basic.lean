import DeployCheck.Network.Url.Escape
/-!
Absolute URLs in the normal form in which requests and messages show them, and what a request makes
of them: it sends user and password apart from the URL, and it cannot name every host.
-/
namespace DeployCheck

open Text

/-- Where a URL leads: a host, and who asks. A host may be empty if nobody is named. -/
structure Authority where
  user : String
  password : Option String
  host : String
  port : Option Nat
  deriving DecidableEq, Repr

/-- A URL in normal form. Without an authority the path may be any text. -/
structure Url where
  scheme : String
  authority : Option Authority
  path : String
  query : Option String
  fragment : Option String
  deriving DecidableEq, Repr

namespace Authority

def hasUser (authority : Authority) : Bool :=
  authority.user ≠ "" || authority.password.isSome

def text (authority : Authority) : String :=
  let password := match authority.password with
    | some password => ":" ++ password
    | none => ""
  let port := match authority.port with
    | some port => ":" ++ showNat port
    | none => ""
  authority.user ++ password ++ (if authority.hasUser then "@" else "") ++ authority.host ++ port

def plain? (text : String) : Option String :=
  Utf8.decode? (Url.unescape text.toList)

/-- The authority without user and password, as far as they can be sent apart from it. -/
def withoutUser (authority : Authority) : Authority :=
  match plain? authority.user with
  | none => authority
  | some user =>
    if user ≠ "" ∨ (authority.password.bind plain?).isSome then
      { authority with user := "", password := none }
    else authority

end Authority

namespace Url

/-- The normal form as text. A path that starts with two slashes would be taken for an authority, so
a point stands in front of it. -/
def text (url : Url) : String :=
  let authority := match url.authority with
    | some authority => "//" ++ authority.text
    | none => if ['/', '/'].isPrefixOf url.path.toList then "/." else ""
  let query := match url.query with
    | some query => "?" ++ query
    | none => ""
  let fragment := match url.fragment with
    | some fragment => "#" ++ fragment
    | none => ""
  url.scheme ++ ":" ++ authority ++ url.path ++ query ++ fragment

def host (url : Url) : String :=
  (url.authority.map (·.host)).getD ""

def isWeb (url : Url) : Bool :=
  url.scheme == "http" || url.scheme == "https"

def withoutUser (url : Url) : Url :=
  { url with authority := url.authority.map (·.withoutUser) }

def maxLength : Nat := 65534

def lineSpecials : List Char := ['"', '`', '\x7b', '\x7d']

/-- A request can be made for the URL: it is not too long, and the line of a request can name its
host. -/
def isRequestable (url : Url) : Bool :=
  url.text.length ≤ maxLength && url.host.toList.all (· ∉ lineSpecials)

end Url

end DeployCheck
