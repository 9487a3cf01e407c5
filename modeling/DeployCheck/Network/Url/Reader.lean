import DeployCheck.Network.Url.Basic
import DeployCheck.Network.Url.Host
import DeployCheck.Network.Url.Path
/-!
How a text is taken apart into a URL. Scheme and host are lowered, a default port is dropped, points
in the path are resolved, and characters that have no place in a part are escaped. What stands
behind a scheme is read in one of three ways: like a web address, like a file, or by slashes alone.
-/
namespace DeployCheck.Url

open Text

inductive Manner
  /-- With a host, which is reached at this port if no other is given. -/
  | web (port : Nat)
  | file
  | plain
  deriving DecidableEq, Repr

def Manner.ofScheme (scheme : String) : Manner :=
  if scheme = "http" ∨ scheme = "ws" then .web 80
  else if scheme = "https" ∨ scheme = "wss" then .web 443
  else if scheme = "ftp" then .web 21
  else if scheme = "file" then .file
  else .plain

/-! ### Parts of the authority -/

/-- What stands before the last at sign, if there is one, and what stands behind it. -/
def splitUser (authority : List Char) : Option (List Char) × List Char :=
  let back := (authority.reverse.takeWhile (· ≠ '@')).reverse
  if back = authority then (none, authority)
  else (some (authority.take (authority.length - back.length - 1)), back)

/-- The user and the password in front of an at sign. An empty password is none. -/
def readUser (text : List Char) : String × Option String :=
  let (user, password) := cutAt ':' text
  (String.ofList (escape userSpecials user),
    (password.filter (· ≠ [])).map fun text => String.ofList (escape userSpecials text))

/-- The host and what follows its colon. A colon inside brackets belongs to the host. -/
def splitPort (text : List Char) : List Char × Option (List Char) :=
  let rec go (bracketed : Bool) (front : List Char) : List Char → List Char × Option (List Char)
    | [] => (front.reverse, none)
    | c :: rest =>
      if c = ':' ∧ !bracketed then (front.reverse, some rest)
      else go ((bracketed || c == '[') && c != ']') (c :: front) rest
  go false [] text

/-- The port behind a colon, `none` for an empty or default one. -/
def readPort (default : Option Nat) (text : List Char) : Except UrlError (Option Nat) :=
  if text = [] then .ok none
  else if text.all Char.isDigit ∧ decimalValue text ≤ 65535 then
    .ok (if default = some (decimalValue text) then none else some (decimalValue text))
  else .error .badPort

/-! ### What follows a scheme -/

structure Place where
  authority : Option Authority
  path : List Char
  deriving DecidableEq, Repr

def slashed (text : List Char) : List Char :=
  text.map fun c => if c = '\\' then '/' else c

/-- The place of a URL of the web. Any number of slashes leads to the host. -/
def readWebPlace (port : Nat) (text : List Char) : Except UrlError Place := do
  let (authority, path) := cutAt '/' ((slashed text).dropWhile (· = '/'))
  let (user, address) := splitUser authority
  let (user, password) := readUser (user.getD [])
  let (host, portText) := splitPort address
  let host ← readHost host
  let port ← readPort (some port) (portText.getD [])
  return ⟨some ⟨user, password, host, port⟩, normalPath (path.getD [])⟩

/-- The host of a file; this computer has none. -/
def readFileHost (text : List Char) : Except UrlError String :=
  if text = [] then .ok ""
  else (readHost text).map fun host => if host = "localhost" then "" else host

/-- The place of a file. Only two slashes lead to a host, and a drive has none. -/
def readFilePlace (text : List Char) : Except UrlError Place := do
  let (host, path) ← match slashed text with
    | '/' :: '/' :: rest =>
      let (front, back) := cutAt '/' rest
      if isDrive front then pure ("", rest)
      else
        let host ← readFileHost front
        if host = "" then pure ("", rest.drop front.length)
        else pure (host, back.getD [])
    | '/' :: rest => pure ("", rest)
    | rest => pure ("", rest)
  let segments := Segments.ofText normalDrive path
  let host := if segments.isOnDrive then "" else host
  return ⟨some ⟨"", none, host, none⟩, segments.dropEmpty.text⟩

/-- The place of any other URL. `isAll` tells that neither a query nor a fragment follows. -/
def readPlainPlace (isAll : Bool) : List Char → Except UrlError Place
  | '/' :: '/' :: rest => do
    let (authority, path) := cutAt '/' rest
    let (user, address) := splitUser authority
    if user = some [] ∧ address = [] ∧ (path.isSome ∨ !isAll) then throw .emptyHost
    let (user, password) := readUser (user.getD [])
    let (host, portText) := splitPort address
    let host ← readOpaqueHost host
    if host = "" ∧ portText.isSome then throw .emptyHost
    let (portText, behindPort) := (portText.getD []).span (· ≠ '\\')
    let authority := ⟨user, password, host, ← readPort none portText⟩
    if host = "" ∧ authority.hasUser then throw .emptyHost
    let path := match behindPort, path with
      | [], none => []
      | [], some path => normalPath path
      | front, path => normalPath (front ++ (path.map ('/' :: ·)).getD [])
    return ⟨some authority, path⟩
  | '/' :: path => .ok ⟨none, normalPath path⟩
  | path => .ok ⟨none, escape [] path⟩

def readPlace (isAll : Bool) (text : List Char) : Manner → Except UrlError Place
  | .web port => readWebPlace port text
  | .file => readFilePlace text
  | .plain => readPlainPlace isAll text

/-! ### The whole text -/

def readScheme (text : List Char) : Option (String × List Char) :=
  match cutAt ':' text with
  | (c :: front, some rest) =>
    if c.isAlpha ∧ front.all (fun c => isAlphanumeric c || c == '+' || c == '-' || c == '.') then
      some (String.ofList (lower (c :: front)), rest)
    else none
  | _ => none

/-- The URL that a text writes. Blanks around it and line breaks inside do not count. -/
def ofText (text : String) : Except UrlError Url :=
  let isEdge (c : Char) : Bool := c.toNat ≤ 0x20
  let trimmed := ((text.toList.dropWhile isEdge).reverse.dropWhile isEdge).reverse
  match readScheme (trimmed.filter fun c => c ≠ '\t' ∧ c ≠ '\n' ∧ c ≠ '\r') with
  | none => .error .noScheme
  | some (scheme, rest) =>
    let (beforeFragment, fragment) := cutAt '#' rest
    let (beforeQuery, query) := cutAt '?' beforeFragment
    let manner := Manner.ofScheme scheme
    let querySpecials := querySpecials ++ if manner = .plain then [] else ['\'']
    (readPlace (query.isNone && fragment.isNone) beforeQuery manner).map fun place =>
      { scheme
        authority := place.authority
        path := String.ofList place.path
        query := query.map fun text => String.ofList (escape querySpecials text)
        fragment := fragment.map fun text => String.ofList (escape fragmentSpecials text) }

end DeployCheck.Url
