import DeployCheck.Json.Basic
namespace DeployCheck.Json

def hexDigit (n : Nat) : Char :=
  Nat.digitChar n

def escape (c : Char) : List Char :=
  if c = '"' then ['\\', '"']
  else if c = '\\' then ['\\', '\\']
  else if c = '\x08' then ['\\', 'b']
  else if c = '\x0c' then ['\\', 'f']
  else if c = '\n' then ['\\', 'n']
  else if c = '\r' then ['\\', 'r']
  else if c = '\t' then ['\\', 't']
  else if c.toNat < 0x20 then
    ['\\', 'u', '0', '0', hexDigit (c.toNat / 16), hexDigit (c.toNat % 16)]
  else [c]

def quote (text : List Char) : List Char :=
  '"' :: text.flatMap escape ++ ['"']

def joinWith (separator : List Char) : List (List Char) → List Char
  | [] => []
  | [text] => text
  | text :: rest => text ++ separator ++ joinWith separator rest

mutual

def compactText : Json → List Char
  | .null => "null".toList
  | .bool true => "true".toList
  | .bool false => "false".toList
  | .number n => n.render
  | .string s => quote s.toList
  | .array items => '[' :: joinWith [','] (compactItems items) ++ [']']
  | .object members => '\x7b' :: joinWith [','] (compactMembers members) ++ ['\x7d']

def compactItems : List Json → List (List Char)
  | [] => []
  | item :: rest => compactText item :: compactItems rest

def compactMembers : List (String × Json) → List (List Char)
  | [] => []
  | (key, value) :: rest => (quote key.toList ++ ':' :: compactText value) :: compactMembers rest

end

def newLine (level : Nat) : List Char :=
  '\n' :: List.replicate (2 * level) ' '

def bracket (level : Nat) (opening closing : Char) (entries : List (List Char)) : List Char :=
  match entries with
  | [] => [opening, closing]
  | _ =>
    opening :: newLine (level + 1) ++ joinWith (',' :: newLine (level + 1)) entries ++
      newLine level ++ [closing]

mutual

def prettyText (level : Nat) : Json → List Char
  | .null => "null".toList
  | .bool true => "true".toList
  | .bool false => "false".toList
  | .number n => n.render
  | .string s => quote s.toList
  | .array items => bracket level '[' ']' (prettyItems (level + 1) items)
  | .object members => bracket level '\x7b' '\x7d' (prettyMembers (level + 1) members)

def prettyItems (level : Nat) : List Json → List (List Char)
  | [] => []
  | item :: rest => prettyText level item :: prettyItems level rest

def prettyMembers (level : Nat) : List (String × Json) → List (List Char)
  | [] => []
  | (key, value) :: rest =>
    (quote key.toList ++ ':' :: ' ' :: prettyText level value) :: prettyMembers level rest

end

def compact (value : Json) : String :=
  String.ofList (compactText value)

def pretty (value : Json) : String :=
  String.ofList (prettyText 0 value)

end DeployCheck.Json
