import DeployCheck.Json.Basic
import DeployCheck.Text.Quoted
namespace DeployCheck.Json

open Text

inductive Found
  | null
  | bool (b : Bool)
  | number (n : Number)
  | string (s : String)
  | sequence
  | map
  deriving DecidableEq, Repr

def Found.describe : Found → String
  | null => "null"
  | bool true => "boolean `true`"
  | bool false => "boolean `false`"
  | number (.binary x) => "floating point `" ++ String.ofList x.render ++ "`"
  | number n => "integer `" ++ String.ofList n.render ++ "`"
  | string s => "string " ++ quoted s
  | sequence => "sequence"
  | map => "map"

inductive Fault
  | endOfValue
  | endOfObject
  | endOfList
  | endOfString
  | expectedValue
  | expectedWord
  | expectedColon
  | expectedCommaOrBrace
  | expectedCommaOrBracket
  | trailingComma
  | trailingCharacters
  | keyNotString
  | invalidNumber
  | numberOutOfRange
  | invalidEscape
  | controlCharacter
  | brokenSurrogatePair
  | loneSurrogate
  | invalidCodePoint
  | tooDeep
  | missingField (name : String)
  | duplicateField (name : String)
  | wrongType (found : Found) (expected : String)
  | wrongValue (found : Found) (expected : String)
  | wrongLength (length : Nat) (record : String) (fields : Nat)
  deriving DecidableEq, Repr

def Fault.message : Fault → String
  | endOfValue => "EOF while parsing a value"
  | endOfObject => "EOF while parsing an object"
  | endOfList => "EOF while parsing a list"
  | endOfString => "EOF while parsing a string"
  | expectedValue => "expected value"
  | expectedWord => "expected ident"
  | expectedColon => "expected `:`"
  | expectedCommaOrBrace => "expected `,` or `\x7d`"
  | expectedCommaOrBracket => "expected `,` or `]`"
  | trailingComma => "trailing comma"
  | trailingCharacters => "trailing characters"
  | keyNotString => "key must be a string"
  | invalidNumber => "invalid number"
  | numberOutOfRange => "number out of range"
  | invalidEscape => "invalid escape"
  | controlCharacter => "control character (\\u0000-\\u001F) found while parsing a string"
  | brokenSurrogatePair => "unexpected end of hex escape"
  | loneSurrogate => "lone leading surrogate in hex escape"
  | invalidCodePoint => "invalid unicode code point"
  | tooDeep => "recursion limit exceeded"
  | missingField name => "missing field `" ++ name ++ "`"
  | duplicateField name => "duplicate field `" ++ name ++ "`"
  | wrongType found expected => "invalid type: " ++ found.describe ++ ", expected " ++ expected
  | wrongValue found expected => "invalid value: " ++ found.describe ++ ", expected " ++ expected
  | wrongLength length record fields =>
    "invalid length " ++ showNat length ++ ", expected struct " ++ record ++ " with " ++
      showNat fields ++ (if fields = 1 then " element" else " elements")

end DeployCheck.Json
