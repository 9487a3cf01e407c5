import DeployCheck.Domain.Joining
import DeployCheck.Domain.Mapping
import DeployCheck.Domain.Punycode
import DeployCheck.Text.Mark
import DeployCheck.Text.Normalization
/-!
Labels: the parts of a domain between points. A label has letters, which a reader sees, and a form
in ASCII, which is sent; a label that is given in the second form has to be the form of letters that
could have been given themselves.
-/
namespace DeployCheck.Domain

open Text

structure Label where
  letters : List Char
  ascii : List Char
  deriving DecidableEq, Repr

namespace Label

def codeSign : List Char := "xn--".toList

def maxLetters : Nat := 1000

def maxCode : Nat := 2000

def isSettled (letters : List Char) : Bool :=
  (map? letters).map normalize == some letters

def decode? (code : List Char) : Option (List Char) :=
  if code = [] ∨ code.getLast? = some '-' ∨ !code.all Punycode.isBasic ∨ maxCode < code.length then
    none
  else (Punycode.decode? code).filter isSettled

def isWellFormed (letters : List Char) : Bool :=
  letters.head?.all (!isMark ·) && joinersCount [] letters

def forms? (text : List Char) : Option Label :=
  match dropFront? codeSign text with
  | some code => (decode? code).map (⟨·, text⟩)
  | none =>
    if text.all Punycode.isBasic then some ⟨text, text⟩
    else if maxLetters < text.length then none
    else some ⟨text, codeSign ++ Punycode.encode text⟩

def read? (text : List Char) : Option Label :=
  (forms? text).filter (isWellFormed ·.letters)

end Label

end DeployCheck.Domain
