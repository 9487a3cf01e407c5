namespace DeployCheck.Text

def isBlank (c : Char) : Bool :=
  let n := c.toNat
  (0x09 ≤ n && n ≤ 0x0D) || n == 0x20 || n == 0x85 || n == 0xA0 || n == 0x1680 ||
    (0x2000 ≤ n && n ≤ 0x200A) || n == 0x2028 || n == 0x2029 || n == 0x202F || n == 0x205F ||
    n == 0x3000

def trimFront (text : List Char) : List Char :=
  text.dropWhile isBlank

def trimBack (text : List Char) : List Char :=
  (text.reverse.dropWhile isBlank).reverse

def trim (text : List Char) : List Char :=
  trimBack (trimFront text)

def dropBlanks (text : List Char) : List Char :=
  text.filter (!isBlank ·)

/-- The pieces of a text between line feeds, without the empty piece after a final one. A carriage
return stays at the end of its line. -/
def lines : List Char → List (List Char)
  | [] => []
  | c :: rest =>
    if c = '\n' then
      [] :: lines rest
    else
      match lines rest with
      | [] => [[c]]
      | line :: more => (c :: line) :: more

def trimmedLines (text : List Char) : List (List Char) :=
  ((lines text).map trim).filter (· ≠ [])

end DeployCheck.Text
