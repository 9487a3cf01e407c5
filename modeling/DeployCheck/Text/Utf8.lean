/-!
UTF-8 read one byte at a time. The reader turns bytes into symbols: a character, or `none` for a
maximal sequence that no character starts with. Strict reading refuses every such gap, lossy reading
shows it as the replacement character.
-/
namespace DeployCheck.Text.Utf8

abbrev Bytes := List UInt8

abbrev Symbol := Option Char

/-- Where the reader stands: between characters, or inside one that is owed more bytes. The next
byte has to lie from `low` to `high`, and `code` holds the bits read so far. -/
inductive Progress
  | between
  | inside (owed low high code : Nat)
  deriving DecidableEq, Repr

def firstByte (b : Nat) : List Symbol × Progress :=
  if b < 0x80 then ([some (Char.ofNat b)], .between)
  else if 0xC2 ≤ b ∧ b ≤ 0xDF then ([], .inside 1 0x80 0xBF (b - 0xC0))
  else if b = 0xE0 then ([], .inside 2 0xA0 0xBF 0)
  else if b = 0xED then ([], .inside 2 0x80 0x9F 0x0D)
  else if 0xE1 ≤ b ∧ b ≤ 0xEF then ([], .inside 2 0x80 0xBF (b - 0xE0))
  else if b = 0xF0 then ([], .inside 3 0x90 0xBF 0)
  else if 0xF1 ≤ b ∧ b ≤ 0xF3 then ([], .inside 3 0x80 0xBF (b - 0xF0))
  else if b = 0xF4 then ([], .inside 3 0x80 0x8F 4)
  else ([none], .between)

/-- One byte. A byte that cannot continue a character leaves a gap and starts afresh. -/
def step : Progress → Nat → List Symbol × Progress
  | .between, b => firstByte b
  | .inside owed low high code, b =>
    if low ≤ b ∧ b ≤ high then
      let code := code * 64 + (b - 0x80)
      if owed ≤ 1 then ([some (Char.ofNat code)], .between)
      else ([], .inside (owed - 1) 0x80 0xBF code)
    else
      let (symbols, progress) := firstByte b
      (none :: symbols, progress)

def symbolsFrom : Progress → Bytes → List Symbol
  | .between, [] => []
  | .inside .., [] => [none]
  | progress, b :: rest =>
    (step progress b.toNat).1 ++ symbolsFrom (step progress b.toNat).2 rest

def symbols (bytes : Bytes) : List Symbol :=
  symbolsFrom .between bytes

def decode? (bytes : Bytes) : Option String :=
  ((symbols bytes).mapM id).map String.ofList

def decodeLossy (bytes : Bytes) : String :=
  String.ofList ((symbols bytes).map (·.getD '\uFFFD'))

def encode (text : String) : Bytes :=
  text.toList.flatMap String.utf8EncodeChar

def ofText (text : List Char) : List Symbol :=
  text.map some

end DeployCheck.Text.Utf8
