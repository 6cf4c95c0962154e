import RecordBase.Document.Lexeme

/-!
# Tokens of a document

A JSON text is cut into tokens by a machine that reads one character at a
time. Between tokens only blank, tab and line ends are skipped. A run of
other characters up to the next one of those, or the next bracket, comma,
colon or quote, must be a word or a number as a whole.
-/

namespace RecordBase

namespace Document

/-- The smallest parts of a JSON text. -/
inductive Token where
  | openArray
  | closeArray
  | openObject
  | closeObject
  | comma
  | colon
  | null
  | bool (truth : Bool)
  /-- A number, unless it is too large to hold. -/
  | number (content : Option Number)
  /-- A string, unless it holds half a surrogate pair. -/
  | string (content : Option String)

namespace Token

/-- The token of a single character. -/
def ofMark? : Char → Option Token
  | '[' => some openArray
  | ']' => some closeArray
  | '\x7b' => some openObject
  | '\x7d' => some closeObject
  | ',' => some comma
  | ':' => some colon
  | _ => none

/-- The characters that may stand between tokens. -/
def isBlank (char : Char) : Bool :=
  char == ' ' || char == '\t' || char == '\n' || char == '\r'

/-- The token of a run of characters: one of three words, or a number. -/
def ofRun? (run : List Char) : Option Token :=
  if run = "null".toList then some null
  else if run = "true".toList then some (bool true)
  else if run = "false".toList then some (bool false)
  else (Numeral.read? run).map fun numeral => number numeral.toNumber?

/-- Where the scanner stands. What it has seen of a token is kept backwards. -/
inductive Scan where
  | between
  | run (seen : List Char)
  | quoted (seen : List Unit16)
  /-- After a backslash. -/
  | escape (seen : List Unit16)
  /-- Inside a `\u` escape of which `missing` digits are still to come. -/
  | code (seen : List Unit16) (missing : Nat) (bits : Nat)

/-- One character read from between tokens. -/
def start (char : Char) (tokens : List Token) : Scan × List Token :=
  if isBlank char then
    (.between, tokens)
  else if char = '"' then
    (.quoted [], tokens)
  else
    match ofMark? char with
    | some mark => (.between, mark :: tokens)
    | none => (.run [char], tokens)

/-- One step of the scanner; the tokens found so far are kept backwards. -/
def step : Scan × List Token → Char → Option (Scan × List Token)
  | (.between, tokens), char => some (start char tokens)
  | (.run seen, tokens), char =>
      if isBlank char ∨ char = '"' ∨ (ofMark? char).isSome then
        (ofRun? seen.reverse).map fun token => start char (token :: tokens)
      else
        some (.run (char :: seen), tokens)
  | (.quoted seen, tokens), char =>
      if char = '"' then
        some (.between, .string ((decodeUnits seen.reverse).map String.ofList) :: tokens)
      else if char = '\\' then
        some (.escape seen, tokens)
      else if char.toNat < 0x20 then
        none
      else
        some (.quoted (.character char :: seen), tokens)
  | (.escape seen, tokens), char =>
      if char = 'u' then
        some (.code seen 4 0, tokens)
      else
        (escaped? char).map fun plain => (.quoted (.character plain :: seen), tokens)
  | (.code seen missing bits, tokens), char => do
      let digit ← hexValue? char
      let read := 16 * bits + digit
      return if missing ≤ 1 then (.quoted (.code read :: seen), tokens)
        else (.code seen (missing - 1) read, tokens)

/-- The tokens of a text. -/
def scan? (text : String) : Option (List Token) := do
  let (last, tokens) ← text.toList.foldlM step (.between, [])
  match last with
  | .between => return tokens.reverse
  | .run seen => (ofRun? seen.reverse).map fun token => (token :: tokens).reverse
  | _ => none

end Token

end Document

end RecordBase
