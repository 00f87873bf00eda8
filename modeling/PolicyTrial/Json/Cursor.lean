/-!
# Places in a text and what is wrong there

* `Json.Cursor`: the rest of a text, with the line and the column reached. Columns count octets and
  start at zero.
* `Json.Defect`: what makes a text no JSON.
* `Json.SyntaxError`: a defect at a place.
-/

namespace PolicyTrial.Json

/-- What makes a text no JSON. -/
inductive Defect
  | eofInList
  | eofInObject
  | eofInString
  | eofInValue
  | expectedColon
  | expectedCommaOrBracket
  | expectedCommaOrBrace
  | expectedLiteral
  | expectedValue
  | expectedQuote
  | invalidEscape
  | invalidNumber
  | numberOutOfRange
  | controlInString
  | keyNotString
  | loneSurrogate
  | trailingComma
  | trailingCharacters
  | unexpectedEndOfEscape
  | tooDeep
  deriving Repr, DecidableEq

/-- The wording of a defect. -/
def Defect.message : Defect → String
  | .eofInList => "EOF while parsing a list"
  | .eofInObject => "EOF while parsing an object"
  | .eofInString => "EOF while parsing a string"
  | .eofInValue => "EOF while parsing a value"
  | .expectedColon => "expected `:`"
  | .expectedCommaOrBracket => "expected `,` or `]`"
  | .expectedCommaOrBrace => "expected `,` or `\x7d`"
  | .expectedLiteral => "expected ident"
  | .expectedValue => "expected value"
  | .expectedQuote => "expected `\"`"
  | .invalidEscape => "invalid escape"
  | .invalidNumber => "invalid number"
  | .numberOutOfRange => "number out of range"
  | .controlInString => "control character (\\u0000-\\u001F) found while parsing a string"
  | .keyNotString => "key must be a string"
  | .loneSurrogate => "lone leading surrogate in hex escape"
  | .trailingComma => "trailing comma"
  | .trailingCharacters => "trailing characters"
  | .unexpectedEndOfEscape => "unexpected end of hex escape"
  | .tooDeep => "recursion limit exceeded"

/-- Whether the text just ends too early. -/
def Defect.isEof : Defect → Bool
  | .eofInList | .eofInObject | .eofInString | .eofInValue => true
  | _ => false

/-- A defect and where it shows. -/
structure SyntaxError where
  cause : Defect
  line : Nat
  column : Nat
  deriving Repr, DecidableEq

/-- The wording of a defect with its place. -/
def SyntaxError.message (e : SyntaxError) : String :=
  s!"{e.cause.message} at line {e.line} column {e.column}"

/-- The rest of a text, and the place reached. -/
structure Cursor where
  rest : List Char
  line : Nat
  column : Nat
  deriving Repr

namespace Cursor

/-- The start of a text. -/
def ofText (s : List Char) : Cursor := ⟨s, 1, 0⟩

/-- The place behind the next character. -/
def next : Cursor → Cursor
  | ⟨[], line, column⟩ => ⟨[], line, column⟩
  | ⟨c :: rest, line, column⟩ =>
    if c = '\n' then ⟨rest, line + 1, 0⟩ else ⟨rest, line, column + c.utf8Size⟩

/-- The line and the column `n` octets further on, or at the end of the text. -/
def placeAfter : Nat → List Char → Nat → Nat → Nat × Nat
  | 0, _, line, column => (line, column)
  | _ + 1, [], line, column => (line, column)
  | n + 1, c :: rest, line, column =>
    if c = '\n' then placeAfter n rest (line + 1) 0
    else if n + 1 ≤ c.utf8Size then (line, column + (n + 1))
    else placeAfter (n + 1 - c.utf8Size) rest line (column + c.utf8Size)
termination_by n => n
decreasing_by
  · omega
  · have := c.utf8Size_pos; omega

/-- A defect at this place. -/
def fail {α : Type} (c : Cursor) (cause : Defect) : Except SyntaxError α :=
  .error ⟨cause, c.line, c.column⟩

/-- A defect `n` octets behind this place. -/
def failAfter {α : Type} (c : Cursor) (n : Nat) (cause : Defect) : Except SyntaxError α :=
  let (line, column) := placeAfter n c.rest c.line c.column
  .error ⟨cause, line, column⟩

/-- A defect that the next octet shows. -/
def failAhead {α : Type} (c : Cursor) (cause : Defect) : Except SyntaxError α := c.failAfter 1 cause

/-- Whether a character may stand between tokens. -/
def isSpace (c : Char) : Bool := c = ' ' || c = '\n' || c = '\t' || c = '\r'

/-- The place behind any space. -/
def skipSpace (c : Cursor) : Cursor := go c.rest c.line c.column
where
  /-- Steps over the spaces at the head of a text. -/
  go : List Char → Nat → Nat → Cursor
    | [], line, column => ⟨[], line, column⟩
    | x :: rest, line, column =>
      if isSpace x then
        if x = '\n' then go rest (line + 1) 0 else go rest line (column + 1)
      else ⟨x :: rest, line, column⟩

end Cursor

end PolicyTrial.Json
