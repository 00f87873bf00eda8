import PolicyTrial.Text.Utf8

/-!
# Places in a YAML stream

* `Yaml.Source`: the rest of a stream with the place reached. Columns count characters, the index
  counts octets.
* `Yaml.readable`: the part of a text that can be read.
* `Yaml.Fault`: what makes a text no YAML stream.
* `Yaml.isBreak`, `Yaml.isSpace`, `Yaml.isWord`: the classes of characters.
-/

namespace PolicyTrial.Yaml

/-- What makes a text no YAML stream. -/
inductive Fault
  /-- A character that may not stand in a stream. -/
  | controlCharacter
  /-- A character that cannot start a token. -/
  | unexpectedCharacter
  /-- A key without its colon. -/
  | missingColon
  /-- An entry, a key or a value where none may stand. -/
  | misplacedIndicator
  /-- A tab where the indentation is spaces. -/
  | tabInIndentation
  /-- An ill-formed directive. -/
  | badDirective
  /-- An ill-formed tag, or a handle that was not declared. -/
  | badTag
  /-- An anchor or alias without a name, or an alias of nothing. -/
  | badAnchor
  /-- An ill-formed head of a block scalar. -/
  | badBlockHead
  /-- An ill-formed or unclosed quoted scalar. -/
  | badQuoted
  /-- Tokens that form no document. -/
  | badStructure
  /-- A document behind the first one. -/
  | manyDocuments
  deriving Repr, DecidableEq

/-- Whether a character ends a line. -/
def isBreak (c : Char) : Bool :=
  c = '\n' || c = '\r' || c = '\u0085' || c = '\u2028' || c = '\u2029'

/-- Whether a character is a space or a tab. -/
def isSpace (c : Char) : Bool := c = ' ' || c = '\t'

/-- Whether a character may stand in a name. -/
def isWord (c : Char) : Bool := c.isAlphanum || c = '_' || c = '-'

/-- Whether a character may stand in a stream. -/
def isAllowed (c : Char) : Bool :=
  let n := c.toNat
  n = 0x9 || n = 0xA || n = 0xD || (0x20 ≤ n && n ≤ 0x7E) || n = 0x85 || (0xA0 ≤ n && n ≤ 0xD7FF) ||
    (0xE000 ≤ n && n ≤ 0xFFFD) || 0x10000 ≤ n

/-- Whether the next character is a space, a tab or a line break, or there is none. -/
def blankOrEnd : List Char → Bool
  | [] => true
  | c :: _ => isSpace c || isBreak c

/-- Whether the next character is a line break, or there is none. -/
def breakOrEnd : List Char → Bool
  | [] => true
  | c :: _ => isBreak c

/-- Whether a text starts with the marker of a document's start or end. -/
def startsMarker : List Char → Bool
  | '-' :: '-' :: '-' :: rest => blankOrEnd rest
  | '.' :: '.' :: '.' :: rest => blankOrEnd rest
  | _ => false

/-- The number of octets that are read from a text at a time. -/
def portionSize : Nat := 16384

/-- The part of a text that can be read, and whether that is not all of it. A text is read in
portions of whole characters, and a portion with a character that may not stand in a stream cannot
be read at all. -/
def readable (s : List Char) : List Char × Bool := go [] [] 0 s
where
  /-- Reads on behind the portions `before` and the start of one that takes so many octets; both are
  reversed. -/
  go (before portion : List Char) (octets : Nat) : List Char → List Char × Bool
    | [] => ((portion ++ before).reverse, false)
    | c :: rest =>
      let isFull := octets + c.utf8Size > portionSize
      let before := if isFull then portion ++ before else before
      if !isAllowed c then (before.reverse, true)
      else if isFull then go before [c] c.utf8Size rest
      else go before (c :: portion) (octets + c.utf8Size) rest

/-- The rest of a stream with the place reached. -/
structure Source where
  rest : List Char
  /-- The number of octets before this place. -/
  index : Nat
  line : Nat
  column : Nat
  /-- The number of characters of the whole stream, which no loop over its rest exceeds. -/
  size : Nat
  /-- Whether what can be read is not the whole stream. -/
  cut : Bool
  deriving Repr

namespace Source

/-- The start of a stream, as far as it can be read. -/
def ofText (s : List Char) : Source :=
  let (rest, cut) := readable s
  { rest, index := 0, line := 0, column := 0, size := rest.length, cut }

/-- The next character. -/
def peek? (s : Source) : Option Char := s.rest.head?

/-- The place behind some characters that end no line. -/
def skip (s : Source) (n : Nat) : Source := { s with
  rest := s.rest.drop n
  index := s.index + Text.Utf8.size (s.rest.take n)
  column := s.column + n }

/-- The place behind the characters of a class that ends no line. -/
def skipWhile (s : Source) (p : Char → Bool) : Source := s.skip (s.rest.takeWhile p).length

/-- The start of the next line, behind a break of some octets. -/
def nextLine (s : Source) (octets : Nat) (rest : List Char) : Source := { s with
  rest, index := s.index + octets, line := s.line + 1, column := 0 }

/-- The line break at this place as a scalar keeps it, and the place behind it. A carriage return
with a line feed is one break. -/
def readBreak (s : Source) : List Char × Source :=
  match s.rest with
  | '\r' :: '\n' :: rest => (['\n'], s.nextLine 2 rest)
  | c :: rest =>
    if c = '\u2028' ∨ c = '\u2029' then ([c], s.nextLine c.utf8Size rest)
    else if isBreak c then (['\n'], s.nextLine c.utf8Size rest)
    else ([], s)
  | [] => ([], s)

/-- The place behind the line break, if there is one here. -/
def skipBreak (s : Source) : Source := s.readBreak.2

/-- Whether so many characters can be read from here on, or the stream ends before. -/
def reaches (s : Source) (n : Nat) : Bool := !s.cut || n ≤ (s.rest.take n).length

/-- The place behind a comment, if there is one here. -/
def skipComment (s : Source) : Source :=
  if s.peek? = some '#' then s.skipWhile (!isBreak ·) else s

end Source

end PolicyTrial.Yaml
