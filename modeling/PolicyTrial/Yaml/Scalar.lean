import PolicyTrial.Yaml.Folding

/-!
# Reading scalars

* `Yaml.readPlain`: a scalar without quotes.
* `Yaml.readQuoted`: a scalar in single or double quotes.
* `Yaml.readBlock`: a literal or folded block.
-/

namespace PolicyTrial.Yaml

/-- How a scalar is written. -/
inductive ScalarStyle
  | plain
  | quoted
  | literal
  | folded
  deriving Repr, DecidableEq

/-! ## Plain scalars -/

/-- Whether a character ends a plain scalar inside brackets. -/
def isFlowMark (c : Char) : Bool := c = ',' || c = '[' || c = ']' || c = '\x7b' || c = '\x7d'

/-- The characters of a plain scalar up to the next blank, and whether a mark ends it there. -/
def readPlainRun (flow : Bool) : Nat → Folding → Source → Except Fault (Folding × Source)
  | 0, f, s => .ok (f, s)
  | fuel + 1, f, s =>
    match s.rest with
    | [] => .ok (f, s)
    | c :: rest =>
      if isSpace c || isBreak c then .ok (f, s)
      else if flow && c = ':' && (rest.head?.map fun x => isFlowMark x || x = '?').getD false then
        .error .misplacedIndicator
      else if (c = ':' && blankOrEnd rest) || (flow && isFlowMark c) then .ok (f, s)
      else
        let f := if f.pending then f.join else f
        readPlainRun flow fuel (f.push c) (s.skip 1)

/-- A plain scalar whose lines after the first start at the column `margin` at least, unless it
stands in brackets. -/
def readPlainLines (flow : Bool) (margin : Int) :
    Nat → Folding → Source → Except Fault (Folding × Source)
  | 0, f, s => .ok (f, s)
  | fuel + 1, f, s =>
    if (s.column = 0 && startsMarker s.rest) || s.peek? = some '#' then .ok (f, s)
    else do
      let (f, s) ← readPlainRun flow (s.size + 1) f s
      if !s.rest.isEmpty && blankOrEnd s.rest then
        let (f, s) ← Folding.readBlanks margin (s.size + 1) f s
        if !flow && (s.column : Int) < margin then return (f, s)
        else readPlainLines flow margin fuel f s
      else return (f, s)

/-- The text of a plain scalar, whether it ended on a later line, and the place behind it. -/
def readPlain (flow : Bool) (margin : Int) (s : Source) :
    Except Fault (List Char × Bool × Source) := do
  let (f, s) ← readPlainLines flow margin (s.size + 1) .empty s
  return (f.text.reverse, f.ended, s)

/-! ## Quoted scalars -/

/-- The character of an escape that is one letter. -/
def simpleEscape? : Char → Option Char
  | '0' => some '\x00'
  | 'a' => some '\x07'
  | 'b' => some '\x08'
  | 't' => some '\t'
  | '\t' => some '\t'
  | 'n' => some '\n'
  | 'v' => some '\x0b'
  | 'f' => some '\x0c'
  | 'r' => some '\r'
  | 'e' => some '\x1b'
  | ' ' => some ' '
  | '"' => some '"'
  | '/' => some '/'
  | '\\' => some '\\'
  | 'N' => some '\u0085'
  | '_' => some '\u00a0'
  | 'L' => some '\u2028'
  | 'P' => some '\u2029'
  | _ => none

/-- The number of hexadecimal digits behind the letter of an escape. -/
def escapeLength? : Char → Option Nat
  | 'x' => some 2
  | 'u' => some 4
  | 'U' => some 8
  | _ => none

/-- The value of a hexadecimal digit. -/
def hexDigit? (c : Char) : Option Nat :=
  if '0' ≤ c ∧ c ≤ '9' then some (c.toNat - '0'.toNat)
  else if 'a' ≤ c ∧ c ≤ 'f' then some (c.toNat - 'a'.toNat + 10)
  else if 'A' ≤ c ∧ c ≤ 'F' then some (c.toNat - 'A'.toNat + 10)
  else none

/-- The character of an escape whose backslash has been read. -/
def readEscape (s : Source) : Except Fault (Char × Source) :=
  match s.rest with
  | [] => .error .badQuoted
  | c :: rest =>
    match simpleEscape? c, escapeLength? c with
    | some x, _ => .ok (x, s.skip 1)
    | none, none => .error .badQuoted
    | none, some n =>
      match (rest.take n).mapM hexDigit? with
      | none => .error .badQuoted
      | some ds =>
        let value := ds.foldl (fun v d => v * 16 + d) 0
        if ds.length < n ∨ (0xD800 ≤ value ∧ value ≤ 0xDFFF) ∨ 0x10FFFF < value then
          .error .badQuoted
        else .ok (Char.ofNat value, s.skip (n + 1))

/-- The characters of a quoted scalar up to the next blank or to the quote. -/
def readQuotedRun (quote : Char) : Nat → Folding → Source → Except Fault (Folding × Source)
  | 0, f, s => .ok (f, s)
  | fuel + 1, f, s =>
    match s.rest with
    | [] => .ok (f, s)
    | c :: rest =>
      if isSpace c || isBreak c then .ok (f, s)
      else if c = quote then
        if quote = '\'' ∧ rest.head? = some '\'' then
          readQuotedRun quote fuel (f.push '\'') (s.skip 2)
        else .ok (f, s)
      else if quote = '"' ∧ c = '\\' then
        if !rest.isEmpty && breakOrEnd rest then
          .ok ({ f with ended := true }, (s.skip 1).skipBreak)
        else do
          let (x, s) ← readEscape (s.skip 1)
          readQuotedRun quote fuel (f.push x) s
      else readQuotedRun quote fuel (f.push c) (s.skip 1)

/-- A quoted scalar whose opening quote has been read. -/
def readQuotedLines (quote : Char) : Nat → Folding → Source → Except Fault (Folding × Source)
  | 0, _, _ => .error .badQuoted
  | fuel + 1, f, s =>
    if (s.column = 0 && startsMarker s.rest) || s.rest.isEmpty then .error .badQuoted
    else do
      let (f, s) ← readQuotedRun quote (s.size + 1) f s
      if s.peek? = some quote then return (f, s.skip 1)
      else
        let (f, s) ← Folding.readBlanks 0 (s.size + 1) f s
        readQuotedLines quote fuel f.join s

/-- The text of a quoted scalar, and the place behind it. -/
def readQuoted (quote : Char) (s : Source) : Except Fault (List Char × Source) := do
  let (f, s) ← readQuotedLines quote (s.size + 2) .empty (s.skip 1)
  return (f.text.reverse, s)

/-! ## Block scalars -/

/-- What becomes of the line breaks at the end of a block. -/
inductive Chomping
  | strip
  | clip
  | keep
  deriving Repr, DecidableEq

/-- A sign that says what becomes of the breaks at the end. -/
def chompingSign? : Option Char → Option Chomping
  | some '+' => some .keep
  | some '-' => some .strip
  | _ => none

/-- The digit of an explicit indentation, zero if there is none, and the place behind it. -/
def readIndentDigit (s : Source) : Except Fault (Nat × Source) :=
  match s.rest with
  | c :: _ =>
    if c = '0' then .error .badBlockHead
    else if c.isDigit then .ok (c.toNat - '0'.toNat, s.skip 1)
    else .ok (0, s)
  | [] => .ok (0, s)

/-- The head of a block behind its mark: a sign and a digit in any order, blanks, and a comment. -/
def readBlockHead (s : Source) : Except Fault (Chomping × Nat × Source) := do
  let (chomping, digit, s) ← match chompingSign? s.peek? with
    | some c => do
      let (digit, s) ← readIndentDigit (s.skip 1)
      pure (c, digit, s)
    | none => do
      let (digit, s) ← readIndentDigit s
      match digit, chompingSign? s.peek? with
      | 0, _ | _, none => pure (.clip, digit, s)
      | _, some c => pure (c, digit, s.skip 1)
  let s := (s.skipWhile isSpace).skipComment
  if breakOrEnd s.rest then return (chomping, digit, s.skipBreak) else .error .badBlockHead

/-- The empty lines at a place: their breaks in reverse behind `breaks`, the widest indentation met,
and the place behind them. An indentation of zero is still to be found. -/
def readBlockBreaks (indent : Nat) : Nat → Nat → List Char → Source →
    Except Fault (List Char × Nat × Source)
  | 0, widest, breaks, s => .ok (breaks, widest, s)
  | fuel + 1, widest, breaks, s =>
    let spaces := (s.rest.takeWhile (· = ' ')).length
    let s := s.skip (if indent = 0 then spaces else min spaces (indent - s.column))
    let widest := max widest s.column
    if (indent = 0 || s.column < indent) && s.peek? = some '\t' then .error .tabInIndentation
    else if !s.rest.isEmpty && breakOrEnd s.rest then
      let (b, s) := s.readBreak
      readBlockBreaks indent fuel widest (b ++ breaks) s
    else .ok (breaks, widest, s)

/-- The lines of a block. `text` and `breaks` are reversed; `broke` is the break of the last line,
and `spaced` whether that line started with a blank. -/
def readBlockLines (literal : Bool) (indent : Nat) : Nat → (text broke breaks : List Char) →
    (spaced : Bool) → Source → Except Fault (List Char × List Char × List Char × Source)
  | 0, text, broke, breaks, _, s => .ok (text, broke, breaks, s)
  | fuel + 1, text, broke, breaks, spaced, s =>
    if s.column ≠ indent ∨ s.rest.isEmpty then .ok (text, broke, breaks, s)
    else do
      let spacedNow := (s.peek?.map isSpace).getD false
      let text :=
        if !literal && broke = ['\n'] && !spaced && !spacedNow then
          breaks ++ (if breaks.isEmpty then ' ' :: text else text)
        else breaks ++ broke ++ text
      let line := s.rest.takeWhile (!isBreak ·)
      let (broke, s) := (s.skip line.length).readBreak
      let (breaks, _, s) ← readBlockBreaks indent (s.size + 1) 0 [] s
      readBlockLines literal indent fuel (line.reverse ++ text) broke breaks spacedNow s

/-- The text of a block scalar that stands below the column `parent`, and the place behind it. -/
def readBlock (literal : Bool) (parent : Int) (s : Source) : Except Fault (List Char × Source) := do
  let (chomping, digit, s) ← readBlockHead (s.skip 1)
  let given := if digit = 0 then 0 else (max parent 0).toNat + digit
  let (breaks, widest, s) ← readBlockBreaks given (s.size + 1) 0 [] s
  let indent := if given = 0 then max widest (max (parent + 1) 1).toNat else given
  let (text, broke, breaks, s) ←
    readBlockLines literal indent (s.size + 1) [] [] breaks false s
  let text := match chomping with
    | .strip => text
    | .clip => broke ++ text
    | .keep => breaks ++ broke ++ text
  return (text.reverse, s)

end PolicyTrial.Yaml
