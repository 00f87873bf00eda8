import PolicyTrial.Json.Parser

/-!
# Passing over values

A value that does not matter is only followed to its end. Its numbers may be of any size, its
escapes need not pair up, and it may nest to any depth.

* `Json.skipValue`: the place behind a value.
-/

namespace PolicyTrial.Json

/-- The place behind an escape whose backslash has been read. -/
def skipEscape (c : Cursor) : Except SyntaxError Cursor :=
  match c.rest with
  | [] => c.fail .eofInString
  | 'u' :: _ => (readHex c.next).map (·.2)
  | x :: _ =>
    if ['"', '\\', '/', 'b', 'f', 'n', 'r', 't'].contains x then .ok c.next
    else c.failAfter 1 .invalidEscape

/-- The place behind a string whose opening quote has been read. -/
def skipString : Nat → Cursor → Except SyntaxError Cursor
  | 0, c => c.fail .eofInString
  | fuel + 1, c =>
    match c.rest with
    | [] => c.fail .eofInString
    | '"' :: _ => .ok c.next
    | '\\' :: _ =>
      match skipEscape c.next with
      | .ok c => skipString fuel c
      | .error e => .error e
    | x :: _ => if x.toNat < 0x20 then c.failAfter 1 .controlInString else skipString fuel c.next

/-- The place behind an exponent, from its mark on. -/
def skipExponent (c : Cursor) : Except SyntaxError Cursor :=
  let c := c.next
  let c := if c.rest.head? = some '+' ∨ c.rest.head? = some '-' then c.next else c
  match c.rest with
  | [] => c.failAfter 1 .invalidNumber
  | d :: _ => if d.isDigit then .ok (readDigits c).2 else c.failAfter 1 .invalidNumber

/-- The place behind what follows the digits of an integer. -/
def skipFraction (c : Cursor) : Except SyntaxError Cursor :=
  match c.rest with
  | '.' :: _ =>
    let (ds, c') := readDigits c.next
    if ds.isEmpty then c'.failAhead .invalidNumber
    else
      match c'.rest with
      | 'e' :: _ | 'E' :: _ => skipExponent c'
      | _ => .ok c'
  | 'e' :: _ | 'E' :: _ => skipExponent c
  | _ => .ok c

/-- The place behind a number whose minus sign has been read. -/
def skipNumber (c : Cursor) : Except SyntaxError Cursor :=
  match c.rest with
  | [] => c.failAfter 1 .invalidNumber
  | '0' :: rest =>
    if (rest.head?.map Char.isDigit).getD false then c.next.failAhead .invalidNumber
    else skipFraction c.next
  | d :: _ => if d.isDigit then skipFraction (readDigits c).2 else c.failAfter 1 .invalidNumber

/-- A collection that has been entered and not yet left. -/
inductive Frame
  | array
  | object
  deriving Repr, DecidableEq

/-- Where passing over goes on: at a value, at what may follow one inside the collections that are
open, or nowhere. The flag tells whether a comma may come, that is whether a value precedes. -/
inductive SkipStep
  | value (frames : List Frame)
  | after (comma : Bool) (frame : Frame) (frames : List Frame)
  | done

/-- What follows a value that is complete. -/
def afterValue : List Frame → SkipStep
  | [] => .done
  | f :: fs => .after true f fs

/-- The start of a value: a scalar is passed over, and a collection is entered. -/
def skipStart (frames : List Frame) (c : Cursor) : Except SyntaxError (SkipStep × Cursor) := do
  let c := c.skipSpace
  match c.rest with
  | [] => c.failAhead .eofInValue
  | 'n' :: _ => return (afterValue frames, ← readLiteral ['u', 'l', 'l'] c.next)
  | 't' :: _ => return (afterValue frames, ← readLiteral ['r', 'u', 'e'] c.next)
  | 'f' :: _ => return (afterValue frames, ← readLiteral ['a', 'l', 's', 'e'] c.next)
  | '-' :: _ => return (afterValue frames, ← skipNumber c.next)
  | '"' :: _ => return (afterValue frames, ← skipString (c.rest.length + 1) c.next)
  | '[' :: _ => return (.after false .array frames, c.next)
  | '\x7b' :: _ => return (.after false .object frames, c.next)
  | x :: _ =>
    if x.isDigit then return (afterValue frames, ← skipNumber c) else c.failAhead .expectedValue

/-- The next key of an object with its colon. -/
def skipKey (c : Cursor) : Except SyntaxError Cursor := do
  let c := c.skipSpace
  match c.rest with
  | [] => c.failAhead .eofInObject
  | '"' :: _ => readColon (← skipString (c.rest.length + 1) c.next)
  | _ => c.failAhead .keyNotString

/-- What follows inside a collection: its end, or another value. -/
def skipAfter (comma : Bool) (frame : Frame) (frames : List Frame) (c : Cursor) :
    Except SyntaxError (SkipStep × Cursor) := do
  let c := c.skipSpace
  let another (c : Cursor) : Except SyntaxError (SkipStep × Cursor) := do
    let c ← if frame = .object then skipKey c else .ok c
    return (.value (frame :: frames), c)
  match c.rest with
  | [] => c.failAhead (if frame = .array then .eofInList else .eofInObject)
  | x :: _ =>
    if comma ∧ x = ',' then another c.next
    else if x = (if frame = .array then ']' else '\x7d') then return (afterValue frames, c.next)
    else if comma then
      c.failAhead (if frame = .array then .expectedCommaOrBracket else .expectedCommaOrBrace)
    else another c

/-- Passing over goes on until it is done. Every second round reads a character. -/
def skipRounds : Nat → SkipStep → Cursor → Except SyntaxError Cursor
  | _, .done, c => .ok c
  | 0, _, c => c.fail .eofInValue
  | fuel + 1, .value frames, c => do
    let (step, c) ← skipStart frames c
    skipRounds fuel step c
  | fuel + 1, .after comma frame frames, c => do
    let (step, c) ← skipAfter comma frame frames c
    skipRounds fuel step c

/-- The place behind a value of any shape. -/
def skipValue (c : Cursor) : Except SyntaxError Cursor :=
  skipRounds (2 * c.rest.length + 4) (.value []) c

end PolicyTrial.Json
