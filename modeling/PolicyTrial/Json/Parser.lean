import PolicyTrial.Json.NumberText
import PolicyTrial.Json.StringText

/-!
# Reading values

* `Json.parse`: the value that a text holds, or the first defect of the text.
* `Json.depthLimit`: arrays and objects nest less deep than this.
-/

namespace PolicyTrial.Json

/-- The level of nesting that is refused. -/
def depthLimit : Nat := 128

/-- The place behind the letters of a literal. -/
def readLiteral : List Char → Cursor → Except SyntaxError Cursor
  | [], c => .ok c
  | x :: xs, c =>
    match c.rest with
    | [] => c.fail .eofInValue
    | y :: _ => if y = x then readLiteral xs c.next else c.failAfter 1 .expectedLiteral

/-- Whether an array goes on with another item. -/
def hasItem (first : Bool) (c : Cursor) : Except SyntaxError (Bool × Cursor) :=
  let c := c.skipSpace
  match c.rest with
  | [] => c.failAhead .eofInList
  | ']' :: _ => .ok (false, c)
  | x :: _ =>
    if first then .ok (true, c)
    else if x = ',' then
      let c := c.next.skipSpace
      match c.rest with
      | [] => c.failAhead .eofInValue
      | ']' :: _ => c.failAhead .trailingComma
      | _ => .ok (true, c)
    else c.failAhead .expectedCommaOrBracket

/-- Whether an object goes on with another key. -/
def hasKey (first : Bool) (c : Cursor) : Except SyntaxError (Bool × Cursor) :=
  let c := c.skipSpace
  match c.rest with
  | [] => c.failAhead .eofInObject
  | '\x7d' :: _ => .ok (false, c)
  | x :: _ =>
    if first then
      if x = '"' then .ok (true, c) else c.failAhead .keyNotString
    else if x = ',' then
      let c := c.next.skipSpace
      match c.rest with
      | [] => c.failAhead .eofInValue
      | '"' :: _ => .ok (true, c)
      | '\x7d' :: _ => c.failAhead .trailingComma
      | _ => c.failAhead .keyNotString
    else c.failAhead .expectedCommaOrBrace

/-- The place behind the colon of a field. -/
def readColon (c : Cursor) : Except SyntaxError Cursor :=
  let c := c.skipSpace
  match c.rest with
  | [] => c.failAhead .eofInObject
  | ':' :: _ => .ok c.next
  | _ => c.failAhead .expectedColon

/-- The place behind the closing bracket of an array, whose items have been read. -/
def readEnd (close : Char) (eof : Defect) (c : Cursor) : Except SyntaxError Cursor :=
  let c := c.skipSpace
  match c.rest with
  | [] => c.failAhead eof
  | x :: _ =>
    if x = close then .ok c.next
    else if x = ',' ∧ close = ']' then
      let c := c.next.skipSpace
      c.failAhead (if c.rest.head? = some ']' then .trailingComma else .trailingCharacters)
    else c.failAhead (if x = ',' then .trailingComma else .trailingCharacters)

mutual

/-- The value at a place, with `depth` levels of nesting left. Every round reads a character. -/
def readValue : Nat → Nat → Cursor → Except SyntaxError (Json × Cursor)
  | 0, _, c => c.fail .eofInValue
  | fuel + 1, depth, c =>
    let c := c.skipSpace
    match c.rest with
    | [] => c.failAhead .eofInValue
    | 'n' :: _ => do
      let c ← readLiteral ['u', 'l', 'l'] c.next
      return (.null, c)
    | 't' :: _ => do
      let c ← readLiteral ['r', 'u', 'e'] c.next
      return (.bool true, c)
    | 'f' :: _ => do
      let c ← readLiteral ['a', 'l', 's', 'e'] c.next
      return (.bool false, c)
    | '-' :: _ => do
      let (n, c) ← readNumber true c.next
      return (.number n, c)
    | '"' :: _ => do
      let (s, c) ← readString c.next
      return (.string s, c)
    | '[' :: _ =>
      if depth ≤ 1 then c.failAhead .tooDeep
      else do
        let (items, c) ← readItems fuel (depth - 1) true [] c.next
        return (.array items, c)
    | '\x7b' :: _ =>
      if depth ≤ 1 then c.failAhead .tooDeep
      else do
        let (fields, c) ← readFields fuel (depth - 1) true [] c.next
        return (ofFields fields, c)
    | x :: _ =>
      if x.isDigit then do
        let (n, c) ← readNumber false c
        return (.number n, c)
      else c.failAhead .expectedValue

/-- The items of an array from a place on, behind the reversed `out`. -/
def readItems : Nat → Nat → Bool → List Json → Cursor → Except SyntaxError (List Json × Cursor)
  | 0, _, _, _, c => c.fail .eofInList
  | fuel + 1, depth, first, out, c => do
    let (more, c) ← hasItem first c
    if more then
      let (item, c) ← readValue fuel depth c
      readItems fuel depth false (item :: out) c
    else return (out.reverse, c.next)

/-- The fields of an object from a place on, behind the reversed `out`. -/
def readFields : Nat → Nat → Bool → List (String × Json) → Cursor →
    Except SyntaxError (List (String × Json) × Cursor)
  | 0, _, _, _, c => c.fail .eofInObject
  | fuel + 1, depth, first, out, c => do
    let (more, c) ← hasKey first c
    if more then
      let (key, c) ← readString c.next
      let c ← readColon c
      let (value, c) ← readValue fuel depth c
      readFields fuel depth false ((key, value) :: out) c
    else return (out.reverse, c.next)

end

/-- Nothing but space may follow a value. -/
def expectEnd (c : Cursor) : Except SyntaxError Unit :=
  let c := c.skipSpace
  if c.rest.isEmpty then .ok () else c.failAhead .trailingCharacters

/-- The value that a text holds, or the first defect of the text. -/
def parse (s : List Char) : Except SyntaxError Json := do
  let (value, c) ← readValue (2 * s.length + 4) depthLimit (.ofText s)
  expectEnd c
  return value

end PolicyTrial.Json
