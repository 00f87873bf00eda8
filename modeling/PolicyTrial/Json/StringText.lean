import PolicyTrial.Json.Cursor
import PolicyTrial.Text.Utf8

/-!
# Reading strings

* `Json.readString`: the text of a string whose opening quote has been read.
* `Json.readEscape`: the character that an escape stands for. A character beyond U+FFFF is written
  as two escapes, a pair of surrogates.
-/

namespace PolicyTrial.Json

/-- The value of a hexadecimal digit. -/
def hexValue? (c : Char) : Option Nat :=
  if '0' ≤ c ∧ c ≤ '9' then some (c.toNat - '0'.toNat)
  else if 'a' ≤ c ∧ c ≤ 'f' then some (c.toNat - 'a'.toNat + 10)
  else if 'A' ≤ c ∧ c ≤ 'F' then some (c.toNat - 'A'.toNat + 10)
  else none

/-- The number written by the next four octets, which have to be hexadecimal digits. -/
def readHex (c : Cursor) : Except SyntaxError (Nat × Cursor) :=
  if Text.Utf8.size (c.rest.take 4) < 4 then c.failAfter 4 .eofInString
  else
    match (c.rest.take 4).mapM hexValue? with
    | some [a, b, d, e] =>
      .ok (((a * 16 + b) * 16 + d) * 16 + e, ⟨c.rest.drop 4, c.line, c.column + 4⟩)
    | _ => c.failAfter 4 .invalidEscape

/-- The place behind a character that has to come next inside a surrogate pair. -/
def expectInPair (x : Char) (c : Cursor) : Except SyntaxError Cursor :=
  match c.rest with
  | [] => c.fail .eofInString
  | y :: _ => if y = x then .ok c.next else c.failAfter 1 .unexpectedEndOfEscape

/-- The character of an escape by number, whose letter `u` has been read. -/
def readNumbered (c : Cursor) : Except SyntaxError (Char × Cursor) := do
  let (n, c) ← readHex c
  if 0xDC00 ≤ n ∧ n ≤ 0xDFFF then c.fail .loneSurrogate
  else if n < 0xD800 ∨ 0xDBFF < n then .ok (Char.ofNat n, c)
  else
    let c ← expectInPair '\\' c
    let c ← expectInPair 'u' c
    let (m, c) ← readHex c
    if m < 0xDC00 ∨ 0xDFFF < m then c.fail .loneSurrogate
    else .ok (Char.ofNat ((n - 0xD800) * 0x400 + (m - 0xDC00) + 0x10000), c)

/-- The character of an escape whose backslash has been read. -/
def readEscape (c : Cursor) : Except SyntaxError (Char × Cursor) :=
  match c.rest with
  | [] => c.fail .eofInString
  | '"' :: _ => .ok ('"', c.next)
  | '\\' :: _ => .ok ('\\', c.next)
  | '/' :: _ => .ok ('/', c.next)
  | 'b' :: _ => .ok ('\x08', c.next)
  | 'f' :: _ => .ok ('\x0c', c.next)
  | 'n' :: _ => .ok ('\n', c.next)
  | 'r' :: _ => .ok ('\r', c.next)
  | 't' :: _ => .ok ('\t', c.next)
  | 'u' :: _ => readNumbered c.next
  | _ :: _ => c.failAfter 1 .invalidEscape

/-- The rest of a string behind the reversed `out`. Every round reads a character, so as many rounds
as there are characters suffice. -/
def readStringOnto (out : List Char) : Nat → Cursor → Except SyntaxError (String × Cursor)
  | 0, c => c.fail .eofInString
  | fuel + 1, c =>
    match c.rest with
    | [] => c.fail .eofInString
    | '"' :: _ => .ok (String.ofList out.reverse, c.next)
    | '\\' :: _ => do
      let (x, c) ← readEscape c.next
      readStringOnto (x :: out) fuel c
    | x :: _ =>
      if x.toNat < 0x20 then c.failAfter 1 .controlInString
      else readStringOnto (x :: out) fuel c.next

/-- The text of a string whose opening quote has been read. -/
def readString (c : Cursor) : Except SyntaxError (String × Cursor) :=
  readStringOnto [] (c.rest.length + 1) c

end PolicyTrial.Json
