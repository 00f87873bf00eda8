/-!
# UTF-8

Octets are decoded one at a time. A sequence that breaks off is ended by the first octet that cannot
continue it, and that octet then starts anew, so every maximal ill-formed piece counts once.

* `encode`: the octets of a text.
* `decodeLossy`: the text of any octets, each ill-formed piece replaced by U+FFFD.
* `decode?`: the text of well-formed octets only.
-/

namespace PolicyTrial.Text.Utf8

/-- The octets of a text. -/
def encode (s : List Char) : List UInt8 := s.flatMap String.utf8EncodeChar

/-- The place inside a sequence: between two characters, or with `more + 1` octets to come of which
the next lies between `low` and `high`, and `value` gathered so far. -/
inductive State
  | start
  | inside (more value low high : Nat)

/-- What an octet that starts a sequence means: a character, a place inside a sequence, or
nothing. -/
def lead (b : Nat) : List (Option Char) × State :=
  if b < 0x80 then ([some (Char.ofNat b)], .start)
  else if b < 0xC2 then ([none], .start)
  else if b < 0xE0 then ([], .inside 0 (b - 0xC0) 0x80 0xBF)
  else if b = 0xE0 then ([], .inside 1 0 0xA0 0xBF)
  else if b = 0xED then ([], .inside 1 0xD 0x80 0x9F)
  else if b < 0xF0 then ([], .inside 1 (b - 0xE0) 0x80 0xBF)
  else if b = 0xF0 then ([], .inside 2 0 0x90 0xBF)
  else if b < 0xF4 then ([], .inside 2 (b - 0xF0) 0x80 0xBF)
  else if b = 0xF4 then ([], .inside 2 4 0x80 0x8F)
  else ([none], .start)

/-- What one octet completes, and the place after it. An ill-formed piece is completed as
nothing. -/
def step : State → UInt8 → List (Option Char) × State
  | .start, b => lead b.toNat
  | .inside more value low high, b =>
    if low ≤ b.toNat ∧ b.toNat ≤ high then
      let value := value * 64 + (b.toNat - 0x80)
      match more with
      | 0 => ([some (Char.ofNat value)], .start)
      | more + 1 => ([], .inside more value 0x80 0xBF)
    else
      let (out, st) := lead b.toNat
      (none :: out, st)

/-- The pieces of the octets that follow a place, put behind the reversed `out`. -/
def piecesOnto (out : List (Option Char)) : State → List UInt8 → List (Option Char)
  | .start, [] => out.reverse
  | .inside .., [] => (none :: out).reverse
  | st, b :: rest =>
    let (done, st') := step st b
    piecesOnto (done.reverse ++ out) st' rest

/-- The characters and the ill-formed pieces of some octets, in order. -/
def pieces (bs : List UInt8) : List (Option Char) := piecesOnto [] .start bs

/-- The text of some octets, with U+FFFD for every ill-formed piece. -/
def decodeLossy (bs : List UInt8) : List Char := (pieces bs).map fun p => p.getD '\uFFFD'

/-- The text of some octets if they are well-formed. -/
def decode? (bs : List UInt8) : Option (List Char) :=
  let ps := pieces bs
  if ps.all (·.isSome) then some (ps.filterMap id) else none

/-- The number of octets of a text. -/
def size (s : List Char) : Nat := s.foldr (fun c n => c.utf8Size + n) 0

example : decodeLossy [0x61, 0xE2, 0x82, 0x62, 0xF0, 0x9F, 0xFF] =
    ['a', '\uFFFD', 'b', '\uFFFD', '\uFFFD'] := by decide

end PolicyTrial.Text.Utf8

namespace PolicyTrial

/-- A sequence of octets. -/
abbrev Bytes := List UInt8

/-- The text of some octets, with U+FFFD for every ill-formed piece. -/
def Bytes.lossyText (bs : Bytes) : String := String.ofList (Text.Utf8.decodeLossy bs)

/-- The octets of a string. -/
def Bytes.ofString (s : String) : Bytes := Text.Utf8.encode s.toList

end PolicyTrial
