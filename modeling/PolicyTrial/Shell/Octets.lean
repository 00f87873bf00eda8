import PolicyTrial.Text.Utf8

/-!
# Texts of octets

Scripts and what they handle are octets, not characters. Each octet is held as the character of its
number, so that the operations on lists of characters apply.

* `Octets.ofBytes`, `Octets.toBytes`: between octets and characters of their numbers.
-/

namespace PolicyTrial

/-- A text of octets, each held as the character of its number. -/
abbrev Octets := List Char

namespace Octets

/-- Octets as characters of their numbers. -/
def ofBytes (bs : Bytes) : Octets := bs.map fun b => Char.ofNat b.toNat

/-- Characters below 256 as the octets of their numbers. -/
def toBytes (s : Octets) : Bytes := s.map fun c => UInt8.ofNat c.toNat

/-- The octets of a text. -/
def ofString (s : String) : Octets := ofBytes (Bytes.ofString s)

/-- The text that octets stand for. -/
def text (s : Octets) : String := (toBytes s).lossyText

/-- The digits of a number. -/
def ofNat (n : Nat) : Octets := Nat.toDigits 10 n

/-- The digits of an integer, with a sign if it is negative. -/
def ofInt (i : Int) : Octets := if i < 0 then '-' :: ofNat i.natAbs else ofNat i.natAbs

/-- The number that some decimal digits spell. -/
def digits? (s : Octets) : Option Nat :=
  if s.isEmpty || !s.all Char.isDigit then none
  else some (s.foldl (fun v d => v * 10 + (d.toNat - '0'.toNat)) 0)

/-- The integer that a text spells: decimal digits, a sign before them allowed. -/
def integer? : Octets → Option Int
  | '-' :: rest => (digits? rest).map fun n => -(n : Int)
  | '+' :: rest => (digits? rest).map Int.ofNat
  | s => (digits? s).map Int.ofNat

/-- The number that the octal digits at the head of a text spell, at most so many, and the rest. -/
def octal (most : Nat) (s : Octets) : Nat × Octets :=
  let isOctal (c : Char) : Bool := '0' ≤ c && c ≤ '7'
  let ds := (s.take most).takeWhile isOctal
  (ds.foldl (fun v d => v * 8 + (d.toNat - '0'.toNat)) 0, s.drop ds.length)

/-- The lines of a text, without their ends. An end at the very end starts no line. -/
def lines (s : Octets) : List Octets :=
  let pieces := s.foldr (fun c acc => if c = '\n' then [] :: acc else
    match acc with
    | [] => [[c]]
    | p :: ps => (c :: p) :: ps) [[]]
  if s.isEmpty || s.getLast? = some '\n' then pieces.dropLast else pieces

/-- Some lines as a text, each with its end. -/
def unlines (ls : List Octets) : Octets := ls.flatMap (· ++ ['\n'])

/-- A text without the line ends at its end. -/
def trimLineEnds (s : Octets) : Octets := (s.reverse.dropWhile (· = '\n')).reverse

end Octets

end PolicyTrial
