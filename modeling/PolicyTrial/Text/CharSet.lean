/-!
# Sets of characters

A property of characters that the Unicode Character Database tabulates is kept as the increasing
list of code points at which it starts or stops to hold.

* `CharSet.contains`: membership of a character.
-/

namespace PolicyTrial.Text

/-- A set of characters, given by its boundaries: the members start at the first boundary, stop at
the second, start again at the third, and so on. -/
structure CharSet where
  bounds : List Nat

namespace CharSet

/-- Whether a code point lies behind an odd number of boundaries. -/
def inside : List Nat → Nat → Bool
  | [], _ => false
  | b :: bs, n => if n < b then false else !inside bs n

/-- Membership of a character. -/
def contains (s : CharSet) (c : Char) : Bool := inside s.bounds c.toNat

end CharSet

end PolicyTrial.Text
