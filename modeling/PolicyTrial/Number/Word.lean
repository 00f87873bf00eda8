import PolicyTrial.Number.Power

/-!
# Machine words

A number of the program has as many bits as its type, and a sum may be too large for them. What
becomes of it then depends on how the program is built.

* `Word`, `Port`: the numbers of 64 and of 16 bits.
* `Build.sum?`: the sum of two words.
-/

namespace PolicyTrial

-- the zero is that of the numerals, whatever other zeros of `Nat` are in scope
instance neZero_words : @NeZero Nat Zero.ofOfNat0 (twoTo 64) := ⟨Nat.ne_of_gt (twoTo_pos 64)⟩

instance neZero_ports : @NeZero Nat Zero.ofOfNat0 (twoTo 16) := ⟨Nat.ne_of_gt (twoTo_pos 16)⟩

/-- A number of 64 bits. -/
abbrev Word := Fin (twoTo 64)

/-- The number of a port, of 16 bits. -/
abbrev Port := Fin (twoTo 16)

/-- The number of a port as a word. -/
def Port.word (p : Port) : Word := p.castLE (by decide)

/-- How the program is built: with a check of every sum, or without. -/
inductive Build
  | checked
  | unchecked
  deriving Repr, DecidableEq

/-- The sum of two words. If it is too large for a word, a program with checks crashes, and there is
none; one without goes on with what the word holds of it. -/
def Build.sum? : Build → Word → Word → Option Word
  | .checked, a, b => if h : a.val + b.val < twoTo 64 then some ⟨a.val + b.val, h⟩ else none
  | .unchecked, a, b => some (a + b)

end PolicyTrial
