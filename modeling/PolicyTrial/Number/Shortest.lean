import PolicyTrial.Number.Binary64
import PolicyTrial.Number.Power

/-!
# The shortest decimal of a double

* `Decimal`: digits and a power of ten.
* `Binary64.shortest`: the fewest digits that round to the double, and of those the nearest to it.
-/

namespace PolicyTrial

/-- The value `digits · 10 ^ exponent`. -/
structure Decimal where
  digits : Nat
  exponent : Int
  deriving Repr, DecidableEq

namespace Decimal

/-- The same value without trailing zeros among the digits; at most `fuel` of them are dropped. -/
def dropZeros : Nat → Decimal → Decimal
  | 0, d => d
  | fuel + 1, d =>
    if d.digits ≠ 0 ∧ d.digits % 10 = 0 then dropZeros fuel ⟨d.digits / 10, d.exponent + 1⟩ else d

end Decimal

namespace Binary64

/-- The point `digits · 10 ^ k` against `quarters` quarters of a unit `2 ^ e`, both scaled to
naturals: first the point, then the quarters. -/
def compareScaled (digits : Nat) (k : Int) (quarters : Nat) (e : Int) : Nat × Nat :=
  let q := e - 2
  (digits * tenTo k.toNat * twoTo (-q).toNat, quarters * tenTo (-k).toNat * twoTo q.toNat)

/-- Whether a point of a decimal grid rounds to the double: it lies between the midpoints to the two
neighbours, the ends included if the mantissa is even. -/
def roundsTo (x : Binary64) (digits : Nat) (k : Int) : Bool :=
  let m := x.mantissa
  -- Below a power of two the neighbour is half as far away.
  let below := if m = twoTo 52 ∧ x.exponent > -1074 then 4 * m - 1 else 4 * m - 2
  let (p, lo) := compareScaled digits k below x.exponent
  let (_, hi) := compareScaled digits k (4 * m + 2) x.exponent
  if m % 2 = 0 then decide (lo ≤ p ∧ p ≤ hi) else decide (lo < p ∧ p < hi)

/-- The better of the two neighbours of the double on the grid of `10 ^ k`, among those that round
to it. A tie goes to the even digits. -/
def onGrid (x : Binary64) (k : Int) : Option Nat :=
  let (one, v) := compareScaled 1 k (4 * x.mantissa) x.exponent
  let low := v / one
  let above := 2 * (v % one) > one || (2 * (v % one) = one && low % 2 = 1)
  match x.roundsTo low k, x.roundsTo (low + 1) k with
  | true, true => some (if above then low + 1 else low)
  | true, false => some low
  | false, true => some (low + 1)
  | false, false => none

/-- The power of ten of the first digit of a double that is not zero. -/
def leadingPower (x : Binary64) : Int :=
  -- The binary logarithm times 0.30103 is the power or one less.
  let guess := Int.fdiv (((x.mantissa.log2 : Int) + x.exponent) * 30103) 100000
  let (p, v) := compareScaled 1 (guess + 1) (4 * x.mantissa) x.exponent
  if p ≤ v then guess + 1 else guess

/-- The first of the grids `10 ^ k`, `10 ^ (k - 1)`, … with a point that rounds to the double. -/
def firstGrid (x : Binary64) : Nat → Int → Decimal
  | 0, k => ⟨(x.onGrid k).getD 0, k⟩
  | fuel + 1, k =>
    match x.onGrid k with
    | some d => ⟨d, k⟩
    | none => firstGrid x fuel (k - 1)

/-- The shortest decimal that rounds to the double, the nearest one if there are several. -/
def shortest (x : Binary64) : Decimal :=
  if x.mantissa = 0 then ⟨0, 0⟩
  else (x.firstGrid 17 x.leadingPower).dropZeros 20

example : ((ofDecimal false 3 (-1)).map shortest) = some ⟨3, -1⟩ := by decide +kernel
example : shortest ⟨false, 1, -1074⟩ = ⟨5, -324⟩ := by decide +kernel

end Binary64

end PolicyTrial
