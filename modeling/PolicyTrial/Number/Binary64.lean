import PolicyTrial.Number.Power

/-!
# Finite binary64 numbers

A double is kept as a sign and the exact value `mantissa · 2 ^ exponent`. Every result is the exact
one rounded to nearest, ties to the even mantissa, and nothing here depends on machine floats.

* `Binary64.roundRatio`: the double nearest to a quotient of naturals.
* `Binary64.ofDecimal`: the double nearest to `digits · 10 ^ exponent`.
* `Binary64.mul`, `Binary64.div`: the rounded product and quotient.
-/

namespace PolicyTrial

/-- A finite double: `mantissa · 2 ^ exponent`, negated if `negative`. A mantissa below `2 ^ 52`
goes with the exponent `-1074` only. -/
structure Binary64 where
  negative : Bool
  mantissa : Nat
  exponent : Int
  deriving Repr, DecidableEq

namespace Binary64

/-- Zero, with a sign. -/
def zero (negative : Bool) : Binary64 := ⟨negative, 0, -1074⟩

/-- The quotient rounded to the nearest natural, a tie to the even one. -/
def nearest (num den : Nat) : Nat :=
  let q := num / den
  let r := num % den
  if 2 * r < den then q
  else if 2 * r = den then q + q % 2
  else q + 1

/-- The magnitude nearest to a quotient, as mantissa and exponent; nothing if it is too large. -/
def roundMagnitude (num den : Nat) : Option (Nat × Int) :=
  if num = 0 then some (0, -1074)
  else
    -- The exponent that leaves 53 bits of quotient, or one bit more or less.
    let guess : Int := (num.log2 : Int) - den.log2 - 52
    let scaled (e : Int) : Nat × Nat := (num * twoTo (-e).toNat, den * twoTo e.toNat)
    let short := let (n, d) := scaled guess; n / d < twoTo 52
    let e := max (if short then guess - 1 else guess) (-1074)
    let (n, d) := scaled e
    let m := nearest n d
    let (m, e) := if m = twoTo 53 then (twoTo 52, e + 1) else (m, e)
    if e > 971 then none else some (m, e)

/-- The double nearest to a quotient; nothing if that is infinite. -/
def roundRatio (negative : Bool) (num den : Nat) : Option Binary64 :=
  (roundMagnitude num den).map fun (m, e) => ⟨negative, m, e⟩

/-- The double nearest to a natural. -/
def ofNat (negative : Bool) (n : Nat) : Option Binary64 := roundRatio negative n 1

/-- The double nearest to `digits · 10 ^ exponent`; nothing if that is infinite. -/
def ofDecimal (negative : Bool) (digits : Nat) (exponent : Int) : Option Binary64 :=
  if digits = 0 then some (zero negative)
  else
    let places : Int := (Nat.toDigits 10 digits).length + exponent
    if places > 400 then none
    else if places < -400 then some (zero negative)
    else roundRatio negative (digits * tenTo exponent.toNat) (tenTo (-exponent).toNat)

/-- The magnitude as a quotient of naturals. -/
def ratio (x : Binary64) : Nat × Nat :=
  (x.mantissa * twoTo x.exponent.toNat, twoTo (-x.exponent).toNat)

/-- The rounded product; nothing if it is infinite. -/
def mul (x y : Binary64) : Option Binary64 :=
  let (a, b) := x.ratio
  let (c, d) := y.ratio
  roundRatio (x.negative != y.negative) (a * c) (b * d)

/-- The rounded quotient; nothing if it is infinite or the divisor is zero. -/
def div (x y : Binary64) : Option Binary64 :=
  if y.mantissa = 0 then none
  else
    let (a, b) := x.ratio
    let (c, d) := y.ratio
    roundRatio (x.negative != y.negative) (a * d) (b * c)

example : ofDecimal false 1 (-1) = some ⟨false, 7205759403792794, -56⟩ := by decide +kernel
example : ofDecimal false 5 (-324) = some ⟨false, 1, -1074⟩ := by decide +kernel
example : ofDecimal false 18 307 = none := by decide +kernel

end Binary64

end PolicyTrial
