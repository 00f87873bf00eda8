import PolicyTrial.Json.Basic
import PolicyTrial.Json.Cursor
import PolicyTrial.Number.Power

/-!
# Reading numbers

An integer that fits 64 bits stays an integer. Any other number becomes a double: as many digits as
fit 64 bits form the significand, which is rounded to a double and then scaled by one power of ten.

* `Json.readNumber`: the number at a place, its minus sign read.
* `Json.scaled`: the double of a significand and a power of ten.
-/

namespace PolicyTrial.Json

/-- The digits at a place and the place behind them. -/
def readDigits (c : Cursor) : List Nat × Cursor :=
  let ds := c.rest.takeWhile Char.isDigit
  (ds.map fun d => d.toNat - '0'.toNat, ⟨c.rest.drop ds.length, c.line, c.column + ds.length⟩)

/-- Digits enter a significand for as long as it fits 64 bits; the digits left over follow. -/
def absorb (significand : Nat) : List Nat → Nat × List Nat
  | [] => (significand, [])
  | d :: ds =>
    if significand * 10 + d < twoTo 64 then absorb (significand * 10 + d) ds
    else (significand, d :: ds)

/-- The largest power of ten that one scaling uses. -/
def scaleStep : Nat := 308

/-- The double of `10 ^ n`. -/
def powerOfTen (n : Nat) : Option Binary64 := Binary64.ofNat false (tenTo n)

/-- A double divided by `10 ^ n`. -/
def divTen (x : Binary64) (n : Nat) : Option Binary64 := do x.div (← powerOfTen n)

/-- The double of `significand · 10 ^ exponent`: the rounded significand is multiplied or divided
once by the rounded power of ten, with a division by `10 ^ 308` before where one power does not
suffice. Nothing if the number is too large. -/
def scaled (negative : Bool) (significand : Nat) (exponent : Int) : Option Binary64 := do
  let x ← Binary64.ofNat negative significand
  let step : Int := scaleStep
  if x.mantissa = 0 then some x
  else if 0 ≤ exponent then
    if exponent ≤ step then x.mul (← powerOfTen exponent.toNat) else none
  else if -step ≤ exponent then divTen x (-exponent).toNat
  else if -2 * step ≤ exponent then divTen (← divTen x scaleStep) (-exponent - step).toNat
  else some (.zero negative)

/-- A scaled number that ends at a place. -/
def finishReal (negative : Bool) (significand : Nat) (exponent : Int) (c : Cursor) :
    Except SyntaxError (Number × Cursor) :=
  match scaled negative significand exponent with
  | some x => .ok (.real x, c)
  | none => c.fail .numberOutOfRange

/-- The value of an exponent's digits, or the number of digits up to the one that makes it exceed 31
bits. -/
def exponentValue : Nat → Nat → List Nat → Except Nat Nat
  | value, _, [] => .ok value
  | value, count, d :: ds =>
    if value * 10 + d < twoTo 31 then exponentValue (value * 10 + d) (count + 1) ds
    else .error (count + 1)

/-- A sum that stays within 32 bits. -/
def clamp (i : Int) : Int := max (-(twoTo 31)) (min i (twoTo 31 - 1))

/-- A number from its exponent mark on. -/
def readExponent (negative : Bool) (significand : Nat) (start : Int) (c : Cursor) :
    Except SyntaxError (Number × Cursor) :=
  let c := c.next
  let (down, c) := match c.rest with
    | '+' :: _ => (false, c.next)
    | '-' :: _ => (true, c.next)
    | _ => (false, c)
  match c.rest with
  | [] => c.fail .eofInValue
  | d :: _ =>
    if !d.isDigit then c.failAfter 1 .invalidNumber
    else
      let (ds, c') := readDigits c
      match exponentValue 0 0 ds with
      | .ok e => finishReal negative significand (clamp (if down then start - e else start + e)) c'
      | .error count =>
        -- An exponent beyond 31 bits: too large, or so small that zero is left.
        if significand ≠ 0 ∧ !down then c.failAfter count .numberOutOfRange
        else .ok (.real (.zero negative), c')

/-- A number from its exponent mark on, if there is one. -/
def readScale (negative : Bool) (significand : Nat) (exponent : Int) (c : Cursor) :
    Except SyntaxError (Number × Cursor) :=
  match c.rest with
  | 'e' :: _ | 'E' :: _ => readExponent negative significand exponent c
  | _ => finishReal negative significand exponent c

/-- A number from its decimal point on. -/
def readFraction (negative : Bool) (significand : Nat) (exponent : Int) (c : Cursor) :
    Except SyntaxError (Number × Cursor) :=
  let c := c.next
  let (ds, c') := readDigits c
  if ds.isEmpty then
    c.failAhead (if c.rest.isEmpty then .eofInValue else .invalidNumber)
  else
    -- Digits that do not fit any more do not move the decimal point either.
    let (significand, left) := absorb significand ds
    readScale negative significand (exponent - (ds.length - left.length : Nat)) c'

/-- A number whose integer digits have been read, `dropped` of them not part of the significand. -/
def readAfterInteger (negative : Bool) (significand dropped : Nat) (c : Cursor) :
    Except SyntaxError (Number × Cursor) :=
  match c.rest with
  | '.' :: _ => readFraction negative significand dropped c
  | 'e' :: _ | 'E' :: _ => readExponent negative significand dropped c
  | _ =>
    -- Digits left over make it a double, and so does a value below `-2 ^ 63`, or `-0`.
    if dropped ≠ 0 then finishReal negative significand dropped c
    else if !negative then .ok (.integer significand, c)
    else if 0 < significand ∧ significand ≤ twoTo 63 then .ok (.integer (-(significand : Int)), c)
    else finishReal true significand 0 c

/-- The number at a place, its minus sign read. -/
def readNumber (negative : Bool) (c : Cursor) : Except SyntaxError (Number × Cursor) :=
  match c.rest with
  | [] => c.fail .eofInValue
  | '0' :: rest =>
    if (rest.head?.map Char.isDigit).getD false then c.next.failAhead .invalidNumber
    else readAfterInteger negative 0 0 c.next
  | d :: _ =>
    if !d.isDigit then c.failAfter 1 .invalidNumber
    else
      let (ds, c') := readDigits c
      let (significand, left) := absorb 0 ds
      readAfterInteger negative significand left.length c'

end PolicyTrial.Json
