import PolicyTrial.Number.Power

/-!
# Spans of time

* `Duration`: a number of nanoseconds.
* `Duration.text`: the span in its largest unit that is not above it, without trailing zeros.
-/

namespace PolicyTrial

/-- A span of time. -/
structure Duration where
  nanos : Nat
  deriving Repr, DecidableEq, Inhabited

namespace Duration

/-- A number of seconds. -/
def ofSecs (n : Nat) : Duration := ⟨n * 1000000000⟩

/-- A number of milliseconds. -/
def ofMillis (n : Nat) : Duration := ⟨n * 1000000⟩

/-- The whole milliseconds of a span. -/
def millis (d : Duration) : Nat := d.nanos / 1000000

/-- The milliseconds as they are recorded, in 64 bits. -/
def recordedMillis (d : Duration) : Nat := d.millis % twoTo 64

/-- What is left of a span after another one, nothing if that is longer. -/
instance : Sub Duration := ⟨fun a b => ⟨a.nanos - b.nanos⟩⟩

instance : LE Duration := ⟨fun a b => a.nanos ≤ b.nanos⟩

instance (a b : Duration) : Decidable (a ≤ b) := inferInstanceAs (Decidable (a.nanos ≤ b.nanos))

/-- A number of digits, with zeros in front. -/
def padded (width n : Nat) : List Char :=
  let ds := Nat.toDigits 10 n
  List.replicate (width - ds.length) '0' ++ ds

/-- A count of a unit that has `10 ^ places` parts, as a decimal without trailing zeros. -/
def decimalText (places n : Nat) : List Char :=
  let whole := Nat.toDigits 10 (n / tenTo places)
  match ((padded places (n % tenTo places)).reverse.dropWhile (· = '0')).reverse with
  | [] => whole
  | part => if places = 0 then whole else whole ++ '.' :: part

/-- A span in seconds, milliseconds, microseconds or nanoseconds. -/
def text (d : Duration) : String :=
  if d.nanos ≥ 1000000000 then String.ofList (decimalText 9 d.nanos) ++ "s"
  else if d.nanos ≥ 1000000 then String.ofList (decimalText 6 d.nanos) ++ "ms"
  else if d.nanos ≥ 1000 then String.ofList (decimalText 3 d.nanos) ++ "µs"
  else String.ofList (decimalText 0 d.nanos) ++ "ns"

example : text ⟨0⟩ = "0ns" ∧ text ⟨1500000000⟩ = "1.5s" ∧ text ⟨100200⟩ = "100.2µs" := by
  decide +kernel

end Duration

end PolicyTrial
