import PolicyTrial.Time.Duration

/-!
# Moments of civil time

* `Instant`: seconds since the start of 1970 and nanoseconds.
* `Instant.after`: the moment some time after another one.
* `Instant.date`: the proleptic Gregorian date of a day.
* `Instant.text`: date and time of day in universal time, with as many thousands of decimals as are
  needed.
-/

namespace PolicyTrial

/-- A moment: whole seconds since 1970-01-01T00:00:00Z, and nanoseconds. A count of nanoseconds
above a second stands for a leap second. -/
structure Instant where
  secs : Int
  nanos : Nat
  deriving Repr, DecidableEq, Inhabited

namespace Instant

/-- The moment some time after another one. -/
def after (t : Instant) (d : Duration) : Instant :=
  ⟨t.secs + (t.nanos + d.nanos) / 1000000000, (t.nanos + d.nanos) % 1000000000⟩

/-- The year, month and day of a day counted from 1970-01-01. Years are counted from the first of
March, in eras of 400 years. -/
def date (day : Int) : Int × Nat × Nat :=
  let shifted := day + 719468
  let era := Int.fdiv shifted 146097
  let dayOfEra := (shifted - era * 146097).toNat
  let yearOfEra := (dayOfEra - dayOfEra / 1460 + dayOfEra / 36524 - dayOfEra / 146096) / 365
  let dayOfYear := dayOfEra - (365 * yearOfEra + yearOfEra / 4 - yearOfEra / 100)
  let month := (5 * dayOfYear + 2) / 153
  let dayOfMonth := dayOfYear - (153 * month + 2) / 5 + 1
  let civilMonth := if month < 10 then month + 3 else month - 9
  let year := (yearOfEra : Int) + era * 400
  (if civilMonth ≤ 2 then year + 1 else year, civilMonth, dayOfMonth)

/-- A year with four digits, and a sign if it does not fit them. -/
def yearText (y : Int) : List Char :=
  if 0 ≤ y ∧ y ≤ 9999 then Duration.padded 4 y.toNat
  else (if y < 0 then '-' else '+') :: Duration.padded 4 y.natAbs

/-- The decimals of a second: none, or three, six or nine places. -/
def fractionText (nanos : Nat) : List Char :=
  if nanos = 0 then []
  else if nanos % 1000000 = 0 then '.' :: Duration.padded 3 (nanos / 1000000)
  else if nanos % 1000 = 0 then '.' :: Duration.padded 6 (nanos / 1000)
  else '.' :: Duration.padded 9 nanos

/-- The moment in universal time. -/
def text (t : Instant) : String :=
  let day := Int.fdiv t.secs 86400
  let second := (t.secs - day * 86400).toNat
  let (year, month, dayOfMonth) := date day
  let leap := if t.nanos ≥ 1000000000 then 1 else 0
  String.ofList (yearText year ++ '-' :: Duration.padded 2 month
    ++ '-' :: Duration.padded 2 dayOfMonth ++ 'T' :: Duration.padded 2 (second / 3600)
    ++ ':' :: Duration.padded 2 (second / 60 % 60) ++ ':' :: Duration.padded 2 (second % 60 + leap)
    ++ fractionText (t.nanos - leap * 1000000000) ++ ['Z'])

example : text ⟨-1, 500000000⟩ = "1969-12-31T23:59:59.500Z" := by decide +kernel
example : text ⟨951782400, 10000⟩ = "2000-02-29T00:00:00.000010Z" := by decide +kernel

end Instant

end PolicyTrial
