/-!
# Tables of letter forms

A change of letter case is tabulated in two parts: runs of characters that each become one other
character, and single characters that become several.

* `CaseRun.image?`: what a run makes of a code point.
* `formOf`: what both parts together make of a code point.
-/

namespace PolicyTrial.Text

/-- The code points `first`, `first + step`, … up to `last`, which become `image`, `image + step`,
and so on. -/
structure CaseRun where
  first : Nat
  last : Nat
  step : Nat
  image : Nat
  deriving Repr, DecidableEq

/-- A code point that becomes several. -/
structure CaseExpansion where
  code : Nat
  images : List Nat
  deriving Repr, DecidableEq

namespace CaseRun

/-- Whether a code point belongs to the run. -/
def contains (r : CaseRun) (n : Nat) : Bool :=
  decide (r.first ≤ n) && decide (n ≤ r.last) && (n - r.first) % r.step == 0

/-- What the run makes of a code point; nothing outside the run. -/
def image? (r : CaseRun) (n : Nat) : Option Nat :=
  if r.contains n then some (r.image + (n - r.first)) else none

end CaseRun

/-- What a table makes of a code point: an expansion wins, then the first run that has it, and any
other code point stays itself. -/
def formOf (runs : List CaseRun) (expansions : List CaseExpansion) (n : Nat) : List Nat :=
  match expansions.find? (·.code == n) with
  | some e => e.images
  | none =>
    match runs.findSome? (·.image? n) with
    | some m => [m]
    | none => [n]

end PolicyTrial.Text
