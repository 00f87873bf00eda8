import PolicyTrial.Json.Basic
import PolicyTrial.Number.Binary64
import PolicyTrial.Number.Power

/-!
# What a plain scalar means

* `Yaml.plainValue?`: the null, truth value or number that a plain scalar spells; nothing if it is a
  text.
* `Yaml.natural?`: the natural number that a scalar spells.
-/

namespace PolicyTrial.Yaml

/-- Whether a scalar spells null. -/
def isNull (s : List Char) : Bool :=
  ["null", "Null", "NULL", "~"].contains (String.ofList s)

/-- The truth value that a scalar spells. -/
def truth? (s : List Char) : Option Bool :=
  if ["true", "True", "TRUE"].contains (String.ofList s) then some true
  else if ["false", "False", "FALSE"].contains (String.ofList s) then some false
  else none

/-- The value of a digit in a base of at most 16. -/
def digit? (base : Nat) (c : Char) : Option Nat :=
  let v :=
    if '0' ≤ c ∧ c ≤ '9' then some (c.toNat - '0'.toNat)
    else if 'a' ≤ c ∧ c ≤ 'f' then some (c.toNat - 'a'.toNat + 10)
    else if 'A' ≤ c ∧ c ≤ 'F' then some (c.toNat - 'A'.toNat + 10)
    else none
  v.filter (· < base)

/-- The value of some digits; nothing if there are none. -/
def digits? (base : Nat) (s : List Char) : Option Nat :=
  if s.isEmpty then none else (s.mapM (digit? base)).map (·.foldl (fun v d => v * base + d) 0)

/-- Whether a text starts with a sign. -/
def startsSign (s : List Char) : Bool := s.head? = some '+' || s.head? = some '-'

/-- A text without one leading plus sign. -/
def dropPlus : List Char → List Char
  | '+' :: rest => rest
  | s => s

/-- Whether a scalar consists of digits of which the first, of several, is zero. Such a scalar is a
text. -/
def hasIdleZero (s : List Char) : Bool :=
  match if startsSign s then s.drop 1 else s with
  | '0' :: c :: rest => (c :: rest).all Char.isDigit
  | _ => false

/-- The digits behind a mark for another base, with the base. -/
def based? : List Char → Option (Nat × List Char)
  | '0' :: 'x' :: rest => some (16, rest)
  | '0' :: 'o' :: rest => some (8, rest)
  | '0' :: 'b' :: rest => some (2, rest)
  | _ => none

/-- The natural number that a scalar spells, below a limit. -/
def natural? (limit : Nat) (s : List Char) : Option Nat :=
  let u := dropPlus s
  let below (n : Option Nat) : Option Nat := n.filter (· < limit)
  match based? u with
  | some (base, rest) => if startsSign rest then none else below (digits? base rest)
  | none => if startsSign u || hasIdleZero s then none else below (digits? 10 u)

/-- The magnitude of the negative integer that a scalar spells, up to a limit. -/
def negative? (limit : Nat) (s : List Char) : Option Nat :=
  match s with
  | '-' :: u =>
    let upTo (n : Option Nat) : Option Nat := n.filter (· ≤ limit)
    match based? u with
    | some (base, rest) => upTo (digits? base rest)
    | none => if hasIdleZero s then none else upTo (digits? 10 u)
  | _ => none

/-- The digits of a decimal with the places behind its point, and the rest of the text. -/
def decimal? (s : List Char) : Option (List Char × Nat × List Char) :=
  let whole := s.takeWhile Char.isDigit
  match s.drop whole.length with
  | '.' :: rest =>
    let fraction := rest.takeWhile Char.isDigit
    if whole.isEmpty && fraction.isEmpty then none
    else some (whole ++ fraction, fraction.length, rest.drop fraction.length)
  | rest => if whole.isEmpty then none else some (whole, 0, rest)

/-- The exponent that ends a text. -/
def exponent? : List Char → Option Int
  | [] => some 0
  | e :: rest =>
    if e = 'e' ∨ e = 'E' then
      match rest with
      | '-' :: ds => (digits? 10 ds).map fun n => -(n : Int)
      | ds => (digits? 10 (dropPlus ds)).map fun n => (n : Int)
    else none

/-- The finite double that a text spells as a decimal, maybe with a sign and an exponent. -/
def double? (s : List Char) : Option Binary64 := do
  let (negative, u) := match s with
    | '-' :: rest => (true, rest)
    | _ => (false, dropPlus s)
  let (ds, places, rest) ← decimal? u
  let exponent ← exponent? rest
  let digits ← digits? 10 ds
  Binary64.ofDecimal negative digits (exponent - places)

/-- The number that a scalar spells with a decimal point or an exponent; what is no finite number is
null. -/
def real? (s : List Char) : Option Json :=
  if [".inf", ".Inf", ".INF", "-.inf", "-.Inf", "-.INF", "+.inf", "+.Inf", "+.INF", ".nan", ".NaN",
      ".NAN"].contains (String.ofList s) then some .null
  else if s.head? = some '+' && startsSign (s.drop 1) then none
  else (double? s).map fun x => .number (.real x)

/-- The integer that a scalar spells: an outer nothing if it spells none, an inner one if it does
not fit 64 bits but 128. -/
def integer? (s : List Char) : Option (Option Json) :=
  match natural? (twoTo 64) s with
  | some n => some (some (.ofNat n))
  | none =>
    match negative? (twoTo 63) s with
    | some n => some (some (.ofInt (-n)))
    | none =>
      if (natural? (twoTo 128) s).isSome || (negative? (twoTo 127) s).isSome then some none
      else none

/-- The value of a plain scalar: an outer nothing if it is a text, an inner one if it is an integer
that is too large. -/
def plainValue? (s : List Char) : Option (Option Json) :=
  if s.isEmpty || isNull s then some (some .null)
  else
    match truth? s with
    | some b => some (some (.bool b))
    | none =>
      match integer? s with
      | some i => some i
      | none => if hasIdleZero s then none else (real? s).map some

end PolicyTrial.Yaml
