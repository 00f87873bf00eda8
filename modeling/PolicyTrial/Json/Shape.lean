import PolicyTrial.Json.Skip

/-!
# Reading values of known shape

A text is read straight into a value of a type. What is wrong first is reported, be it a defect of
the text or a value of the wrong shape.

* `Json.Shape`: a reader for the values of a type.
* `Shape.text`, `Shape.natural`, `Shape.optional`, `Shape.list`, `Shape.name`, `Shape.record`:
  readers by shape.
* `Json.readAs`: the value of a whole text.
-/

namespace PolicyTrial.Json

/-- Why a text holds no value of a type: it is no JSON, or the value has another shape, with a
reason if the type gives one. -/
inductive ShapeError
  | defect (e : SyntaxError)
  | shape (reason : Option String)
  deriving Repr, DecidableEq

/-- A reader for the values of a type. -/
abbrev Shape (α : Type) := Cursor → Except ShapeError (α × Cursor)

namespace Shape

/-- A defect of the text. -/
def lift {α : Type} : Except SyntaxError α → Except ShapeError α
  | .ok a => .ok a
  | .error e => .error (.defect e)

/-- A value of another shape, without a reason. -/
def wrong {α : Type} : Except ShapeError α := .error (.shape none)

/-- A value is made of another one, or refused. -/
def refine {α β : Type} (r : Shape α) (f : α → Except ShapeError β) : Shape β := fun c => do
  let (a, c) ← r c
  return (← f a, c)

/-- A value is made of another one. -/
def map {α β : Type} (f : α → β) (r : Shape α) : Shape β := r.refine fun a => .ok (f a)

/-- A value of another shape starts here, unless the text has a defect in it. Only the start of an
array or object is looked at. -/
def otherShape {α : Type} (c : Cursor) : Except ShapeError α := do
  match c.rest with
  | [] => lift (c.failAhead .expectedValue)
  | 'n' :: _ => do let _ ← lift (readLiteral ['u', 'l', 'l'] c.next); wrong
  | 't' :: _ => do let _ ← lift (readLiteral ['r', 'u', 'e'] c.next); wrong
  | 'f' :: _ => do let _ ← lift (readLiteral ['a', 'l', 's', 'e'] c.next); wrong
  | '-' :: _ => do let _ ← lift (readNumber true c.next); wrong
  | '"' :: _ => do let _ ← lift (readString c.next); wrong
  | '[' :: _ | '\x7b' :: _ => wrong
  | x :: _ =>
    if x.isDigit then do let _ ← lift (readNumber false c); wrong
    else lift (c.failAhead .expectedValue)

/-- The place of a value, which has to be there. -/
def start (c : Cursor) : Except ShapeError Cursor :=
  let c := c.skipSpace
  if c.rest.isEmpty then lift (c.failAhead .eofInValue) else .ok c

/-- A string. -/
def text : Shape String := fun c => do
  let c ← start c
  match c.rest with
  | '"' :: _ => lift (readString c.next)
  | _ => otherShape c

/-- A null. -/
def null : Shape Unit := fun c => do
  let c ← start c
  match c.rest with
  | 'n' :: _ => return ((), ← lift (readLiteral ['u', 'l', 'l'] c.next))
  | _ => otherShape c

/-- A natural number below a limit. -/
def natural (limit : Nat) : Shape Nat := fun c => do
  let c ← start c
  let (n, c) ← match c.rest with
    | '-' :: _ => lift (readNumber true c.next)
    | x :: _ => if x.isDigit then lift (readNumber false c) else otherShape c
    | [] => otherShape c
  match n with
  | .integer i => if 0 ≤ i ∧ i < limit then return (i.toNat, c) else wrong
  | .real _ => wrong

/-- A value, or null for none. -/
def optional {α : Type} (r : Shape α) : Shape (Option α) := fun c =>
  let c := c.skipSpace
  match c.rest with
  | 'n' :: _ => do return (none, ← lift (readLiteral ['u', 'l', 'l'] c.next))
  | _ => r.map some c

/-- The items of an array up to its end, behind the reversed `out`. -/
def items {α : Type} (r : Shape α) : Nat → Bool → List α → Shape (List α)
  | 0, _, _ => fun c => lift (c.fail .eofInList)
  | fuel + 1, first, out => fun c => do
    let (more, c) ← lift (hasItem first c)
    if more then
      let (a, c) ← r c
      items r fuel false (a :: out) c
    else return (out.reverse, c.next)

/-- An array. -/
def list {α : Type} (r : Shape α) : Shape (List α) := fun c => do
  let c ← start c
  match c.rest with
  | '[' :: _ => items r (c.rest.length + 1) true [] c.next
  | _ => otherShape c

/-- The names between backticks, as a choice. -/
def listed (names : List String) : String :=
  let ticked := names.map fun n => "`" ++ n ++ "`"
  match ticked with
  | [a, b] => a ++ " or " ++ b
  | _ => "one of " ++ ", ".intercalate ticked

/-- The value of a name. -/
def named {α : Type} (names : List (String × α)) (s : String) : Except ShapeError α :=
  match names.lookup s with
  | some a => .ok a
  | none => .error (.shape (some ("unknown variant `" ++ s ++ "`, expected " ++
      listed (names.map (·.1)))))

/-- One of some names: a string, or an object with the name as its only key and null as its
value. -/
def name {α : Type} (names : List (String × α)) : Shape α := fun c => do
  let c ← start c
  match c.rest with
  | '"' :: _ => text.refine (named names) c
  | '\x7b' :: _ =>
    let (a, c) ← text.refine (named names) c.next
    let c ← lift (readColon c)
    let ((), c) ← null c
    let c := c.skipSpace
    match c.rest with
    | '\x7d' :: _ => return (a, c.next)
    | [] => lift (c.fail .eofInObject)
    | _ => lift (c.fail .expectedValue)
  | _ => lift (c.failAhead .expectedValue)

/-- A record being read, with the names of the fields that have been there. -/
structure Draft (ρ : Type) where
  record : ρ
  seen : List String

/-- The change that a field's value makes to a record, by the field's name. -/
abbrev FieldTable (ρ : Type) := List (String × Shape (ρ → ρ))

/-- The fields of an object up to its end. Unknown fields do not matter, and known ones come
once. -/
def fields {ρ : Type} (table : FieldTable ρ) : Nat → Bool → Draft ρ → Shape ρ
  | 0, _, _ => fun c => lift (c.fail .eofInObject)
  | fuel + 1, first, d => fun c => do
    let (more, c) ← lift (hasKey first c)
    if more then
      let (key, c) ← lift (readString c.next)
      match table.lookup key with
      | none =>
        let c ← lift (readColon c)
        let c ← lift (skipValue c)
        fields table fuel false d c
      | some change =>
        if key ∈ d.seen then wrong
        else
          let c ← lift (readColon c)
          let (f, c) ← change c
          fields table fuel false ⟨f d.record, key :: d.seen⟩ c
    else return (d.record, c.next)

/-- The fields of a record by their position in an array; fields at the end may be missing. -/
def positions {ρ : Type} : FieldTable ρ → Bool → ρ → Shape ρ
  | [], _, r => fun c => return (r, c)
  | (_, change) :: rest, first, r => fun c => do
    let (more, c) ← lift (hasItem first c)
    if more then
      let (f, c) ← change c
      positions rest false (f r) c
    else return (r, c)

/-- A record that starts from `r`: an object, or an array with the fields in order. -/
def record {ρ : Type} (table : FieldTable ρ) (r : ρ) : Shape ρ := fun c => do
  let c ← start c
  match c.rest with
  | '\x7b' :: _ => fields table (c.rest.length + 1) true ⟨r, []⟩ c.next
  | '[' :: _ =>
    let (r, c) ← positions table true r c.next
    return (r, ← lift (readEnd ']' .eofInList c))
  | _ => otherShape c

end Shape

/-- The value of a whole text, or what is wrong first. -/
def readAs {α : Type} (r : Shape α) (s : String) : Except ShapeError α := do
  let (a, c) ← r (.ofText s.toList)
  Shape.lift (expectEnd c)
  return a

end PolicyTrial.Json
