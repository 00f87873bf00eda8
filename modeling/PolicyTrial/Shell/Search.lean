import PolicyTrial.Shell.Pattern

/-!
# Regular expressions

The basic expressions with which lines are looked for: characters, the dot, brackets, repetition,
and the two anchors.

* `Shell.Expression`: an expression.
* `Shell.Expression.occursIn`: whether it fits some part of a line.
-/

namespace PolicyTrial.Shell

/-- How often an element comes. -/
inductive Count
  | once
  | anyNumber
  | atLeastOnce
  | atMostOnce
  deriving Repr, DecidableEq

/-- An expression: elements with their counts, and whether it holds on to the start and the end of a
line. -/
structure Expression where
  atStart : Bool
  items : List (PatternItem × Count)
  atEnd : Bool
  deriving Repr, DecidableEq

namespace Expression

/-- Whether an octet ends an expression at the end of a line. -/
def isEndAnchor (s : Octets) : Bool := s = ['$']

/-- The elements of an expression; `extended` says whether plus and question mark are counts. -/
def itemsOf (extended : Bool) : Nat → Octets → List (PatternItem × Count)
  | 0, _ => []
  | _ + 1, [] => []
  | n + 1, c :: rest =>
    if isEndAnchor (c :: rest) then []
    else
      let (item, behind) : PatternItem × Octets :=
        match c, rest with
        | '.', _ => (.anyChar, rest)
        | '[', _ =>
          match Pattern.bracket (rest.map fun d => (d, false)) with
          | some (item, behind) => (item, behind.map (·.1))
          | none => (.char '[', rest)
        | '\\', d :: more => (.char d, more)
        | _, _ => (.char c, rest)
      match behind with
      | '*' :: more => (item, .anyNumber) :: itemsOf extended n more
      | '+' :: more =>
        if extended then (item, .atLeastOnce) :: itemsOf extended n more
        else (item, .once) :: itemsOf extended n behind
      | '?' :: more =>
        if extended then (item, .atMostOnce) :: itemsOf extended n more
        else (item, .once) :: itemsOf extended n behind
      | _ => (item, .once) :: itemsOf extended n behind

/-- The expression of a text. -/
def ofText (extended : Bool) (s : Octets) : Expression :=
  let (atStart, body) := match s with
    | '^' :: rest => (true, rest)
    | _ => (false, s)
  ⟨atStart, itemsOf extended body.length body, body.getLast? = some '$'⟩

/-- The expression that a text fits only literally. -/
def literal (s : Octets) : Expression := ⟨false, s.map fun c => (.char c, .once), false⟩

/-- Whether elements fit the head of a text, or all of it. -/
def fitsHead (whole : Bool) : List (PatternItem × Count) → Octets → Bool
  | [], s => !whole || s.isEmpty
  | (item, .once) :: rest, s =>
    match s with
    | [] => false
    | c :: more => Pattern.fits item c && fitsHead whole rest more
  | (item, .atMostOnce) :: rest, s =>
    fitsHead whole rest s ||
      match s with
      | [] => false
      | c :: more => Pattern.fits item c && fitsHead whole rest more
  | (item, .anyNumber) :: rest, s =>
    fitsHead whole rest s ||
      match s with
      | [] => false
      | c :: more => Pattern.fits item c && fitsHead whole ((item, .anyNumber) :: rest) more
  | (item, .atLeastOnce) :: rest, s =>
    match s with
    | [] => false
    | c :: more => Pattern.fits item c && fitsHead whole ((item, .anyNumber) :: rest) more
termination_by items s => (s.length, items.length)

/-- Whether an expression fits some part of a line from here on. -/
def occursFrom (e : Expression) : Octets → Bool
  | [] => fitsHead e.atEnd e.items []
  | c :: rest => fitsHead e.atEnd e.items (c :: rest) || occursFrom e rest

/-- Whether an expression fits some part of a line. -/
def occursIn (e : Expression) (line : Octets) : Bool :=
  if e.atStart then fitsHead e.atEnd e.items line else occursFrom e line

end Expression

end PolicyTrial.Shell
