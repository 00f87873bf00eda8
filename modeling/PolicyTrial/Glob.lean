/-!
# Glob patterns

Patterns that select texts: `?` stands for a character, `*` for any text, `**` for whole levels of a
path, and brackets for a choice of characters.

* `Glob.parse`: the pieces of a pattern; nothing if it is no pattern.
* `Glob.matches`: whether a text is matched.
* `Glob.matches_eq`: it is matched if the pieces match it one after another.
-/

namespace PolicyTrial

/-- A character or a range of characters in brackets. -/
structure CharSpan where
  first : Char
  last : Char
  deriving Repr, DecidableEq

/-- A piece of a pattern. -/
inductive GlobPiece
  | char (c : Char)
  | anyChar
  | oneOf (spans : List CharSpan)
  | noneOf (spans : List CharSpan)
  /-- Any text, separators included. -/
  | anyText
  /-- Any number of whole levels of a path. -/
  | levels
  deriving Repr, DecidableEq

/-- A pattern. -/
structure Glob where
  pieces : List GlobPiece
  deriving Repr, DecidableEq

namespace Glob

/-- The characters and ranges between brackets. -/
def spans : List Char → List CharSpan
  | a :: '-' :: b :: rest => ⟨a, b⟩ :: spans rest
  | a :: rest => ⟨a, a⟩ :: spans rest
  | [] => []

/-- What stands between brackets, and the pattern behind them. The first character belongs to the
choice even if it is a closing bracket. -/
def bracketed : List Char → Option (List Char × List Char)
  | [] => none
  | first :: rest =>
    if rest.contains ']' then
      some (first :: rest.takeWhile (· ≠ ']'), (rest.dropWhile (· ≠ ']')).drop 1)
    else none

/-- The piece behind an opening bracket, and the pattern behind it. -/
def bracketPiece : List Char → Option (GlobPiece × List Char)
  | '!' :: rest => (bracketed rest).map fun (body, after) => (.noneOf (spans body), after)
  | rest => (bracketed rest).map fun (body, after) => (.oneOf (spans body), after)

/-- The piece at the head of a pattern that is not empty, its last character, and the pattern behind
it. `prev` is the character before the piece. Two stars have to be a whole level, and more than two
are an error. -/
def firstPiece (prev : Option Char) : List Char → Option (GlobPiece × Char × List Char)
  | [] => none
  | '?' :: rest => some (.anyChar, '?', rest)
  | '*' :: '*' :: '*' :: _ => none
  | '*' :: '*' :: rest =>
    if prev = none ∨ prev = some '/' then
      match rest with
      | [] => some (.levels, '*', [])
      | '/' :: rest => some (.levels, '/', rest)
      | _ => none
    else none
  | '*' :: rest => some (.anyText, '*', rest)
  | '[' :: rest => (bracketPiece rest).map fun (piece, after) => (piece, ']', after)
  | c :: rest => some (.char c, c, rest)

/-- The pieces of a pattern behind a character; every piece takes a character at least. -/
def piecesAfter : Nat → Option Char → List Char → Option (List GlobPiece)
  | _, _, [] => some []
  | 0, _, _ :: _ => none
  | fuel + 1, prev, cs => do
    let (piece, last, rest) ← firstPiece prev cs
    let pieces ← piecesAfter fuel (some last) rest
    return piece :: pieces

/-- The pattern that a text spells; nothing if it spells none. -/
def parse (s : String) : Option Glob :=
  (piecesAfter s.length none s.toList).map (⟨·⟩)

/-- Whether a character is among the characters and ranges. -/
def inSpans (spans : List CharSpan) (c : Char) : Bool :=
  spans.any fun r => r.first ≤ c && c ≤ r.last

/-- The ends of a text that start behind a separator, and the empty end. -/
def levelStarts : List Char → List (List Char)
  | [] => [[]]
  | c :: rest => if c = '/' then rest :: levelStarts rest else levelStarts rest

/-- All ends of a text, the longest first. -/
def ends : List Char → List (List Char)
  | [] => [[]]
  | c :: rest => (c :: rest) :: ends rest

/-- Whether a piece that stands for one character stands for this one. -/
def fits : GlobPiece → Char → Bool
  | .char x, c => x == c
  | .anyChar, _ => true
  | .oneOf spans, c => inSpans spans c
  | .noneOf spans, c => !inSpans spans c
  | .anyText, _ | .levels, _ => false

/-- Whether pieces match a whole text. -/
def matchPieces : List GlobPiece → List Char → Bool
  | [], s => s.isEmpty
  | .anyText :: ps, s => (ends s).any (matchPieces ps)
  | .levels :: ps, s => matchPieces ps s || (levelStarts s).any (matchPieces ps)
  | _ :: _, [] => false
  | p :: ps, c :: s => fits p c && matchPieces ps s

/-! ### Every end at once

To try every end anew for every star takes too long where there are many stars. A table holds for
every end of a text, the longest first, whether something is true of it.
-/

/-- Whether a table says so of an end or of a shorter one. -/
def orShorter : List Bool → List Bool
  | [] => []
  | b :: bs =>
    let rest := orShorter bs
    (b || rest.headD false) :: rest

/-- Whether a table says so of the rest of an end behind a character for which a piece stands. -/
def behindChar (p : GlobPiece) : List Char → List Bool → List Bool
  | c :: s, _ :: bs => (fits p c && bs.headD false) :: behindChar p s bs
  | _, _ => [false]

/-- Whether a table says so of a shorter end that starts behind a separator, or of the empty end. -/
def behindLevels : List Char → List Bool → List Bool
  | c :: s, _ :: bs =>
    let rest := behindLevels s bs
    (c == '/' && bs.headD false || rest.headD false) :: rest
  | _, bs => bs

/-- The table of the ends that pieces match. -/
def matchTable : List GlobPiece → List Char → List Bool
  | [], s => (ends s).map List.isEmpty
  | .anyText :: ps, s => orShorter (matchTable ps s)
  | .levels :: ps, s =>
    let bs := matchTable ps s
    List.zipWith or bs (behindLevels s bs)
  | p :: ps, s => behindChar p s (matchTable ps s)

@[simp] theorem head?_ends (s : List Char) : (ends s).head? = some s := by
  cases s <;> rfl

theorem orShorter_ends (f : List Char → Bool) (s : List Char) :
    orShorter ((ends s).map f) = (ends s).map fun e => (ends e).any f := by
  induction s with
  | nil => simp [ends, orShorter]
  | cons c s ih => simp [ends, orShorter, ih]

theorem behindLevels_ends (f : List Char → Bool) (s : List Char) :
    behindLevels s ((ends s).map f) = (ends s).map fun e => (levelStarts e).any f := by
  induction s with
  | nil => simp [ends, behindLevels, levelStarts]
  | cons c s ih =>
    have later : levelStarts (c :: s) = if c = '/' then s :: levelStarts s else levelStarts s := rfl
    by_cases h : c = '/'
    · subst h
      simp [ends, behindLevels, ih, later]
    · simp [ends, behindLevels, ih, later, h]

theorem behindChar_ends (p : GlobPiece) (f : List Char → Bool) (s : List Char) :
    behindChar p s ((ends s).map f) = (ends s).map fun e => match e with
      | [] => false
      | c :: r => fits p c && f r := by
  induction s with
  | nil => rfl
  | cons c s ih => simp [ends, behindChar, ih]

/-- The table says of every end whether pieces match it. -/
theorem matchTable_eq (ps : List GlobPiece) (s : List Char) :
    matchTable ps s = (ends s).map (matchPieces ps) := by
  induction ps with
  | nil => simp [matchTable, matchPieces]
  | cons p ps ih =>
    have oneChar (h : matchTable (p :: ps) s = behindChar p s (matchTable ps s))
        (hp : ∀ e, matchPieces (p :: ps) e = match e with
          | [] => false
          | c :: r => fits p c && matchPieces ps r) :
        matchTable (p :: ps) s = (ends s).map (matchPieces (p :: ps)) := by
      rw [h, ih, behindChar_ends]
      exact List.map_congr_left fun e _ => (hp e).symm
    cases p with
    | anyText => rw [matchTable, ih, orShorter_ends]; rfl
    | levels =>
      rw [matchTable, ih, behindLevels_ends, List.zipWith_map, List.zipWith_self]
      rfl
    | _ => exact oneChar rfl fun e => by cases e <;> rfl

/-- Whether a pattern matches a whole text. -/
def «matches» (g : Glob) (s : String) : Bool := (matchTable g.pieces s.toList).headD false

theorem matches_eq (g : Glob) (s : String) : g.matches s = matchPieces g.pieces s.toList := by
  simp [«matches», matchTable_eq]

example : ((parse "a::*[!x-z]").map (·.matches "a::b/cy")) = some false := by decide +kernel
example : parse "a**" = none ∧ parse "[" = none := by decide +kernel

end Glob

end PolicyTrial
