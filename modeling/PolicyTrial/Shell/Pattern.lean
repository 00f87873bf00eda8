import PolicyTrial.Shell.Octets

/-!
# Patterns of the shell

* `Shell.Pattern`: a text in which some characters stand for others.
* `Shell.Pattern.matches`: whether a pattern fits a whole text.
* `Shell.withoutStart`, `Shell.withoutEnd`: a text without a part that a pattern fits.
-/

namespace PolicyTrial.Shell

/-- An octet of an expanded word, and whether it was quoted. -/
abbrev Marked := Char × Bool

/-- One element of a pattern. -/
inductive PatternItem
  | char (c : Char)
  | anyChar
  | anyText
  /-- One character in, or with `negated` outside, some ranges. -/
  | oneOf (negated : Bool) (ranges : List (Char × Char))
  deriving Repr, DecidableEq

/-- A text in which some characters stand for others. -/
abbrev Pattern := List PatternItem

namespace Pattern

/-- The ranges of a bracket up to its end, and what is behind it. -/
def ranges : Bool → List (Char × Char) → List Marked → Option (List (Char × Char) × List Marked)
  | _, _, [] => none
  | first, out, (']', false) :: rest =>
    if first then ranges false (out ++ [(']', ']')]) rest else some (out, rest)
  | _, out, (a, _) :: ('-', false) :: (b, q) :: rest =>
    if b = ']' ∧ !q then some (out ++ [(a, a), ('-', '-')], rest)
    else ranges false (out ++ [(a, b)]) rest
  | _, out, (a, _) :: rest => ranges false (out ++ [(a, a)]) rest

/-- A bracket behind its opening, and what is behind it. -/
def bracket (s : List Marked) : Option (PatternItem × List Marked) :=
  match s with
  | ('!', false) :: rest | ('^', false) :: rest =>
    (ranges true [] rest).map fun (rs, behind) => (.oneOf true rs, behind)
  | _ => (ranges true [] s).map fun (rs, behind) => (.oneOf false rs, behind)

/-- The pattern of an expanded word. Quoted octets stand for themselves, and so does a bracket that
is not closed. -/
def ofMarkedWithin : Nat → List Marked → Pattern
  | 0, _ => []
  | _ + 1, [] => []
  | n + 1, (c, true) :: rest => .char c :: ofMarkedWithin n rest
  | n + 1, ('*', false) :: rest => .anyText :: ofMarkedWithin n rest
  | n + 1, ('?', false) :: rest => .anyChar :: ofMarkedWithin n rest
  | n + 1, ('[', false) :: rest =>
    match bracket rest with
    | some (item, behind) => item :: ofMarkedWithin n behind
    | none => .char '[' :: ofMarkedWithin n rest
  | n + 1, ('\\', false) :: (c, _) :: rest => .char c :: ofMarkedWithin n rest
  | n + 1, (c, false) :: rest => .char c :: ofMarkedWithin n rest

/-- The pattern of an expanded word. -/
def ofMarked (s : List Marked) : Pattern := ofMarkedWithin s.length s

/-- Whether an element fits one character. -/
def fits : PatternItem → Char → Bool
  | .char c, d => c == d
  | .anyChar, _ => true
  | .anyText, _ => false
  | .oneOf negated rs, d => (rs.any fun (a, b) => a ≤ d && d ≤ b) != negated

/-- Whether a pattern fits a whole text. -/
def «matches» : Pattern → Octets → Bool
  | [], s => s.isEmpty
  | .anyText :: rest, [] => Pattern.matches rest []
  | .anyText :: rest, c :: s =>
    Pattern.matches rest (c :: s) || Pattern.matches (.anyText :: rest) s
  | _ :: _, [] => false
  | item :: rest, c :: s => fits item c && Pattern.matches rest s
termination_by p s => (s.length, p.length)

end Pattern

/-- A text without the shortest, or the longest, start that a pattern fits. -/
def withoutStart (longest : Bool) (p : Pattern) (s : Octets) : Octets :=
  let lengths := List.range (s.length + 1)
  let tried := if longest then lengths.reverse else lengths
  match tried.find? fun n => Pattern.matches p (s.take n) with
  | some n => s.drop n
  | none => s

/-- A text without the shortest, or the longest, end that a pattern fits. -/
def withoutEnd (longest : Bool) (p : Pattern) (s : Octets) : Octets :=
  let lengths := List.range (s.length + 1)
  let tried := if longest then lengths else lengths.reverse
  match tried.find? fun n => Pattern.matches p (s.drop n) with
  | some n => s.take n
  | none => s

end PolicyTrial.Shell
