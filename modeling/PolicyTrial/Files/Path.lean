/-!
# Paths

Paths are texts with `/` between their parts. They are put together and taken apart without looking
at any file, and a path keeps the spelling it was given.

* `Path.join`: a path below another one; an absolute path discards what precedes it.
* `Path.parent?`: the path without its last part.
* `Path.stem`: the last part without its extension.
* `Path.compare`: the order of paths by their parts.
-/

namespace PolicyTrial.Path

/-- Whether a path starts at the root. -/
def isAbsolute (p : String) : Bool := p.toList.head? = some '/'

/-- A path below another one; an absolute path discards what precedes it. -/
def join (base p : String) : String :=
  if isAbsolute p || base = "" then p
  else if base.toList.getLast? = some '/' then base ++ p
  else base ++ "/" ++ p

/-- The texts between the slashes. -/
def split (s : List Char) : List (List Char) :=
  s.foldr (fun c acc => if c = '/' then [] :: acc else
    match acc with
    | [] => [[c]]
    | p :: ps => (c :: p) :: ps) [[]]

/-- Whether a part says nothing where it stands: it is empty or a dot. -/
def isIdle (part : List Char) : Bool := part = [] || part = ['.']

/-- A path as its head and the parts behind it: the head is the root, a leading dot, or nothing. -/
def headAndParts (p : String) : List Char × List (List Char) :=
  match p.toList with
  | '/' :: rest => (['/'], split rest)
  | ['.'] => (['.'], [])
  | '.' :: '/' :: rest => (['.'], [] :: split rest)
  | cs => ([], split cs)

/-- Parts without the idle ones at the end. -/
def dropIdleEnd (parts : List (List Char)) : List (List Char) :=
  (parts.reverse.dropWhile isIdle).reverse

/-- The text of a head and the parts behind it. -/
def ofParts (head : List Char) (parts : List (List Char)) : String :=
  String.ofList (head ++ (['/'] : List Char).intercalate parts)

/-- The path without its last part; nothing for the root and the empty path. -/
def parent? (p : String) : Option String :=
  let (head, parts) := headAndParts p
  match (dropIdleEnd parts).reverse with
  | [] => if head = ['.'] then some "" else none
  | _ :: before => some (ofParts head (dropIdleEnd before.reverse))

/-- The last part, unless the path ends at the root, at a leading dot, or at the part `..`. -/
def name? (p : String) : Option (List Char) :=
  match (dropIdleEnd (headAndParts p).2).getLast? with
  | none => none
  | some part => if part = ['.', '.'] then none else some part

/-- A name without its extension, which starts at the last dot unless the name itself starts
there. -/
def stemOf (name : List Char) : List Char :=
  match (name.reverse.dropWhile (· ≠ '.')).drop 1 with
  | [] => name
  | before => before.reverse

/-- The last part without its extension; the whole path if it has no name. -/
def stem (p : String) : String :=
  match name? p with
  | some name => String.ofList (stemOf name)
  | none => p

/-- The rank of a part among the parts of other kinds, and its text. -/
abbrev RankedPart := Nat × List Char

/-- The parts of a path that say where it leads: the root, a leading dot, steps up, and names. -/
def rankedParts (p : String) : List RankedPart :=
  let (head, parts) := headAndParts p
  let start := if head = ['/'] then [(0, [])] else if head = ['.'] then [(1, [])] else []
  start ++ (parts.filter (!isIdle ·)).map fun part =>
    if part = ['.', '.'] then (2, []) else (3, part)

/-- The order of two lists of parts, the first difference deciding. -/
def compareParts : List RankedPart → List RankedPart → Ordering
  | [], [] => .eq
  | [], _ :: _ => .lt
  | _ :: _, [] => .gt
  | (m, a) :: as, (n, b) :: bs =>
    if m < n then .lt
    else if n < m then .gt
    else if a < b then .lt
    else if b < a then .gt
    else compareParts as bs

/-- The order of paths. Paths that differ only in idle parts are the same. -/
def compare (p q : String) : Ordering := compareParts (rankedParts p) (rankedParts q)

example : parent? "a/./b//" = some "a" ∧ parent? "/x" = some "/" ∧ parent? "./x" = some "." ∧
    parent? "x" = some "" ∧ parent? "/" = none := by decide +kernel
example : stem "p/a.b.json" = "a.b" ∧ stem ".hidden" = ".hidden" ∧ stem "a/.." = "a/.." := by
  decide +kernel
example : compare "a//b" "a/./b/" = .eq ∧ compare "b" "a/c" = .gt ∧ compare "./a" "a" = .lt := by
  decide +kernel

end PolicyTrial.Path
