import PolicyTrial.Shell.Octets
import PolicyTrial.Files.Tree

/-!
# Conditions of the shell

* `Shell.Condition.holds`: whether the arguments of `test` state something true.
* `Shell.Condition.Fault`: why they state nothing.
-/

namespace PolicyTrial.Shell.Condition

/-- Why arguments state nothing. -/
inductive Fault
  | illegalNumber (s : Octets)
  | misplaced (s : Octets)
  | incomplete
  deriving Repr, DecidableEq

/-- The wording of a fault. -/
def Fault.message : Fault → Octets
  | .illegalNumber s => "Illegal number: ".toList ++ s
  | .misplaced s => s ++ ": unexpected operator".toList
  | .incomplete => "argument expected".toList

/-- The integer that an argument spells, blanks around it allowed. -/
def integer (s : Octets) : Except Fault Int :=
  let isBlank (c : Char) : Bool := c == ' ' || c == '\t' || c == '\n'
  let trimmed := ((s.dropWhile isBlank).reverse.dropWhile isBlank).reverse
  match Octets.integer? trimmed with
  | some i => .ok i
  | none => .error (.illegalNumber s)

/-- What an operator says of one argument. -/
def unary? (t : FileTree) (op : Octets) (arg : Octets) : Option Bool :=
  let path := Octets.text arg
  let isDevice := arg = "/dev/null".toList
  match op with
  | ['-', 'n'] => some (!arg.isEmpty)
  | ['-', 'z'] => some arg.isEmpty
  | ['-', 'f'] => some (t.isFile path)
  | ['-', 'd'] => some (t.isDir path)
  | ['-', 'e'] => some (t.isFile path || t.isDir path || isDevice)
  | ['-', 'r'] | ['-', 'w'] => some (t.isFile path || t.isDir path || isDevice)
  | ['-', 's'] => some (t.isDir path || !((t.read path).toOption.getD []).isEmpty)
  | ['-', 'x'] =>
    match t.resolve path with
    | .ok (_, some (.file _ executable)) => some executable
    | .ok (_, some .directory) => some true
    | _ => some false
  | ['-', 'h'] | ['-', 'L'] | ['-', 't'] | ['-', 'p'] | ['-', 'S'] | ['-', 'b'] => some false
  | ['-', 'c'] => some isDevice
  | _ => none

/-- What an operator says of two arguments. -/
def binary? (op : Octets) (a b : Octets) : Option (Except Fault Bool) :=
  let compare (f : Int → Int → Bool) : Option (Except Fault Bool) :=
    some (do return f (← integer a) (← integer b))
  match op with
  | ['='] | ['=', '='] => some (.ok (a == b))
  | ['!', '='] => some (.ok (a != b))
  | ['<'] => some (.ok (a < b))
  | ['>'] => some (.ok (b < a))
  | ['-', 'e', 'q'] => compare (· == ·)
  | ['-', 'n', 'e'] => compare (· != ·)
  | ['-', 'l', 't'] => compare (· < ·)
  | ['-', 'l', 'e'] => compare (· ≤ ·)
  | ['-', 'g', 't'] => compare (· > ·)
  | ['-', 'g', 'e'] => compare (· ≥ ·)
  | _ => none

/-- What the first condition of some arguments says, and the arguments behind it. -/
def primary (t : FileTree) : Nat → List Octets → Except Fault (Bool × List Octets)
  | 0, _ | _, [] => .error .incomplete
  | n + 1, a :: rest =>
    match rest with
    | op :: b :: behind =>
      match binary? op a b with
      | some r => do return (← r, behind)
      | none => single n a rest
    | _ => single n a rest
where
  /-- A condition that is not on two arguments. -/
  single (n : Nat) (a : Octets) (rest : List Octets) : Except Fault (Bool × List Octets) :=
    match a, rest with
    | ['!'], _ :: _ => do
      let (b, behind) ← primary t n rest
      return (!b, behind)
    | _, [] => .ok (!a.isEmpty, [])
    | _, b :: behind =>
      match unary? t a b with
      | some r => .ok (r, behind)
      | none => .ok (!a.isEmpty, rest)

/-- Conditions of which all have to hold that are joined by `-a`, and one that are joined by
`-o`. -/
def joined (t : FileTree) : Nat → List Octets → Except Fault Bool
  | 0, _ => .error .incomplete
  | n + 1, args => do
    let (b, behind) ← primary t (args.length + 1) args
    match behind with
    | [] => return b
    | ['-', 'a'] :: rest => return b && (← joined t n rest)
    | ['-', 'o'] :: rest => return b || (← joined t n rest)
    | other :: _ => throw (.misplaced other)

/-- Whether some arguments state something true. -/
def holds (t : FileTree) (args : List Octets) : Except Fault Bool :=
  match args with
  | [] => .ok false
  | [a] => .ok (!a.isEmpty)
  | [['!'], a] => .ok a.isEmpty
  | _ => joined t (args.length + 1) args

end PolicyTrial.Shell.Condition
