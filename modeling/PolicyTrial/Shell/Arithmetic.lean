import PolicyTrial.Number.Power
import PolicyTrial.Shell.Octets

/-!
# Arithmetic of the shell

Integers of 64 bits, with the operators of the shell. Division goes toward zero.

* `Shell.Arithmetic.value`: the value of an expression, with the variables that it assigns.
-/

namespace PolicyTrial.Shell.Arithmetic

/-- What an expression is made of. -/
inductive Token
  | number (n : Int)
  | name (s : Octets)
  | symbol (s : String)
  deriving Repr, DecidableEq

/-- The operators, longer ones first. -/
def symbols : List String :=
  ["<<=", ">>=", "&&", "||", "==", "!=", "<=", ">=", "<<", ">>", "+=", "-=", "*=", "/=", "%=",
    "+", "-", "*", "/", "%", "<", ">", "=", "!", "~", "&", "|", "^", "(", ")", "?", ":"]

/-- The number at the head of a text, in base 16 behind `0x`, in base 8 behind `0`. -/
def number (s : Octets) : Int × Octets :=
  let word := s.takeWhile Char.isAlphanum
  let rest := s.drop word.length
  let inBase (base : Nat) (ds : Octets) : Int :=
    ds.foldl (fun v d => v * base + (if d.isDigit then d.toNat - '0'.toNat
      else d.toLower.toNat - 'a'.toNat + 10 : Nat)) 0
  match word with
  | '0' :: 'x' :: ds => (inBase 16 ds, rest)
  | '0' :: ds => (inBase 8 ds, rest)
  | ds => (inBase 10 ds, rest)

/-- The tokens of an expression; nothing if something stands there that is none. -/
def tokens : Nat → Octets → Option (List Token)
  | 0, _ => none
  | _ + 1, [] => some []
  | n + 1, c :: rest =>
    if c = ' ' ∨ c = '\t' ∨ c = '\n' then tokens n rest
    else if c.isDigit then
      let (v, behind) := number (c :: rest)
      (tokens n behind).map (.number v :: ·)
    else if c.isAlpha ∨ c = '_' then
      let name := (c :: rest).takeWhile fun d => d.isAlphanum || d = '_'
      (tokens n ((c :: rest).drop name.length)).map (.name name :: ·)
    else
      match symbols.find? fun s => s.toList.isPrefixOf (c :: rest) with
      | some s => (tokens n ((c :: rest).drop s.length)).map (.symbol s :: ·)
      | none => none

/-- The binary operators with how tightly they bind. -/
def binaries : List (String × Nat) :=
  [("||", 1), ("&&", 2), ("|", 3), ("^", 4), ("&", 5), ("==", 6), ("!=", 6), ("<", 7), (">", 7),
    ("<=", 7), (">=", 7), ("<<", 8), (">>", 8), ("+", 9), ("-", 9), ("*", 10), ("/", 10), ("%", 10)]

/-- A truth value as a number. -/
def truth (b : Bool) : Int := if b then 1 else 0

/-- An integer in 64 bits. -/
def word (i : Int) : Int := Int.bmod i (twoTo 64)

/-- The bits of an integer, combined with those of another one. -/
def bits (f : Nat → Nat → Nat) (a b : Int) : Int :=
  word (f (a % twoTo 64).toNat (b % twoTo 64).toNat)

/-- The value of a binary operator; nothing for a division by zero. -/
def binary (op : String) (a b : Int) : Option Int :=
  match op with
  | "||" => some (truth (a ≠ 0 || b ≠ 0))
  | "&&" => some (truth (a ≠ 0 && b ≠ 0))
  | "|" => some (bits Nat.lor a b)
  | "^" => some (bits Nat.xor a b)
  | "&" => some (bits Nat.land a b)
  | "==" => some (truth (a == b))
  | "!=" => some (truth (a != b))
  | "<" => some (truth (a < b))
  | ">" => some (truth (a > b))
  | "<=" => some (truth (a ≤ b))
  | ">=" => some (truth (a ≥ b))
  | "<<" => some (word (a * twoTo (b % 64).toNat))
  | ">>" => some (Int.fdiv a (twoTo (b % 64).toNat))
  | "+" => some (word (a + b))
  | "-" => some (word (a - b))
  | "*" => some (word (a * b))
  | "/" => if b = 0 then none else some (word (Int.tdiv a b))
  | "%" => if b = 0 then none else some (Int.tmod a b)
  | _ => none

/-- Variables by name. -/
abbrev Variables := List (Octets × Octets)

/-- The number that a variable holds, zero if it holds none. -/
def lookup (vars : Variables) (name : Octets) : Int :=
  ((vars.lookup name).bind Octets.integer?).getD 0

/-- A variable gets a number. -/
def assign (name : Octets) (v : Int) (vars : Variables) : Variables :=
  (name, Octets.ofInt v) :: vars.filter (·.1 != name)

/-- The operators that assign, with the binary operator they apply. -/
def assigning : List (String × Option String) :=
  [("=", none), ("+=", some "+"), ("-=", some "-"), ("*=", some "*"), ("/=", some "/"),
    ("%=", some "%"), ("<<=", some "<<"), (">>=", some ">>")]

/-- The value at the head of some tokens, the variables after it, and the tokens behind it. -/
abbrev Step := Option (Int × Variables × List Token)

mutual

/-- An expression: an assignment, a choice, or a combination. -/
def expression : Nat → Variables → List Token → Step
  | 0, _, _ => none
  | fuel + 1, vars, ts =>
    match ts with
    | .name x :: .symbol op :: rest =>
      match assigning.lookup op with
      | some combine =>
        (expression fuel vars rest).bind fun (v, vars, rest) =>
          let result := match combine with
            | none => some v
            | some op => binary op (lookup vars x) v
          result.map fun r => (r, assign x r vars, rest)
      | none => choice fuel vars ts
    | _ => choice fuel vars ts

/-- A combination, with two alternatives behind it or none. -/
def choice : Nat → Variables → List Token → Step
  | 0, _, _ => none
  | fuel + 1, vars, ts =>
    (combination fuel 1 vars ts).bind fun (test, vars, rest) =>
      match rest with
      | .symbol "?" :: rest =>
        (expression fuel vars rest).bind fun (a, vars, rest) =>
          match rest with
          | .symbol ":" :: rest =>
            (expression fuel vars rest).map fun (b, vars, rest) =>
              (if test ≠ 0 then a else b, vars, rest)
          | _ => none
      | _ => some (test, vars, rest)

/-- Operands joined by operators that bind at least so tightly. -/
def combination : Nat → Nat → Variables → List Token → Step
  | 0, _, _, _ => none
  | fuel + 1, least, vars, ts =>
    (operand fuel vars ts).bind fun (a, vars, rest) => joined fuel least a vars rest

/-- A value with the operators that follow it. -/
def joined : Nat → Nat → Int → Variables → List Token → Step
  | 0, _, _, _, _ => none
  | fuel + 1, least, a, vars, ts =>
    match ts with
    | .symbol op :: rest =>
      match binaries.lookup op with
      | some strength =>
        if strength < least then some (a, vars, ts)
        else
          (combination fuel (strength + 1) vars rest).bind fun (b, vars, rest) =>
            (binary op a b).bind fun v => joined fuel least v vars rest
      | none => some (a, vars, ts)
    | _ => some (a, vars, ts)

/-- A number, a variable, an expression in parentheses, or an operand behind a sign. -/
def operand : Nat → Variables → List Token → Step
  | 0, _, _ => none
  | fuel + 1, vars, ts =>
    match ts with
    | .number n :: rest => some (n, vars, rest)
    | .name x :: rest => some (lookup vars x, vars, rest)
    | .symbol "(" :: rest =>
      (expression fuel vars rest).bind fun (v, vars, rest) =>
        match rest with
        | .symbol ")" :: rest => some (v, vars, rest)
        | _ => none
    | .symbol "-" :: rest => (operand fuel vars rest).map fun (v, more) => (word (-v), more)
    | .symbol "+" :: rest => operand fuel vars rest
    | .symbol "!" :: rest => (operand fuel vars rest).map fun (v, more) => (truth (v == 0), more)
    | .symbol "~" :: rest => (operand fuel vars rest).map fun (v, more) => (-v - 1, more)
    | _ => none

end

/-- The value of an expression, with the variables that it assigns; nothing if it has none. -/
def value (vars : Variables) (s : Octets) : Option (Int × Variables) :=
  match tokens (s.length + 1) s with
  | none => none
  | some [] => some (0, vars)
  | some ts =>
    match expression (8 * ts.length + 8) vars ts with
    | some (v, vars, []) => some (v, vars)
    | _ => none

example : (value [] "1+2*3".toList).map (·.1) = some 7 := by decide +kernel
example : (value [(['i'], ['4'])] "i=(i+1)%3".toList).map (·.1) = some 2 := by decide +kernel

end PolicyTrial.Shell.Arithmetic
