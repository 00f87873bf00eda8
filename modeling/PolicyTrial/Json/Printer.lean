import PolicyTrial.Json.Basic
import PolicyTrial.Number.Shortest
import PolicyTrial.Text.Quoted

/-!
# JSON texts

* `Json.compact`: a value without any space.
* `Json.pretty`: a value over several lines, each level indented by two more spaces.
* `Json.Number.text`: a number; a double has the fewest digits that read back as it.
-/

namespace PolicyTrial

/-- How the digits of a double are laid out: the powers of ten of the first digit from which and
below which they are written with a decimal point and no exponent. -/
structure RealLayout where
  least : Int
  limit : Int

namespace RealLayout

/-- Positional from `0.00001` up to below `10 ^ 16`. -/
def json : RealLayout := ⟨-5, 16⟩

/-- A magnitude in positional notation, with at least one place after the point. -/
def positional (digits : List Char) (exponent : Int) : List Char :=
  let point := (digits.length : Int) + exponent
  if 0 ≤ exponent then digits ++ List.replicate exponent.toNat '0' ++ ['.', '0']
  else if 0 < point then digits.take point.toNat ++ '.' :: digits.drop point.toNat
  else '0' :: '.' :: List.replicate (-point).toNat '0' ++ digits

/-- A magnitude with one digit before the point, and a signed exponent. -/
def scientific (digits : List Char) (exponent : Int) : List Char :=
  let power := (digits.length : Int) + exponent - 1
  let fraction := match digits.drop 1 with
    | [] => []
    | rest => '.' :: rest
  let sign := if power < 0 then '-' else '+'
  digits.take 1 ++ fraction ++ 'e' :: sign :: Nat.toDigits 10 power.natAbs

/-- The text of a double. -/
def render (layout : RealLayout) (x : Binary64) : List Char :=
  let d := x.shortest
  let digits := Nat.toDigits 10 d.digits
  let power := (digits.length : Int) + d.exponent - 1
  let body :=
    if layout.least ≤ power ∧ power < layout.limit then positional digits d.exponent
    else scientific digits d.exponent
  if x.negative then '-' :: body else body

end RealLayout

namespace Json

/-- The decimal digits of an integer, with a minus sign if it is negative. -/
def integerText (i : Int) : List Char :=
  if i < 0 then '-' :: Nat.toDigits 10 i.natAbs else Nat.toDigits 10 i.natAbs

/-- The text of a number. -/
def Number.text : Number → List Char
  | .integer i => integerText i
  | .real x => RealLayout.json.render x

/-- What stands for one character inside a string. -/
def escape (c : Char) : List Char :=
  if c = '"' then ['\\', '"']
  else if c = '\\' then ['\\', '\\']
  else if c = '\x08' then ['\\', 'b']
  else if c = '\x0c' then ['\\', 'f']
  else if c = '\n' then ['\\', 'n']
  else if c = '\r' then ['\\', 'r']
  else if c = '\t' then ['\\', 't']
  else if c.toNat < 0x20 then
    ['\\', 'u', '0', '0', if c.toNat < 0x10 then '0' else '1'] ++ Text.hexDigits (c.toNat % 16)
  else [c]

/-- A string between double quotes. -/
def stringText (s : String) : List Char := '"' :: s.toList.flatMap escape ++ ['"']

mutual

/-- The text of a value without any space. -/
def compactText : Json → List Char
  | .null => "null".toList
  | .bool true => "true".toList
  | .bool false => "false".toList
  | .number n => n.text
  | .string s => stringText s
  | .array [] => "[]".toList
  | .array (x :: xs) => '[' :: compactText x ++ compactItems xs ++ [']']
  | .object [] => "\x7b\x7d".toList
  | .object ((k, v) :: rest) =>
    '\x7b' :: stringText k ++ ':' :: compactText v ++ compactFields rest ++ ['\x7d']

/-- The items after the first, each behind a comma. -/
def compactItems : List Json → List Char
  | [] => []
  | x :: xs => ',' :: compactText x ++ compactItems xs

/-- The fields after the first, each behind a comma. -/
def compactFields : List (String × Json) → List Char
  | [] => []
  | (k, v) :: rest => ',' :: stringText k ++ ':' :: compactText v ++ compactFields rest

end

/-- The text of a value on one line, without any space. -/
def compact (j : Json) : String := String.ofList (compactText j)

/-- A new line at a level. -/
def newLine (level : Nat) : List Char := '\n' :: List.replicate (2 * level) ' '

mutual

/-- The text of a value that starts at a level, over several lines. -/
def prettyText (level : Nat) : Json → List Char
  | .null => "null".toList
  | .bool true => "true".toList
  | .bool false => "false".toList
  | .number n => n.text
  | .string s => stringText s
  | .array [] => "[]".toList
  | .array (x :: xs) =>
    '[' :: newLine (level + 1) ++ prettyText (level + 1) x ++ prettyItems (level + 1) xs
      ++ newLine level ++ [']']
  | .object [] => "\x7b\x7d".toList
  | .object ((k, v) :: rest) =>
    '\x7b' :: newLine (level + 1) ++ stringText k ++ ':' :: ' ' :: prettyText (level + 1) v
      ++ prettyFields (level + 1) rest ++ newLine level ++ ['\x7d']

/-- The items after the first, each on a new line behind a comma. -/
def prettyItems (level : Nat) : List Json → List Char
  | [] => []
  | x :: xs => ',' :: newLine level ++ prettyText level x ++ prettyItems level xs

/-- The fields after the first, each on a new line behind a comma. -/
def prettyFields (level : Nat) : List (String × Json) → List Char
  | [] => []
  | (k, v) :: rest =>
    ',' :: newLine level ++ stringText k ++ ':' :: ' ' :: prettyText level v
      ++ prettyFields level rest

end

/-- The text of a value over several lines, two spaces to a level. -/
def pretty (j : Json) : String := String.ofList (prettyText 0 j)

end Json

end PolicyTrial
