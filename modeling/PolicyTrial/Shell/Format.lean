import PolicyTrial.Shell.Octets

/-!
# Formatted output

* `Shell.Format.unescape`: what backslashes stand for.
* `Shell.Format.echo`: what `echo` writes.
* `Shell.Format.printf`: what `printf` writes; the format is used again while arguments are left.
-/

namespace PolicyTrial.Shell.Format

/-- The escapes of one letter. -/
def letters : List (Char × Char) :=
  [('a', Char.ofNat 7), ('b', Char.ofNat 8), ('f', Char.ofNat 12), ('n', '\n'), ('r', '\r'),
    ('t', '\t'), ('v', Char.ofNat 11), ('\\', '\\')]

/-- What backslashes stand for, and whether the output ends here. In arguments an octal number
starts with an additional zero. -/
def unescape (inArgument : Bool) : Nat → Octets → Octets × Bool
  | 0, s => (s, false)
  | _ + 1, [] => ([], false)
  | n + 1, '\\' :: c :: rest =>
    let (out, behind, ended) : Octets × Octets × Bool :=
      match letters.lookup c with
      | some d => ([d], rest, false)
      | none =>
        if c = 'c' ∧ inArgument then ([], [], true)
        else if c = '0' ∧ inArgument then
          let (v, behind) := Octets.octal 3 rest
          ([Char.ofNat (v % 256)], behind, false)
        else if '0' ≤ c ∧ c ≤ '7' ∧ !inArgument then
          let (v, behind) := Octets.octal 3 (c :: rest)
          ([Char.ofNat (v % 256)], behind, false)
        else if (c = '"' ∨ c = '\'') ∧ !inArgument then ([c], rest, false)
        else (['\\', c], rest, false)
    if ended then (out, true)
    else
      let (more, ended) := unescape inArgument n behind
      (out ++ more, ended)
  | n + 1, c :: rest =>
    let (more, ended) := unescape inArgument n rest
    (c :: more, ended)

/-- The arguments of `echo` with a blank between two, and a line end unless it is not wanted. -/
def echo (args : List Octets) : Octets :=
  let (noEnd, words) := match args with
    | ['-', 'n'] :: rest => (true, rest)
    | _ => (false, args)
  let line := ([' '] : Octets).intercalate words
  let (out, ended) := unescape true (line.length + 1) line
  if ended || noEnd then out else out ++ ['\n']

/-- A conversion in a format. -/
structure Conversion where
  flags : Octets
  width : Nat
  precision : Option Nat
  kind : Char
  deriving Repr, DecidableEq

/-- A part of a format. -/
inductive Part
  | text (s : Octets)
  | conversion (c : Conversion)
  deriving Repr, DecidableEq

/-- The parts of a format, and whether the output ends behind them. -/
def parts : Nat → Octets → List Part
  | 0, _ => []
  | _ + 1, [] => []
  | n + 1, '%' :: '%' :: rest => .text ['%'] :: parts n rest
  | n + 1, '%' :: rest =>
    let flags := rest.takeWhile (['-', '+', ' ', '0', '#'].contains ·)
    let rest := rest.drop flags.length
    let width := rest.takeWhile Char.isDigit
    let rest := rest.drop width.length
    let (precision, rest) := match rest with
      | '.' :: behind =>
        let ds := behind.takeWhile Char.isDigit
        (some ((Octets.digits? ds).getD 0), behind.drop ds.length)
      | _ => (none, rest)
    match rest with
    | [] => []
    | kind :: rest =>
      .conversion ⟨flags, (Octets.digits? width).getD 0, precision, kind⟩ :: parts n rest
  | n + 1, s =>
    let run := s.takeWhile (· ≠ '%')
    .text (unescape false (run.length + 1) run).1 :: parts n (s.drop run.length)

/-- A text in a field of some width. -/
def padded (c : Conversion) (s : Octets) : Octets :=
  let fill := c.width - s.length
  if c.flags.contains '-' then s ++ List.replicate fill ' '
  else if c.flags.contains '0' && c.kind != 's' then
    match s with
    | '-' :: ds => '-' :: List.replicate fill '0' ++ ds
    | _ => List.replicate fill '0' ++ s
  else List.replicate fill ' ' ++ s

/-- The integer that an argument stands for. -/
def integer (arg : Octets) : Int :=
  match arg with
  | '\'' :: c :: _ | '"' :: c :: _ => c.toNat
  | '0' :: 'x' :: ds =>
    (ds.foldl (fun v d => v * 16 + (if d.isDigit then d.toNat - '0'.toNat
      else d.toLower.toNat - 'a'.toNat + 10)) 0 : Nat)
  | '0' :: ds => (Octets.octal ds.length ds).1
  | _ => (Octets.integer? arg).getD 0

/-- An argument as a conversion shows it. -/
def convert (c : Conversion) (arg : Octets) : Octets :=
  let cut (s : Octets) : Octets := (c.precision.map s.take).getD s
  match c.kind with
  | 's' => padded c (cut arg)
  | 'b' => padded c (cut (unescape true (arg.length + 1) arg).1)
  | 'c' => padded c (arg.take 1)
  | 'd' | 'i' | 'u' =>
    let s := Octets.ofInt (integer arg)
    padded c (if c.flags.contains '+' && s.head? != some '-' then '+' :: s else s)
  | 'o' => padded c (Nat.toDigits 8 (integer arg).toNat)
  | 'x' => padded c (Nat.toDigits 16 (integer arg).toNat)
  | 'X' => padded c ((Nat.toDigits 16 (integer arg).toNat).map Char.toUpper)
  | _ => []

/-- What the parts of a format write with some arguments, and the arguments that are left. -/
def fill : List Part → List Octets → Octets × List Octets
  | [], args => ([], args)
  | .text s :: rest, args =>
    let (out, left) := fill rest args
    (s ++ out, left)
  | .conversion c :: rest, args =>
    let (out, left) := fill rest args.tail
    (convert c (args.headD []) ++ out, left)

/-- The parts of a format, used again while arguments are left, so many times at most. -/
def fillAll (ps : List Part) : Nat → List Octets → Octets
  | 0, _ => []
  | n + 1, args =>
    let (out, left) := fill ps args
    if left.isEmpty || left.length == args.length then out else out ++ fillAll ps n left

/-- What `printf` writes. -/
def printf (format : Octets) (args : List Octets) : Octets :=
  fillAll (parts (format.length + 1) format) (args.length + 1) args

example : printf "[%s]".toList ["a".toList, "b c".toList] = "[a][b c]".toList := by decide +kernel
example : printf "\\377%03d\\n".toList ["7".toList] = Char.ofNat 255 :: "007\n".toList := by
  decide +kernel

end PolicyTrial.Shell.Format
