import PolicyTrial.Files.Tree
import PolicyTrial.Shell.Search

/-!
# Utilities

The programs that scripts call, as functions of their arguments, their input and the files.

* `Shell.FileChange`: what a program does to the files.
* `Shell.Utility.run`: a program by its name; nothing if there is no such program.
-/

namespace PolicyTrial.Shell

/-- What a program does to the files. -/
inductive FileChange
  | write (path : String) (content : Bytes)
  | makeDir (path : String)
  | remove (path : String)
  deriving Repr, DecidableEq

/-- The files after a change; a change that is not possible changes nothing. -/
def FileChange.apply (t : FileTree) : FileChange → FileTree
  | .write path content => (t.write path content).toOption.getD t
  | .makeDir path => (t.makeDir path).toOption.getD t
  | .remove path => t.remove path

/-- What a program does. -/
structure Effect where
  out : Octets := []
  err : Octets := []
  status : Nat := 0
  /-- What it leaves of its input. -/
  input : Octets := []
  /-- How long it takes, besides being started; nothing if it goes on forever. -/
  span : Option Nat := some 0
  changes : List FileChange := []

namespace Utility

/-- The wording of a file error without its number. -/
def fileReason (e : FileError) : Octets :=
  let s := e.message.toList
  (s.reverse.dropWhile (· ≠ '(')).drop 2 |>.reverse

/-- A complaint about a file. -/
def complaint (program : String) (path : Octets) (e : FileError) : Octets :=
  (program ++ ": ").toList ++ path ++ ": ".toList ++ fileReason e ++ ['\n']

/-- A complaint about something that cannot be done with a file. -/
def refusal (what path : String) (e : FileError) : Octets :=
  Octets.ofString (what ++ " '" ++ path ++ "': ") ++ fileReason e ++ ['\n']

/-- The content of a file; a dash is the input, and the null device is empty. -/
def contentOf (t : FileTree) (input : Octets) (path : Octets) : Except FileError Octets :=
  if path = ['-'] ∨ path = "/dev/stdin".toList then .ok input
  else if path = "/dev/null".toList then .ok []
  else (t.read (Octets.text path)).map Octets.ofBytes

/-- Whether a file never ends. -/
def isEndless (path : Octets) : Bool := path = "/dev/zero".toList

/-- The contents of some files one after another, with the complaints about the others. -/
def contents (program : String) (t : FileTree) (input : Octets) :
    List Octets → Octets × Octets
  | [] => ([], [])
  | path :: rest =>
    let (out, err) := contents program t input rest
    match contentOf t input path with
    | .ok s => (s ++ out, err)
    | .error e => (out, complaint program path e ++ err)

/-- The contents of some files, or the input if there are none, worked on by a function. -/
def filter (program : String) (t : FileTree) (input : Octets) (paths : List Octets)
    (f : Octets → Octets) : Effect :=
  if paths.any isEndless then { span := none }
  else if paths.isEmpty then { out := f input }
  else
    let (out, err) := contents program t input paths
    let usesInput := paths.contains ['-']
    { out := f out, err, status := if err.isEmpty then 0 else 1
      input := if usesInput then [] else input }

/-- The options of one letter at the head of some arguments, and the other arguments. -/
def letters : List Octets → Octets × List Octets
  | ('-' :: '-' :: []) :: rest => ([], rest)
  | ('-' :: c :: cs) :: rest =>
    let (more, args) := letters rest
    (c :: cs ++ more, args)
  | args => ([], args)

/-- The lines at the head of a text. -/
def firstLines (n : Nat) (s : Octets) : Octets :=
  match n, s with
  | 0, _ => []
  | _, [] => []
  | n + 1, s =>
    let line := s.takeWhile (· ≠ '\n')
    line ++ (s.drop line.length).take 1 ++ firstLines n (s.drop (line.length + 1))

/-- The start of a text, or of a file that never ends: `-c` octets, or `-n` lines. -/
def head (t : FileTree) (input : Octets) : List Octets → Effect
  | ['-', 'c'] :: n :: rest => octets ((Octets.digits? n).getD 0) rest
  | ('-' :: 'c' :: n) :: rest => octets ((Octets.digits? n).getD 0) rest
  | ['-', 'n'] :: n :: rest => filter "head" t input rest (firstLines ((Octets.digits? n).getD 0))
  | ('-' :: 'n' :: n) :: rest => filter "head" t input rest (firstLines ((Octets.digits? n).getD 0))
  | ('-' :: n) :: rest => filter "head" t input rest (firstLines ((Octets.digits? n).getD 10))
  | rest => filter "head" t input rest (firstLines 10)
where
  /-- So many octets. -/
  octets (n : Nat) (paths : List Octets) : Effect :=
    if paths.any isEndless then { out := List.replicate n (Char.ofNat 0), input }
    else filter "head" t input paths (·.take n)

/-- The end of a text: `-c` octets, or `-n` lines. -/
def tail (t : FileTree) (input : Octets) (args : List Octets) : Effect :=
  let lastLines (n : Nat) (s : Octets) : Octets :=
    let ls := Octets.lines s
    let kept := Octets.unlines (ls.drop (ls.length - n))
    if s.getLast? = some '\n' then kept else kept.dropLast
  match args with
  | ['-', 'c'] :: n :: rest =>
    filter "tail" t input rest fun s => s.drop (s.length - (Octets.digits? n).getD 0)
  | ['-', 'n'] :: n :: rest => filter "tail" t input rest (lastLines ((Octets.digits? n).getD 10))
  | ('-' :: n) :: rest => filter "tail" t input rest (lastLines ((Octets.digits? n).getD 10))
  | rest => filter "tail" t input rest (lastLines 10)

/-- The characters that a set of `tr` lists, with its escapes and ranges. -/
def characters : Nat → Octets → Octets
  | 0, _ => []
  | _ + 1, [] => []
  | n + 1, '\\' :: c :: rest =>
    if '0' ≤ c ∧ c ≤ '7' then
      let (v, behind) := Octets.octal 3 (c :: rest)
      Char.ofNat (v % 256) :: characters n behind
    else
      let plain := [('n', '\n'), ('t', '\t'), ('r', '\r'), ('\\', '\\')].lookup c
      plain.getD c :: characters n rest
  | n + 1, a :: '-' :: b :: rest =>
    (List.range' a.toNat (b.toNat + 1 - a.toNat)).map Char.ofNat ++ characters n rest
  | n + 1, s =>
    match classes.find? fun (name, _) => name.toList.isPrefixOf s with
    | some (name, members) => members ++ characters n (s.drop name.length)
    | none => s.take 1 ++ characters n (s.drop 1)
where
  /-- The classes that have a name. -/
  classes : List (String × Octets) :=
    let range (a b : Char) : Octets := (List.range' a.toNat (b.toNat + 1 - a.toNat)).map Char.ofNat
    [("[:upper:]", range 'A' 'Z'), ("[:lower:]", range 'a' 'z'), ("[:digit:]", range '0' '9'),
      ("[:alpha:]", range 'A' 'Z' ++ range 'a' 'z'), ("[:space:]", range '\t' '\r' ++ [' '])]

/-- The character that `tr` puts in place of another one. -/
def replaced (source target : Octets) (c : Char) : Char :=
  match source.reverse.findIdx? (· == c) with
  | some i =>
    let place := source.length - 1 - i
    (target[place]?.or target.getLast?).getD c
  | none => c

/-- The input with characters replaced or dropped. -/
def tr (input : Octets) (args : List Octets) : Effect :=
  let (options, sets) := letters args
  match sets.map fun s => characters s.length s with
  | [source] =>
    if options.contains 'd' then { out := input.filter fun c => !source.contains c }
    else { status := 1 }
  | [source, target] =>
    let source := if options.contains 'c' || options.contains 'C' then
        ((List.range 256).map Char.ofNat).filter fun c => !source.contains c
      else source
    { out := input.map (replaced source target) }
  | _ => { status := 1 }

/-- The lines that an expression is found in. -/
def grep (t : FileTree) (input : Octets) (args : List Octets) : Effect :=
  let (options, rest) := letters args
  match rest with
  | [] => { status := 2, input }
  | pattern :: paths =>
    let lower := options.contains 'i'
    let pattern := if lower then pattern.map Char.toLower else pattern
    let e := if options.contains 'F' then Expression.literal pattern
      else Expression.ofText (options.contains 'E') pattern
    let (text, err) := if paths.isEmpty then (input, []) else contents "grep" t input paths
    let found := (Octets.lines text).filter fun line =>
      e.occursIn (if lower then line.map Char.toLower else line) != options.contains 'v'
    let status := if !found.isEmpty then 0 else if err.isEmpty then 1 else 2
    let out :=
      if options.contains 'q' then []
      else if options.contains 'c' then Octets.ofNat found.length ++ ['\n']
      else Octets.unlines found
    { out, err := if options.contains 's' then [] else err, status
      input := if paths.isEmpty then [] else input }

/-- How much there is in a text: `-c` octets, `-l` lines, `-w` words. -/
def wc (t : FileTree) (input : Octets) (args : List Octets) : Effect :=
  let (options, paths) := letters args
  filter "wc" t input paths fun s =>
    let lines := (s.filter (· = '\n')).length
    let isBlank (c : Char) : Bool := [' ', '\n', '\t', '\r'].contains c
    let words := (s.zip (' ' :: s)).filter fun (c, before) => !isBlank c && isBlank before
    let counts := (if options.contains 'l' then [lines] else []) ++
      (if options.contains 'w' then [words.length] else []) ++
      (if options.contains 'c' then [s.length] else [])
    ([' '] : Octets).intercalate (counts.map Octets.ofNat) ++ ['\n']

/-- The last part of a path, without an end if one is given. -/
def basename (args : List Octets) : Effect :=
  match args with
  | [] => { status := 1, err := "basename: missing operand\n".toList }
  | path :: rest =>
    let trimmed := (path.reverse.dropWhile (· = '/')).reverse
    let last := if trimmed.isEmpty then path.take 1
      else (trimmed.reverse.takeWhile (· ≠ '/')).reverse
    let cut := match rest with
      | ending :: _ => if ending.isSuffixOf last && ending != last then ending.length else 0
      | [] => 0
    { out := last.take (last.length - cut) ++ ['\n'] }

/-- A path without its last part. -/
def dirname (args : List Octets) : Effect :=
  let path := args.headD []
  let trimmed := (path.reverse.dropWhile (· = '/')).reverse
  let dir := ((trimmed.reverse.dropWhile (· ≠ '/')).dropWhile (· = '/')).reverse
  let out := if !dir.isEmpty then dir else if path.head? = some '/' then ['/'] else ['.']
  { out := out ++ ['\n'] }

/-- The nanoseconds that a decimal number of seconds stands for, with a unit of time behind it or
none. -/
def nanoseconds (s : Octets) : Option Nat :=
  if s = "infinity".toList then none
  else
    let whole := s.takeWhile Char.isDigit
    let rest := s.drop whole.length
    let part := match rest with
      | '.' :: ds => ds.takeWhile Char.isDigit
      | _ => []
    let unit := match s.getLast? with
      | some 'm' => 60
      | some 'h' => 3600
      | some 'd' => 86400
      | _ => 1
    let nanos := (Octets.digits? ((part ++ List.replicate 9 '0').take 9)).getD 0
    some (((Octets.digits? whole).getD 0 * 1000000000 + nanos) * unit)

/-- Lets time pass. -/
def sleep (input : Octets) (args : List Octets) : Effect :=
  let spans := args.map nanoseconds
  if args.isEmpty then { status := 1, err := "sleep: missing operand\n".toList, input }
  else
    let total := (spans.filterMap id).foldr (· + ·) 0
    { span := if spans.contains none then none else some total, input }

/-- Numbers from one to another, a line for each. -/
def seq (input : Octets) (args : List Octets) : Effect :=
  let numbers := args.filterMap Octets.digits?
  let (first, last) := match numbers with
    | [b] => (1, b)
    | [a, b] => (a, b)
    | _ => (1, 0)
  { out := Octets.unlines ((List.range' first (last + 1 - first)).map Octets.ofNat), input }

/-- How many lines `yes` writes before nobody reads them any more. -/
def yesLimit : Nat := 131072

/-- A line, again and again. -/
def yes (input : Octets) (args : List Octets) : Effect :=
  let line := if args.isEmpty then ['y'] else ([' '] : Octets).intercalate args
  { out := Octets.unlines (List.replicate yesLimit line), input }

/-- Files that are there afterwards. -/
def touch (t : FileTree) (input : Octets) (args : List Octets) : Effect :=
  let missing := (args.map Octets.text).filter fun p => (t.read p).toOption.isNone && !t.isDir p
  let failing := missing.filterMap fun p =>
    match t.write p [] with
    | .ok _ => none
    | .error e => some (refusal "touch: cannot touch" p e)
  { changes := missing.map fun p => .write p [], err := failing.flatten, input
    status := if failing.isEmpty then 0 else 1 }

/-- A directory and all that lead to it, as changes; the ones on the way first. -/
def leading (path : String) : List String :=
  let parts := (Path.split path.toList).filter (!Path.isIdle ·)
  let start := if Path.isAbsolute path then "/" else ""
  (List.range parts.length).map fun n =>
    start ++ String.ofList ((['/'] : List Char).intercalate (parts.take (n + 1)))

/-- Directories that are there afterwards. -/
def mkdir (t : FileTree) (input : Octets) (args : List Octets) : Effect :=
  let (options, paths) := letters args
  let paths := paths.map Octets.text
  if options.contains 'p' then { changes := (paths.flatMap leading).map .makeDir, input }
  else
    let failing := paths.filterMap fun p =>
      match t.makeDir p with
      | .ok _ => none
      | .error e => some (refusal "mkdir: cannot create directory" p e)
    { changes := paths.map .makeDir, err := failing.flatten, input
      status := if failing.isEmpty then 0 else 1 }

/-- Files that are not there afterwards. -/
def rm (t : FileTree) (input : Octets) (args : List Octets) : Effect :=
  let (options, paths) := letters args
  let paths := paths.map Octets.text
  let missing := paths.filter fun p => !t.isFile p && !t.isDir p
  let failing := if options.contains 'f' then [] else missing.map fun p =>
    refusal "rm: cannot remove" p .notFound
  { changes := paths.map .remove, err := failing.flatten, input
    status := if failing.isEmpty then 0 else 1 }

/-- The input, also written to files. -/
def tee (input : Octets) (args : List Octets) : Effect :=
  { out := input, changes := args.map fun p => .write (Octets.text p) (Octets.toBytes input) }

/-- A program by its name; nothing if there is no such program. -/
def run (t : FileTree) (input : Octets) (name : String) (args : List Octets) : Option Effect :=
  match name with
  | "cat" => some (filter "cat" t input args id)
  | "head" => some (head t input args)
  | "tail" => some (tail t input args)
  | "tr" => some (tr input args)
  | "grep" => some (grep t input args)
  | "wc" => some (wc t input args)
  | "basename" => some { basename args with input }
  | "dirname" => some { dirname args with input }
  | "sleep" => some (sleep input args)
  | "seq" => some (seq input args)
  | "yes" => some (yes input args)
  | "touch" => some (touch t input args)
  | "mkdir" => some (mkdir t input args)
  | "rm" => some (rm t input args)
  | "tee" => some (tee input args)
  | "true" => some { input }
  | "false" => some { status := 1, input }
  | _ => none

end Utility

end PolicyTrial.Shell
