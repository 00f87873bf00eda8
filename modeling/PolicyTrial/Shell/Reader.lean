import PolicyTrial.Shell.Script

/-!
# Reading scripts

* `Shell.Source`: the rest of a script, with the number of its line.
* `Shell.parse`: the commands of a script; nothing if the script is not well-formed.
-/

namespace PolicyTrial.Shell

/-- The rest of a script, with the number of its line. -/
structure Source where
  rest : Octets
  line : Nat
  /-- The number of lines that were taken out behind this one, because they are documents. -/
  takenOut : Nat

namespace Source

/-- The source behind its first octet. -/
def next (s : Source) : Source :=
  match s.rest with
  | [] => s
  | '\n' :: rest => ⟨rest, s.line + 1 + s.takenOut, 0⟩
  | _ :: rest => { s with rest }

/-- The source behind some octets. -/
def skip : Nat → Source → Source
  | 0, s => s
  | n + 1, s => skip n s.next

/-- The source behind blanks, joined lines, and a comment. -/
def skipBlanksIn (takenOut line : Nat) : Octets → Source
  | [] => ⟨[], line, takenOut⟩
  | ' ' :: rest => skipBlanksIn takenOut line rest
  | '\t' :: rest => skipBlanksIn takenOut line rest
  | '\\' :: '\n' :: rest => skipBlanksIn takenOut (line + 1) rest
  | '#' :: rest => ⟨rest.dropWhile (· ≠ '\n'), line, takenOut⟩
  | rest => ⟨rest, line, takenOut⟩

/-- The source behind blanks, joined lines, and a comment. -/
def skipBlanks (s : Source) : Source := skipBlanksIn s.takenOut s.line s.rest

/-- The source behind blanks, line ends and comments, so many lines at most. -/
def skipLinesWithin : Nat → Source → Source
  | 0, s => s
  | n + 1, s =>
    let s := s.skipBlanks
    match s.rest with
    | '\n' :: _ => skipLinesWithin n s.next
    | _ => s

/-- The source behind blanks, line ends and comments. -/
def skipLines (s : Source) : Source := skipLinesWithin (s.rest.length + 1) s

end Source

/-- Whether a character may start a name. -/
def isNameStart (c : Char) : Bool := c.isAlpha || c = '_'

/-- Whether a character may stand in a name. -/
def isNameChar (c : Char) : Bool := c.isAlphanum || c = '_'

/-- Whether a word ends before a character. -/
def endsWord (c : Char) : Bool :=
  [' ', '\t', '\n', ';', '&', '|', '<', '>', '(', ')'].contains c

/-- The parameters with a name of one special character. -/
def specialNames : List Char := ['@', '*', '#', '?', '$', '!', '-']

/-- The quote that runs a command. -/
def backquote : Char := Char.ofNat 0x60

/-- A word with one more octet. -/
def addChar (c : Char) (quoted : Bool) (w : Word) : Word :=
  match w.getLast? with
  | some (.text s q) =>
    if q == quoted then w.dropLast ++ [.text (s ++ [c]) q] else w ++ [.text [c] quoted]
  | _ => w ++ [.text [c] quoted]

/-- A word with a piece of quoted text, which counts even if it is empty. -/
def addQuoted (s : Octets) (w : Word) : Word := w ++ [.text s true]

/-- The text up to a mark, and what is behind the mark. -/
def upTo (mark : Char) (s : Octets) : Option (Octets × Octets) :=
  match s.dropWhile (· ≠ mark) with
  | [] => none
  | _ :: rest => some (s.takeWhile (· ≠ mark), rest)

/-- The text of a command between backquotes, and what is behind them. -/
def backquoted : Octets → Octets → Option (Octets × Octets)
  | _, [] => none
  | out, '\\' :: c :: rest =>
    if c = '$' ∨ c = backquote ∨ c = '\\' then backquoted (c :: out) rest
    else backquoted (c :: '\\' :: out) rest
  | out, c :: rest => if c = backquote then some (out.reverse, rest) else backquoted (c :: out) rest

/-- The text of an arithmetic expression, which two parentheses end that are open no more. -/
def arithmeticText : Nat → Octets → Octets → Option (Octets × Octets)
  | _, _, [] => none
  | 0, out, ')' :: ')' :: rest => some (out.reverse, rest)
  | open_, out, '(' :: rest => arithmeticText (open_ + 1) ('(' :: out) rest
  | open_ + 1, out, ')' :: rest => arithmeticText open_ (')' :: out) rest
  | open_, out, c :: rest => arithmeticText open_ (c :: out) rest

/-- The lines of a document up to its end mark, and what is behind it. -/
def documentText (mark : Octets) (noTabs : Bool) : List Octets → Octets × List Octets
  | [] => ([], [])
  | line :: rest =>
    let line := if noTabs then line.dropWhile (· = '\t') else line
    if line = mark then ([], rest)
    else
      let (content, behind) := documentText mark noTabs rest
      (line ++ '\n' :: content, behind)

/-- The reserved words that end a list of commands. -/
def closers : List String := ["then", "elif", "else", "fi", "do", "done", "esac", "\x7d"]

/-- The unquoted word at the head of a source, if it is plain text. -/
def headWord (s : Octets) : Octets := s.takeWhile fun c => !endsWord c

/-- Whether a source starts with a reserved word. -/
def startsWith (word : String) (s : Source) : Bool := headWord s.rest == word.toList

/-- The source behind a reserved word, which has to be there. -/
def expect (word : String) (s : Source) : Option Source :=
  let s := s.skipLines
  if startsWith word s then some (s.skip word.length) else none

/-- Whether no command starts here. -/
def atListEnd (s : Source) : Bool :=
  match s.rest with
  | [] => true
  | ')' :: _ => true
  | ';' :: _ => true
  | _ => closers.any fun w => startsWith w s

/-- The name and the value of a word that assigns. -/
def assignment? : Word → Option (Octets × Word)
  | .text s false :: rest =>
    let name := s.takeWhile isNameChar
    match s.drop name.length with
    | '=' :: value =>
      if (name.head?.map isNameStart).getD false then
        some (name, (if value.isEmpty then [] else [.text value false]) ++ rest)
      else none
    | _ => none
  | _ => none

mutual

/-- The pieces of a word up to a character that ends it. -/
def readWord (ends : Char → Bool) : Nat → Word → Source → Option (Word × Source)
  | 0, _, _ => none
  | fuel + 1, w, s =>
    match s.rest with
    | [] => some (w, s)
    | '\\' :: '\n' :: _ => readWord ends fuel w (s.skip 2)
    | '\\' :: c :: _ => readWord ends fuel (addChar c true w) (s.skip 2)
    -- Between single quotes nothing is special.
    | '\'' :: rest => do
      let (quoted, _) ← upTo '\'' rest
      readWord ends fuel (addQuoted quoted w) (s.skip (quoted.length + 2))
    | '"' :: _ => do
      let (quoted, s) ← readQuoted fuel [] s.next
      readWord ends fuel (w ++ (if quoted.isEmpty then [.text [] true] else quoted)) s
    | '$' :: _ => do
      let (piece, s) ← readDollar false fuel s.next
      readWord ends fuel (w ++ piece) s
    | c :: rest =>
      if c = backquote then do
        let (text, behind) ← backquoted [] rest
        let (body, _) ← readList fuel ⟨text, s.line, 0⟩
        readWord ends fuel (w ++ [.output body false]) (s.skip (s.rest.length - behind.length))
      else if ends c then some (w, s)
      else readWord ends fuel (addChar c false w) s.next

/-- The pieces between double quotes. -/
def readQuoted : Nat → Word → Source → Option (Word × Source)
  | 0, _, _ => none
  | fuel + 1, w, s =>
    match s.rest with
    | [] => none
    | '"' :: _ => some (w, s.next)
    | '\\' :: '\n' :: _ => readQuoted fuel w (s.skip 2)
    | '\\' :: c :: _ =>
      if c = '$' ∨ c = backquote ∨ c = '"' ∨ c = '\\' then
        readQuoted fuel (addChar c true w) (s.skip 2)
      else readQuoted fuel (addChar '\\' true w) s.next
    | '$' :: _ => do
      let (piece, s) ← readDollar true fuel s.next
      readQuoted fuel (w ++ piece) s
    | c :: rest =>
      if c = backquote then do
        let (text, behind) ← backquoted [] rest
        let (body, _) ← readList fuel ⟨text, s.line, 0⟩
        readQuoted fuel (w ++ [.output body true]) (s.skip (s.rest.length - behind.length))
      else readQuoted fuel (addChar c true w) s.next

/-- What stands behind a dollar sign. -/
def readDollar (quoted : Bool) : Nat → Source → Option (Word × Source)
  | 0, _ => none
  | fuel + 1, s =>
    match s.rest with
    | '(' :: '(' :: rest => do
      let (text, behind) ← arithmeticText 0 [] rest
      let (pieces, _) ← readQuoted fuel [] ⟨text ++ ['"'], s.line, 0⟩
      some ([.arithmetic pieces quoted], s.skip (s.rest.length - behind.length))
    | '(' :: _ => do
      let (body, s) ← readList fuel s.next
      let s := s.skipLines
      match s.rest with
      | ')' :: _ => some ([.output body quoted], s.next)
      | _ => none
    | '\x7b' :: _ => readBraced quoted fuel s.next
    | c :: _ =>
      if isNameStart c then
        let name := s.rest.takeWhile isNameChar
        some ([.parameter name .plain quoted], s.skip name.length)
      else if c.isDigit || specialNames.contains c then
        some ([.parameter [c] .plain quoted], s.next)
      else some ([.text ['$'] quoted], s)
    | [] => some ([.text ['$'] quoted], s)

/-- A parameter in braces. -/
def readBraced (quoted : Bool) : Nat → Source → Option (Word × Source)
  | 0, _ => none
  | fuel + 1, s => do
    -- A sharp is a parameter of its own only if the brace follows.
    let (measured, s) := match s.rest with
      | '#' :: '\x7d' :: _ => (false, s)
      | '#' :: _ => (true, s.next)
      | _ => (false, s)
    let name := match s.rest with
      | c :: _ => if specialNames.contains c then [c] else s.rest.takeWhile isNameChar
      | [] => []
    let s := s.skip name.length
    let word (n : Nat) (make : Word → Change) : Option (Word × Source) := do
      let (w, s) ← readWord (· = '\x7d') fuel [] (s.skip n)
      match s.rest with
      | '\x7d' :: _ => some ([.parameter name (make w) quoted], s.next)
      | _ => none
    if name.isEmpty then none
    else
      match s.rest with
      | '\x7d' :: _ =>
        some ([.parameter name (if measured then .length else .plain) quoted], s.next)
      | ':' :: '-' :: _ => word 2 (.orElse true)
      | '-' :: _ => word 1 (.orElse false)
      | ':' :: '=' :: _ => word 2 (.orAssign true)
      | '=' :: _ => word 1 (.orAssign false)
      | ':' :: '+' :: _ => word 2 (.instead true)
      | '+' :: _ => word 1 (.instead false)
      | '#' :: '#' :: _ => word 2 (.withoutStart true)
      | '#' :: _ => word 1 (.withoutStart false)
      | '%' :: '%' :: _ => word 2 (.withoutEnd true)
      | '%' :: _ => word 1 (.withoutEnd false)
      | _ => none

/-- A redirection, if one starts here. -/
def readRedirect : Nat → Source → Option (Option Redirect × Source)
  | 0, _ => none
  | fuel + 1, s => do
    let ds := s.rest.takeWhile Char.isDigit
    let at_ := s.skip ds.length
    let descriptor (default : Nat) : Nat := (Octets.digits? ds).getD default
    let target (n default : Nat) (make : Nat → Word → Redirect) :
        Option (Option Redirect × Source) := do
      let (w, s) ← readWord endsWord fuel [] (at_.skip n).skipBlanks
      if w.isEmpty then none else some (some (make (descriptor default) w), s)
    match at_.rest with
    | '<' :: '<' :: c :: _ =>
      let noTabs := c == '-'
      let (w, behind) ← readWord endsWord fuel [] (at_.skip (if noTabs then 3 else 2)).skipBlanks
      let mark := w.flatMap fun p => match p with
        | .text t _ => t
        | _ => []
      let literal := w.any fun p => match p with
        | .text _ q => q
        | _ => false
      let line := behind.rest.takeWhile (· ≠ '\n')
      -- The document is taken out, so that reading goes on behind its mark.
      let below := Octets.lines ((behind.rest.drop line.length).drop 1)
      let (content, rest) := documentText mark noTabs below
      let s : Source :=
        ⟨line ++ '\n' :: Octets.unlines rest, behind.line,
          behind.takenOut + (below.length - rest.length)⟩
      if literal then some (some (.document [.text content true]), s)
      else do
        -- A double quote is a character like any other in a document.
        let escaped := content.flatMap fun c => if c = '"' then ['\\', '"'] else [c]
        let (pieces, _) ← readQuoted fuel [] ⟨escaped ++ ['"'], s.line, 0⟩
        some (some (.document pieces), s)
    | '<' :: '&' :: _ => target 2 0 .duplicate
    | '<' :: _ => target 1 0 fun d w => .file d .read w
    | '>' :: '>' :: _ => target 2 1 fun d w => .file d .append w
    | '>' :: '&' :: _ => target 2 1 .duplicate
    | '>' :: '|' :: _ => target 2 1 fun d w => .file d .write w
    | '>' :: _ => target 1 1 fun d w => .file d .write w
    | _ => some (none, s)

/-- The redirections that follow. -/
def readRedirects : Nat → List Redirect → Source → Option (List Redirect × Source)
  | 0, _, _ => none
  | fuel + 1, out, s => do
    match ← readRedirect fuel s.skipBlanks with
    | (some r, s) => readRedirects fuel (out ++ [r]) s
    | (none, _) => some (out, s)

/-- The assignments, words and redirections of a simple command. -/
def readSimple : Nat → Nat → List (Octets × Word) → List Word → List Redirect → Source →
    Option (Command × Source)
  | 0, _, _, _, _, _ => none
  | fuel + 1, line, assigned, words, redirects, s => do
    let s := s.skipBlanks
    match ← readRedirect fuel s with
    | (some r, s) => readSimple fuel line assigned words (redirects ++ [r]) s
    | (none, _) =>
      let (w, s) ← readWord endsWord fuel [] s
      if w.isEmpty then
        if assigned.isEmpty && words.isEmpty && redirects.isEmpty then none
        else some (.simple line assigned words redirects, s)
      else
        match words, assignment? w with
        | [], some a => readSimple fuel line (assigned ++ [a]) words redirects s
        | _, _ => readSimple fuel line assigned (words ++ [w]) redirects s

/-- A command. -/
def readCommand : Nat → Source → Option (Command × Source)
  | 0, _ => none
  | fuel + 1, s => do
    let compound (c : Command) (behind : Source) : Option (Command × Source) := do
      let (redirects, behind) ← readRedirects fuel [] behind
      if redirects.isEmpty then some (c, behind) else some (.redirected s.line c redirects, behind)
    match s.rest with
    | '(' :: _ =>
      let (body, s) ← readList fuel s.next
      let s := s.skipLines
      match s.rest with
      | ')' :: _ => compound (.group true body) s.next
      | _ => none
    | _ =>
      let word := headWord s.rest
      let name := s.rest.takeWhile isNameChar
      if word = "if".toList then
        let (c, s) ← readBranches fuel (s.skip 2)
        compound c s
      else if word = "while".toList ∨ word = "until".toList then
        let (test, s) ← readList fuel (s.skip 5)
        let s ← expect "do" s
        let (body, s) ← readList fuel s
        let s ← expect "done" s
        compound (.loop (word = "until".toList) test body) s
      else if word = "for".toList then
        let (c, s) ← readEach fuel (s.skip 3)
        compound c s
      else if word = "case".toList then
        let (subject, s) ← readWord endsWord fuel [] (s.skip 4).skipBlanks
        let s ← expect "in" s
        let (branches, s) ← readChoices fuel [] s
        compound (.choice subject branches) s
      else if word = "\x7b".toList then
        let (body, s) ← readList fuel s.next
        let s ← expect "\x7d" s
        compound (.group false body) s
      -- A name with parentheses behind it is the start of a function.
      else if !name.isEmpty && ((s.skip name.length).skipBlanks.rest.take 2 == ['(', ')']) then
        let (body, s) ← readCommand fuel (((s.skip name.length).skipBlanks.skip 2).skipLines)
        some (.define name body, s)
      else readSimple fuel s.line [] [] [] s

/-- The tests and branches behind `if` or `elif`. -/
def readBranches : Nat → Source → Option (Command × Source)
  | 0, _ => none
  | fuel + 1, s => do
    let (test, s) ← readList fuel s
    let s ← expect "then" s
    let (body, s) ← readList fuel s
    let s := s.skipLines
    if startsWith "elif" s then
      let (otherwise, s) ← readBranches fuel (s.skip 4)
      some (.conditional test body otherwise, s)
    else if startsWith "else" s then
      let (otherwise, s) ← readList fuel (s.skip 4)
      let s ← expect "fi" s
      some (.conditional test body otherwise, s)
    else
      let s ← expect "fi" s
      some (.conditional test body .nothing, s)

/-- What stands behind `for`. -/
def readEach : Nat → Source → Option (Command × Source)
  | 0, _ => none
  | fuel + 1, s => do
    let s := s.skipBlanks
    let name := s.rest.takeWhile isNameChar
    let s := (s.skip name.length).skipLines
    let (words, s) ← if startsWith "in" s then do
        let (ws, s) ← readWords fuel [] (s.skip 2)
        pure (some ws, s)
      else pure (none, s)
    let s := match s.rest with
      | ';' :: _ => s.next
      | _ => s
    let s ← expect "do" s
    let (body, s) ← readList fuel s
    let s ← expect "done" s
    some (.each name words body, s)

/-- The words up to the end of a list of words. -/
def readWords : Nat → List Word → Source → Option (List Word × Source)
  | 0, _, _ => none
  | fuel + 1, out, s => do
    let (w, s) ← readWord endsWord fuel [] s.skipBlanks
    if w.isEmpty then some (out, s.skipBlanks) else readWords fuel (out ++ [w]) s

/-- The patterns of a branch, with a bar between two. -/
def readPatterns : Nat → List Word → Source → Option (List Word × Source)
  | 0, _, _ => none
  | fuel + 1, out, s => do
    let (w, s) ← readWord endsWord fuel [] s.skipBlanks
    let s := s.skipBlanks
    match s.rest with
    | '|' :: _ => readPatterns fuel (out ++ [w]) s.next
    | ')' :: _ => some (out ++ [w], s.next)
    | _ => none

/-- The branches of a choice, up to its end. -/
def readChoices : Nat → List (List Word × Command) → Source →
    Option (List (List Word × Command) × Source)
  | 0, _, _ => none
  | fuel + 1, out, s => do
    let s := s.skipLines
    if startsWith "esac" s then some (out, s.skip 4)
    else
      let s := match s.rest with
        | '(' :: _ => s.next
        | _ => s
      let (patterns, s) ← readPatterns fuel [] s
      let (body, s) ← readList fuel s
      let s := s.skipLines
      let s := match s.rest with
        | ';' :: ';' :: _ => s.skip 2
        | _ => s
      readChoices fuel (out ++ [(patterns, body)]) s

/-- A pipeline. -/
def readPipeline : Nat → Source → Option (Command × Source)
  | 0, _ => none
  | fuel + 1, s => do
    let s := s.skipBlanks
    if startsWith "!" s then
      let (c, s) ← readPipeline fuel s.next
      some (.negated c, s)
    else
      let (first, s) ← readCommand fuel s
      readStages fuel [first] s

/-- The further stages of a pipeline. -/
def readStages : Nat → List Command → Source → Option (Command × Source)
  | 0, _, _ => none
  | fuel + 1, stages, s => do
    let s := s.skipBlanks
    match s.rest, stages with
    | '|' :: '|' :: _, [c] => some (c, s)
    | '|' :: '|' :: _, _ => some (.pipeline stages, s)
    | '|' :: _, _ =>
      let (c, s) ← readCommand fuel s.next.skipLines
      readStages fuel (stages ++ [c]) s
    | _, [c] => some (c, s)
    | _, _ => some (.pipeline stages, s)

/-- What follows a pipeline and hangs on how it ends. -/
def readLinks : Nat → Command → Source → Option (Command × Source)
  | 0, _, _ => none
  | fuel + 1, c, s => do
    let s := s.skipBlanks
    match s.rest with
    | '&' :: '&' :: _ =>
      let (d, s) ← readPipeline fuel (s.skip 2).skipLines
      readLinks fuel (.both c d) s
    | '|' :: '|' :: _ =>
      let (d, s) ← readPipeline fuel (s.skip 2).skipLines
      readLinks fuel (.either c d) s
    | _ => some (c, s)

/-- The commands up to where a list ends. -/
def readItems : Nat → List Command → Source → Option (Command × Source)
  | 0, _, _ => none
  | fuel + 1, out, s => do
    let s := s.skipLines
    if atListEnd s then some (.sequence out, s)
    else
      let (c, s) ← readPipeline fuel s
      let (c, s) ← readLinks fuel c s
      let s := s.skipBlanks
      match s.rest with
      | ';' :: ';' :: _ => some (.sequence (out ++ [c]), s)
      | ';' :: _ => readItems fuel (out ++ [c]) s.next
      | '&' :: _ => readItems fuel (out ++ [.background c]) s.next
      | '\n' :: _ => readItems fuel (out ++ [c]) s.next
      | _ => some (.sequence (out ++ [c]), s)

/-- A list of commands. -/
def readList : Nat → Source → Option (Command × Source)
  | 0, _ => none
  | fuel + 1, s => readItems fuel [] s

end

/-- The commands of a script; nothing if the script is not well-formed. -/
def parse (script : Octets) : Option Command :=
  match readList (20 * (script.length + 5)) ⟨script, 1, 0⟩ with
  | some (c, s) => if s.skipLines.rest.isEmpty then some c else none
  | none => none

end PolicyTrial.Shell
