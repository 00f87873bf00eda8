import PolicyTrial.Shell.Octets

/-!
# Scripts of the shell

The command language in which engines are written, as far as they use it.

* `Shell.Piece`: a piece of a word: text, or something that is put in when the word is expanded.
* `Shell.Command`: a command, simple or made of others.
-/

namespace PolicyTrial.Shell

/-- How a redirection opens a file. -/
inductive FileMode
  | read
  | write
  | append
  deriving Repr, DecidableEq

mutual

/-- A piece of a word. Quoted pieces are neither split nor patterns. -/
inductive Piece
  | text (s : Octets) (quoted : Bool)
  /-- The value of a parameter. -/
  | parameter (name : Octets) (change : Change) (quoted : Bool)
  /-- What a command writes. -/
  | output (body : Command) (quoted : Bool)
  /-- The value of an arithmetic expression. -/
  | arithmetic (expression : List Piece) (quoted : Bool)

/-- What is made of a parameter's value before it is put in. The first three look whether the
parameter is set, or, with a colon, whether it is set and not empty. -/
inductive Change
  | plain
  | orElse (colon : Bool) (word : List Piece)
  | orAssign (colon : Bool) (word : List Piece)
  | instead (colon : Bool) (word : List Piece)
  | length
  | withoutStart (longest : Bool) (pattern : List Piece)
  | withoutEnd (longest : Bool) (pattern : List Piece)

/-- Where a descriptor leads while a command runs. -/
inductive Redirect
  | file (descriptor : Nat) (mode : FileMode) (target : List Piece)
  | duplicate (descriptor : Nat) (source : List Piece)
  | document (content : List Piece)

/-- A command. -/
inductive Command
  | simple (line : Nat) (assignments : List (Octets × List Piece)) (words : List (List Piece))
    (redirects : List Redirect)
  | pipeline (stages : List Command)
  | negated (c : Command)
  | both (first second : Command)
  | either (first second : Command)
  | sequence (items : List Command)
  /-- Some commands in braces, or in parentheses, which have a shell of their own. -/
  | group (ownShell : Bool) (body : Command)
  | conditional (test body otherwise : Command)
  /-- A loop while, or until, a test succeeds. -/
  | loop (till : Bool) (test body : Command)
  /-- A loop over words, or over the arguments. -/
  | each (name : Octets) (words : Option (List (List Piece))) (body : Command)
  | choice (subject : List Piece) (branches : List (List (List Piece) × Command))
  | define (name : Octets) (body : Command)
  | background (c : Command)
  | redirected (line : Nat) (c : Command) (redirects : List Redirect)

end

/-- A word. -/
abbrev Word := List Piece

/-- A command that does nothing. -/
def Command.nothing : Command := .sequence []

end PolicyTrial.Shell
