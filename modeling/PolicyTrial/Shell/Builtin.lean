import PolicyTrial.Shell.Format
import PolicyTrial.Shell.State
import PolicyTrial.Shell.Condition

/-!
# Commands that the shell does itself

* `Shell.Builtin.run`: a command by its name; nothing if the shell does not do it itself.
-/

namespace PolicyTrial.Shell.Builtin

/-- The number of loops that `break` or `continue` is about. -/
def loops (args : List Octets) : Nat :=
  max 1 ((args.head?.bind Octets.digits?).getD 1)

/-- The script leaves off with the status that an argument gives, or with the one before. -/
def leave (line : Nat) (name : String) (flow : Flow) (args : List Octets) (s : State) : State :=
  match args with
  | [] => { s with flow }
  | arg :: _ =>
    match Octets.digits? arg with
    | some n => { s with status := n % 256, flow }
    | none =>
      let s := s.complain line (name.toList ++ ": Illegal number: ".toList ++ arg)
      { s with status := 2, flow := .exiting }

/-- Whether arguments state something true; the last of `[` has to be `]`. -/
def condition (line : Nat) (name : String) (args : List Octets) (s : State) : State :=
  let bracket := name == "["
  if bracket && args.getLast? != some [']'] then
    (s.complain line "[: missing ]".toList).withStatus 2
  else
    match Condition.holds s.files (if bracket then args.dropLast else args) with
    | .ok b => s.withStatus (if b then 0 else 1)
    | .error e => (s.complain line (name.toList ++ ": ".toList ++ e.message)).withStatus 2

/-- Sends signals; only the script itself is there to get one. -/
def kill (args : List Octets) (s : State) : State :=
  let (signal, targets) := match args with
    | ['-', 's'] :: name :: rest => (State.signal? name, rest)
    | ('-' :: name) :: rest => (State.signal? name, rest)
    | rest => (some 15, rest)
  match signal with
  | none => s.withStatus 2
  | some n =>
    if targets.contains selfId then if n = 0 then s.withStatus 0 else (s.withStatus 0).raise n
    else s.withStatus 1
where
  /-- The text of the script's own process number. -/
  selfId : Octets := "4242".toList

/-- Options are set or unset, or the arguments are replaced. -/
def set (args : List Octets) (s : State) : State :=
  match args with
  | ['-', '-'] :: rest => { s with arguments := rest, status := 0 }
  | ('-' :: cs) :: rest =>
    let s := if cs.contains 'e' then { s with strict := true } else s
    match rest with
    | [] => s.withStatus 0
    | _ => if cs.contains 'o' then s.withStatus 0 else { s with arguments := rest, status := 0 }
  | ('+' :: cs) :: _ => (if cs.contains 'e' then { s with strict := false } else s).withStatus 0
  | _ => { s with arguments := args, status := 0 }

/-- Says what is done on which signals. -/
def trap (args : List Octets) (s : State) : State :=
  match args with
  | [] => s.withStatus 0
  | action :: names =>
    let signals := names.filterMap State.signal?
    let others := s.traps.filter fun (n, _) => !signals.contains n
    if action = ['-'] then { s with traps := others, status := 0 }
    else { s with traps := signals.map (·, action) ++ others, status := 0 }

/-- A line is read into variables; the last one gets what is left. -/
def read (args : List Octets) (s : State) : State :=
  let names := args.filter (·.head? != some '-')
  let names := if names.isEmpty then ["REPLY".toList] else names
  let line := s.input.takeWhile (· ≠ '\n')
  let ended := s.input.length > line.length
  let s := { s with input := s.input.drop (line.length + 1), status := if ended then 0 else 1 }
  let isBlank (c : Char) : Bool := s.separators.contains c && [' ', '\t', '\n'].contains c
  let trim (t : Octets) : Octets := ((t.dropWhile isBlank).reverse.dropWhile isBlank).reverse
  fill s.separators trim names (trim line) s
where
  /-- The variables get a field each. -/
  fill (separators : List Char) (trim : Octets → Octets) : List Octets → Octets → State → State
    | [], _, s => s
    | [name], rest, s => s.assign name (trim rest)
    | name :: names, rest, s =>
      let field := rest.takeWhile fun c => !separators.contains c
      fill separators trim names (trim (rest.drop (field.length + 1))) (s.assign name field)

/-- Names with values are assigned. -/
def declare (args : List Octets) (s : State) : State :=
  args.foldl (fun s arg =>
    let name := arg.takeWhile (· ≠ '=')
    if name.length < arg.length then s.assign name (arg.drop (name.length + 1)) else s)
    (s.withStatus 0)

/-- Variables of the function that is running. -/
def localVariables (args : List Octets) (s : State) : State :=
  let names := args.map (·.takeWhile (· ≠ '='))
  declare args { s with locals := names.map (fun name => (name, s.value? name)) ++ s.locals }

/-- Moves to another directory. -/
def changeDir (line : Nat) (args : List Octets) (s : State) : State :=
  let target := (args.head?.or (s.value? "HOME".toList)).getD []
  match s.move? (Octets.text target) with
  | some s => s.withStatus 0
  | none => (s.complain line ("cd: can't cd to ".toList ++ target)).withStatus 2

/-- A command by its name; nothing if the shell does not do it itself. -/
def run (line : Nat) (name : Octets) (args : List Octets) (s : State) : Option State :=
  match String.ofList name with
  | ":" | "true" | "umask" | "ulimit" | "hash" => some (s.withStatus 0)
  | "false" => some (s.withStatus 1)
  | "echo" => some ((s.withStatus 0).emit 1 (Format.echo args))
  | "printf" =>
    match args with
    | [] => some ((s.complain line "printf: usage: printf format [arg ...]".toList).withStatus 2)
    | format :: rest => some ((s.withStatus 0).emit 1 (Format.printf format rest))
  | "test" => some (condition line "test" args s)
  | "[" => some (condition line "[" args s)
  | "exit" => some (leave line "exit" .exiting args s)
  | "return" => some (leave line "return" .returning args s)
  | "break" => some { s with status := 0, flow := .leaving (loops args) }
  | "continue" => some { s with status := 0, flow := .again (loops args) }
  | "kill" => some (kill args s)
  | "set" => some (set args s)
  | "shift" =>
    let n := (args.head?.bind Octets.digits?).getD 1
    if n ≤ s.arguments.length then some { s with arguments := s.arguments.drop n, status := 0 }
    else
      let s := s.complain line "shift: can't shift that many".toList
      some { s with status := 2, flow := .exiting }
  | "trap" => some (trap args s)
  | "read" => some (read args s)
  | "export" | "readonly" => some (declare args s)
  | "local" => some (localVariables args s)
  | "unset" => some ((args.foldl (fun s name => s.unset name) s).withStatus 0)
  | "cd" => some (changeDir line args s)
  | "pwd" => some ((s.withStatus 0).emit 1
      (Octets.ofString ("/" ++ "/".intercalate s.files.workingDir) ++ ['\n']))
  | "wait" => some ((s.withStatus 0).pass (some (s.backgroundEnd - s.now)))
  | _ => none

end PolicyTrial.Shell.Builtin
