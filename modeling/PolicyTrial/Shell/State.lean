import PolicyTrial.Shell.Arithmetic
import PolicyTrial.Shell.Script
import PolicyTrial.Shell.Utility

/-!
# The state of a running script

A script runs on a clock of its own, which starts at zero, and is looked at when the clock comes to
a horizon. What it writes and what it does to the files is recorded on the way.

* `Shell.State`: the state.
* `Shell.State.pass`: time passes, and what comes in between happens.
* `Shell.State.emit`: something is written on a descriptor.
* `Shell.State.change`: something is done to the files.
-/

namespace PolicyTrial.Shell

/-- Where what is written on a descriptor goes. -/
inductive Sink
  /-- A stream by its number. Those of the script are 0 for its output and 1 for its errors; the
  others are collected for a word or for the next stage of a pipeline. -/
  | stream (n : Nat)
  | file (path : String)
  | nowhere
  deriving Repr, DecidableEq

/-- What a script does next. -/
inductive Flow
  | onward
  /-- It leaves so many loops. -/
  | leaving (loops : Nat)
  /-- It leaves all but one of so many loops, and goes on with the next turn of that one. -/
  | again (loops : Nat)
  | returning
  | exiting
  /-- A signal has ended it. -/
  | killed
  /-- The horizon has come first. -/
  | cut
  deriving Repr, DecidableEq

/-- The state of a running script. Times are in nanoseconds. -/
structure State where
  /-- The name under which it runs. -/
  name : Octets
  arguments : List Octets
  /-- The variables with their values. -/
  bindings : Arithmetic.Variables
  /-- The values to be put back when the function that is running returns. -/
  locals : List (Octets × Option Octets) := []
  functions : List (Octets × Command) := []
  /-- What is done on which signal; nothing at all if the signal is ignored. -/
  traps : List (Nat × Octets) := []
  status : Nat := 0
  /-- The status of the command whose output was collected last. -/
  collected : Option Nat := none
  /-- Whether a command that fails ends the script. -/
  strict : Bool := false
  flow : Flow := .onward
  input : Octets
  sinks : List (Nat × Sink) := [(1, .stream 0), (2, .stream 1)]
  /-- What was written to each stream, the latest text first. -/
  streams : List (Nat × List Octets) := [(0, []), (1, [])]
  files : FileTree
  /-- What was done to the files, the latest change first. -/
  changes : List FileChange := []
  now : Nat := 0
  horizon : Nat
  /-- The signals that come from outside, with the times when they come. -/
  signals : List (Nat × Nat) := []
  /-- When the commands in the background have ended. -/
  backgroundEnd : Nat := 0
  /-- When the last of those commands has ended that hold a stream of the script open. -/
  streamsEnd : Nat := 0

namespace State

/-- Whether a script goes on with its next command. -/
def isOnward (s : State) : Bool := s.flow == .onward

/-- Whether a script has come to its end, or to its horizon. -/
def isOver (s : State) : Bool := s.flow == .killed || s.flow == .cut

/-- A script with another status. -/
def withStatus (n : Nat) (s : State) : State := { s with status := n }

/-! ### Time and signals -/

/-- The signals that have a name. -/
def signalNames : List (String × Nat) :=
  [("EXIT", 0), ("HUP", 1), ("INT", 2), ("QUIT", 3), ("ABRT", 6), ("KILL", 9), ("USR1", 10),
    ("USR2", 12), ("PIPE", 13), ("ALRM", 14), ("TERM", 15), ("CHLD", 17), ("CONT", 18)]

/-- The signal with a name or number. -/
def signal? (s : Octets) : Option Nat :=
  (Octets.digits? s).or (signalNames.findSome? fun (name, n) =>
    if name.toList = s ∨ ("SIG" ++ name).toList = s then some n else none)

/-- Whether a signal ends a script. -/
def isDeadly (s : State) (signal : Nat) : Bool :=
  signal == 9 || !(s.traps.any (·.1 == signal) || signal == 0 || signal == 17 || signal == 18)

/-- Time passes; without a span it passes until something ends the script. A deadly signal that
comes on the way ends it, and the horizon cuts it. -/
def pass (span : Option Nat) (s : State) : State :=
  let finish := span.map (s.now + ·)
  let comes (t : Nat) : Bool := t ≤ s.horizon && (finish.all (t ≤ ·))
  match s.signals.find? fun (t, n) => comes t && s.isDeadly n with
  | some (t, _) => { s with now := max s.now t, flow := .killed }
  | none =>
    match finish.filter (· ≤ s.horizon) with
    | some t => { s with now := t }
    | none => { s with now := s.horizon, flow := .cut }

/-- A script sends itself a signal. -/
def raise (signal : Nat) (s : State) : State :=
  pass (some 0) { s with signals := s.signals ++ [(s.now, signal)] }

/-- The handler of a signal that has come, and the script with the signals that are still to come or
to be handled. -/
def caught (s : State) : Option (Octets × State) :=
  (s.signals.find? fun (t, _) => t ≤ s.now).map fun (t, n) =>
    ((s.traps.lookup n).getD [], { s with signals := s.signals.erase (t, n) })

/-! ### Variables -/

/-- The value of a variable. -/
def value? (s : State) (name : Octets) : Option Octets := s.bindings.lookup name

/-- A variable gets a value. -/
def assign (name value : Octets) (s : State) : State :=
  { s with bindings := (name, value) :: s.bindings.filter (·.1 != name) }

/-- A variable has no value any more. -/
def unset (name : Octets) (s : State) : State :=
  { s with bindings := s.bindings.filter (·.1 != name) }

/-- A variable has the value that it had before, if it had one. -/
def putBack (s : State) : Octets × Option Octets → State
  | (name, some value) => s.assign name value
  | (name, none) => s.unset name

/-- The characters that separate fields. -/
def separators (s : State) : List Char := (s.value? "IFS".toList).getD [' ', '\t', '\n']

/-! ### Output and files -/

/-- A path from the root. -/
def fullPath (s : State) (path : String) : String :=
  if Path.isAbsolute path then path else "/" ++ "/".intercalate s.files.workingDir ++ "/" ++ path

/-- Something is done to the files. -/
def change (c : FileChange) (s : State) : State :=
  let full := match c with
    | .write path content => FileChange.write (s.fullPath path) content
    | .makeDir path => .makeDir (s.fullPath path)
    | .remove path => .remove (s.fullPath path)
  { s with files := full.apply s.files, changes := full :: s.changes }

/-- Something is written on a descriptor. -/
def emit (descriptor : Nat) (text : Octets) (s : State) : State :=
  match s.sinks.lookup descriptor with
  | some (.stream n) =>
    { s with streams := s.streams.map fun (m, texts) =>
        (m, if m = n then text :: texts else texts) }
  | some (.file path) =>
    s.change (.write path ((s.files.read path).toOption.getD [] ++ Octets.toBytes text))
  | some .nowhere | none => s

/-- What was written to a stream. -/
def written (s : State) (stream : Nat) : Octets :=
  ((s.streams.lookup stream).getD []).reverse.flatten

/-- A descriptor leads to a sink. -/
def lead (descriptor : Nat) (sink : Sink) (s : State) : State :=
  { s with sinks := (descriptor, sink) :: s.sinks.filter (·.1 != descriptor) }

/-- A script whose output is collected in a new stream, with the number of the stream. -/
def collecting (s : State) : Nat × State :=
  let n := s.streams.length
  (n, { s with streams := (n, []) :: s.streams }.lead 1 (.stream n))

/-- A complaint on the error stream, as the shell words it. -/
def complain (line : Nat) (text : Octets) (s : State) : State :=
  s.emit 2 (s.name ++ ": ".toList ++ Octets.ofNat line ++ ": ".toList ++ text ++ ['\n'])

/-- The script moves to another directory; nothing if there is no such directory. -/
def move? (path : String) (s : State) : Option State :=
  match s.files.resolve path with
  | .ok (place, some .directory) =>
    let above := (List.range s.files.workingDir.length).map fun n =>
      (s.files.workingDir.take (n + 1), FileNode.directory)
    some { s with files := ⟨s.files.entries ++ above, place⟩ }
  | _ => none

/-- What a program did happens. -/
def absorb (e : Effect) (s : State) : State :=
  let s := s.pass e.span
  if s.isOver then s
  else
    let s := e.changes.foldl (fun s c => s.change c) s
    ({ s with input := e.input, status := e.status }.emit 1 e.out).emit 2 e.err

end State

end PolicyTrial.Shell
