import PolicyTrial.Json.Basic
import PolicyTrial.Text.Utf8
import PolicyTrial.Time.Duration

/-!
# What a host is asked to do

Everything that a run does outside its own judgement is one of a few actions: to look at the clock,
to run or launch the engine, to look after a launched process, to send a request, and to take or
give back a port.

* `Action`: one such action.
* `Action.Reply`: what comes back from it.
-/

namespace PolicyTrial

/-- A program with its arguments. -/
structure Command where
  program : String
  arguments : List String
  deriving Repr, DecidableEq

/-- The number by which a launched process is known. -/
abbrev ProcessId := Nat

/-- What comes of running a command to its end. -/
inductive RunEnd
  /-- It ended, with an exit code unless a signal ended it. -/
  | finished (code : Option Int) (stdout stderr : Bytes)
  /-- It could not be started. -/
  | notStarted
  /-- It ended, but what it wrote could not be collected. -/
  | lost
  /-- Its own bound came first, and it was killed. -/
  | overran
  /-- The deadline of the scenario came first, and it was killed. -/
  | abandoned
  deriving Repr, DecidableEq

/-- What comes of sending a request without a body. -/
inductive GetEnd
  | answered (status : Nat)
  /-- The bound on the request came first. -/
  | overran
  | failed
  deriving Repr, DecidableEq

/-- What comes of sending a request with a body. -/
inductive PostEnd
  | answered (status : Nat) (body : Bytes)
  /-- The bound on requests came first. -/
  | overran
  | failed
  /-- The deadline of the scenario came first. -/
  | abandoned
  deriving Repr, DecidableEq

/-- What comes of waiting for a process to exit. -/
inductive WaitEnd
  | exited
  | failed
  /-- It was still there when the bound came. -/
  | elapsed
  deriving Repr, DecidableEq

/-- One thing that a host does. -/
inductive Action
  /-- Looks at the clock. -/
  | clock
  /-- Runs a command with an input, within its own bound and within what is left of a deadline. -/
  | run (command : Command) (input : Option Bytes) (limit : Duration) (deadline : Option Duration)
  /-- Launches a server on a port. -/
  | launch (command : Command) (port : Nat)
  /-- Looks whether a process has exited. -/
  | poll (process : ProcessId)
  /-- Lets the readers of an exited process come to the end of what it wrote. -/
  | settle (process : ProcessId) (limit : Duration)
  /-- Looks at what was kept of a process's error stream. -/
  | captured (process : ProcessId)
  /-- Sends a request without a body. -/
  | get (url : String) (limit : Duration)
  /-- Sends a request with a body, within its own bound and within what is left of a deadline. -/
  | post (url : String) (body : Json) (limit : Duration) (deadline : Option Duration)
  /-- Lets time pass. -/
  | pause (span : Duration)
  /-- Asks a process to end. -/
  | terminate (process : ProcessId)
  /-- Waits for a process to exit. -/
  | awaitExit (process : ProcessId) (limit : Duration)
  /-- Kills a process and collects it. -/
  | kill (process : ProcessId)
  /-- Waits for the permit to take a port. -/
  | takePermit
  /-- Takes a port. -/
  | popPort
  /-- Gives a port back. -/
  | pushPort (port : Nat)
  /-- Gives a permit back. -/
  | releasePermit
  deriving Repr

/-- What comes back from an action. -/
abbrev Action.Reply : Action → Type
  | .clock => Duration
  | .run .. => RunEnd
  /- The process, if it could be started. -/
  | .launch .. => Option ProcessId
  /- Nothing while it lives; then its exit code, unless a signal ended it. -/
  | .poll _ => Option (Option Int)
  | .settle .. => Unit
  | .captured _ => Bytes
  | .get .. => GetEnd
  | .post .. => PostEnd
  | .pause _ => Unit
  | .terminate _ => Unit
  | .awaitExit .. => WaitEnd
  /- Whether it was collected. -/
  | .kill _ => Bool
  /- Whether there still are permits to be had. -/
  | .takePermit => Bool
  | .popPort => Option Nat
  | .pushPort _ => Unit
  | .releasePermit => Unit

end PolicyTrial
