import PolicyTrial.Failure
import PolicyTrial.Host.Procedure
import PolicyTrial.Json.Printer
import PolicyTrial.Settings

/-!
# Asking the engine with one process for each question

* `Deadline`: what is left of a scenario's time, and the failure if that is not enough.
* `Invoker.run`: one process, run to its end within its bound.
* `Invoker.decide`: the question for a decision, with the payload as the input.
* `Invoker.auxiliary`: a command that says something about the engine itself.
-/

namespace PolicyTrial

/-- What is left of a scenario's time, and the failure if that is not enough. -/
structure Deadline where
  left : Duration
  failure : Failure
  deriving Repr

/-- What is left, at this point, of the time that a scenario has from `start` on. -/
def Deadline.since (id : String) (span start : Duration) : Procedure Deadline := do
  let now ← Procedure.perform .clock
  return ⟨span - (now - start), .timeout ("scenario " ++ id) span⟩

/-- What runs an engine with one process for each question. -/
structure Invoker where
  binary : String
  /-- Arguments that follow those of every decision. -/
  extraArgs : List String
  /-- The bound on one process. -/
  limit : Duration
  deriving Repr, DecidableEq

/-- What runs the engine at a path under some settings. -/
def Settings.invoker (s : Settings) (binary : String) : Invoker :=
  ⟨binary, s.engineArgs, s.invocationTimeout⟩

namespace Invoker

/-- The arguments of the question for a decision. -/
def decisionArgs (i : Invoker) (bundle : String) : List String :=
  ["test", "decision", "--bundle", bundle] ++ i.extraArgs

/-- The failure of a process that took longer than its bound. -/
def overrun (i : Invoker) (args : List String) : Failure :=
  .timeout ("engine invocation `" ++ " ".intercalate args ++ "`") i.limit

/-- What the end of a process comes to. -/
def response (i : Invoker) (args : List String) (deadline : Option Deadline) (elapsed : Duration) :
    RunEnd → Response
  | .finished code stdout stderr => .ok ⟨.exit code, stdout, stderr, elapsed⟩
  | .notStarted => .error (.io ("spawning engine " ++ i.binary))
  | .lost => .error (.io "waiting for engine output")
  | .overran => .error (i.overrun args)
  | .abandoned => .error ((deadline.map (·.failure)).getD (i.overrun args))

/-- One process, run to its end within its bound and within what is left of a deadline. -/
def run (i : Invoker) (args : List String) (input : Option Bytes) (deadline : Option Deadline) :
    Procedure Response := do
  let start ← Procedure.perform .clock
  let ending ← Procedure.perform
    (.run ⟨i.binary, args⟩ input i.limit (deadline.map (·.left)))
  let finish ← Procedure.perform .clock
  return i.response args deadline (finish - start) ending

/-- The question for a decision on a payload under a bundle. -/
def decide (i : Invoker) (bundle : String) (payload : Json) (strictness : Strictness)
    (deadline : Option Deadline) : Procedure Response := do
  let response ← i.run (i.decisionArgs bundle) (some (Bytes.ofString payload.compact)) deadline
  return response.bind strictness.apply

/-- A command that says something about the engine itself, without an input. -/
def auxiliary (i : Invoker) (args : List String) : Procedure Response := i.run args none none

end Invoker

end PolicyTrial
