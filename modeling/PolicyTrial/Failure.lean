import PolicyTrial.Answer
import PolicyTrial.Text.Quoted

/-!
# Failures

* `Failure`: why there is no answer, or why an answer cannot be used.
* `FailureKind`: the kind under which a verdict reports it.
* `Strictness.apply`: under a strict reading an unsuccessful answer is a failure.
* `Halt`: what the program itself stops at.
-/

namespace PolicyTrial

/-- The kinds under which verdicts report failures. -/
inductive FailureKind
  | setupFailure
  | processFailure
  | timeout
  | malformedOutput
  | normalizationMismatch
  | expectationMismatch
  deriving Repr, DecidableEq

namespace FailureKind

/-- The kind as it is shown to a reader. -/
def text : FailureKind → String
  | .setupFailure => "SetupFailure"
  | .processFailure => "ProcessFailure"
  | .timeout => "Timeout"
  | .malformedOutput => "MalformedOutput"
  | .normalizationMismatch => "NormalizationMismatch"
  | .expectationMismatch => "ExpectationMismatch"

/-- The kind as it is recorded. -/
def name : FailureKind → String
  | .setupFailure => "setup_failure"
  | .processFailure => "process_failure"
  | .timeout => "timeout"
  | .malformedOutput => "malformed_output"
  | .normalizationMismatch => "normalization_mismatch"
  | .expectationMismatch => "expectation_mismatch"

/-- All kinds. -/
def all : List FailureKind :=
  [.setupFailure, .processFailure, .timeout, .malformedOutput, .normalizationMismatch,
    .expectationMismatch]

/-- The kind as a JSON value. -/
def toJson (k : FailureKind) : Json := .string k.name

end FailureKind

/-- Why there is no answer, or why an answer cannot be used. -/
inductive Failure
  /-- The engine, or something else that every scenario needs, is not there. -/
  | setup (reason : String)
  /-- The engine did not succeed where it had to. -/
  | process (answer : Answer)
  /-- Something took longer than its bound. -/
  | timeout (operation : String) (after : Duration)
  /-- The output is no decision document. -/
  | malformedOutput (reason : String) (output : String)
  /-- A decision is spelled in an unknown way. -/
  | unrecognizedToken (token : String) (location : String)
  /-- The answer is not the expected one. -/
  | expectationUnmet (explanation : String)
  /-- The server did not get ready, in time or at all. -/
  | serverNotStarted (baseUrl : String) (reason : String) (timedOut : Bool)
  /-- Settings or a manifest cannot be used. -/
  | config (path : String) (reason : String)
  /-- The operating system refused something. -/
  | io (action : String)
  /-- A request got no answer. -/
  | http (url : String) (timedOut : Bool)
  deriving Repr, DecidableEq

namespace Failure

/-- The kind under which a verdict reports the failure. -/
def kind : Failure → FailureKind
  | .setup _ | .config .. => .setupFailure
  | .process _ | .io _ => .processFailure
  | .timeout .. => .timeout
  | .malformedOutput .. => .malformedOutput
  | .unrecognizedToken .. => .normalizationMismatch
  | .expectationUnmet _ => .expectationMismatch
  | .serverNotStarted _ _ timedOut | .http _ timedOut =>
    if timedOut then .timeout else .processFailure

/-- Whether the failure ends a whole run instead of one scenario. -/
def isFatal (f : Failure) : Bool := f.kind == .setupFailure

/-- The failure in words. -/
def message : Failure → String
  | .setup reason =>
    "Harness setup failed: " ++ reason ++ "\n\nSet `engine_path` in the harness config, " ++
      "pass --engine, or export GAUNTLET_ENGINE_PATH."
  | .process answer =>
    "Engine exited with " ++ answer.status.text ++ " where success was required\n\nstderr:\n" ++
      answer.stderrText
  | .timeout operation after => operation ++ " timed out after " ++ after.text
  | .malformedOutput reason _ => "Engine output is not a valid decision document: " ++ reason
  | .unrecognizedToken token location =>
    "Unrecognized decision token " ++ Text.quoted token ++ " at " ++ location
  | .expectationUnmet explanation => "Expectation not met: " ++ explanation
  | .serverNotStarted baseUrl reason _ =>
    "Engine server failed to start on " ++ baseUrl ++ ": " ++ reason
  | .config path reason => "Invalid harness configuration in " ++ path ++ ": " ++ reason
  | .io action => "I/O error while " ++ action
  | .http url _ => "HTTP request to " ++ url ++ " failed"

end Failure

/-- What came of asking the engine. -/
abbrev Response := Except Failure Answer

/-- The answer that a response carries, be it a failure of the process. -/
def Response.answer? : Response → Option Answer
  | .ok answer | .error (.process answer) => some answer
  | .error _ => none

/-- Whether an unsuccessful answer is a failure or just an answer. -/
inductive Strictness
  | strict
  | lenient
  deriving Repr, DecidableEq

/-- Under a strict reading an unsuccessful answer is a failure of the process. -/
def Strictness.apply : Strictness → Answer → Response
  | .strict, answer => if answer.success then .ok answer else .error (.process answer)
  | .lenient, answer => .ok answer

/-- What the program stops at: something that it tells, or a crash. -/
inductive Halt (ε : Type)
  | told (e : ε)
  | crash
  deriving Repr, DecidableEq

namespace Halt

variable {ε ε' α : Type}

/-- What is told, put into something else. -/
def map (f : ε → ε') : Halt ε → Halt ε'
  | .told e => .told (f e)
  | .crash => .crash

/-- A result of something that never crashes. -/
def lift (r : Except ε α) : Except (Halt ε) α := r.mapError .told

end Halt

end PolicyTrial
