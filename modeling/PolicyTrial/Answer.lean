import PolicyTrial.Diagnostics
import PolicyTrial.Text.Utf8
import PolicyTrial.Time.Duration

/-!
# What an engine answers

* `Status`: how a run of the engine or a request to its server ended.
* `Answer`: the status with everything that was captured.
-/

namespace PolicyTrial

/-- How a run ended: with an exit code, by a signal (no code), or with an HTTP status. -/
inductive Status
  | exit (code : Option Int)
  | http (code : Nat)
  deriving Repr, DecidableEq

namespace Status

/-- Exit code zero and the HTTP statuses from 200 to 299 are successes. -/
def success : Status → Bool
  | .exit code => code == some 0
  | .http code => 200 ≤ code && code < 300

/-- The status in words. -/
def text : Status → String
  | .exit (some code) => "exit code " ++ toString code
  | .exit none => "termination by signal"
  | .http code => "HTTP status " ++ toString code

/-- The status as a JSON value. -/
def toJson : Status → Json
  | .exit code => .object [("type", .string "exit"), ("code", .ofOption .ofInt code)]
  | .http code => .object [("type", .string "http"), ("code", .ofNat code)]

end Status

/-- Everything captured from one run or request. -/
structure Answer where
  status : Status
  stdout : Bytes
  stderr : Bytes
  elapsed : Duration
  deriving Repr, DecidableEq

namespace Answer

/-- Whether the status is a success. -/
def success (a : Answer) : Bool := a.status.success

/-- The output as text. -/
def stdoutText (a : Answer) : String := a.stdout.lossyText

/-- The error stream as text. -/
def stderrText (a : Answer) : String := a.stderr.lossyText

/-- The diagnostics: the error stream, then the output. -/
def diagnostics (a : Answer) : String := combined a.stderrText a.stdoutText

/-- The answer as a JSON value. -/
def toJson (a : Answer) : Json :=
  .object [("status", a.status.toJson), ("stdout", .string a.stdoutText),
    ("stderr", .string a.stderrText), ("elapsed", .ofNat a.elapsed.recordedMillis)]

end Answer

end PolicyTrial
