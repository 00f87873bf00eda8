import PolicyTrial.Time.Instant
import PolicyTrial.Verdict

/-!
# Reports

* `Report`: all verdicts of a run with their counts.
* `Report.ofVerdicts`: the report on some verdicts.
-/

namespace PolicyTrial

/-- The outcome of one check of an auxiliary command. -/
structure ProbeOutcome where
  name : String
  passed : Bool
  detail : String
  deriving Repr, DecidableEq

/-- The outcome of a check as a JSON value. -/
def ProbeOutcome.toJson (p : ProbeOutcome) : Json :=
  .object [("name", .string p.name), ("passed", .bool p.passed), ("detail", .string p.detail)]

/-- All verdicts of a run. -/
structure Report where
  runId : String
  startedAt : Instant
  finishedAt : Instant
  passed : Nat
  failed : Nat
  verdicts : List Verdict
  deriving Repr

namespace Report

/-- The report on some verdicts, which counts the passing ones and the others. -/
def ofVerdicts (runId : String) (startedAt finishedAt : Instant) (verdicts : List Verdict) :
    Report :=
  let passed := (verdicts.filter (·.passed)).length
  { runId, startedAt, finishedAt, passed, failed := verdicts.length - passed, verdicts }

/-- The number of verdicts. -/
def total (r : Report) : Nat := r.verdicts.length

/-- Whether no verdict failed. -/
def allPassed (r : Report) : Bool := r.failed == 0

/-- The counts in words. -/
def summary (r : Report) : String :=
  toString r.passed ++ "/" ++ toString r.total ++ " scenarios passed"

/-- The failing verdicts, in order. -/
def failures (r : Report) : List Verdict := r.verdicts.filter (!·.passed)

/-- The report as a JSON value. -/
def toJson (r : Report) : Json :=
  .object [("run_id", .string r.runId), ("started_at", .string r.startedAt.text),
    ("finished_at", .string r.finishedAt.text), ("passed", .ofNat r.passed),
    ("failed", .ofNat r.failed), ("verdicts", .array (r.verdicts.map Verdict.toJson))]

end Report

end PolicyTrial
