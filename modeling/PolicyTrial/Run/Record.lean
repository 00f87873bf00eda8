import PolicyTrial.Artifacts
import PolicyTrial.Run.Verdicts

/-!
# A whole run and what it leaves

* `Bench.report`: the report of a run, with the moments at which it began and ended.
* `Bench.record`: a run that leaves its artifacts if they are wanted.
-/

namespace PolicyTrial.Bench

variable {m : Type → Type} [Monad m]

/-- The report on some scenarios. The run begins at a moment, and ends when its verdicts are
there. -/
def report (x : Executor m) (b : Bench) (runId : String) (begins : Instant)
    (scenarios : List Scenario) : m Report := do
  let start ← x.alone (Procedure.perform .clock)
  let verdicts ← b.verdicts x scenarios
  let finish ← x.alone (Procedure.perform .clock)
  return Report.ofVerdicts runId begins (begins.after (finish - start)) verdicts

/-- A run that leaves its artifacts if they are wanted. If they cannot be written, the report stands
all the same. -/
def record (x : Executor m) (b : Bench) (runId : String) (begins : Instant)
    (scenarios : List Scenario) : m Report := do
  let report ← b.report x runId begins scenarios
  match b.settings.artifactsDir with
  | none => return report
  | some root =>
    let _ ← x.onFiles (Artifacts.write root report scenarios).run
    return report

end PolicyTrial.Bench
