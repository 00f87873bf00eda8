import PolicyTrial.Json.Shape
import PolicyTrial.Number.Power
import PolicyTrial.Settings

/-!
# Settings as JSON

* `Settings.shape`: the reader for settings. Missing fields have defaults, and unknown ones do not
  matter.
-/

namespace PolicyTrial.Settings

open Json (Shape)

/-- A number of 64 bits. -/
def word : Shape Nat := Shape.natural (twoTo 64)

/-- The fields of the settings, in order. -/
def shapeTable : Shape.FieldTable Settings :=
  [("engine_path", (Shape.optional .text).map fun v s => { s with enginePath := v }),
    ("engine_name", Shape.text.map fun v s => { s with engineName := v }),
    ("engine_args", (Shape.list .text).map fun v s => { s with engineArgs := v }),
    ("host", Shape.text.map fun v s => { s with host := v }),
    ("port", (Shape.natural (twoTo 16)).map
      fun v s => { s with port := Fin.ofNat _ v }),
    ("channel", (Shape.name (Channel.all.map fun c => (c.name, c))).map
      fun v s => { s with channel := v }),
    ("server_scope", (Shape.name (ServerScope.all.map fun c => (c.name, c))).map
      fun v s => { s with serverScope := v }),
    ("jobs", word.map fun v s => { s with jobs := Fin.ofNat _ v }),
    ("probe_attempts", (Shape.natural (twoTo 32)).map fun v s => { s with probeAttempts := v }),
    ("probe_interval_ms", word.map fun v s => { s with probeIntervalMs := v }),
    ("probe_timeout_ms", word.map fun v s => { s with probeTimeoutMs := v }),
    ("grace_period_secs", word.map fun v s => { s with gracePeriodSecs := v }),
    ("invocation_timeout_secs", word.map fun v s => { s with invocationTimeoutSecs := v }),
    ("scenario_deadline_secs", word.map fun v s => { s with scenarioDeadlineSecs := v }),
    ("request_timeout_secs", word.map fun v s => { s with requestTimeoutSecs := v }),
    ("decision_path", Shape.text.map fun v s => { s with decisionPath := v }),
    ("artifacts_dir", (Shape.optional .text).map fun v s => { s with artifactsDir := v })]

/-- The reader for settings. -/
def shape : Shape Settings := Shape.record shapeTable {}

end PolicyTrial.Settings
