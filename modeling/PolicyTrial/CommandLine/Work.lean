import PolicyTrial.CommandLine.Preparation
import PolicyTrial.CommandLine.Printed
import PolicyTrial.Host.Workers
import PolicyTrial.Probe
import PolicyTrial.Run.Record

/-!
# Doing what is asked for

* `Work.perform`: work, done by an executor.
* `Request.answer`: what comes of a request. The exit code tells whether everything passed,
  something failed, or the work could not even begin.
* `respond`: what comes of a command line on a host of its own.
-/

namespace PolicyTrial.CommandLine

/-- The exit code after a crash. -/
def crashedCode : Nat := 101

/-- What is printed when the preparations stop. -/
def haltPrinted : Halt Obstacle → Printed
  | .told o => { exit := refusedCode, err := line o.message }
  | .crash => { exit := crashedCode, err := line "attempt to add with overflow" }

/-- The exit code of work that was done: whether everything passed. -/
def exitCode (passed : Bool) : Nat := if passed then 0 else 1

namespace Work

variable {m : Type → Type} [Monad m]

/-- Some work, done by an executor. A run gets an id, and the moment at which it begins. -/
def perform (x : Executor m) (json : Bool) (runId : String) (begins : Instant) : Work → m Printed
  | .run bench scenarios => do
    let report ← bench.record x runId begins scenarios
    return { exit := exitCode report.allPassed
             out := if json then line report.toJson.pretty else reportText report }
  | .list scenarios default =>
    return { exit := 0
             out := if json then line (Json.array (scenarios.map Scenario.toJson)).pretty
               else line (scenarioTable default scenarios).text ++
                 line (toString scenarios.length ++ " scenario(s)") }
  | .probe bench bundle => do
    let outcomes ← x.alone (Probe.all bench.invoker bench.settings.engineName bundle)
    return { exit := exitCode (outcomes.all (·.passed))
             out := if json then line (Json.array (outcomes.map ProbeOutcome.toJson)).pretty
               else line (probeTable outcomes).text }

end Work

/-- What comes of a request, with an executor for its work. -/
def Request.answer {m : Type → Type} [Monad m] (x : Executor m) (e : Environment) (runId : String)
    (begins : Instant) (r : Request) : m Printed :=
  match r.prepare e with
  | .error halt => pure (haltPrinted halt)
  | .ok work => work.perform x r.json runId begins

/-- The host that a request finds, with the ports for its work. -/
def Request.host (e : Environment) (r : Request) : Host :=
  let ports := match r.prepare e with
    | .ok work => work.ports
    | .error _ => PortPool.ofRange 0 0
  Host.initial e.files e.bindings ports

/-- What comes of a command line on a host of its own, and the files afterwards. -/
def respond (e : Environment) (runId : String) (begins : Instant) (arguments : List String) :
    Printed × FileTree :=
  match Request.ofArguments arguments with
  | .error stop => (stop.printed, e.files)
  | .ok r =>
    let (printed, host) := r.answer Host.executor e runId begins (r.host e)
    (printed, host.files)

end PolicyTrial.CommandLine
