import PolicyTrial.CommandLine.Request
import PolicyTrial.Host.PortPool
import PolicyTrial.Manifest.Decode
import PolicyTrial.Run.Trial
import PolicyTrial.Settings.Decode

/-!
# Preparing what is asked for

Everything that a task needs is looked up first, without touching the engine. The first step that
fails is an obstacle to the whole task.

* `Obstacle`: why a task cannot be done, if it is not for a crash.
* `Work`: what is left to be done when everything is prepared.
* `Request.prepare`: the work that a request comes to, or an obstacle.
-/

namespace PolicyTrial.CommandLine

/-- The step of the preparations that fails. -/
inductive Step
  | config (path : String)
  | environment
  | manifest (path : String)
  | selection
  | setUp
  deriving Repr, DecidableEq

/-- The wording of a failing step. -/
def Step.message : Step → String
  | .config path => "Failed to load config " ++ path
  | .environment => "Invalid harness environment"
  | .manifest path => "Failed to load scenarios from " ++ path
  | .selection => "Scenario filter selected nothing"
  | .setUp => "Failed to set up the harness"

/-- Why a task cannot be done. -/
structure Obstacle where
  step : Step
  failure : Failure
  deriving Repr

/-- The wording of an obstacle. -/
def Obstacle.message (o : Obstacle) : String :=
  "Error: " ++ o.step.message ++ ": " ++ o.failure.message

/-- A step of the preparations. -/
def during {α : Type} (step : Step) (r : Except (Halt Failure) α) : Except (Halt Obstacle) α :=
  r.mapError (Halt.map fun failure => ⟨step, failure⟩)

/-- What is left to be done when everything is prepared. -/
inductive Work
  | run (bench : Bench) (scenarios : List Scenario)
  /-- The list of some scenarios, with the channel of those that ask for none. -/
  | list (scenarios : List Scenario) (default : Channel)
  | probe (bench : Bench) (bundle : Option String)
  deriving Repr

/-- The ports that some work needs. -/
def Work.ports : Work → PortPool
  | .run bench _ | .probe bench _ => bench.settings.ports
  | .list .. => PortPool.ofRange 0 0

/-- The options of a run count more than its settings. -/
def RunOptions.over (o : RunOptions) (s : Settings) : Settings :=
  { s with
    jobs := o.jobs.getD s.jobs
    channel := o.channel.getD s.channel
    serverScope := o.scope.getD s.serverScope
    artifactsDir := o.artifacts.or s.artifactsDir }

/-- Some scenarios of a manifest. -/
def scenariosOf (t : FileTree) (manifest : String) (patterns : List String) :
    Except (Halt Obstacle) (List Scenario) := do
  let registry ← during (.manifest manifest) (Halt.lift (Registry.load t manifest))
  let selected ← during .selection (Halt.lift (registry.select patterns))
  return selected.scenarios

namespace Request

/-- The settings: those of a file, then the port of the environment, then the flags that can stand
everywhere. -/
def settings (e : Environment) (r : Request) : Except (Halt Obstacle) Settings := do
  let loaded ← match r.config with
    | some path => during (.config path) (Settings.load e.build e.files path)
    | none => .ok {}
  let s ← during .environment (Halt.lift (loaded.applyEnvironment e))
  return { s with enginePath := r.engine.or s.enginePath, port := r.port.getD s.port }

/-- The work that a request comes to. -/
def prepare (e : Environment) (r : Request) : Except (Halt Obstacle) Work := do
  let s ← r.settings e
  match r.task with
  | .run manifest patterns options =>
    let s := options.over s
    let scenarios ← scenariosOf e.files manifest patterns
    return .run ⟨s, ← during .setUp (s.setUp e)⟩ scenarios
  | .list manifest patterns => return .list (← scenariosOf e.files manifest patterns) s.channel
  | .probe bundle => return .probe ⟨s, ← during .setUp (s.setUp e)⟩ bundle

end Request

end PolicyTrial.CommandLine
