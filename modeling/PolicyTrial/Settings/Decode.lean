import PolicyTrial.Files.Tree
import PolicyTrial.Number.Power
import PolicyTrial.Settings
import PolicyTrial.Yaml.Decoder

/-!
# Reading settings

* `Settings.decoder`: the decoder for settings. Missing fields have defaults, and unknown ones do
  not matter.
* `Settings.load`: the settings of a file, with its relative paths resolved against its directory.
-/

namespace PolicyTrial

open Yaml (Decoder)

namespace Settings

/-- Settings being read, with the names of the fields that have been there. -/
structure Draft where
  settings : Settings := {}
  seen : List String := []

/-- The change that a field's value makes, by the field's name. -/
def fieldChange : String → Option (Decoder (Settings → Settings))
  | "engine_path" => some ((Decoder.optional .text).map fun v s => { s with enginePath := v })
  | "engine_name" => some (Decoder.text.map fun v s => { s with engineName := v })
  | "engine_args" => some ((Decoder.list .text).map fun v s => { s with engineArgs := v })
  | "host" => some (Decoder.text.map fun v s => { s with host := v })
  | "port" =>
    some ((Decoder.natural (twoTo 16)).map fun v s => { s with port := Fin.ofNat _ v })
  | "channel" => some ((Decoder.name (Channel.all.map fun c => (c.name, c))).map
      fun v s => { s with channel := v })
  | "server_scope" => some ((Decoder.name (ServerScope.all.map fun c => (c.name, c))).map
      fun v s => { s with serverScope := v })
  | "jobs" =>
    some ((Decoder.natural (twoTo 64)).map fun v s => { s with jobs := Fin.ofNat _ v })
  | "probe_attempts" =>
    some ((Decoder.natural (twoTo 32)).map fun v s => { s with probeAttempts := v })
  | "probe_interval_ms" =>
    some ((Decoder.natural (twoTo 64)).map fun v s => { s with probeIntervalMs := v })
  | "probe_timeout_ms" =>
    some ((Decoder.natural (twoTo 64)).map fun v s => { s with probeTimeoutMs := v })
  | "grace_period_secs" =>
    some ((Decoder.natural (twoTo 64)).map fun v s => { s with gracePeriodSecs := v })
  | "invocation_timeout_secs" =>
    some ((Decoder.natural (twoTo 64)).map fun v s => { s with invocationTimeoutSecs := v })
  | "scenario_deadline_secs" =>
    some ((Decoder.natural (twoTo 64)).map fun v s => { s with scenarioDeadlineSecs := v })
  | "request_timeout_secs" =>
    some ((Decoder.natural (twoTo 64)).map fun v s => { s with requestTimeoutSecs := v })
  | "decision_path" => some (Decoder.text.map fun v s => { s with decisionPath := v })
  | "artifacts_dir" => some ((Decoder.optional .text).map fun v s => { s with artifactsDir := v })
  | _ => none

/-- A field of the settings, which may come once. -/
def field (key : String) (d : Draft) : Decoder Draft :=
  match fieldChange key with
  | none => Decoder.ignored.map fun _ => d
  | some change =>
    if key ∈ d.seen then .fail .unreadable
    else change.map fun f => ⟨f d.settings, key :: d.seen⟩

/-- The decoder for settings. -/
def decoder : Decoder Settings := (Decoder.record field {}).map (·.settings)

/-- The settings with their relative paths below a directory. -/
def below (dir : String) (s : Settings) : Settings :=
  { s with
    enginePath := s.enginePath.map (Path.join dir)
    artifactsDir := s.artifactsDir.map (Path.join dir) }

/-- The settings of a file. -/
def load (build : Build) (t : FileTree) (path : String) : Except (Halt Failure) Settings :=
  match t.readText path with
  | .error e => .error (.told (.config path ("cannot read file: " ++ e.message)))
  | .ok content =>
    match Yaml.decode decoder content with
    | .error e => .error (.told (.config path e.message))
    | .ok s =>
      let s := s.below ((Path.parent? path).getD ".")
      match s.validate build with
      | .error halt => .error (halt.map (.config path))
      | .ok () => .ok s

end Settings

end PolicyTrial
