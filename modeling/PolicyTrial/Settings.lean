import PolicyTrial.Expectation
import PolicyTrial.Number.Word
import PolicyTrial.Text.Quoted

/-!
# Settings

* `Settings`: everything that a run depends on besides its scenarios.
* `Settings.validate`: what settings are refused for, if they are.
* `ServerSettings`: the part that a server needs.
-/

namespace PolicyTrial

/-- How long an engine's server lives: for one scenario, or for all scenarios of a bundle. -/
inductive ServerScope
  | function
  | session
  deriving Repr, DecidableEq

namespace ServerScope

/-- The name of a scope. -/
def name : ServerScope → String
  | .function => "function"
  | .session => "session"

/-- All scopes. -/
def all : List ServerScope := [.function, .session]

/-- The scope as a JSON value. -/
def toJson (s : ServerScope) : Json := .string s.name

end ServerScope

/-- Everything that a run depends on besides its scenarios. -/
structure Settings where
  /-- The engine's path, which wins over every other way to find it. -/
  enginePath : Option String := none
  /-- The engine's name, for looking it up. -/
  engineName : String := "mpe"
  /-- Arguments that follow those of every decision and server. -/
  engineArgs : List String := []
  host : String := "127.0.0.1"
  port : Port := 9090
  /-- The channel of scenarios that ask for none. -/
  channel : Channel := .cli
  serverScope : ServerScope := .function
  /-- The number of scenarios that run at a time. -/
  jobs : Word := 1
  probeAttempts : Nat := 30
  probeIntervalMs : Nat := 500
  probeTimeoutMs : Nat := 1000
  /-- The time between the request to stop and the kill. -/
  gracePeriodSecs : Nat := 5
  /-- The bound on one process that is asked for a decision. -/
  invocationTimeoutSecs : Nat := 30
  /-- The bound on a whole scenario. -/
  scenarioDeadlineSecs : Nat := 60
  requestTimeoutSecs : Nat := 10
  decisionPath : String := "/decision"
  /-- The directory for artifacts. -/
  artifactsDir : Option String := none
  deriving Repr, DecidableEq

/-- What is needed to start a server and to talk to it. -/
structure ServerSettings where
  binary : String
  extraArgs : List String
  host : String
  port : Nat
  probeAttempts : Nat
  probeInterval : Duration
  probeTimeout : Duration
  gracePeriod : Duration
  requestTimeout : Duration
  decisionPath : String
  deriving Repr, DecidableEq

namespace Settings

/-- What settings are refused for, if they are. The ports of all servers that run at a time have to
exist, so the sum of the first port and of the jobs is looked at, as far as a word holds it. -/
def validate (build : Build) (s : Settings) : Except (Halt String) Unit :=
  if s.jobs = 0 then .error (.told "jobs must be at least 1")
  else if s.probeAttempts = 0 then .error (.told "probe_attempts must be at least 1")
  else if s.decisionPath.toList.head? ≠ some '/' then
    .error (.told ("decision_path must start with '/', got " ++ Text.quoted s.decisionPath))
  else
    match build.sum? s.port.word s.jobs with
    | none => .error .crash
    | some sum =>
      if sum.val > twoTo 16 then
        .error (.told ("port range " ++ toString s.port.val ++ ".." ++ toString sum.val ++
          " does not fit in u16"))
      else .ok ()

/-- The bound on one process that is asked for a decision. -/
def invocationTimeout (s : Settings) : Duration := .ofSecs s.invocationTimeoutSecs

/-- The bound on a whole scenario. -/
def scenarioDeadline (s : Settings) : Duration := .ofSecs s.scenarioDeadlineSecs

/-- The part of the settings that a server needs. -/
def server (s : Settings) (binary : String) : ServerSettings where
  binary
  extraArgs := s.engineArgs
  host := s.host
  port := s.port
  probeAttempts := s.probeAttempts
  probeInterval := .ofMillis s.probeIntervalMs
  probeTimeout := .ofMillis s.probeTimeoutMs
  gracePeriod := .ofSecs s.gracePeriodSecs
  requestTimeout := .ofSecs s.requestTimeoutSecs
  decisionPath := s.decisionPath

/-- The settings as a JSON value. -/
def toJson (s : Settings) : Json :=
  .object [("engine_path", .ofOption .string s.enginePath), ("engine_name", .string s.engineName),
    ("engine_args", .ofStrings s.engineArgs), ("host", .string s.host), ("port", .ofNat s.port),
    ("channel", s.channel.toJson), ("server_scope", s.serverScope.toJson), ("jobs", .ofNat s.jobs),
    ("probe_attempts", .ofNat s.probeAttempts), ("probe_interval_ms", .ofNat s.probeIntervalMs),
    ("probe_timeout_ms", .ofNat s.probeTimeoutMs),
    ("grace_period_secs", .ofNat s.gracePeriodSecs),
    ("invocation_timeout_secs", .ofNat s.invocationTimeoutSecs),
    ("scenario_deadline_secs", .ofNat s.scenarioDeadlineSecs),
    ("request_timeout_secs", .ofNat s.requestTimeoutSecs),
    ("decision_path", .string s.decisionPath),
    ("artifacts_dir", .ofOption .string s.artifactsDir)]

end Settings

end PolicyTrial
