import PolicyTrial.Server.Scope
import PolicyTrial.Verdict

/-!
# One scenario on its own

* `Bench`: what the scenarios of a run are tried on.
* `leased`: a body of work with a port of its own.
* `Bench.trial`: one scenario in isolation, with a process or a server of its own.
-/

namespace PolicyTrial

/-- What the scenarios of a run are tried on: an engine under some settings. -/
structure Bench where
  settings : Settings
  binary : String
  deriving Repr, DecidableEq

namespace Bench

/-- What runs the engine for one question. -/
def invoker (b : Bench) : Invoker := b.settings.invoker b.binary

/-- What is needed to start a server of the engine. -/
def server (b : Bench) : ServerSettings := b.settings.server b.binary

end Bench

/-- A body of work with a port of its own, which is given back afterwards. -/
def leased {κ β : Type} (body : Nat → Procedure (Ending κ β)) : Procedure (Ending κ β) := do
  if ← Procedure.perform .takePermit then
    match ← Procedure.perform .popPort with
    | none =>
      Procedure.perform .releasePermit
      return .returned (.error (.setup "server port pool exhausted"))
    | some port =>
      let ending ← body port
      Procedure.perform (.pushPort port)
      Procedure.perform .releasePermit
      return ending
  else return .returned (.error (.setup "server port pool closed"))

namespace Bench

/-- The question for a decision on a scenario, put to a server, within what is left of the
scenario's time. -/
def request (b : Bench) (s : Scenario) (client : Client) (start : Duration) :
    Procedure Response := do
  let deadline ← Deadline.since s.id b.settings.scenarioDeadline start
  let response ← client.decide s.payload (some deadline)
  return response.bind s.expectation.strictness.apply

/-- The response to a scenario with a process of its own. -/
def invoke (b : Bench) (s : Scenario) (start : Duration) : Procedure Response := do
  let deadline ← Deadline.since s.id b.settings.scenarioDeadline start
  b.invoker.decide s.bundle s.payload s.expectation.strictness (some deadline)

/-- The response to a scenario with a server of its own. -/
def serve (b : Bench) (s : Scenario) (start : Duration) : Procedure Response :=
  Ending.result <$> leased fun port =>
    Server.scoped b.server s.bundle port fun client => Ending.returned <$> b.request s client start

/-- One scenario in isolation, over a channel. -/
def trial (b : Bench) (s : Scenario) (channel : Channel) : Procedure Verdict := do
  let start ← Procedure.perform .clock
  let response ← match channel with
    | .cli => b.invoke s start
    | .server => b.serve s start
  let finish ← Procedure.perform .clock
  return Verdict.ofResponse s channel response (finish - start)

end Bench

end PolicyTrial
