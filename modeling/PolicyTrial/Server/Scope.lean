import PolicyTrial.Invocation
import PolicyTrial.Server.Readiness

/-!
# Using a server

* `Server.start`: a server that is ready, or why there is none.
* `Client.decide`: a request for a decision.
* `Server.scoped`: a server for a body of work, shut down once whatever the body comes to.
-/

namespace PolicyTrial

/-- The address of a server. -/
def ServerSettings.baseUrl (s : ServerSettings) (port : Nat) : String :=
  "http://" ++ s.host ++ ":" ++ toString port

/-- The command that serves a bundle on a port. -/
def ServerSettings.command (s : ServerSettings) (bundle : String) (port : Nat) : Command :=
  ⟨s.binary, ["serve", "--bundle", bundle, "--http-port", toString port] ++ s.extraArgs⟩

/-- The client of a server that a process runs on a port. -/
def ServerSettings.client (s : ServerSettings) (port : Nat) (process : ProcessId) : Client :=
  ⟨s.baseUrl port, s.decisionPath, s.requestTimeout, process⟩

/-- A server for a bundle on a port that is ready, or why there is none. A server that does not get
ready is killed. -/
def Server.start (s : ServerSettings) (bundle : String) (port : Nat) :
    Procedure (Except Failure Server) := do
  match ← Procedure.perform (.launch (s.command bundle port) port) with
  | none => return .error (.io ("spawning engine server " ++ s.binary))
  | some process =>
    let server := Server.launched (s.client port process) s.gracePeriod
    match ← Readiness.await s server.client with
    | .ok () => return .ok server.readied
    | .error f =>
      let _ ← server.abandon
      return .error f

namespace Client

/-- What the end of a request for a decision comes to. -/
def response (c : Client) (deadline : Option Deadline) (elapsed : Duration) : PostEnd → Response
  | .answered status body => .ok ⟨.http status, body, [], elapsed⟩
  | .overran =>
    .error (.timeout ("HTTP request to " ++ c.baseUrl ++ c.decisionPath) c.requestTimeout)
  | .failed => .error (.http (c.baseUrl ++ c.decisionPath) false)
  | .abandoned =>
    .error ((deadline.map (·.failure)).getD (.http (c.baseUrl ++ c.decisionPath) false))

/-- A request for a decision; the body of the answer is its output. -/
def decide (c : Client) (payload : Json) (deadline : Option Deadline) : Procedure Response := do
  let start ← Procedure.perform .clock
  let ending ← Procedure.perform
    (.post (c.baseUrl ++ c.decisionPath) payload c.requestTimeout (deadline.map (·.left)))
  let finish ← Procedure.perform .clock
  return c.response deadline (finish - start) ending

end Client

/-- How a body of work ends: it returns something, or it crashes with a cause. Work that cannot
crash has no causes. -/
inductive Ending (κ β : Type)
  | returned (result : Except Failure β)
  | crashed (cause : κ)
  deriving Repr

namespace Ending

variable {κ β : Type}

/-- What is left of an ending after the teardown: a failure of the teardown shows only if the work
itself came to something. -/
def after (teardown : Except Failure Unit) : Ending κ β → Ending κ β
  | .returned (.ok b) => .returned (teardown.map fun () => b)
  | ending => ending

/-- What work that cannot crash returns. -/
def result : Ending Empty β → Except Failure β
  | .returned r => r

end Ending

/-- A server for a body of work, shut down once whatever the body comes to. -/
def Server.scoped {κ β : Type} (s : ServerSettings) (bundle : String) (port : Nat)
    (body : Client → Procedure (Ending κ β)) : Procedure (Ending κ β) := do
  match ← Server.start s bundle port with
  | .error f => return .returned (.error f)
  | .ok server =>
    let ending ← body server.client
    let (teardown, _) ← server.shutdown
    return ending.after teardown

end PolicyTrial
