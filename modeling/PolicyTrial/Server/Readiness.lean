import PolicyTrial.Server.Lifecycle
import PolicyTrial.Settings

/-!
# Waiting for a server to get ready

Before each probe it is looked whether the process has exited, and only the status 200 makes a
server ready.

* `Client.health`: a request for the server's health.
* `Readiness.await`: the first thing that decides, or that the attempts are used up.
* `Readiness.exited`, `Readiness.exhausted`: the two ways to fail.
-/

namespace PolicyTrial

namespace Client

/-- What the end of a request for the server's health comes to: its status, or the failure to get
one. -/
def healthStatus (c : Client) : GetEnd → Except Failure Nat
  | .answered status => .ok status
  | .overran => .error (.http (c.baseUrl ++ "/health") true)
  | .failed => .error (.http (c.baseUrl ++ "/health") false)

theorem healthStatus_eq_ok_iff {c : Client} {ending : GetEnd} {status : Nat} :
    c.healthStatus ending = .ok status ↔ ending = .answered status := by
  cases ending <;> simp [healthStatus]

/-- A request for the server's health; only the status of the answer matters. -/
def health (c : Client) (limit : Duration) : Procedure (Except Failure Nat) := do
  return c.healthStatus (← Procedure.perform (.get (c.baseUrl ++ "/health") limit))

theorem health_bind {α : Type} (c : Client) (limit : Duration)
    (f : Except Failure Nat → Procedure α) :
    (c.health limit >>= f) =
      (Procedure.perform (.get (c.baseUrl ++ "/health") limit) >>= fun ending =>
        f (c.healthStatus ending)) := rfl

end Client

namespace Readiness

/-- An exit code, if there is one, as it stands in the reason of a failure. -/
def codeText : Option Int → String
  | some code => "Some(" ++ toString code ++ ")"
  | none => "None"

/-- The failure of a server whose process exited before it was ready. Its reason quotes what the
process wrote to its error stream. -/
def exited (client : Client) (code : Option Int) (stderr : Bytes) : Failure :=
  .serverNotStarted client.baseUrl
    ("process exited with " ++ codeText code ++ " before becoming ready\n" ++ stderr.lossyText)
    false

/-- The failure of a server that no probe found ready. -/
def exhausted (client : Client) (attempts : Nat) (interval : Duration) : Failure :=
  .serverNotStarted client.baseUrl
    ("no healthy probe after " ++ toString attempts ++ " attempts at " ++ interval.text ++
      " intervals") true

/-- How many probes are made: at least one. -/
def attempts (s : ServerSettings) : Nat := max s.probeAttempts 1

/-- The probes that are left. -/
def probe (s : ServerSettings) (client : Client) : Nat → Procedure (Except Failure Unit)
  | 0 => return .error (exhausted client (attempts s) s.probeInterval)
  | left + 1 => do
    match ← Procedure.perform (.poll client.process) with
    | some code =>
      Procedure.perform (.settle client.process s.probeTimeout)
      return .error (exited client code (← Procedure.perform (.captured client.process)))
    | none =>
      match ← client.health s.probeTimeout with
      | .ok 200 => return .ok ()
      | _ =>
        Procedure.perform (.pause s.probeInterval)
        probe s client left

/-- Waits for a server to get ready. -/
def await (s : ServerSettings) (client : Client) : Procedure (Except Failure Unit) :=
  probe s client (attempts s)

end Readiness

end PolicyTrial
