import PolicyTrial.Host.Procedure
import PolicyTrial.Failure

/-!
# The life of a server

A server is starting until it has answered a probe; then it is ready until it is shut down, which
takes it through terminating to terminated. A server that does not get ready has failed to start.

* `Server`: a server with the process that it owns.
* `Server.launched`, `Server.readied`, `Server.abandoned`, `Server.terminating`,
  `Server.terminated`: the steps of its life.
* `Server.shutdown`: asks a server to end, and kills it if it does not. Only the first shutdown does
  anything.
-/

namespace PolicyTrial

/-- Where a server is in its life. -/
inductive ServerState
  | starting
  | ready
  | terminating
  | terminated
  | failedToStart
  deriving Repr, DecidableEq

/-- What is needed to send requests to a server. -/
structure Client where
  baseUrl : String
  decisionPath : String
  requestTimeout : Duration
  process : ProcessId
  deriving Repr, DecidableEq

/-- A server with the process that it owns. -/
structure Server where
  state : ServerState
  /-- The process, as long as the server owns it. -/
  owned : Option ProcessId
  /-- How many times the server was torn down. -/
  teardowns : Nat
  gracePeriod : Duration
  client : Client
  deriving Repr, DecidableEq

namespace Server

/-- A server whose process was just launched. -/
def launched (client : Client) (gracePeriod : Duration) : Server :=
  ⟨.starting, some client.process, 0, gracePeriod, client⟩

/-- A server that has answered a probe. -/
def readied (s : Server) : Server := { s with state := .ready }

/-- A server that does not get ready gives up its process. -/
def abandoned (s : Server) : Server := { s with state := .failedToStart, owned := none }

/-- A server that is being torn down gives up its process. -/
def terminating (s : Server) : Server :=
  { s with state := .terminating, owned := none, teardowns := s.teardowns + 1 }

/-- A server whose process has ended. -/
def terminated (s : Server) : Server := { s with state := .terminated }

/-- Kills a process; it is a failure if it cannot be collected. -/
def killProcess (process : ProcessId) : Procedure (Except Failure Unit) := do
  if ← Procedure.perform (.kill process) then return .ok ()
  else return .error (.io "reaping killed engine server")

/-- Kills a server that did not get ready. It has failed to start whatever comes of that. -/
def abandon (s : Server) : Procedure Server := do
  match s.owned with
  | none => return s.abandoned
  | some process =>
    let _ ← killProcess process
    return s.abandoned

/-- Asks a server to end, waits for its grace period, and then kills it. Nothing is done if the
server owns no process. -/
def shutdown (s : Server) : Procedure (Except Failure Unit × Server) := do
  match s.owned with
  | none => return (.ok (), s)
  | some process =>
    let s := s.terminating
    Procedure.perform (.terminate process)
    match ← Procedure.perform (.awaitExit process s.gracePeriod) with
    | .exited => return (.ok (), s.terminated)
    | .failed | .elapsed =>
      match ← killProcess process with
      | .ok () => return (.ok (), s.terminated)
      | .error f => return (.error f, s)

end Server

end PolicyTrial
