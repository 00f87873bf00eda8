import PolicyTrial.Files.Path
import PolicyTrial.Proofs.Host.Lease

/-!
# Engines that answer by bundle and payload

An `Engine` says what comes of starting a server for a bundle, what a server for a bundle answers to
a payload, and what comes of a process that is asked instead. A bundle is where its path leads, in
whatever spelling. `Engine.Governs` says that a world behaves like that: neither the server
instance, nor its port, nor what was asked before makes a difference. Everything else may differ
from one time to the next, clocks and the number of probes included.

What an engine gives as an answer may be any end of a request, so a deadline that expires is not
excluded as such. But it could not expire for one server and not for another.

* `Engine.response`: the response of such an engine to a scenario.
* `Engine.Gives`: the verdicts on such responses.
-/

namespace PolicyTrial

/-- What comes of starting a server. -/
inductive Startup
  | notLaunched
  /-- The process exited before it was ready. -/
  | exited (code : Option Int) (stderr : Bytes)
  /-- No probe found the server ready. -/
  | silent
  | ready

/-- What comes of starting a server on a port, as a result. -/
def Startup.result (s : ServerSettings) (port : Nat) : Startup → Except Failure Unit
  | .notLaunched => .error (.io ("spawning engine server " ++ s.binary))
  | .exited code stderr => .error (Readiness.exited (s.client port 0) code stderr)
  | .silent =>
    .error (Readiness.exhausted (s.client port 0) (Readiness.attempts s) s.probeInterval)
  | .ready => .ok ()

theorem Startup.eq_ready {s : ServerSettings} {port : Nat} {startup : Startup}
    (h : startup.result s port = .ok ()) : startup = .ready := by
  cases startup with
  | ready => rfl
  | notLaunched | silent => cases h
  | exited code stderr => cases h

/-- Where the path of a bundle leads. -/
abbrev BundlePlace := List Path.RankedPart

/-- An engine whose behaviour depends on the bundle and on the payload only. -/
structure Engine where
  startup : BundlePlace → Startup
  answer : BundlePlace → Json → PostEnd
  /-- What comes of a process that is asked for a decision; it gets the payload as text. -/
  invoked : BundlePlace → Bytes → RunEnd

/-- The command of the server that was launched last. -/
def Past.served : Past → Option Command
  | [] => none
  | ⟨.launch command _, process?⟩ :: past =>
    match (process? : Option ProcessId) with
    | some _ => some command
    | none => Past.served past
  | _ :: past => Past.served past

namespace Engine

/-- A world in which a bench meets with this engine, and in which every teardown succeeds. -/
structure Governs (E : Engine) (b : Bench) (w : World) : Prop where
  starts : ∀ past bundle port, w.lending.Ensures past (Server.start b.server bundle port) fun _ r =>
    r.map (fun _ => ()) = (E.startup (Path.rankedParts bundle)).result b.server port
  answers : ∀ past bundle port payload limit deadline r,
    past.served = some (b.server.command bundle port) →
    w.Replies past
      (.post (b.server.baseUrl port ++ b.server.decisionPath) payload limit deadline) r →
    r = E.answer (Path.rankedParts bundle) payload
  runs : ∀ past bundle input limit deadline r,
    w.Replies past
      (.run ⟨b.binary, b.invoker.decisionArgs bundle⟩ (some input) limit deadline) r →
    r = E.invoked (Path.rankedParts bundle) input
  teardowns : ∀ past server,
    w.lending.Ensures past (server : Server).shutdown fun _ r => r.1 = .ok ()

/-- The response to a scenario over a channel, from a server on some port. What is left of the time
and how long the answer took are not up to the engine. -/
def response (E : Engine) (b : Bench) (s : Scenario) (channel : Channel) (port : Nat)
    (left elapsed : Duration) : Response :=
  let deadline : Deadline := ⟨left, .timeout ("scenario " ++ s.id) b.settings.scenarioDeadline⟩
  let place := Path.rankedParts s.bundle
  match channel with
  | .cli =>
    (b.invoker.response (b.invoker.decisionArgs s.bundle) (some deadline) elapsed
      (E.invoked place (Bytes.ofString s.payload.compact))).bind s.expectation.strictness.apply
  | .server => do
    (E.startup place).result b.server port
    ((b.server.client port 0).response (some deadline) elapsed
      (E.answer place s.payload)).bind s.expectation.strictness.apply

/-- The verdicts on a scenario over a channel that the engine can lead to. -/
def Gives (E : Engine) (b : Bench) (s : Scenario) (channel : Channel) (v : Verdict) : Prop :=
  ∃ port left elapsed total,
    v = .ofResponse s channel (E.response b s channel port left elapsed) total

end Engine

end PolicyTrial
