import PolicyTrial.Proofs.Engine.Governed
import PolicyTrial.Proofs.Run.Sharing

/-!
# Trials of a governed engine

In a world that an engine governs, a trial in isolation and a turn on a shared server both end with
a verdict that the engine gives (`trial_ensures`, `turn_ensures`): the request is the same, the
strictness is applied in the same way, and a server that does not start leaves its failure in
isolation only, as the shared one is given up.

What an answer of a server is an answer of can be read off the past, by the command that was
launched last. Most of what a procedure does leaves that as it is, and the port that is out as well:
it is quiet.
-/

namespace PolicyTrial

/-! ### Quiet procedures -/

/-- Whether an action neither launches a server nor has to do with ports. -/
def Action.isQuiet : Action → Bool
  | .launch .. => false
  | e => !e.onPorts

theorem Action.onPorts_of_isQuiet {e : Action} (he : e.isQuiet = true) : e.onPorts = false := by
  cases e <;> first | rfl | cases he

/-- A procedure that performs quiet actions only, whatever replies come. -/
def Procedure.IsQuiet {α : Type} : Procedure α → Prop
  | .done _ => True
  | .ask e k => e.isQuiet = true ∧ ∀ r, (k r).IsQuiet

/-- Two points of a procedure between which no server was launched and no port was taken or given
back. -/
structure Past.Keeps (past past' : Past) : Prop where
  lease : past'.lease = past.lease
  served : past'.served = past.served

variable {α β : Type} {w : World} {past : Past}

theorem Past.keeps_cons {e : Action} (he : e.isQuiet = true) (r : e.Reply) :
    past.Keeps (⟨e, r⟩ :: past) := by
  cases e <;> first | exact ⟨rfl, rfl⟩ | cases he

namespace Procedure

theorem isQuiet_perform {e : Action} (he : e.isQuiet = true) : (perform e).IsQuiet :=
  ⟨he, fun _ => trivial⟩

theorem IsQuiet.bind {p : Procedure α} {f : α → Procedure β} (hp : p.IsQuiet)
    (hf : ∀ a, (f a).IsQuiet) : (p >>= f).IsQuiet := by
  induction p with
  | done a => exact hf a
  | ask e k ih => exact ⟨hp.1, fun r => ih r (hp.2 r)⟩

/-- A quiet procedure keeps what was launched and what is out. -/
theorem IsQuiet.ensures {p : Procedure α} (hp : p.IsQuiet) :
    w.lending.Ensures past p fun past' _ => past.Keeps past' := by
  induction p generalizing past with
  | done a => exact ⟨rfl, rfl⟩
  | ask e k ih =>
    have h_ports : e.onPorts = false := Action.onPorts_of_isQuiet hp.1
    refine ⟨World.admits_of_not_onPorts h_ports _, fun r _ => (ih r (hp.2 r)).mono ?_⟩
    have h_one : past.Keeps (⟨e, r⟩ :: past) := Past.keeps_cons hp.1 r
    exact fun past' _ h => ⟨h.lease.trans h_one.lease, h.served.trans h_one.served⟩

end Procedure

open Procedure (isQuiet_perform)

theorem Readiness.isQuiet_probe (s : ServerSettings) (client : Client) (left : Nat) :
    (probe s client left).IsQuiet := by
  induction left with
  | zero => exact trivial
  | succ left ih =>
    unfold probe
    refine (isQuiet_perform rfl).bind fun exited => ?_
    cases exited with
    | some code =>
      refine (isQuiet_perform rfl).bind fun _ => ?_
      exact (isQuiet_perform rfl).bind fun _ => trivial
    | none =>
      rw [Client.health_bind]
      refine (isQuiet_perform rfl).bind fun health => ?_
      split
      · exact trivial
      · exact (isQuiet_perform rfl).bind fun _ => ih

theorem Server.isQuiet_killProcess (process : ProcessId) : (killProcess process).IsQuiet := by
  unfold killProcess
  refine (isQuiet_perform rfl).bind fun collected => ?_
  cases collected with
  | true | false => exact trivial

theorem Server.isQuiet_abandon (server : Server) : server.abandon.IsQuiet := by
  unfold abandon
  cases server.owned with
  | none => exact trivial
  | some process => exact (isQuiet_killProcess process).bind fun _ => trivial

theorem Server.isQuiet_shutdown (server : Server) : server.shutdown.IsQuiet := by
  unfold shutdown
  cases server.owned with
  | none => exact trivial
  | some process =>
    refine (isQuiet_perform rfl).bind fun _ => ?_
    refine (isQuiet_perform rfl).bind fun waited => ?_
    cases waited with
    | exited => exact trivial
    | failed | elapsed =>
      refine (isQuiet_killProcess process).bind fun killed => ?_
      cases killed with
      | ok _ | error _ => exact trivial

theorem Client.isQuiet_decide (client : Client) (payload : Json) (deadline : Option Deadline) :
    (client.decide payload deadline).IsQuiet := by
  unfold decide
  refine (isQuiet_perform rfl).bind fun _ => ?_
  refine (isQuiet_perform rfl).bind fun _ => ?_
  exact (isQuiet_perform rfl).bind fun _ => trivial

theorem Client.isQuiet_isStateless (client : Client) (payload : Json) :
    (client.isStateless payload).IsQuiet := by
  unfold isStateless
  refine (client.isQuiet_decide payload none).bind fun r => ?_
  cases r.essence with
  | none => exact trivial
  | some first => exact (client.isQuiet_decide payload none).bind fun _ => trivial

/-! ### Servers and requests -/

/-- A server that is ready is the one that was launched last. -/
theorem Server.start_ensures (s : ServerSettings) (bundle : String) (port : Nat) :
    w.lending.Ensures past (start s bundle port) fun past' r => past'.lease = past.lease ∧
      ∀ server, r = .ok server → past'.served = some (s.command bundle port) ∧
        ∃ process, server.client = s.client port process := by
  unfold start
  refine Contract.ensures_perform_bind.mpr ⟨trivial, fun process? _ => ?_⟩
  cases process? with
  | none => exact ⟨rfl, fun server h => by cases h⟩
  | some process =>
    refine (Readiness.isQuiet_probe s _ _).ensures.bind fun past' readiness h_keeps => ?_
    cases readiness with
    | ok _ =>
      refine ⟨h_keeps.lease, fun server h => ?_⟩
      cases h
      exact ⟨h_keeps.served, process, rfl⟩
    | error f =>
      refine (Server.isQuiet_abandon _).ensures.bind fun past'' _ h_keeps' => ?_
      exact ⟨h_keeps'.lease.trans h_keeps.lease, fun server h => by cases h⟩

/-- A teardown that succeeds leaves the ending of the work as it is. -/
theorem Ending.after_ok {κ : Type} (ending : Ending κ β) : ending.after (.ok ()) = ending := by
  cases ending with
  | returned r => cases r <;> rfl
  | crashed cause => rfl

namespace Engine.Governs

variable {E : Engine} {b : Bench} {s : Scenario}

/-- The answer to a request is that of the engine for the bundle that is served. -/
theorem request_ensures (hE : E.Governs b w) {bundle : String} {port : Nat} (process : ProcessId)
    (start : Duration) (h_served : past.served = some (b.server.command bundle port)) :
    w.lending.Ensures past (b.request s (b.server.client port process) start) fun past' r =>
      past.Keeps past' ∧ ∃ left elapsed,
        r = ((b.server.client port 0).response
          (some ⟨left, .timeout ("scenario " ++ s.id) b.settings.scenarioDeadline⟩) elapsed
          (E.answer (Path.rankedParts bundle) s.payload)).bind s.expectation.strictness.apply := by
  unfold Bench.request Deadline.since Client.decide
  refine Contract.ensures_bind.mpr (Contract.ensures_perform_bind.mpr ⟨trivial, fun now _ => ?_⟩)
  refine Contract.ensures_bind.mpr (Contract.ensures_perform_bind.mpr ⟨trivial, fun sent _ => ?_⟩)
  refine Contract.ensures_perform_bind.mpr ⟨trivial, fun ending h_ending => ?_⟩
  -- looking at the clock has not changed what is served
  have h_still : Past.served (⟨.clock, sent⟩ :: ⟨.clock, now⟩ :: past) =
      some (b.server.command bundle port) := h_served
  have h_answer := hE.answers _ bundle port s.payload _ _ ending h_still h_ending
  refine Contract.ensures_perform_bind.mpr ⟨trivial, fun finish _ => ?_⟩
  rw [h_answer]
  exact ⟨⟨rfl, rfl⟩, _, _, rfl⟩

/-- A trial with a process of its own. -/
theorem invoke_ensures (hE : E.Governs b w) (start : Duration) :
    w.lending.Ensures past (b.invoke s start) fun past' r => past.Keeps past' ∧
      ∃ left elapsed, r = E.response b s .cli 0 left elapsed := by
  unfold Bench.invoke Deadline.since Invoker.decide Invoker.run
  refine Contract.ensures_bind.mpr (Contract.ensures_perform_bind.mpr ⟨trivial, fun now _ => ?_⟩)
  refine Contract.ensures_bind.mpr (Contract.ensures_perform_bind.mpr ⟨trivial, fun sent _ => ?_⟩)
  refine Contract.ensures_perform_bind.mpr ⟨trivial, fun ending h_ending => ?_⟩
  have h_invoked := hE.runs _ s.bundle (Bytes.ofString s.payload.compact) _ _ ending h_ending
  refine Contract.ensures_perform_bind.mpr ⟨trivial, fun finish _ => ?_⟩
  rw [h_invoked]
  exact ⟨⟨rfl, rfl⟩, _, _, rfl⟩

/-- A trial with a server of its own, on whichever port it gets. -/
theorem serve_ensures (hE : E.Governs b w) (start : Duration) (h_idle : past.lease = .idle) :
    w.lending.Ensures past (b.serve s start) fun past' r => past'.lease = .idle ∧
      ∃ port left elapsed, r = E.response b s .server port left elapsed := by
  unfold Bench.serve
  refine Contract.ensures_map.mpr (World.leased_ensures h_idle fun port past' h_holding => ?_)
  unfold Server.scoped
  have h_start := (hE.starts past' s.bundle port).and (Server.start_ensures b.server s.bundle port)
  refine h_start.bind fun past₁ started h_started => ?_
  obtain ⟨h_startup, h_lease, h_ready⟩ := h_started
  cases started with
  | error f =>
    -- no request is made, so no time is left over and none was taken
    have h_result : (E.startup (Path.rankedParts s.bundle)).result b.server port = .error f :=
      h_startup.symm
    refine ⟨h_lease.trans h_holding, port, ⟨0⟩, ⟨0⟩, ?_⟩
    rw [Engine.response, h_result]
    rfl
  | ok server =>
    have h_result : (E.startup (Path.rankedParts s.bundle)).result b.server port = .ok () :=
      h_startup.symm
    obtain ⟨h_served, process, h_client⟩ := h_ready server rfl
    have h_request := hE.request_ensures (s := s) process start h_served
    rw [← h_client] at h_request
    refine Contract.ensures_bind.mpr (Contract.ensures_map.mpr (h_request.mono ?_))
    rintro past₂ r ⟨h_keeps, left, elapsed, rfl⟩
    refine ((hE.teardowns past₂ server).and server.isQuiet_shutdown.ensures).bind ?_
    rintro past₃ ⟨teardown, server'⟩ ⟨rfl : teardown = .ok (), h_keeps'⟩
    have h_lease₃ : past₃.lease = .holding port := by
      rw [h_keeps'.lease, h_keeps.lease, h_lease, h_holding]
    refine ⟨h_lease₃, port, left, elapsed, ?_⟩
    rw [Ending.after_ok, Engine.response, h_result]
    rfl

/-- **A trial in isolation** gives back its port and ends with a verdict that the engine gives. -/
theorem trial_ensures (hE : E.Governs b w) (channel : Channel) (h_idle : past.lease = .idle) :
    w.lending.Ensures past (b.trial s channel) fun past' v =>
      past'.lease = .idle ∧ E.Gives b s channel v := by
  cases channel with
  | cli =>
    rw [Bench.trial_cli_eq]
    refine (Bench.timed_ensures (fun _ => trivial) fun start => hE.invoke_ensures start).mono ?_
    rintro _ _ ⟨start, finish, past', _, rfl, ⟨h_keeps, left, elapsed, rfl⟩, rfl⟩
    exact ⟨h_keeps.lease.trans h_idle, 0, left, elapsed, _, rfl⟩
  | server =>
    rw [Bench.trial_server_eq]
    refine (Bench.timed_ensures (fun _ => trivial) fun start =>
      hE.serve_ensures start (h_idle : Past.lease (⟨.clock, start⟩ :: past) = .idle)).mono ?_
    rintro _ _ ⟨start, finish, past', _, rfl, ⟨h_lease, port, left, elapsed, rfl⟩, rfl⟩
    exact ⟨h_lease, port, left, elapsed, _, rfl⟩

/-- **A turn on a shared server** ends with a verdict that the engine gives, as long as the server
is the one that was launched last and its bundle leads where that of the scenario leads. -/
theorem turn_ensures (hE : E.Governs b w) {bundle : String} {port : Nat} (process : ProcessId)
    (h_served : past.served = some (b.server.command bundle port))
    (h_place : Path.rankedParts s.bundle = Path.rankedParts bundle)
    (h_startup : E.startup (Path.rankedParts bundle) = .ready) :
    w.lending.Ensures past (b.turn (b.server.client port process) s) fun past' v =>
      past.Keeps past' ∧ E.Gives b s .server v := by
  have h_still : ∀ start, Past.served (⟨.clock, start⟩ :: past) =
      some (b.server.command bundle port) := fun _ => h_served
  rw [Bench.turn_eq]
  refine (Bench.timed_ensures (fun _ => trivial) fun start =>
    hE.request_ensures process start (h_still start)).mono ?_
  rintro _ _ ⟨start, finish, past', _, rfl, ⟨h_keeps, left, elapsed, rfl⟩, rfl⟩
  refine ⟨⟨h_keeps.lease, h_keeps.served⟩, port, left, elapsed, finish - start, ?_⟩
  rw [Engine.response, h_place, h_startup]
  rfl

/-- **A session** ends with verdicts that the engine gives for all scenarios of the bundle, if it
ends with any. -/
theorem session_ensures (hE : E.Governs b w) (bundle : String) (scenarios : List Placed)
    (h_place : ∀ p ∈ scenarios, Path.rankedParts p.2.bundle = Path.rankedParts bundle)
    (h_idle : past.lease = .idle) :
    w.lending.Ensures past (b.session bundle scenarios) fun past' vs? => past'.lease = .idle ∧
      ∀ vs, vs? = some vs → Tallies (fun s v => E.Gives b s .server v) scenarios vs := by
  -- as long as the server is there, it is the one that was launched last, and it is ready
  let kept (client : Client) (past : Past) : Prop := past.lease = .idle ∧
    past.served = some (b.server.command bundle b.settings.port) ∧
    (∃ process, client = b.server.client b.settings.port process) ∧
    E.startup (Path.rankedParts bundle) = .ready
  have h_keeps : ∀ {client past past'}, kept client past → past.Keeps past' → kept client past' :=
    fun h h' => ⟨h'.lease.trans h.1, h'.served.trans h.2.1, h.2.2⟩
  have h_start := (hE.starts past bundle b.settings.port).and
    (Server.start_ensures b.server bundle b.settings.port)
  refine Bench.session_ensures kept (fun past => past.lease = .idle) bundle scenarios h_idle
    (h_start.mono ?_) ?_ ?_ ?_
  · rintro past' started ⟨h_startup, h_lease, h_ready⟩
    refine ⟨?_, fun f _ => h_lease.trans h_idle⟩
    rintro server rfl
    obtain ⟨h_served, h_client⟩ := h_ready server rfl
    exact ⟨h_lease.trans h_idle, h_served, h_client, Startup.eq_ready h_startup.symm⟩
  · intro client payload past h
    exact (client.isQuiet_isStateless payload).ensures.mono fun past' _ => h_keeps h
  · rintro client p hp past h
    obtain ⟨h_lease, h_served, ⟨process, rfl⟩, h_startup⟩ := h
    refine (hE.turn_ensures process h_served (h_place p hp) h_startup).mono fun past' v hv => ?_
    exact ⟨h_keeps ⟨h_lease, h_served, ⟨process, rfl⟩, h_startup⟩ hv.1, hv.2⟩
  · intro server past h
    exact server.isQuiet_shutdown.ensures.mono fun past' _ h' => h'.lease.trans h.1

end Engine.Governs

end PolicyTrial
