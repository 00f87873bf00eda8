import Mathlib.Logic.Relation
import PolicyTrial.Proofs.Host.Contract
import PolicyTrial.Server.Scope

/-!
# Servers from launch to teardown

A server goes from starting to ready, from there to terminating and to terminated; or it fails to
start. `Server.Step` are these steps, and `Server.IsSound` is what each of them keeps: the process
is owned as long as the server is starting or ready, and the teardown is counted once.

What the procedures on servers do is said by relations between the past, what comes next, and the
result, whatever the host answers:

* `Server.Starts`: a server is ready, or its process was killed and it is told why.
* `Server.TornDown`: a server is asked to end and killed if it does not, and it is terminated only
  if waiting for its process has succeeded.
* `Server.Held`: a server in the hands of its owner, after so many shutdowns. Only the first one
  does anything.
* `Server.Scopes`: work with a server of its own has one shutdown, however it ends.

`Server.lifecycle` puts them together.
-/

namespace PolicyTrial

open Contract (anything)

variable {past past' : Past} {κ β : Type}

/-! ### What servers are told -/

/-- Whether a server is told something: to decide, or to end. -/
def Action.isTold : Action → Bool
  | .post .. | .terminate _ => true
  | _ => false

/-- Whether a server is asked to end. -/
def Action.isTerminate : Action → Bool
  | .terminate _ => true
  | _ => false

/-- What servers were told, with what came of it; the last comes first. -/
def Past.told (past : Past) : Past := past.filter (·.action.isTold)

/-- How many times servers were asked to end. -/
def Past.terminations (past : Past) : Nat := past.countP (·.action.isTerminate)

theorem Past.terminations_eq_countP_told (past : Past) :
    past.terminations = past.told.countP (·.action.isTerminate) := by
  rw [terminations, told, List.countP_filter]
  -- whoever is asked to end is told something
  refine List.countP_congr fun event _ => ?_
  rw [Bool.and_eq_true]
  refine ⟨fun h => ⟨h, ?_⟩, fun h => h.1⟩
  cases h_action : event.action with
  | terminate process => rfl
  | _ => rw [h_action] at h; cases h

/-- Somebody waited for a process, and saw it end or collected it. -/
def Past.SawEnd (process : ProcessId) (past : Past) : Prop :=
  (∃ limit, ⟨.awaitExit process limit, .exited⟩ ∈ past) ∨ ⟨.kill process, true⟩ ∈ past

theorem Past.terminations_eq_of_told (h : past'.told = past.told) :
    past'.terminations = past.terminations := by
  rw [terminations_eq_countP_told, h, ← terminations_eq_countP_told]

/-- Nothing that is done to see whether a server is ready tells it anything. -/
theorem Readiness.probe_untold (s : ServerSettings) (client : Client) (left : Nat) :
    (Contract.without Action.isTold).Ensures past (probe s client left) fun _ _ => True := by
  induction left generalizing past with
  | zero => exact trivial
  | succ left ih =>
    unfold probe
    refine Contract.ensures_perform_bind.mpr ⟨rfl, fun exited _ => ?_⟩
    cases exited with
    | some code =>
      refine Contract.ensures_perform_bind.mpr ⟨rfl, fun _ _ => ?_⟩
      exact Contract.ensures_perform_bind.mpr ⟨rfl, fun _ _ => trivial⟩
    | none =>
      rw [Client.health_bind]
      refine Contract.ensures_perform_bind.mpr ⟨rfl, fun ending _ => ?_⟩
      split
      · exact trivial
      · exact Contract.ensures_perform_bind.mpr ⟨rfl, fun _ _ => ih⟩

theorem Past.SawEnd.later {process : ProcessId} (h : past.SawEnd process)
    (h_later : past <:+ past') : past'.SawEnd process := by
  rcases h with ⟨limit, h⟩ | h
  · exact .inl ⟨limit, h_later.subset h⟩
  · exact .inr (h_later.subset h)

namespace Server

variable {s : ServerSettings} {bundle : String} {port : Nat} {server server' : Server}

/-! ### The steps -/

/-- The steps of a server's life. -/
inductive Step : Server → Server → Prop
  | ready {server : Server} (h : server.state = .starting) : Step server server.readied
  | fail {server : Server} (h : server.state = .starting) : Step server server.abandoned
  | terminate {server : Server} (h : server.state = .ready) : Step server server.terminating
  | finish {server : Server} (h : server.state = .terminating) : Step server server.terminated

/-- What a server owns and how often it was torn down, by its state. -/
structure IsSound (server : Server) : Prop where
  owned : server.owned =
    if server.state = .starting ∨ server.state = .ready then some server.client.process else none
  teardowns : server.teardowns =
    if server.state = .terminating ∨ server.state = .terminated then 1 else 0

theorem isSound_launched (client : Client) (gracePeriod : Duration) :
    (launched client gracePeriod).IsSound := ⟨rfl, rfl⟩

/-- Every step keeps a server sound. -/
theorem IsSound.step (h : server.IsSound) (h_step : Step server server') : server'.IsSound := by
  obtain ⟨h_owned, h_teardowns⟩ := h
  cases h_step with
  | ready h_state =>
    rw [h_state] at h_owned h_teardowns
    exact ⟨h_owned, h_teardowns⟩
  | fail h_state =>
    rw [h_state] at h_teardowns
    exact ⟨rfl, h_teardowns⟩
  | terminate h_state =>
    rw [h_state] at h_teardowns
    exact ⟨rfl, congrArg (· + 1) h_teardowns⟩
  | finish h_state =>
    rw [h_state] at h_owned h_teardowns
    exact ⟨h_owned, h_teardowns⟩

/-- A server is sound throughout its life. -/
theorem isSound_of_steps {client : Client} {gracePeriod : Duration}
    (h : Relation.ReflTransGen Step (launched client gracePeriod) server) : server.IsSound := by
  induction h with
  | refl => exact isSound_launched client gracePeriod
  | tail _ h_step ih => exact ih.step h_step

/-! ### Starting -/

/-- What comes of starting a server. A server that does not get ready is killed, and why it does not
is told even if the process cannot be collected. -/
inductive Starts (s : ServerSettings) (bundle : String) (port : Nat) (past : Past) :
    Past → Except Failure Server → Prop
  | notLaunched : Starts s bundle port past (⟨.launch (s.command bundle port) port, none⟩ :: past)
      (.error (.io ("spawning engine server " ++ s.binary)))
  | ready {process : ProcessId} {past' : Past}
      (h : anything.Reaches (⟨.launch (s.command bundle port) port, some process⟩ :: past)
        (Readiness.await s (s.client port process)) past' (.ok ())) :
      Starts s bundle port past past'
        (.ok (launched (s.client port process) s.gracePeriod).readied)
  | failed {process : ProcessId} {past' : Past} {f : Failure} (collected : Bool)
      (h : anything.Reaches (⟨.launch (s.command bundle port) port, some process⟩ :: past)
        (Readiness.await s (s.client port process)) past' (.error f)) :
      Starts s bundle port past (⟨.kill process, collected⟩ :: past') (.error f)

theorem killProcess_reaches_iff {process : ProcessId} {r : Except Failure Unit} :
    anything.Reaches past (killProcess process) past' r ↔
      past' = ⟨.kill process, true⟩ :: past ∧ r = .ok () ∨
      past' = ⟨.kill process, false⟩ :: past ∧
        r = .error (.io "reaping killed engine server") := by
  unfold killProcess
  rw [Contract.reaches_perform_bind]
  constructor
  · rintro ⟨collected, -, h⟩
    cases collected with
    | true => exact .inl h
    | false => exact .inr h
  · rintro (h | h)
    · exact ⟨true, trivial, h⟩
    · exact ⟨false, trivial, h⟩

/-- A server that was launched and is given up has failed to start, and its process was killed. -/
theorem abandon_reaches_iff {client : Client} {gracePeriod : Duration} :
    anything.Reaches past (launched client gracePeriod).abandon past' server ↔
      server = (launched client gracePeriod).abandoned ∧
        ∃ collected, past' = ⟨.kill client.process, collected⟩ :: past := by
  show anything.Reaches past (killProcess client.process >>= fun _ =>
    .done (launched client gracePeriod).abandoned) past' server ↔ _
  rw [Contract.reaches_bind]
  simp only [killProcess_reaches_iff]
  constructor
  · rintro ⟨_, _, ⟨rfl, rfl⟩ | ⟨rfl, rfl⟩, rfl, rfl⟩
    · exact ⟨rfl, true, rfl⟩
    · exact ⟨rfl, false, rfl⟩
  · rintro ⟨rfl, collected, rfl⟩
    cases collected with
    | true => exact ⟨_, _, .inl ⟨rfl, rfl⟩, rfl, rfl⟩
    | false => exact ⟨_, _, .inr ⟨rfl, rfl⟩, rfl, rfl⟩

theorem start_reaches_iff {r : Except Failure Server} :
    anything.Reaches past (start s bundle port) past' r ↔ Starts s bundle port past past' r := by
  unfold start
  rw [Contract.reaches_perform_bind]
  constructor
  · rintro ⟨process?, -, h⟩
    cases process? with
    | none =>
      obtain ⟨rfl, rfl⟩ := h
      exact .notLaunched
    | some process =>
      obtain ⟨past₁, readiness, h_await, h⟩ := Contract.reaches_bind.mp h
      cases readiness with
      | ok _ =>
        obtain ⟨rfl, rfl⟩ := h
        exact .ready h_await
      | error f =>
        obtain ⟨past₂, _, h_abandon, rfl, rfl⟩ := Contract.reaches_bind.mp h
        obtain ⟨-, collected, rfl⟩ := abandon_reaches_iff.mp h_abandon
        exact .failed collected h_await
  · intro h
    cases h with
    | notLaunched => exact ⟨none, trivial, rfl, rfl⟩
    | @ready process past' h =>
      exact ⟨some process, trivial, Contract.reaches_bind.mpr ⟨past', .ok (), h, rfl, rfl⟩⟩
    | @failed process past' f collected h =>
      refine ⟨some process, trivial, Contract.reaches_bind.mpr ⟨past', .error f, h, ?_⟩⟩
      refine Contract.reaches_bind.mpr ⟨_, _, abandon_reaches_iff.mpr ⟨rfl, collected, rfl⟩, ?_⟩
      exact ⟨rfl, rfl⟩

/-- While a server is started, none is told anything. -/
theorem Starts.told_eq {r : Except Failure Server} (h : Starts s bundle port past past' r) :
    past'.told = past.told := by
  have h_await : ∀ {client : Client} {past₁ past₂ : Past} {readiness : Except Failure Unit},
      anything.Reaches past₁ (Readiness.await s client) past₂ readiness → past₂.told = past₁.told :=
    fun h => (Readiness.probe_untold s _ _).filter_eq h
  -- neither launching nor killing says anything
  cases h with
  | notLaunched => rfl
  | ready h =>
    have h_told := h_await h
    exact h_told
  | failed collected h =>
    have h_told := h_await h
    exact h_told

/-! ### Shutting down -/

/-- What comes of tearing a server down: it is asked to end, and it is killed if it does not within
its grace period. It is terminated only if it was seen to end or could be collected. -/
inductive TornDown (server : Server) (past : Past) : Past → Except Failure Unit → Server → Prop
  | exited :
    TornDown server past
      (⟨.awaitExit server.client.process server.gracePeriod, .exited⟩ ::
        ⟨.terminate server.client.process, ()⟩ :: past)
      (.ok ()) server.terminating.terminated
  | killed {waited : WaitEnd} (h_waited : waited ≠ .exited) :
    TornDown server past
      (⟨.kill server.client.process, true⟩ ::
        ⟨.awaitExit server.client.process server.gracePeriod, waited⟩ ::
        ⟨.terminate server.client.process, ()⟩ :: past)
      (.ok ()) server.terminating.terminated
  | lost {waited : WaitEnd} (h_waited : waited ≠ .exited) :
    TornDown server past
      (⟨.kill server.client.process, false⟩ ::
        ⟨.awaitExit server.client.process server.gracePeriod, waited⟩ ::
        ⟨.terminate server.client.process, ()⟩ :: past)
      (.error (.io "reaping killed engine server")) server.terminating

/-- Nothing is done for a server that owns no process. -/
theorem shutdown_of_not_owned (h : server.owned = none) :
    server.shutdown = .done (.ok (), server) := by
  unfold shutdown
  rw [h]
  rfl

theorem shutdown_reaches_iff {r : Except Failure Unit}
    (h_owned : server.owned = some server.client.process) :
    anything.Reaches past server.shutdown past' (r, server') ↔
      server.TornDown past past' r server' := by
  unfold shutdown
  rw [h_owned]
  constructor
  · intro h
    obtain ⟨_, -, h_wait⟩ := Contract.reaches_perform_bind.mp h
    obtain ⟨waited, -, h_waited⟩ := Contract.reaches_perform_bind.mp h_wait
    clear h h_wait
    cases waited with
    | exited =>
      obtain ⟨rfl, h_end⟩ := h_waited
      cases h_end
      exact .exited
    | failed | elapsed =>
      obtain ⟨_, _, h_kill, h_killed⟩ := Contract.reaches_bind.mp h_waited
      rcases killProcess_reaches_iff.mp h_kill with ⟨rfl, rfl⟩ | ⟨rfl, rfl⟩
      · obtain ⟨rfl, h_end⟩ := h_killed
        cases h_end
        exact .killed nofun
      · obtain ⟨rfl, h_end⟩ := h_killed
        cases h_end
        exact .lost nofun
  · intro h
    refine Contract.reaches_perform_bind.mpr ⟨(), trivial, ?_⟩
    cases h with
    | exited => exact Contract.reaches_perform_bind.mpr ⟨.exited, trivial, rfl, rfl⟩
    | @killed waited h_waited =>
      refine Contract.reaches_perform_bind.mpr ⟨waited, trivial, ?_⟩
      cases waited with
      | exited => exact absurd rfl h_waited
      | failed | elapsed =>
        exact Contract.reaches_bind.mpr
          ⟨_, .ok (), killProcess_reaches_iff.mpr (.inl ⟨rfl, rfl⟩), rfl, rfl⟩
    | @lost waited h_waited =>
      refine Contract.reaches_perform_bind.mpr ⟨waited, trivial, ?_⟩
      cases waited with
      | exited => exact absurd rfl h_waited
      | failed | elapsed =>
        exact Contract.reaches_bind.mpr
          ⟨_, .error _, killProcess_reaches_iff.mpr (.inr ⟨rfl, rfl⟩), rfl, rfl⟩

namespace TornDown

variable {r : Except Failure Unit}

/-- A teardown asks the server to end, once. -/
theorem told_eq (h : server.TornDown past past' r server') :
    past'.told = ⟨.terminate server.client.process, ()⟩ :: past.told := by
  cases h with
  | exited | killed | lost => rfl

theorem terminations_eq (h : server.TornDown past past' r server') :
    past'.terminations = past.terminations + 1 := by
  rw [Past.terminations_eq_countP_told, h.told_eq, List.countP_cons,
    ← Past.terminations_eq_countP_told]
  rfl

/-- A server that is ready is sound while it is torn down and afterwards. -/
theorem steps (h : server.TornDown past past' r server') (h_ready : server.state = .ready) :
    Relation.ReflTransGen Step server server' := by
  cases h with
  | exited | killed => exact .tail (.single (.terminate h_ready)) (.finish rfl)
  | lost => exact .single (.terminate h_ready)

end TornDown

/-! ### In the hands of the owner -/

/-- A server in the hands of its owner, with how often it was shut down and with all that was done
so far. Between the shutdowns anything may be done. -/
inductive Held (s : ServerSettings) (bundle : String) (port : Nat) : Nat → Past → Server → Prop
  | started {past past' : Past} {server : Server}
      (h : anything.Reaches past (start s bundle port) past' (.ok server)) :
      Held s bundle port 0 past' server
  | meanwhile {calls : Nat} {past past' : Past} {server : Server}
      (h : Held s bundle port calls past server) (h_later : past <:+ past') :
      Held s bundle port calls past' server
  | shutDown {calls : Nat} {past past' : Past} {r : Except Failure Unit} {server server' : Server}
      (h : Held s bundle port calls past server)
      (h_shutdown : anything.Reaches past server.shutdown past' (r, server')) :
      Held s bundle port (calls + 1) past' server'

/-- What is true of a server after so many shutdowns: it has taken the steps of its life, it was
torn down by the first shutdown, and if it is terminated somebody saw it end. -/
structure IsHeld (calls : Nat) (past : Past) (server : Server) : Prop where
  steps : Relation.ReflTransGen Step (launched server.client server.gracePeriod) server
  state : if calls = 0 then server.state = .ready
    else server.state = .terminating ∨ server.state = .terminated
  owned : server.owned = if server.state = .ready then some server.client.process else none
  teardowns : server.teardowns = if server.state = .ready then 0 else 1
  ended : server.state = .terminated → past.SawEnd server.client.process

/-- A server that was just started is ready. -/
theorem Starts.isHeld (h : Starts s bundle port past past' (.ok server)) :
    server.IsHeld 0 past' := by
  cases h with
  | ready => exact ⟨.single (.ready rfl), rfl, rfl, rfl, nofun⟩

theorem TornDown.isHeld {r : Except Failure Unit} (h : server.TornDown past past' r server')
    (h_steps : Relation.ReflTransGen Step (launched server.client server.gracePeriod) server)
    (h_ready : server.state = .ready) (h_teardowns : server.teardowns = 0) :
    server'.IsHeld 1 past' := by
  have h_steps' := h_steps.trans (h.steps h_ready)
  have h_once : server.teardowns + 1 = 1 := congrArg (· + 1) h_teardowns
  cases h with
  | exited =>
    exact ⟨h_steps', .inr rfl, rfl, h_once, fun _ => .inl ⟨_, List.mem_cons_self⟩⟩
  | killed => exact ⟨h_steps', .inr rfl, rfl, h_once, fun _ => .inr List.mem_cons_self⟩
  | lost => exact ⟨h_steps', .inl rfl, rfl, h_once, nofun⟩

/-- The first shutdown tears a server down, and every later one changes nothing. -/
theorem IsHeld.shutdown_reaches_iff {calls : Nat} {r : Except Failure Unit}
    (h : server.IsHeld calls past) :
    anything.Reaches past server.shutdown past' (r, server') ↔
      if calls = 0 then server.TornDown past past' r server'
      else past' = past ∧ r = .ok () ∧ server' = server := by
  have h_state := h.state
  have h_owned := h.owned
  by_cases h_calls : calls = 0
  · rw [if_pos h_calls] at h_state ⊢
    rw [if_pos h_state] at h_owned
    exact Server.shutdown_reaches_iff h_owned
  · -- the process was given up by the first shutdown
    rw [if_neg h_calls] at h_state ⊢
    have h_not_ready : server.state ≠ .ready := by
      rcases h_state with h_state | h_state
      · rw [h_state]
        exact nofun
      · rw [h_state]
        exact nofun
    rw [if_neg h_not_ready] at h_owned
    rw [shutdown_of_not_owned h_owned, ← Prod.mk.injEq]
    exact Iff.rfl

/-- A server in the hands of its owner stays in order. -/
theorem Held.isHeld {calls : Nat} (h : Held s bundle port calls past server) :
    server.IsHeld calls past := by
  induction h with
  | started h => exact (start_reaches_iff.mp h).isHeld
  | meanwhile _ h_later ih => exact { ih with ended := fun h => (ih.ended h).later h_later }
  | @shutDown calls past past' r server server' _ h_shutdown ih =>
    have h_run := ih.shutdown_reaches_iff.mp h_shutdown
    have h_state := ih.state
    by_cases h_calls : calls = 0
    · subst h_calls
      have h_teardowns := ih.teardowns
      rw [if_pos rfl] at h_state h_run
      rw [if_pos h_state] at h_teardowns
      exact h_run.isHeld ih.steps h_state h_teardowns
    · rw [if_neg h_calls] at h_state h_run
      obtain ⟨rfl, -, rfl⟩ := h_run
      exact { ih with state := h_state }

/-! ### Work with a server of its own -/

/-- What is left of work after the teardown: a crash stays a crash, a failure of the work comes
before a failure of the teardown, and a result counts only if the teardown went well. -/
inductive Settles : Ending κ β → Except Failure Unit → Ending κ β → Prop
  | crashed (cause : κ) (teardown : Except Failure Unit) :
    Settles (.crashed cause) teardown (.crashed cause)
  | failed (f : Failure) (teardown : Except Failure Unit) :
    Settles (.returned (.error f)) teardown (.returned (.error f))
  | lost (b : β) (f : Failure) : Settles (.returned (.ok b)) (.error f) (.returned (.error f))
  | done (b : β) : Settles (.returned (.ok b)) (.ok ()) (.returned (.ok b))

theorem settles_iff {work ending : Ending κ β} {teardown : Except Failure Unit} :
    Settles work teardown ending ↔ ending = work.after teardown := by
  constructor
  · intro h
    cases h with
    | crashed | failed | lost | done => rfl
  · rintro rfl
    cases work with
    | crashed cause => exact .crashed cause teardown
    | returned result =>
      cases result with
      | error f => exact .failed f teardown
      | ok b =>
        cases teardown with
        | error f => exact .lost b f
        | ok _ => exact .done b

/-- What comes of work with a server of its own. Without a server there is no work and no shutdown;
otherwise there is one shutdown after the work, be it that the work returned, failed or crashed. -/
inductive Scopes (s : ServerSettings) (bundle : String) (port : Nat)
    (body : Client → Procedure (Ending κ β)) (past : Past) : Past → Ending κ β → Prop
  | notStarted {past' : Past} {f : Failure} (h : Starts s bundle port past past' (.error f))
      (h_none : past'.terminations = past.terminations) :
      Scopes s bundle port body past past' (.returned (.error f))
  | worked {past₁ past₂ past' : Past} {server server' : Server} {work ending : Ending κ β}
      {teardown : Except Failure Unit} (h_start : Starts s bundle port past past₁ (.ok server))
      (h_none : past₁.terminations = past.terminations)
      (h_work : anything.Reaches past₁ (body server.client) past₂ work)
      (h_teardown : server.TornDown past₂ past' teardown server')
      (h_once : past'.terminations = past₂.terminations + 1)
      (h_ending : Settles work teardown ending) :
      Scopes s bundle port body past past' ending

/-- Whatever is done with a server that was just started, it is still ready to be torn down. -/
theorem Starts.owned {past₁ : Past} (h : Starts s bundle port past past₁ (.ok server)) :
    server.owned = some server.client.process := by
  cases h with
  | ready => rfl

theorem scoped_reaches_iff {body : Client → Procedure (Ending κ β)} {ending : Ending κ β} :
    anything.Reaches past (Server.scoped s bundle port body) past' ending ↔
      Scopes s bundle port body past past' ending := by
  unfold Server.scoped
  rw [Contract.reaches_bind]
  simp only [start_reaches_iff]
  constructor
  · rintro ⟨past₁, started, h_start, h⟩
    have h_none := Past.terminations_eq_of_told h_start.told_eq
    cases started with
    | error f =>
      obtain ⟨rfl, rfl⟩ := h
      exact .notStarted h_start h_none
    | ok server =>
      obtain ⟨past₂, work, h_work, h_after⟩ := Contract.reaches_bind.mp h
      -- the work has the client only, so the server still owns its process
      obtain ⟨past₃, ⟨teardown, server'⟩, h_shutdown, rfl, rfl⟩ := Contract.reaches_bind.mp h_after
      have h_torn := (shutdown_reaches_iff h_start.owned).mp h_shutdown
      exact .worked h_start h_none h_work h_torn h_torn.terminations_eq (settles_iff.mpr rfl)
  · intro h
    cases h with
    | @notStarted _ f h => exact ⟨past', .error f, h, rfl, rfl⟩
    | @worked past₁ past₂ _ server server' work _ teardown h_start _ h_work h_torn _ h_ending =>
      refine ⟨past₁, .ok server, h_start, ?_⟩
      refine Contract.reaches_bind.mpr ⟨past₂, work, h_work, ?_⟩
      refine Contract.reaches_bind.mpr ⟨past', (teardown, server'), ?_, rfl, ?_⟩
      · exact (shutdown_reaches_iff h_start.owned).mpr h_torn
      · exact settles_iff.mp h_ending

/-- **The life of a server.** Whatever the host answers, a server owns its process until it fails
to start or is torn down, and it is torn down once. Starting gives a server that is ready, or the
reason why it is not, with its process killed. In the hands of its owner a server is torn down by
the first shutdown, and every later one changes nothing. Work with a server of its own is followed
by one shutdown if the server has started, and by none if it has not. -/
theorem lifecycle (s : ServerSettings) (bundle : String) (port : Nat)
    (body : Client → Procedure (Ending κ β)) :
    (∀ client gracePeriod server,
      Relation.ReflTransGen Step (launched client gracePeriod) server → server.IsSound) ∧
    (∀ past past' r,
      anything.Reaches past (start s bundle port) past' r ↔ Starts s bundle port past past' r) ∧
    (∀ client gracePeriod past past' server,
      anything.Reaches past (launched client gracePeriod).abandon past' server ↔
        server = (launched client gracePeriod).abandoned ∧
          ∃ collected, past' = ⟨.kill client.process, collected⟩ :: past) ∧
    (∀ calls past server, Held s bundle port calls past server →
      server.IsHeld calls past ∧
        ∀ past' r server', anything.Reaches past server.shutdown past' (r, server') ↔
          if calls = 0 then server.TornDown past past' r server'
          else past' = past ∧ r = .ok () ∧ server' = server) ∧
    (∀ past past' ending, anything.Reaches past (Server.scoped s bundle port body) past' ending ↔
      Scopes s bundle port body past past' ending) := by
  refine ⟨fun _ _ _ => isSound_of_steps, fun _ _ _ => start_reaches_iff,
    fun _ _ _ _ _ => abandon_reaches_iff, fun calls past server h => ⟨h.isHeld, ?_⟩,
    fun _ _ _ => scoped_reaches_iff⟩
  exact fun past' r server' => h.isHeld.shutdown_reaches_iff

/-- A server that answers its first probe, but neither ends in time nor can be collected: it is
terminating for good, and a second shutdown does nothing. -/
theorem lifecycle_lost :
    let s := ({} : Settings).server "mpe"
    ∃ past server, Held s "b.yml" 9090 2 past server ∧ server.state = .terminating ∧
      server.owned = none ∧ server.teardowns = 1 := by
  intro s
  let server := (launched (s.client 9090 7) s.gracePeriod).readied
  have h_start : ∃ past, anything.Reaches [] (start s "b.yml" 9090) past (.ok server) :=
    ⟨_, start_reaches_iff.mpr (.ready ⟨none, trivial, .answered 200, trivial, rfl, rfl⟩)⟩
  obtain ⟨past, h_start⟩ := h_start
  have h_first := Held.started h_start
  have h_torn : server.TornDown past _ _ server.terminating :=
    .lost (show WaitEnd.elapsed ≠ .exited from nofun)
  have h_second := h_first.shutDown ((shutdown_reaches_iff rfl).mpr h_torn)
  have h_third := h_second.shutDown (h_second.isHeld.shutdown_reaches_iff.mpr ⟨rfl, rfl, rfl⟩)
  obtain ⟨h_held, -⟩ := (lifecycle s "b.yml" 9090
    fun _ => .done (.returned (.ok ()) : Ending Empty Unit)).2.2.2.1 2 _ _ h_third
  exact ⟨_, _, h_third, rfl, h_held.owned, h_held.teardowns⟩

end Server

end PolicyTrial
