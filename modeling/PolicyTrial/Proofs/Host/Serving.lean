import PolicyTrial.Proofs.Engine.Trials

/-!
# Servers that run

A server runs from its launch until its teardown: a kill that was carried out, or waiting that saw
it exit. `LiveServer.after` keeps the list of those that run, and `Past.servers` is the list of
those that a procedure has launched itself. Servers are told apart by the numbers of their
processes, which differ as long as the processes run.

A procedure that launches servers has to keep to an order. `hosting` is the contract that says so:
at most one server at a time, on the port that the procedure has for it, and no port changes hands
while it runs. The procedure can count on nothing in return. Where its port comes from is left open:
it may be the one that it holds on loan, or one that is agreed upon without any loan.

All that a run does with servers keeps to the order, whatever is answered:

* A server that does not start is killed (`start_hosting`), and one that did is gone after its
  shutdown (`shutdown_hosting`).
* Work with a server of its own is over with it, be it that the work returns, fails or crashes
  (`scoped_hosting`). So the port on loan is given back when nothing runs on it any more
  (`leased_hosting`).
* A session has one server on the first port (`session_hosting`).
-/

namespace PolicyTrial

/-! ### What runs -/

/-- A server that runs: its process, and the port that it was launched on. -/
structure LiveServer where
  process : ProcessId
  port : Nat
  deriving Repr, DecidableEq

/-- The servers that run after an action and the reply to it. -/
def LiveServer.after (servers : List LiveServer) : (e : Action) → e.Reply → List LiveServer
  | .launch _ port, process? =>
    match (process? : Option ProcessId) with
    | some process => ⟨process, port⟩ :: servers
    | none => servers
  | .awaitExit process _, .exited => servers.filter (·.process ≠ process)
  -- Whether the killed process could be collected or not, it has ended.
  | .kill process, _ => servers.filter (·.process ≠ process)
  | _, _ => servers

/-- The servers that a procedure has launched and not torn down again. -/
def Past.servers : Past → List LiveServer
  | [] => []
  | event :: past => LiveServer.after (Past.servers past) event.action event.reply

/-- Nothing is left of what a procedure has launched or taken. -/
structure Past.IsClear (past : Past) : Prop where
  servers : past.servers = []
  ports : past.lease.ports = []

/-- No process but this one is running for a procedure. -/
def Past.RunsOnly (process : ProcessId) (past : Past) : Prop :=
  ∃ port, past.servers.Sublist [⟨process, port⟩]

/-- When the only process that may run has ended, none does. -/
theorem Past.RunsOnly.filter_eq_nil {process : ProcessId} {past : Past}
    (h : past.RunsOnly process) : past.servers.filter (·.process ≠ process) = [] := by
  obtain ⟨port, h_only⟩ := h
  rw [List.filter_eq_nil_iff]
  intro server h_server
  rw [List.mem_singleton.mp (h_only.subset h_server), decide_eq_true_eq]
  exact not_not_intro rfl

/-- What does not launch a server can only end some. -/
theorem LiveServer.after_sublist {e : Action} (he : e.isQuiet = true) (r : e.Reply)
    (servers : List LiveServer) : (LiveServer.after servers e r).Sublist servers := by
  cases e with
  | launch | takePermit | popPort | pushPort | releasePermit => cases he
  | awaitExit process limit =>
    cases r with
    | exited => exact List.filter_sublist
    | failed | elapsed => exact .refl _
  | kill process => exact List.filter_sublist
  | _ => exact .refl _

/-! ### The order -/

/-- The contract of a procedure that launches servers. What it has at some place of the order of
loans are the ports `places`; a procedure with a port on loan has that one. -/
def hosting (places : Lease → List Nat) : Contract where
  Permits past
    | .takePermit | .popPort | .releasePermit => past.IsClear
    | .pushPort port => past.servers = [] ∧ past.lease = .holding port
    | .launch _ port => past.servers = [] ∧ places past.lease = [port]
    | _ => True
  Promises _ _ _ := True

variable {places : Lease → List Nat} {past : Past} {α β κ : Type}

/-- Whatever a procedure launches in order runs on the ports that it has. -/
theorem ports_sublist_places {e : Action} (he : (hosting places).Permits past e) (r : e.Reply)
    (h : (past.servers.map (·.port)).Sublist (places past.lease)) :
    ((Past.servers (⟨e, r⟩ :: past)).map (·.port)).Sublist
      (places (Past.lease (⟨e, r⟩ :: past))) := by
  have h_none : past.servers = [] → ∀ ports, (past.servers.map (·.port)).Sublist ports := by
    intro h_servers ports
    rw [h_servers]
    exact List.nil_sublist ports
  cases e with
  | takePermit | popPort | releasePermit => exact h_none he.servers _
  | pushPort port => exact h_none he.1 _
  | launch command port =>
    obtain ⟨h_servers, h_place⟩ := he
    have h_lease : Past.lease (⟨.launch command port, r⟩ :: past) = past.lease := rfl
    rw [h_lease, h_place]
    cases r with
    | none => exact h_none h_servers _
    | some process =>
      show ((⟨process, port⟩ :: past.servers : List LiveServer).map (·.port)).Sublist [port]
      rw [h_servers]
      exact .refl _
  | _ => exact ((LiveServer.after_sublist rfl r past.servers).map _).trans h

/-- In this order no port gets lost. -/
theorem conserves_of_hosting {e : Action} (he : (hosting places).Permits past e) :
    past.lease.Conserves e := by
  cases e with
  | takePermit | popPort | releasePermit => exact he.ports
  | pushPort port => exact he.2
  | _ => exact trivial

/-! ### Procedures that launch nothing -/

/-- A procedure that stops in the midst of another one. -/
inductive Procedure.CutShort : Procedure α → Procedure Unit → Prop
  | here (p : Procedure α) : CutShort p (.done ())
  | later (e : Action) {k : e.Reply → Procedure α} {k' : e.Reply → Procedure Unit}
      (h : ∀ r, CutShort (k r) (k' r)) : CutShort (.ask e k) (.ask e k')

theorem Procedure.IsQuiet.cutShort {p : Procedure α} {p' : Procedure Unit} (hp : p.IsQuiet)
    (h : CutShort p p') : p'.IsQuiet := by
  induction h with
  | here p => exact trivial
  | later e h ih => exact ⟨hp.1, fun r => ih r (hp.2 r)⟩

/-- A quiet procedure keeps to the order: its ports stay, and none of its servers is new. -/
theorem Procedure.IsQuiet.ensures_hosting {p : Procedure α} (hp : p.IsQuiet) :
    (hosting places).Ensures past p fun past' _ =>
      past'.lease = past.lease ∧ past'.servers.Sublist past.servers := by
  induction p generalizing past with
  | done a => exact ⟨rfl, .refl _⟩
  | ask e k ih =>
    obtain ⟨he, h_rest⟩ := hp
    have h_permits : (hosting places).Permits past e := by
      cases e <;> first | exact trivial | cases he
    refine ⟨h_permits, fun r _ => (ih r (h_rest r)).mono fun past' a h => ?_⟩
    have h_lease : Past.lease (⟨e, r⟩ :: past) = past.lease := (Past.keeps_cons he r).lease
    have h_servers : (Past.servers (⟨e, r⟩ :: past)).Sublist past.servers :=
      LiveServer.after_sublist he r past.servers
    exact ⟨h.1.trans h_lease, h.2.trans h_servers⟩

/-! ### From launch to teardown -/

namespace Server

/-- The process that a server owns is the only one that a procedure has running. -/
def IsOnly (server : Server) (past : Past) : Prop :=
  ∃ process, server.owned = some process ∧ past.RunsOnly process

theorem killProcess_hosting {process : ProcessId} (h : past.RunsOnly process) :
    (hosting places).Ensures past (killProcess process) fun past' _ =>
      past'.lease = past.lease ∧ past'.servers = [] := by
  unfold killProcess
  refine Contract.ensures_perform_bind.mpr ⟨trivial, fun collected _ => ?_⟩
  cases collected with
  | true | false => exact ⟨rfl, h.filter_eq_nil⟩

/-- A server that is ready is the only one, and one that is not is gone. -/
theorem start_hosting (s : ServerSettings) (bundle : String) {port : Nat}
    (h_servers : past.servers = []) (h_place : places past.lease = [port]) :
    (hosting places).Ensures past (start s bundle port) fun past' r =>
      past'.lease = past.lease ∧ (∀ server, r = .ok server → server.IsOnly past') ∧
        ∀ f, r = .error f → past'.servers = [] := by
  unfold start
  refine Contract.ensures_perform_bind.mpr ⟨⟨h_servers, h_place⟩, fun process? _ => ?_⟩
  cases process? with
  | none => exact ⟨rfl, nofun, fun _ _ => h_servers⟩
  | some process =>
    -- from here on the new process runs and nothing else
    have h_launched : Past.servers
        (⟨.launch (s.command bundle port) port, some process⟩ :: past) = [⟨process, port⟩] := by
      show ⟨process, port⟩ :: past.servers = [⟨process, port⟩]
      rw [h_servers]
    refine (Readiness.isQuiet_probe s _ _).ensures_hosting.bind fun past₁ readiness h_probe => ?_
    rw [h_launched] at h_probe
    obtain ⟨h_lease, h_only⟩ := h_probe
    cases readiness with
    | ok _ =>
      refine ⟨h_lease, fun server h_ok => ?_, nofun⟩
      cases h_ok
      exact ⟨process, rfl, port, h_only⟩
    | error f =>
      have h_abandon : (hosting places).Ensures past₁ (abandon (launched (s.client port process)
          s.gracePeriod)) fun past' _ => past'.lease = past₁.lease ∧ past'.servers = [] :=
        (killProcess_hosting ⟨port, h_only⟩).bind fun _ _ h => h
      refine h_abandon.bind fun past₂ _ h => ?_
      exact ⟨h.1.trans h_lease, nofun, fun _ _ => h.2⟩

/-- After its shutdown a server does not run, whatever the shutdown came to. -/
theorem shutdown_hosting {server : Server} (h : server.IsOnly past) :
    (hosting places).Ensures past server.shutdown fun past' _ =>
      past'.lease = past.lease ∧ past'.servers = [] := by
  obtain ⟨process, h_owned, h_only⟩ := h
  unfold shutdown
  rw [h_owned]
  refine Contract.ensures_perform_bind.mpr ⟨trivial, fun _ _ => ?_⟩
  refine Contract.ensures_perform_bind.mpr ⟨trivial, fun waited _ => ?_⟩
  cases waited with
  | exited => exact ⟨rfl, h_only.filter_eq_nil⟩
  | failed | elapsed =>
    -- it did not end by itself, so it is killed
    refine Contract.Ensures.bind (killProcess_hosting ?_) fun past₁ killed h => ?_
    · exact h_only
    · cases killed with
      | ok _ | error _ => exact h

/-- Work with a server of its own is over with that server, whatever the work comes to. -/
theorem scoped_hosting (s : ServerSettings) (bundle : String) {port : Nat}
    {body : Client → Procedure (Ending κ β)} (h_body : ∀ client, (body client).IsQuiet)
    (h_servers : past.servers = []) (h_place : places past.lease = [port]) :
    (hosting places).Ensures past (Server.scoped s bundle port body) fun past' _ =>
      past'.lease = past.lease ∧ past'.servers = [] := by
  unfold Server.scoped
  refine (start_hosting s bundle h_servers h_place).bind fun past₁ started h_started => ?_
  obtain ⟨h_lease, h_ready, h_failed⟩ := h_started
  cases started with
  | error f => exact ⟨h_lease, h_failed f rfl⟩
  | ok server =>
    obtain ⟨process, h_owned, port', h_only⟩ := h_ready server rfl
    refine (h_body server.client).ensures_hosting.bind fun past₂ ending h_ending => ?_
    have h_still : server.IsOnly past₂ := ⟨process, h_owned, port', h_ending.2.trans h_only⟩
    refine (shutdown_hosting h_still).bind fun past₃ _ h => ?_
    exact ⟨h.1.trans (h_ending.1.trans h_lease), h.2⟩

end Server

/-! ### On a port on loan -/

/-- A body of work that is over with its servers gives its port back when none of them runs. -/
theorem leased_hosting {body : Nat → Procedure (Ending κ β)} (h_clear : past.IsClear)
    (h_body : ∀ port past', past'.servers = [] → past'.lease = .holding port →
      (hosting Lease.ports).Ensures past' (body port) fun past'' _ =>
        past''.lease = past'.lease ∧ past''.servers = []) :
    (hosting Lease.ports).Ensures past (leased body) fun past' _ => past'.IsClear := by
  unfold leased
  refine Contract.ensures_perform_bind.mpr ⟨h_clear, fun granted _ => ?_⟩
  cases granted with
  | false => exact ⟨h_clear.servers, h_clear.ports⟩
  | true =>
    have h_permitted : Past.IsClear (⟨.takePermit, true⟩ :: past) := ⟨h_clear.servers, rfl⟩
    refine Contract.ensures_perform_bind.mpr ⟨h_permitted, fun port? _ => ?_⟩
    cases port? with
    | none =>
      -- without a port there is only the permit to be given back
      exact Contract.ensures_perform_bind.mpr
        ⟨⟨h_clear.servers, rfl⟩, fun _ _ => ⟨h_clear.servers, rfl⟩⟩
    | some port =>
      let holding : Past := ⟨.popPort, some port⟩ :: ⟨.takePermit, true⟩ :: past
      have h_work := h_body port holding h_clear.servers rfl
      refine h_work.bind fun past₁ ending h_ending => ?_
      obtain ⟨h_lease, h_servers⟩ := h_ending
      refine Contract.ensures_perform_bind.mpr ⟨⟨h_servers, h_lease⟩, fun _ _ => ?_⟩
      refine Contract.ensures_perform_bind.mpr ⟨⟨h_servers, rfl⟩, fun _ _ => ?_⟩
      exact ⟨h_servers, rfl⟩

/-- Work with a server of its own on a port on loan. -/
theorem leased_scoped_hosting (s : ServerSettings) (bundle : String)
    {body : Client → Procedure (Ending κ β)} (h_body : ∀ client, (body client).IsQuiet)
    (h_clear : past.IsClear) :
    (hosting Lease.ports).Ensures past (leased fun port => Server.scoped s bundle port body)
      fun past' _ => past'.IsClear := by
  refine leased_hosting h_clear fun port past' h_servers h_lease => ?_
  have h_place : past'.lease.ports = [port] := by
    rw [h_lease]
    rfl
  exact Server.scoped_hosting s bundle h_body h_servers h_place

/-! ### Trials and sessions -/

open Procedure (isQuiet_perform)

theorem Deadline.isQuiet_since (id : String) (span start : Duration) :
    (since id span start).IsQuiet :=
  (isQuiet_perform rfl).bind fun _ => trivial

namespace Bench

variable (b : Bench)

theorem isQuiet_request (s : Scenario) (client : Client) (start : Duration) :
    (b.request s client start).IsQuiet := by
  unfold request
  refine (Deadline.isQuiet_since s.id _ start).bind fun deadline => ?_
  exact (client.isQuiet_decide s.payload (some deadline)).bind fun _ => trivial

/-- What is done with a server of its own. -/
theorem isQuiet_work (s : Scenario) (start : Duration) (client : Client) : Procedure.IsQuiet
    (Ending.returned <$> b.request s client start : Procedure (Ending Empty Answer)) :=
  (b.isQuiet_request s client start).bind fun _ => trivial

theorem isQuiet_invoke (s : Scenario) (start : Duration) : (b.invoke s start).IsQuiet := by
  unfold invoke Invoker.decide Invoker.run
  refine (Deadline.isQuiet_since s.id _ start).bind fun deadline => ?_
  refine ((isQuiet_perform rfl).bind fun _ => ?_).bind fun _ => trivial
  refine (isQuiet_perform rfl).bind fun _ => ?_
  exact (isQuiet_perform rfl).bind fun _ => trivial

theorem isQuiet_turns (client : Client) (scenarios : List Placed) :
    (b.turns client scenarios).IsQuiet := by
  induction scenarios with
  | nil => exact trivial
  | cons p rest ih =>
    have h_turn : (b.turn client p.2).IsQuiet := by
      unfold turn
      refine (isQuiet_perform rfl).bind fun start => ?_
      refine (b.isQuiet_request p.2 client start).bind fun _ => ?_
      exact (isQuiet_perform rfl).bind fun _ => trivial
    unfold turns
    exact h_turn.bind fun _ => ih.bind fun _ => trivial

/-- A trial leaves nothing behind, over either channel. -/
theorem trial_hosting (s : Scenario) (channel : Channel) (h_clear : past.IsClear) :
    (hosting Lease.ports).Ensures past (b.trial s channel) fun past' _ => past'.IsClear := by
  have h_begun : ∀ start, Past.IsClear (⟨.clock, start⟩ :: past) :=
    fun _ => ⟨h_clear.servers, h_clear.ports⟩
  cases channel with
  | cli =>
    rw [trial_cli_eq]
    refine (timed_ensures (fun _ => trivial) fun start =>
      (b.isQuiet_invoke s start).ensures_hosting).mono ?_
    rintro _ _ ⟨start, finish, past₁, _, rfl, ⟨h_lease, h_servers⟩, rfl⟩
    rw [(h_begun start).servers] at h_servers
    refine ⟨List.sublist_nil.mp h_servers, ?_⟩
    show (Past.lease past₁).ports = []
    rw [h_lease]
    exact (h_begun start).ports
  | server =>
    rw [trial_server_eq]
    have h_serve : ∀ start, (hosting Lease.ports).Ensures (⟨.clock, start⟩ :: past)
        (b.serve s start) fun past' _ => past'.IsClear := by
      intro start
      unfold serve
      exact Contract.ensures_map.mpr
        (leased_scoped_hosting b.server s.bundle (b.isQuiet_work s start) (h_begun start))
    refine (timed_ensures (fun _ => trivial) h_serve).mono ?_
    rintro _ _ ⟨start, finish, past₁, _, rfl, h_clear₁, rfl⟩
    exact ⟨h_clear₁.servers, h_clear₁.ports⟩

/-- A session has no port on loan. It runs one server on the first port and leaves none behind. -/
theorem session_hosting (bundle : String) (scenarios : List Placed) (h_clear : past.IsClear) :
    (hosting fun _ => [b.settings.port]).Ensures past (b.session bundle scenarios)
      fun past' _ => past'.IsClear := by
  have h_end : ∀ past' : Past, past'.lease = past.lease → past'.servers = [] → past'.IsClear := by
    intro past' h_lease h_servers
    exact ⟨h_servers, by rw [h_lease]; exact h_clear.ports⟩
  cases scenarios with
  | nil => exact h_clear
  | cons p rest =>
    unfold session
    refine (Server.start_hosting b.server bundle h_clear.servers rfl).bind
      fun past₁ started h_started => ?_
    obtain ⟨h_lease, h_ready, h_failed⟩ := h_started
    cases started with
    | error f => exact h_end past₁ h_lease (h_failed f rfl)
    | ok server =>
      obtain ⟨process, h_owned, port, h_only⟩ := h_ready server rfl
      -- nothing that is asked of the server ends it or starts another one
      have h_shutdown : ∀ past' : Past, past'.lease = past₁.lease →
          past'.servers.Sublist past₁.servers →
          (hosting fun _ => [b.settings.port]).Ensures past' server.shutdown
            fun past'' _ => past''.IsClear := by
        intro past' h_lease' h_servers'
        have h_still : server.IsOnly past' := ⟨process, h_owned, port, h_servers'.trans h_only⟩
        refine (Server.shutdown_hosting h_still).mono fun past'' _ h => ?_
        exact h_end past'' (h.1.trans (h_lease'.trans h_lease)) h.2
      refine (server.client.isQuiet_isStateless p.2.payload).ensures_hosting.bind
        fun past₂ stateless h_check => ?_
      cases stateless with
      | true =>
        refine (b.isQuiet_turns server.client (p :: rest)).ensures_hosting.bind
          fun past₃ verdicts h_turns => ?_
        refine (h_shutdown past₃ (h_turns.1.trans h_check.1) (h_turns.2.trans h_check.2)).bind ?_
        exact fun past₄ _ h => h
      | false => exact (h_shutdown past₂ h_check.1 h_check.2).bind fun past₃ _ h => h

end Bench

end PolicyTrial
