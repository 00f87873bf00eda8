import PolicyTrial.Proofs.Host.Lifecycle
import PolicyTrial.Proofs.Host.Logging
import PolicyTrial.Proofs.Run.PortsApart
import PolicyTrial.Proofs.Run.Sharing

/-!
# What is said to a shared server

A shared server is asked one question at a time. First it is checked with the first payload of its
group, at most twice; if it passes, all scenarios get their turns in order. `Bench.Conversation` is
all that may be said, with the verdicts that come of it, and `Bench.GroupRuns` is what a group comes
to with its shared server and without.

`Bench.group_conversation` says so of all runs, whatever is answered: the log of a run has this
conversation and one request to end, and whatever is tried in isolation comes behind them. There is
always such a run: what a group does takes and gives back ports in order (`trial_lending`,
`session_lending`), so it comes to its verdicts.
-/

namespace PolicyTrial

open Contract (anything)

variable {past past' : Past}

/-! ### Requests -/

/-- What counts of the end of a request when answers are compared: there has to be an answer with a
status of success, and it has to be a decision. -/
def PostEnd.essence : PostEnd → Option Essence
  | .answered status body =>
    if 200 ≤ status ∧ status < 300 then
      (Decision.ofOutput body).toOption.map fun d => (d.outcome, d.referenceOutcomes)
    else none
  | .overran | .failed | .abandoned => none

/-- What is read off a response is read off the end of its request. -/
theorem PostEnd.essence_response (client : Client) (deadline : Option Deadline) (elapsed : Duration)
    (ending : PostEnd) : (client.response deadline elapsed ending).essence = ending.essence := by
  cases ending with
  | answered status body =>
    let a : Answer := ⟨.http status, body, [], elapsed⟩
    have h_success : a.success = decide (200 ≤ status ∧ status < 300) := (Bool.decide_and ..).symm
    show Response.essence (.ok a) = _
    rw [PostEnd.essence, Response.essence]
    -- a strict reader looks at the body only behind a status of success
    by_cases h_status : 200 ≤ status ∧ status < 300
    · rw [decide_eq_true h_status] at h_success
      have h_apply : (Except.ok a : Response).bind Strictness.strict.apply = .ok a :=
        if_pos h_success
      rw [h_apply, if_pos h_status]
      dsimp only
      cases Decision.ofOutput body with
      | error _ | ok _ => rfl
    · rw [decide_eq_false h_status] at h_success
      have h_apply : (Except.ok a : Response).bind Strictness.strict.apply = .error (.process a) :=
        if_neg (by rw [h_success]; exact nofun)
      rw [h_apply, if_neg h_status]
  | overran | failed | abandoned => rfl

namespace Client

variable {client : Client} {payload : Json}

/-- A request for a decision, within what is left of a deadline, with what came of it. -/
def asked (client : Client) (payload : Json) (left : Option Duration) (ending : PostEnd) : Event :=
  ⟨.post (client.baseUrl ++ client.decisionPath) payload client.requestTimeout left, ending⟩

/-- One question is one request. -/
theorem decide_reaches {deadline : Option Deadline} {r : Response}
    (h : anything.Reaches past (client.decide payload deadline) past' r) :
    ∃ ending elapsed,
      past'.told = client.asked payload (deadline.map (·.left)) ending :: past.told ∧
      r = client.response deadline elapsed ending := by
  unfold decide at h
  -- the looks at the clock before and after the request tell the server nothing
  obtain ⟨start, -, h_ask⟩ := Contract.reaches_perform_bind.mp h
  obtain ⟨ending, -, h_answer⟩ := Contract.reaches_perform_bind.mp h_ask
  obtain ⟨finish, -, rfl, rfl⟩ := Contract.reaches_perform_bind.mp h_answer
  exact ⟨ending, finish - start, rfl, rfl⟩

/-- A server is asked once if it does not decide, and else twice; it passes if it decides twice in
the same way. -/
theorem isStateless_reaches {stateless : Bool}
    (h : anything.Reaches past (client.isStateless payload) past' stateless) :
    (∃ first, first.essence = none ∧ past'.told = client.asked payload none first :: past.told ∧
      stateless = false) ∨
    ∃ first second, first.essence ≠ none ∧
      past'.told =
        client.asked payload none second :: client.asked payload none first :: past.told ∧
      (stateless = true ↔ second.essence = first.essence) := by
  unfold isStateless at h
  obtain ⟨past₁, r, h_first, h_rest⟩ := Contract.reaches_bind.mp h
  obtain ⟨first, elapsed, h_told, rfl⟩ := decide_reaches h_first
  rw [PostEnd.essence_response] at h_rest
  cases h_essence : first.essence with
  | none =>
    -- there is nothing to compare a second answer with
    rw [h_essence] at h_rest
    obtain ⟨rfl, rfl⟩ := h_rest
    exact .inl ⟨first, h_essence, h_told, rfl⟩
  | some essence =>
    rw [h_essence] at h_rest
    obtain ⟨past₂, r', h_second, rfl, rfl⟩ := Contract.reaches_bind.mp h_rest
    obtain ⟨second, elapsed', h_told', rfl⟩ := decide_reaches h_second
    refine .inr ⟨first, second, ?_, ?_, ?_⟩
    · rw [h_essence]
      exact nofun
    · rw [h_told', h_told]
      rfl
    · rw [PostEnd.essence_response, h_essence, beq_iff_eq]

end Client

namespace Bench

variable {b : Bench} {client : Client}

/-! ### Turns -/

/-- The verdict on a scenario by the end of its own request. -/
def verdictOn (b : Bench) (client : Client) (s : Scenario) (spent elapsed total : Duration)
    (ending : PostEnd) : Verdict :=
  let deadline : Deadline := ⟨b.settings.scenarioDeadline - spent,
    .timeout ("scenario " ++ s.id) b.settings.scenarioDeadline⟩
  .ofResponse s .server
    ((client.response (some deadline) elapsed ending).bind s.expectation.strictness.apply) total

/-- The requests of some scenarios, one for each and in order, and the verdicts on what came of
them. The bound on a request is what is left of the scenario's own time. -/
inductive Turns (b : Bench) (client : Client) :
    List Placed → List Event → List (Nat × Verdict) → Prop
  | nil : Turns b client [] [] []
  | cons {index : Nat} {s : Scenario} {rest : List Placed} {events : List Event}
      {verdicts : List (Nat × Verdict)} (spent elapsed total : Duration) (ending : PostEnd)
      (h : Turns b client rest events verdicts) :
      Turns b client ((index, s) :: rest)
        (client.asked s.payload (some (b.settings.scenarioDeadline - spent)) ending :: events)
        ((index, b.verdictOn client s spent elapsed total ending) :: verdicts)

theorem turn_reaches {s : Scenario} {v : Verdict}
    (h : anything.Reaches past (b.turn client s) past' v) :
    ∃ spent elapsed total ending,
      past'.told =
        client.asked s.payload (some (b.settings.scenarioDeadline - spent)) ending :: past.told ∧
      v = b.verdictOn client s spent elapsed total ending := by
  rw [turn_eq] at h
  obtain ⟨start, finish, past₁, response, -, h_request, rfl, rfl⟩ := timed_reaches h
  unfold request Deadline.since at h_request
  obtain ⟨_, deadline, ⟨now, -, rfl, rfl⟩, h_rest⟩ := Contract.reaches_bind.mp h_request
  obtain ⟨past₂, r, h_decide, rfl, rfl⟩ := Contract.reaches_bind.mp h_rest
  obtain ⟨ending, elapsed, h_told, rfl⟩ := Client.decide_reaches h_decide
  exact ⟨now - start, elapsed, finish - start, ending, h_told, rfl⟩

theorem turns_reaches {scenarios : List Placed} {verdicts : List (Nat × Verdict)}
    (h : anything.Reaches past (b.turns client scenarios) past' verdicts) :
    ∃ events, b.Turns client scenarios events verdicts ∧
      past'.told = events.reverse ++ past.told := by
  induction scenarios generalizing past verdicts with
  | nil =>
    obtain ⟨rfl, rfl⟩ := h
    exact ⟨[], .nil, rfl⟩
  | cons p rest ih =>
    unfold turns at h
    obtain ⟨past₁, v, h_turn, h_rest⟩ := Contract.reaches_bind.mp h
    obtain ⟨past₂, others, h_others, rfl, rfl⟩ := Contract.reaches_bind.mp h_rest
    obtain ⟨spent, elapsed, total, ending, h_told, rfl⟩ := turn_reaches h_turn
    obtain ⟨events, h_events, h_told'⟩ := ih h_others
    -- the past has the last event in front, so the first turn is behind all others
    refine ⟨_, .cons spent elapsed total ending h_events, ?_⟩
    rw [h_told', h_told, List.reverse_cons, List.append_assoc]
    rfl

/-! ### Sessions -/

/-- All that may be said to a server that some scenarios share, in order, and the verdicts that come
of it. It is asked for the first payload, and again only if it has decided; all scenarios get their
turns only if it has decided twice in the same way. Otherwise there are no verdicts. -/
inductive Conversation (b : Bench) (client : Client) :
    List Placed → List Event → Option (List (Nat × Verdict)) → Prop
  | undecided {p : Placed} {rest : List Placed} {first : PostEnd} (h_first : first.essence = none) :
    Conversation b client (p :: rest) [client.asked p.2.payload none first] none
  | different {p : Placed} {rest : List Placed} {first second : PostEnd}
      (h_first : first.essence ≠ none) (h_second : second.essence ≠ first.essence) :
      Conversation b client (p :: rest)
        [client.asked p.2.payload none first, client.asked p.2.payload none second] none
  | shared {p : Placed} {rest : List Placed} {first second : PostEnd} {events : List Event}
      {verdicts : List (Nat × Verdict)} (h_first : first.essence ≠ none)
      (h_second : second.essence = first.essence)
      (h_turns : b.Turns client (p :: rest) events verdicts) :
      Conversation b client (p :: rest)
        (client.asked p.2.payload none first :: client.asked p.2.payload none second :: events)
        (some verdicts)

/-- What comes of a session. A server that does not start is told nothing; one that does is part of
one conversation and is then torn down, and nothing else is ever said to it. -/
inductive SessionRuns (b : Bench) (bundle : String) (scenarios : List Placed) (past : Past) :
    Past → Option (List (Nat × Verdict)) → Prop
  | notStarted {past' : Past} {f : Failure}
      (h : Server.Starts b.server bundle b.settings.port past past' (.error f))
      (h_told : past'.told = past.told) : SessionRuns b bundle scenarios past past' none
  | served {past₁ past₂ past' : Past} {server server' : Server} {talk : List Event}
      {result : Option (List (Nat × Verdict))} {teardown : Except Failure Unit}
      (h_start : Server.Starts b.server bundle b.settings.port past past₁ (.ok server))
      (h_talk : b.Conversation server.client scenarios talk result)
      (h_torn : server.TornDown past₂ past' teardown server')
      (h_told : past'.told =
        ⟨.terminate server.client.process, ()⟩ :: (talk.reverse ++ past.told)) :
      SessionRuns b bundle scenarios past past' result

theorem session_reaches {bundle : String} {p : Placed} {rest : List Placed}
    {result : Option (List (Nat × Verdict))}
    (h : anything.Reaches past (b.session bundle (p :: rest)) past' result) :
    b.SessionRuns bundle (p :: rest) past past' result := by
  unfold session at h
  obtain ⟨past₁, started, h_started, h_rest⟩ := Contract.reaches_bind.mp h
  have h_start := Server.start_reaches_iff.mp h_started
  cases started with
  | error f =>
    obtain ⟨rfl, rfl⟩ := h_rest
    exact .notStarted h_start h_start.told_eq
  | ok server =>
    obtain ⟨past₂, stateless, h_check, h_rest⟩ := Contract.reaches_bind.mp h_rest
    -- whatever was said by then, the teardown is the last word
    have h_served : ∀ {talk past₃ past₄ result teardown},
        b.Conversation server.client (p :: rest) talk result →
        past₃.told = talk.reverse ++ past.told →
        anything.Reaches past₃ server.shutdown past₄ teardown →
        b.SessionRuns bundle (p :: rest) past past₄ result := by
      intro talk past₃ past₄ result teardown h_talk h_told h_shutdown
      have h_torn := (Server.shutdown_reaches_iff h_start.owned).mp h_shutdown
      exact .served h_start h_talk h_torn (by rw [h_torn.told_eq, h_told])
    have h_checked := Client.isStateless_reaches h_check
    rw [h_start.told_eq] at h_checked
    cases stateless with
    | true =>
      obtain ⟨past₃, verdicts, h_turns, h_rest⟩ := Contract.reaches_bind.mp h_rest
      obtain ⟨past₄, teardown, h_shutdown, rfl, rfl⟩ := Contract.reaches_bind.mp h_rest
      rcases h_checked with ⟨_, -, -, h_false⟩ | ⟨first, second, h_first, h_told, h_same⟩
      · cases h_false
      · obtain ⟨events, h_events, h_told'⟩ := turns_reaches h_turns
        refine h_served (.shared h_first (h_same.mp rfl) h_events) ?_ h_shutdown
        rw [h_told', h_told, List.reverse_cons, List.reverse_cons, List.append_assoc,
          List.append_assoc]
        rfl
    | false =>
      obtain ⟨past₃, teardown, h_shutdown, rfl, rfl⟩ := Contract.reaches_bind.mp h_rest
      rcases h_checked with ⟨first, h_first, h_told, -⟩ | ⟨first, second, h_first, h_told, h_same⟩
      · exact h_served (.undecided h_first) h_told h_shutdown
      · refine h_served (.different h_first fun h_eq => ?_) h_told h_shutdown
        cases h_same.mpr h_eq

/-! ### Groups -/

/-- What a group comes to: first its session, and then the trials in isolation if the session has no
verdicts. Each of these is logged as a whole: there is one trial for each scenario, and the verdicts
are those of the trials. -/
inductive GroupRuns (b : Bench) (g : Group) : Past → Past → List (Nat × Verdict) → Prop
  | shared {session : Past} {verdicts : List (Nat × Verdict)}
      (h : b.SessionRuns g.bundle g.scenarios [] session (some verdicts)) :
      GroupRuns b g session [] verdicts
  | isolated {session isolated : Past} {verdicts : List (Nat × Verdict)}
      {trials : List (Finished Verdict)} (h : b.SessionRuns g.bundle g.scenarios [] session none)
      (h_trials : List.Forall₂ (fun p e => e.IsOf (p.1, b.trial p.2 .server)) g.scenarios trials)
      (h_log : Past.Interleave (trials.map (·.past)) isolated)
      (h_verdicts : verdicts.Perm (trials.map (·.numbered))) :
      GroupRuns b g session isolated verdicts

end Bench

namespace Plan

/-- A group has scenarios, and they are in the order of these. -/
def IsGroupOf (scenarios : List Placed) (g : Group) : Prop :=
  g.scenarios ≠ [] ∧ g.scenarios.Sublist scenarios

theorem IsGroupOf.append {scenarios : List Placed} {g : Group} (h : IsGroupOf scenarios g)
    (p : Placed) : IsGroupOf (scenarios ++ [p]) g :=
  ⟨h.1, h.2.trans (List.sublist_append_left scenarios [p])⟩

/-- Joining keeps the order. -/
theorem join_isGroupOf {p : Placed} {groups : List Group} {scenarios : List Placed}
    (h : ∀ g ∈ groups, IsGroupOf scenarios g) :
    ∀ g ∈ join p groups, IsGroupOf (scenarios ++ [p]) g := by
  have h_new : IsGroupOf (scenarios ++ [p]) ⟨p.2.bundle, [p]⟩ :=
    ⟨List.cons_ne_nil p [], List.sublist_append_right scenarios [p]⟩
  induction groups with
  | nil => exact List.forall_mem_singleton.mpr h_new
  | cons g rest ih =>
    rw [List.forall_mem_cons] at h
    have h_rest : ∀ g ∈ rest, IsGroupOf (scenarios ++ [p]) g := fun g' hg' => (h.2 g' hg').append p
    unfold join
    -- a group of its own, the first group, or one of those behind it
    split
    · exact List.forall_mem_cons.mpr ⟨h_new, List.forall_mem_cons.mpr ⟨h.1.append p, h_rest⟩⟩
    · refine List.forall_mem_cons.mpr ⟨⟨?_, h.1.2.append (.refl [p])⟩, h_rest⟩
      exact List.append_ne_nil_of_right_ne_nil _ (List.cons_ne_nil p [])
    · exact List.forall_mem_cons.mpr ⟨h.1.append p, ih h.2⟩

theorem add_isGroupOf {sharing : Bool} {default : Channel} {p : Placed} {plan : Plan}
    {scenarios : List Placed} (h : ∀ g ∈ plan.shared, IsGroupOf scenarios g) :
    ∀ g ∈ (add sharing default plan p).shared, IsGroupOf (scenarios ++ [p]) g := by
  unfold add
  dsimp only
  split
  · exact join_isGroupOf h
  · exact fun g hg => (h g hg).append p

end Plan

namespace Bench

/-- The groups of a plan keep the order of the scenarios. -/
theorem plan_isGroupOf (b : Bench) (scenarios : List Scenario) :
    ∀ g ∈ (b.plan scenarios).shared, Plan.IsGroupOf (Scenario.placed scenarios) g := by
  refine b.plan_induction (P := fun before plan => ∀ g ∈ plan.shared, Plan.IsGroupOf before g)
    ?_ ?_ scenarios
  · exact List.forall_mem_nil _
  · exact fun _ _ _ h => Plan.add_isGroupOf h

/-- A log can be kept of a group, and what comes of the group is the same with and without it. -/
theorem groupVerdicts_iff_exists_log (b : Bench) (w : World) (g : Group) {pool pool' : PortPool}
    {verdicts : List (Nat × Verdict)} (log : Past) :
    b.groupVerdicts w.executor g pool verdicts pool' ↔
      ∃ log', b.groupVerdicts w.logging g ⟨pool, log⟩ verdicts ⟨pool', log'⟩ := by
  unfold groupVerdicts
  constructor
  · rintro ⟨verdicts?, pool₁, h_session, h_rest⟩
    obtain ⟨log₁, h_logged⟩ := (Floor.run_iff_exists_log log).mp h_session
    cases verdicts? with
    | some own =>
      obtain ⟨rfl, rfl⟩ := h_rest
      exact ⟨log₁, some verdicts, ⟨pool', log₁⟩, h_logged, rfl, rfl⟩
    | none =>
      -- the trials go on with the log of the session
      obtain ⟨log₂, h_trials⟩ := (Floor.run_iff_exists_log log₁).mp h_rest
      exact ⟨log₂, none, ⟨pool₁, log₁⟩, h_logged, h_trials⟩
  · rintro ⟨log₂, verdicts?, ⟨pool₁, log₁⟩, h_session, h_rest⟩
    refine ⟨verdicts?, pool₁, (Floor.run_iff_exists_log log).mpr ⟨log₁, h_session⟩, ?_⟩
    cases verdicts? with
    | some own =>
      obtain ⟨rfl, h_same⟩ := h_rest
      cases h_same
      exact ⟨rfl, rfl⟩
    | none => exact (Floor.run_iff_exists_log log₁).mpr ⟨log₂, h_rest⟩

theorem groupVerdicts_logging {b : Bench} {w : World} {g : Group} (h_some : g.scenarios ≠ [])
    {s s' : Logged} {verdicts : List (Nat × Verdict)}
    (h : b.groupVerdicts w.logging g s verdicts s') :
    ∃ session isolated, s'.log = isolated ++ (session ++ s.log) ∧
      b.GroupRuns g session isolated verdicts := by
  unfold groupVerdicts at h
  obtain ⟨verdicts?, s₁, h_session, h_rest⟩ := h
  obtain ⟨session, h_reached, h_log⟩ := World.alone_logging h_session
  obtain ⟨p, rest, h_scenarios⟩ := List.exists_cons_of_ne_nil h_some
  rw [h_scenarios] at h_reached
  have h_runs := session_reaches h_reached
  rw [← h_scenarios] at h_runs
  cases verdicts? with
  | some own =>
    obtain ⟨rfl, rfl⟩ := h_rest
    exact ⟨session, [], h_log, .shared h_runs⟩
  | none =>
    obtain ⟨isolated, trials, h_log', h_trials, h_verdicts, h_interleave⟩ :=
      World.several_logging h_rest
    -- each task is the trial of one scenario, with its place as its number
    rw [List.map_map, List.forall₂_map_left_iff] at h_trials
    exact ⟨session, isolated, by rw [h_log', h_log],
      .isolated h_runs h_trials h_interleave h_verdicts⟩

end Bench

/-! ### Groups come to an end -/

theorem Server.scoped_lending {w : World} {κ β : Type} (s : ServerSettings) (bundle : String)
    (port : Nat) {body : Client → Procedure (Ending κ β)}
    (h_body : ∀ client, (body client).IsQuiet) :
    w.lending.Ensures past (Server.scoped s bundle port body) fun past' _ =>
      past'.lease = past.lease := by
  unfold Server.scoped
  refine (Server.start_ensures s bundle port).bind fun past₁ started h_started => ?_
  cases started with
  | error f => exact h_started.1
  | ok server =>
    refine (h_body server.client).ensures.bind fun past₂ ending h_ending => ?_
    refine server.isQuiet_shutdown.ensures.bind fun past₃ _ h_shutdown => ?_
    exact h_shutdown.lease.trans (h_ending.lease.trans h_started.1)

namespace Bench

/-- A trial with a server of its own takes and gives back its port in order. -/
theorem trial_lending {b : Bench} {w : World} (s : Scenario) (h_idle : past.lease = .idle) :
    w.lending.Ensures past (b.trial s .server) fun past' _ => past'.lease = .idle := by
  have h_serve : ∀ start, w.lending.Ensures (⟨.clock, start⟩ :: past) (b.serve s start)
      fun past' _ => past'.lease = .idle ∧ True := by
    intro start
    unfold serve
    have h_begun : Past.lease (⟨.clock, start⟩ :: past) = .idle := h_idle
    refine Contract.ensures_map.mpr (World.leased_ensures h_begun fun port past' h_holding => ?_)
    exact (Server.scoped_lending b.server s.bundle port (b.isQuiet_work s start)).mono fun _ _ h =>
      ⟨h.trans h_holding, trivial⟩
  rw [trial_server_eq]
  refine (timed_ensures (fun _ => trivial) h_serve).mono ?_
  rintro _ _ ⟨start, finish, past₁, _, rfl, ⟨h_lease, -⟩, rfl⟩
  exact h_lease

/-- A session leaves the pool alone. -/
theorem session_lending {b : Bench} {w : World} (bundle : String) (scenarios : List Placed) :
    w.lending.Ensures past (b.session bundle scenarios) fun past' _ =>
      past'.lease = past.lease := by
  cases scenarios with
  | nil => exact rfl
  | cons p rest =>
    unfold session
    refine (Server.start_ensures b.server bundle b.settings.port).bind
      fun past₁ started h_started => ?_
    cases started with
    | error f => exact h_started.1
    | ok server =>
      refine (server.client.isQuiet_isStateless p.2.payload).ensures.bind
        fun past₂ stateless h_check => ?_
      have h_checked := h_check.lease.trans h_started.1
      cases stateless with
      | true =>
        refine (b.isQuiet_turns server.client (p :: rest)).ensures.bind fun past₃ _ h_turns => ?_
        refine server.isQuiet_shutdown.ensures.bind fun past₄ _ h_shutdown => ?_
        exact h_shutdown.lease.trans (h_turns.lease.trans h_checked)
      | false =>
        refine server.isQuiet_shutdown.ensures.bind fun past₃ _ h_shutdown => ?_
        exact h_shutdown.lease.trans h_checked

/-- With all ports of the settings a group comes to its verdicts, and the pool has its ports
again. -/
theorem groupVerdicts_always {build : Build} {b : Bench} (hb : b.settings.IsValid build) (w : World)
    (g : Group) :
    (Possible.within (PortPool.Holds b.settings.ports.free)).Always
      (b.groupVerdicts w.executor g) fun _ => True := by
  have h_session : w.lending.Ensures [] (b.session g.bundle g.scenarios)
      fun past' _ => past'.lease = .idle ∧ True :=
    (session_lending g.bundle g.scenarios).mono fun _ _ h => ⟨h, trivial⟩
  refine Assurance.bind _ (World.alone_always hb.ports_pos h_session) fun verdicts? _ => ?_
  cases verdicts? with
  | some verdicts => exact Assurance.pure _ trivial
  | none =>
    have h_trials : List.Forall₂ (fun p t => Task.IsFor w (fun _ _ => True) p ⟨t.1, [], t.2⟩)
        g.scenarios (g.scenarios.map fun p => (p.1, b.trial p.2 .server)) := by
      rw [List.forall₂_map_right_iff]
      refine List.forall₂_same.mpr fun p _ => ⟨rfl, ?_⟩
      exact (trial_lending p.2 rfl).mono fun _ _ h => ⟨h, trivial⟩
    have h_always := World.several_always hb.jobs hb.ports_pos h_trials
    unfold trials
    rw [List.map_map]
    exact Assurance.mono _ h_always fun _ _ => trivial

/-! ### Two scenarios and one server

Some runs of a group of two in a world that promises nothing. -/

/-- Two scenarios of one bundle that both expect a grant. -/
def pairRegistry : Registry :=
  ⟨[⟨"s::a", "a.yml", .null, .exactDecision .grant, some .server⟩,
    ⟨"s::b", "a.yml", .bool true, .exactDecision .grant, some .server⟩], by decide⟩

/-- The bench that lets them share a server; it tries one scenario at a time. -/
def pairBench : Bench := ⟨{ serverScope := .session, jobs := 1 }, "mpe"⟩

/-- The two as a group. -/
def pairGroup : Group := ⟨"a.yml", Scenario.placed pairRegistry.scenarios⟩

/-- The ports for them. -/
def pairPool : PortPool := ⟨1, [9090]⟩

/-- An answer with a grant. -/
def granting : PostEnd := .answered 200 (Bytes.ofString "\x7b\"decision\": \"GRANT\"\x7d")

/-- An answer with a denial. -/
def denying : PostEnd := .answered 200 (Bytes.ofString "\x7b\"decision\": \"DENY\"\x7d")

section Pair

variable {pool : PortPool} {number : Nat} {before : Past} {log : Past} {e : Action} {α : Type}
  {k : e.Reply → Procedure α} {after : List (Task α)} {ended : List (Nat × α)}
  {end' : Floor α × Past}

/-- A world that promises nothing may reply anything to an action that is not about ports. -/
theorem unruly_replies (r : e.Reply) (he : e.onPorts = false)
    (h : Relation.ReflTransGen (Floor.LogStep World.unruly 1)
      (⟨pool, ⟨number, ⟨e, r⟩ :: before, k r⟩ :: after, ended⟩, ⟨e, r⟩ :: log) end') :
    Relation.ReflTransGen (Floor.LogStep World.unruly 1)
      (⟨pool, ⟨number, before, .ask e k⟩ :: after, ended⟩, log) end' :=
  h.head (.act_first r (.other he trivial))

/-- Its clock may stand still. -/
theorem unruly_clock {k : Duration → Procedure α}
    (h : Relation.ReflTransGen (Floor.LogStep World.unruly 1)
      (⟨pool, ⟨number, ⟨.clock, (⟨0⟩ : Duration)⟩ :: before, k ⟨0⟩⟩ :: after, ended⟩,
        ⟨.clock, (⟨0⟩ : Duration)⟩ :: log) end') :
    Relation.ReflTransGen (Floor.LogStep World.unruly 1)
      (⟨pool, ⟨number, before, .ask .clock k⟩ :: after, ended⟩, log) end' :=
  unruly_replies (e := .clock) ⟨0⟩ rfl h

/-- The server grants twice what it is asked first. Then it grants one scenario and denies the
other, and it is told five things in all. -/
theorem exists_pair_shared : ∃ verdicts log,
    World.unruly.logging.alone (pairBench.session pairGroup.bundle pairGroup.scenarios)
      ⟨pairPool, []⟩ (some verdicts) ⟨pairPool, log⟩ ∧
    verdicts.map (fun v => (v.1, v.2.passed)) = [(0, true), (1, false)] ∧
    log.told.length = 5 := by
  apply Exists.intro
  apply Exists.intro
  refine ⟨?_, ?_, ?_⟩
  · -- the server is launched, has not exited and is healthy
    refine unruly_replies (some 7) rfl (unruly_replies none rfl ?_)
    refine unruly_replies (GetEnd.answered 200) rfl ?_
    -- it decides the first question twice; the clock is read before and after each
    refine unruly_clock (unruly_replies granting rfl ?_)
    refine unruly_clock (unruly_clock ?_)
    refine unruly_replies granting rfl (unruly_clock ?_)
    -- the first turn, with a look at the clock for its deadline
    refine unruly_clock (unruly_clock (unruly_clock ?_))
    refine unruly_replies granting rfl ?_
    refine unruly_clock (unruly_clock ?_)
    -- the second turn
    refine unruly_clock (unruly_clock (unruly_clock ?_))
    refine unruly_replies denying rfl ?_
    refine unruly_clock (unruly_clock ?_)
    -- it is shut down
    refine unruly_replies () rfl (unruly_replies WaitEnd.exited rfl ?_)
    exact .single (.leave_first pairPool)
  · decide +kernel
  · rfl

/-- The first answer of the server fails, and it is shut down. -/
theorem exists_pair_refused : ∃ log,
    World.unruly.logging.alone (pairBench.session pairGroup.bundle pairGroup.scenarios)
      ⟨pairPool, []⟩ none ⟨pairPool, log⟩ ∧ log.told.length = 2 := by
  apply Exists.intro
  refine ⟨?_, ?_⟩
  · refine unruly_replies (some 7) rfl (unruly_replies none rfl ?_)
    refine unruly_replies (GetEnd.answered 200) rfl ?_
    refine unruly_clock (unruly_replies PostEnd.failed rfl (unruly_clock ?_))
    refine unruly_replies () rfl (unruly_replies WaitEnd.exited rfl ?_)
    exact .single (.leave_first pairPool)
  · rfl

/-- A trial takes the port, has no second server launched and gives the port back. -/
theorem exists_pair_trial (p : Placed) (after : List (Task Verdict)) (ended : List (Nat × Verdict))
    (log : Past) :
    ∃ v log',
      Relation.ReflTransGen (Floor.LogStep World.unruly 1)
        (⟨pairPool, ⟨p.1, [], pairBench.trial p.2 .server⟩ :: after, ended⟩, log)
        (⟨pairPool, after, ended ++ [(p.1, v)]⟩, log') ∧
      log'.told = log.told := by
  apply Exists.intro
  apply Exists.intro
  refine ⟨?_, ?_⟩
  · refine unruly_clock ?_
    refine .head (.act_first true (.takePermit rfl)) ?_
    refine .head (.act_first (some 9090) (.popPort rfl)) ?_
    refine unruly_replies none rfl ?_
    refine .head (.act_first () (.pushPort 9090)) ?_
    refine .head (.act_first () .releasePermit) ?_
    refine unruly_clock ?_
    exact .single (.leave_first pairPool)
  · rfl

/-- Without a shared server each of the two gets a verdict of its own. -/
theorem exists_pair_isolated (log : Past) : ∃ v v' log', log'.told = log.told ∧
    pairBench.trials World.unruly.logging (pairGroup.scenarios.map fun p => ⟨p.1, p.2, .server⟩)
      ⟨pairPool, log⟩ [(0, v), (1, v')] ⟨pairPool, log'⟩ := by
  let first := pairRegistry.scenarios[0]
  let second := pairRegistry.scenarios[1]
  obtain ⟨v, log₁, h_first, h_told⟩ :=
    exists_pair_trial (0, first) [⟨1, [], pairBench.trial second .server⟩] [] log
  obtain ⟨v', log₂, h_second, h_told'⟩ := exists_pair_trial (1, second) [] [(0, v)] log₁
  exact ⟨v, v', log₂, h_told'.trans h_told, h_first.trans h_second⟩

end Pair

/-! ### The conversation of a group -/

/-- **One request at a time.** Take any group that is to share a server, in any world, with whatever
the server answers. Its scenarios are some of the registry, in their order, and with the ports of
the settings it comes to its verdicts. A run with a log is a run without one, and the log of the
group is that of one session, followed by that of one trial for each scenario if the session has no
verdicts. If the server starts, all it is ever told is one conversation and, once and at the end, to
terminate. -/
theorem group_conversation (b : Bench) (w : World) (registry : Registry) {g : Group}
    (hg : g ∈ (b.plan registry.scenarios).shared) :
    Plan.IsGroupOf (Scenario.placed registry.scenarios) g ∧
    (∀ build, b.settings.validate build = .ok () → ∀ pool : PortPool,
      pool.Holds b.settings.ports.free →
      ∃ verdicts pool', b.groupVerdicts w.executor g pool verdicts pool') ∧
    (∀ pool verdicts pool' log, b.groupVerdicts w.executor g pool verdicts pool' ↔
      ∃ log', b.groupVerdicts w.logging g ⟨pool, log⟩ verdicts ⟨pool', log'⟩) ∧
    ∀ s verdicts s', b.groupVerdicts w.logging g s verdicts s' →
      ∃ session isolated, s'.log = isolated ++ (session ++ s.log) ∧
        b.GroupRuns g session isolated verdicts := by
  have h_group := plan_isGroupOf b registry.scenarios g hg
  refine ⟨h_group, fun build hb pool h_pool => ?_,
    fun _ _ _ log => groupVerdicts_iff_exists_log b w g log,
    fun _ _ _ => groupVerdicts_logging h_group.1⟩
  have h_valid := Settings.validate_eq_ok_iff.mp hb
  exact (groupVerdicts_always h_valid w g pool h_pool).1

/-- Two scenarios share a server that decides the first question twice in the same way, and each
gets its own answer there. When the first answer fails, all that the server is told besides is to
end, and each gets a verdict of its own. -/
theorem group_conversation_pair :
    pairGroup ∈ (pairBench.plan pairRegistry.scenarios).shared ∧
      pairBench.settings.validate .checked = .ok () ∧
      pairPool.Holds pairBench.settings.ports.free ∧
      (∃ verdicts pool',
        pairBench.groupVerdicts World.unruly.executor pairGroup pairPool verdicts pool') ∧
      (∃ verdicts log, verdicts.map (fun v => (v.1, v.2.passed)) = [(0, true), (1, false)] ∧
        log.told.length = 5 ∧
        pairBench.groupVerdicts World.unruly.logging pairGroup ⟨pairPool, []⟩ verdicts
          ⟨pairPool, log⟩ ∧
        ∃ session isolated, log = isolated ++ (session ++ []) ∧
          pairBench.GroupRuns pairGroup session isolated verdicts) ∧
      ∃ v v' log, log.told.length = 2 ∧
        pairBench.groupVerdicts World.unruly.logging pairGroup ⟨pairPool, []⟩ [(0, v), (1, v')]
          ⟨pairPool, log⟩ ∧
        ∃ session isolated, log = isolated ++ (session ++ []) ∧
          pairBench.GroupRuns pairGroup session isolated [(0, v), (1, v')] := by
  have h_shared : pairGroup ∈ (pairBench.plan pairRegistry.scenarios).shared :=
    List.mem_singleton.mpr rfl
  have h_valid : pairBench.settings.validate .checked = .ok () := by decide
  have h_pool : pairPool.Holds pairBench.settings.ports.free := ⟨rfl, .refl _⟩
  obtain ⟨-, h_some, -, h_conversation⟩ :=
    group_conversation pairBench World.unruly pairRegistry h_shared
  obtain ⟨verdicts, log, h_session, h_passed, h_five⟩ := exists_pair_shared
  have h_run : pairBench.groupVerdicts World.unruly.logging pairGroup ⟨pairPool, []⟩ verdicts
      ⟨pairPool, log⟩ := ⟨some verdicts, _, h_session, rfl, rfl⟩
  obtain ⟨log₁, h_refused, h_two⟩ := exists_pair_refused
  obtain ⟨v, v', log₂, h_told, h_trials⟩ := exists_pair_isolated log₁
  have h_run' : pairBench.groupVerdicts World.unruly.logging pairGroup ⟨pairPool, []⟩
      [(0, v), (1, v')] ⟨pairPool, log₂⟩ := ⟨none, _, h_refused, h_trials⟩
  exact ⟨h_shared, h_valid, h_pool, h_some _ h_valid pairPool h_pool,
    ⟨verdicts, log, h_passed, h_five, h_run, h_conversation _ _ _ h_run⟩,
    v, v', log₂, (congrArg List.length h_told).trans h_two, h_run', h_conversation _ _ _ h_run'⟩

end Bench

end PolicyTrial
