import PolicyTrial.Proofs.Host.Scene
import PolicyTrial.Registry

/-!
# No two servers on one port

A shared server runs on the first port without taking it from the pool, and the same port is lent to
trials in isolation. So it is not the pool alone that keeps servers apart, but also the order of a
run: all trials in isolation are over before the first server is shared, and a shared server is shut
down before its scenarios are tried in isolation after all. Within each part, a port on loan is
given back when nothing runs on it any more.

`Bench.record_keepsApart` says so of all runs. Nothing is known of the engine and of the world
around: servers may fail to start in every way, requests may fail or run into their deadline, and
the trials proceed in any order. A trial may also crash in the midst of its request, as a
`Bench.Course` says. Its server is shut down and its port given back all the same.
-/

namespace PolicyTrial

/-! ### A world that may answer anything -/

/-- A world in which anything may be answered. -/
def World.unruly : World where
  Replies _ _ _ := True
  responds _ e := by
    cases e with
    | run => exact ⟨.lost, trivial⟩
    | get | post | awaitExit => exact ⟨.failed, trivial⟩
    | _ => exact ⟨default, trivial⟩

/-- There a trial that begins may come to have a server on the next free port. -/
theorem Scene.exists_launch {b : Bench} {s : Scenario} {pool pool₁ pool₂ : PortPool} {port n : Nat}
    (process : ProcessId) {servers : List LiveServer} {before after : List (Task (Option Verdict))}
    {ended : List (Nat × Verdict)} {number : Nat} (h_front : before.length < n)
    (h_permit : pool.acquire? = some pool₁) (h_port : pool₁.pop? = some (port, pool₂)) :
    ∃ t, Relation.ReflTransGen (Scene.Step World.unruly n)
      ⟨⟨pool, servers⟩, before ++ ⟨number, [], some <$> b.trial s .server⟩ :: after, ended⟩
      ⟨⟨pool₂, ⟨process, port⟩ :: servers⟩, before ++ t :: after, ended⟩ := by
  let launch : Action := .launch (b.server.command s.bundle port) port
  have h_clock : World.unruly.Answers pool [] .clock ⟨0⟩ pool := .other rfl trivial
  have h_launch : ∀ past, World.unruly.Answers pool₂ past launch (some process) pool₂ :=
    fun _ => .other rfl trivial
  -- the clock, a permit, the port, and the launch
  exact ⟨_, .head (.act h_front h_clock) (.head (.act h_front (.takePermit h_permit))
    (.head (.act h_front (.popPort h_port)) (.single (.act h_front (h_launch _)))))⟩

/-! ### Runs -/

namespace Bench

/-- A trial over a server whose work stops in the midst and crashes. -/
def crashing (b : Bench) (s : Scenario) (work : Client → Duration → Procedure Unit) :
    Procedure (Ending Unit Answer) := do
  let start ← Procedure.perform .clock
  leased fun port =>
    Server.scoped b.server s.bundle port fun client => Ending.crashed <$> work client start

/-- The courses of a procedure in a run: it is gone through, or, if it is a trial over a server, it
crashes at some point of its request. -/
inductive Course (b : Bench) : {α : Type} → Procedure α → Procedure (Option α) → Prop
  | whole {α : Type} (p : Procedure α) : Course b p (some <$> p)
  | crashed (s : Scenario) (work : Client → Duration → Procedure Unit)
      (h : ∀ client start, (b.request s client start).CutShort (work client start)) :
      Course b (b.trial s .server) ((fun _ => none) <$> b.crashing s work)

variable {b : Bench}

/-- **Watching leaves nothing out.** Whatever a run may come to, it may come to when its servers are
watched. -/
theorem record_covers (w : World) (b : Bench) (runId : String) (begins : Instant)
    (scenarios : List Scenario) :
    (b.record (w.watched b.Course) runId begins scenarios).Covers
      (b.record w.executor runId begins scenarios) := by
  have h_trials : ∀ tasks, (b.trials (w.watched b.Course) tasks).Covers
      (b.trials w.executor tasks) := fun tasks => w.several_covers .whole _ _
  have h_groups : ∀ groups, (b.allGroupVerdicts (w.watched b.Course) groups).Covers
      (b.allGroupVerdicts w.executor groups) := by
    intro groups
    induction groups with
    | nil => exact .pure _
    | cons g rest ih =>
      refine Passage.Covers.bind ?_ fun first => ih.bind fun others => .pure _
      refine (w.alone_covers _).bind fun verdicts? => ?_
      cases verdicts? with
      | some verdicts => exact .pure _
      | none => exact h_trials _
  have h_report : (b.report (w.watched b.Course) runId begins scenarios).Covers
      (b.report w.executor runId begins scenarios) := by
    refine (w.alone_covers _).bind fun start => Passage.Covers.bind ?_ fun verdicts =>
      (w.alone_covers _).bind fun finish => .pure _
    exact (h_trials _).bind fun isolated => (h_groups _).bind fun shared => .pure _
  refine h_report.bind fun report => ?_
  cases b.settings.artifactsDir with
  | none => exact .pure _
  | some root => exact (w.onFiles_covers _).bind fun _ => .pure _

/-- A course leaves nothing behind if the procedure does not. -/
theorem Course.leaves_nothing {α : Type} {p : Procedure α} {rest : Procedure (Option α)}
    (h : b.Course p rest)
    (hp : (hosting Lease.ports).Ensures [] p fun past _ => past.IsClear) :
    (hosting Lease.ports).Ensures [] rest fun past _ => past.IsClear := by
  cases h with
  | whole p => exact Contract.ensures_map.mpr hp
  | crashed s work h =>
    refine Contract.ensures_map.mpr ?_
    unfold crashing
    refine Contract.ensures_perform_bind.mpr ⟨trivial, fun start _ => ?_⟩
    have h_body : ∀ client, Procedure.IsQuiet
        (Ending.crashed <$> work client start : Procedure (Ending Unit Answer)) :=
      fun client => ((b.isQuiet_request s client start).cutShort (h client start)).bind
        fun _ => trivial
    exact leased_scoped_hosting b.server s.bundle h_body ⟨rfl, rfl⟩

/-- **No two servers are ever on one port.** Let the settings be valid, with servers of either
scope. Take any run over any registry, with as many trials at a time as there are jobs, in any order
and with crashes among them. Wherever the run comes through, the servers that were launched and not
torn down yet have different ports, all of them ports of the pool. These are the ports from the
first one on, as many as there are jobs, unless the sum of both is too large for a word, and a build
without checks takes it all the same. -/
theorem record_keepsApart (w : World) (b : Bench) {build : Build}
    (hb : b.settings.validate build = .ok ()) (runId : String) (begins : Instant)
    (registry : Registry) {site : Site}
    (h : (b.record (w.watched b.Course) runId begins registry.scenarios).passes
      ⟨b.settings.ports, []⟩ site) :
    (site.servers.map (·.port)).Nodup ∧
    (∀ server ∈ site.servers, server.port ∈ b.settings.ports.free) ∧
    (¬ b.settings.Overflows → ∀ server ∈ site.servers,
      b.settings.port ≤ server.port ∧ server.port < b.settings.port + b.settings.jobs) := by
  have h_valid := Settings.validate_eq_ok_iff.mp hb
  let ports := b.settings.ports.free
  have h_nodup : ports.Nodup := b.settings.ports_nodup
  have h_first : b.settings.port.val ∈ ports := h_valid.port_mem
  -- before the run nothing is under way, so all ports are free
  have h_idle : Site.IsIdle ports ⟨b.settings.ports, []⟩ := ⟨.refl _, rfl⟩
  have h_new : Past.IsClear [] := ⟨rfl, rfl⟩
  have h_always : (Site.orderly ports).Always
      (b.record (w.watched b.Course) runId begins registry.scenarios) fun _ => True := by
    refine record_always ?clock ?trials ?session ?files runId begins registry.scenarios
    case clock =>
      exact World.alone_keepsApart h_first ⟨trivial, fun _ _ => ⟨rfl, rfl⟩⟩
    case trials =>
      intro tasks
      refine World.several_keepsApart h_nodup fun item h_item rest h_course => ?_
      obtain ⟨t, -, rfl⟩ := List.mem_map.mp h_item
      exact h_course.leaves_nothing (b.trial_hosting t.scenario t.channel h_new)
    case session =>
      intro bundle scenarios
      exact World.alone_keepsApart h_first (b.session_hosting bundle scenarios h_new)
    case files =>
      intro α f site h_site
      constructor
      · rintro _ rfl
        exact h_site.keepsApart
      · rintro _ _ ⟨-, rfl⟩
        exact ⟨h_site, trivial⟩
  have h_apart : site.KeepsApart ports := (h_always _ h_idle).1 site h
  refine ⟨h_apart.nodup, h_apart.mem, fun h_word server h_server => ?_⟩
  have h_port : server.port ∈ b.settings.ports.free := h_apart.mem server h_server
  rw [h_valid.ports_eq h_word] at h_port
  exact List.mem_range'_1.mp h_port

/-- Two servers that run at the same time, on the two ports that there are. -/
theorem record_keepsApart_two :
    let a : Scenario := ⟨"s::a", "a.yml", .null, .exactDecision .grant, some .server⟩
    let b : Scenario := ⟨"s::b", "b.yml", .null, .notDecision .grant, some .server⟩
    let c : Scenario := ⟨"s::c", "a.yml", .null, .exactDecision .deny, some .cli⟩
    let registry : Registry := ⟨[a, b, c], by decide⟩
    let bench : Bench := ⟨{ jobs := 2 }, "mpe"⟩
    let run := bench.record (World.unruly.watched bench.Course) "run" ⟨0, 0⟩ registry.scenarios
    bench.settings.validate .checked = .ok () ∧ ¬ bench.settings.Overflows ∧
      ∃ site, run.passes ⟨bench.settings.ports, []⟩ site ∧
      site.servers = [⟨1, 9091⟩, ⟨0, 9090⟩] ∧ (site.servers.map (·.port)).Nodup ∧
      ∀ server ∈ site.servers, 9090 ≤ server.port ∧ server.port < 9090 + 2 := by
  intro a b c registry bench run
  have h_valid : bench.settings.validate .checked = .ok () := by decide
  have h_word : ¬ bench.settings.Overflows := by unfold Settings.Overflows; decide
  have h_ports : bench.settings.ports = ⟨2, [9090, 9091]⟩ := by decide
  let idle : Site := ⟨⟨2, [9090, 9091]⟩, []⟩
  let busy : Site := ⟨⟨0, []⟩, [⟨1, 9091⟩, ⟨0, 9090⟩]⟩
  -- the first look at the clock
  have h_clock : ((World.unruly.watched bench.Course).alone (Procedure.perform .clock)).ends
      idle ⟨0⟩ idle := by
    let begun : Task (Option Duration) := ⟨0, [], some <$> Procedure.perform .clock⟩
    let looked : Task (Option Duration) := ⟨0, [⟨.clock, Duration.mk 0⟩], .done (some ⟨0⟩)⟩
    have h_look : Scene.Step World.unruly 1 ⟨idle, [] ++ begun :: [], []⟩
        ⟨idle, [] ++ looked :: [], []⟩ := .act Nat.one_pos (.other rfl trivial)
    have h_leave : Scene.Step World.unruly 1 ⟨idle, [] ++ looked :: [], []⟩
        ⟨idle, [] ++ [], [] ++ [(0, ⟨0⟩)]⟩ := .leave Nat.one_pos
    exact .tail (.single h_look) h_leave
  -- both trials over a server take a port and launch one
  let t₀ : Task (Option Verdict) := ⟨0, [], some <$> bench.trial a .server⟩
  let t₁ : Task (Option Verdict) := ⟨1, [], some <$> bench.trial b .server⟩
  let t₂ : Task (Option Verdict) := ⟨2, [], some <$> bench.trial c .cli⟩
  obtain ⟨t, h_first⟩ : ∃ t, Relation.ReflTransGen (Scene.Step World.unruly 2)
      ⟨idle, [] ++ t₀ :: [t₁, t₂], []⟩
      ⟨⟨⟨1, [9091]⟩, [⟨0, 9090⟩]⟩, [] ++ t :: [t₁, t₂], []⟩ :=
    Scene.exists_launch 0 Nat.two_pos rfl rfl
  obtain ⟨t', h_second⟩ : ∃ t', Relation.ReflTransGen (Scene.Step World.unruly 2)
      ⟨⟨⟨1, [9091]⟩, [⟨0, 9090⟩]⟩, [t] ++ t₁ :: [t₂], []⟩ ⟨busy, [t] ++ t' :: [t₂], []⟩ :=
    Scene.exists_launch 1 Nat.one_lt_two rfl rfl
  have h_passes : run.passes idle busy := by
    have h_begin : List.Forall₂ (Task.Begins bench.Course)
        [(0, bench.trial a .server), (1, bench.trial b .server), (2, bench.trial c .cli)]
        [t₀, t₁, t₂] :=
      .cons ⟨rfl, rfl, .whole _⟩ (.cons ⟨rfl, rfl, .whole _⟩ (.cons ⟨rfl, rfl, .whole _⟩ .nil))
    exact .inl (.inr ⟨⟨0⟩, idle, h_clock, .inl (.inl
      ⟨[t₀, t₁, t₂], _, _, h_begin, h_first.trans h_second⟩)⟩)
  have h_idle : idle = ⟨bench.settings.ports, []⟩ := by rw [h_ports]
  rw [h_idle] at h_passes
  obtain ⟨h_nodup, -, h_range⟩ :=
    record_keepsApart World.unruly bench h_valid "run" ⟨0, 0⟩ registry h_passes
  exact ⟨h_valid, h_word, busy, h_passes, rfl, h_nodup, h_range h_word⟩

end Bench

end PolicyTrial
