import PolicyTrial.Host.Basic
import PolicyTrial.Proofs.Engine.Governed
import PolicyTrial.Proofs.Judgement.Replay
import PolicyTrial.Proofs.Judgement.StartupExit
import PolicyTrial.Proofs.Run.Sharing

/-!
# Servers that start too late

The deadline of a scenario counts from its beginning, but only the request is held to it: the start
of a server has bounds of its own. So a start may last longer than the whole scenario was to last,
and what becomes of that depends on how it ends (`Bench.late_startup_verdict`):

* A server that is ready finds that nothing is left for its request. The verdict is a timeout.
* A server that no probe finds ready fails by a timeout in any case.
* A server that exited first, or that could not be launched, is judged as if it had been in time.
  Its exit may even be what was expected (`Bench.late_exit_accepted`).

Time is what a `World.Clock` says it is. All that is asked of it is that nobody reads it early, and
that a request which ends otherwise than by a bound took some time, but no more than was left.
-/

namespace PolicyTrial

/-- A clock of a world: what time it is after each past, in nanoseconds. -/
structure World.Clock (w : World) where
  now : Past → Nat
  /-- A look at the clock shows the time at which it is asked for, or a later one. -/
  shows : ∀ {past : Past} {shown : Duration}, w.Replies past .clock shown → now past ≤ shown.nanos
  /-- A request takes some time. If no bound ends it, then there was enough time left for it. -/
  inTime : ∀ {past : Past} {url : String} {body : Json} {limit left : Duration} {r : PostEnd},
    w.Replies past (.post url body limit (some left)) r → r ≠ .abandoned → r ≠ .overran →
      now past < now (⟨.post url body limit (some left), r⟩ :: past) ∧
        now (⟨.post url body limit (some left), r⟩ :: past) ≤ now past + left.nanos

variable {c : Contract} {w : World} {past past' : Past}

open Contract (reaches_bind reaches_perform_bind reaches_map)

/-! ### How a start ends, and how that is judged -/

/-- However the probes go, they come to one of the ends that a start can have. -/
theorem Readiness.exists_startup {s : ServerSettings} {port : Nat} {process : ProcessId}
    {left : Nat} {r : Except Failure Unit}
    (h : c.Reaches past (probe s (s.client port process) left) past' r) :
    ∃ startup : Startup, r = startup.result s port := by
  induction left generalizing past with
  | zero =>
    obtain ⟨-, rfl⟩ := h
    exact ⟨.silent, rfl⟩
  | succ left ih =>
    unfold probe at h
    obtain ⟨exit?, -, h⟩ := reaches_perform_bind.mp h
    cases exit? with
    | some code =>
      obtain ⟨_, -, h⟩ := reaches_perform_bind.mp h
      obtain ⟨stderr, -, -, rfl⟩ := reaches_perform_bind.mp h
      exact ⟨.exited code stderr, rfl⟩
    | none =>
      rw [Client.health_bind] at h
      obtain ⟨health, -, h⟩ := reaches_perform_bind.mp h
      split at h
      · obtain ⟨-, rfl⟩ := h
        exact ⟨.ready, rfl⟩
      · obtain ⟨_, -, h⟩ := reaches_perform_bind.mp h
        exact ih h

theorem Server.exists_startup {s : ServerSettings} {bundle : String} {port : Nat}
    {started : Except Failure Server}
    (h : c.Reaches past (Server.start s bundle port) past' started) :
    ∃ startup : Startup, started.map (fun _ => ()) = startup.result s port := by
  unfold Server.start at h
  obtain ⟨process?, -, h⟩ := reaches_perform_bind.mp h
  cases process? with
  | none =>
    obtain ⟨-, rfl⟩ := h
    exact ⟨.notLaunched, rfl⟩
  | some process =>
    obtain ⟨_, readiness, h_probe, h⟩ := reaches_bind.mp h
    obtain ⟨startup, h_startup⟩ := Readiness.exists_startup h_probe
    refine ⟨startup, ?_⟩
    rw [← h_startup]
    -- killing a server that is not ready does not change what it failed by
    cases readiness with
    | ok _ =>
      obtain ⟨-, rfl⟩ := h
      rfl
    | error f =>
      obtain ⟨_, _, -, -, rfl⟩ := reaches_bind.mp h
      rfl

/-- A start that failed is judged as a timeout exactly if no probe was answered. -/
theorem evaluate_startup_iff (e : Expectation) {s : ServerSettings} {port : Nat}
    {startup : Startup} {f : Failure} (h : startup.result s port = .error f) :
    (evaluate e (.error f)).passed = false ∧ (evaluate e (.error f)).failure = some .timeout ↔
      startup = .ready ∨ startup = .silent := by
  cases startup with
  | ready => cases h
  | silent =>
    cases h
    exact iff_of_true (evaluate_of_timeout e rfl) (.inr rfl)
  | exited code stderr =>
    cases h
    have h_kind := Readiness.failure_exited_ne e (s.client port 0) code stderr
    exact iff_of_false (fun h_timeout => h_kind h_timeout.2) nofun
  | notLaunched =>
    cases h
    exact iff_of_false nofun nofun

/-! ### How a late request ends -/

/-- If nothing is left of the scenario's time, a request ends by a bound. -/
theorem Bench.request_late {b : Bench} {s : Scenario} {client : Client} {start : Duration}
    {r : Response} (clock : w.Clock)
    (h_late : start.nanos + b.settings.scenarioDeadline.nanos ≤ clock.now past)
    (h : w.lending.Reaches past (b.request s client start) past' r) :
    ∃ f, r = .error f ∧ f.kind = .timeout := by
  unfold request Deadline.since Client.decide at h
  obtain ⟨_, deadline, h_deadline, h⟩ := reaches_bind.mp h
  obtain ⟨now, h_now, rfl, rfl⟩ := reaches_perform_bind.mp h_deadline
  have h_left : (b.settings.scenarioDeadline - (now - start)).nanos = 0 := by
    have h_shown : clock.now past ≤ now.nanos := clock.shows h_now
    show b.settings.scenarioDeadline.nanos - (now.nanos - start.nanos) = 0
    omega
  obtain ⟨_, response, h_decide, -, rfl⟩ := reaches_bind.mp h
  obtain ⟨sent, -, h_decide⟩ := reaches_perform_bind.mp h_decide
  obtain ⟨ending, h_ending, h_decide⟩ := reaches_perform_bind.mp h_decide
  obtain ⟨finish, -, -, rfl⟩ := reaches_perform_bind.mp h_decide
  -- an end that no bound brought about would have taken time, of which there is none
  have h_bound : ending = .abandoned ∨ ending = .overran := by
    by_contra h_neither
    rw [not_or] at h_neither
    obtain ⟨h_some, h_most⟩ := clock.inTime h_ending h_neither.1 h_neither.2
    dsimp only at h_some h_most
    omega
  rcases h_bound with rfl | rfl
  · exact ⟨.timeout ("scenario " ++ s.id) b.settings.scenarioDeadline, rfl, rfl⟩
  · exact ⟨_, rfl, rfl⟩

/-! ### A slow world -/

namespace World

/-- How a world answers in which each action takes a second: servers get ready at once, and a
request is answered if a second is left for it. -/
def slowReply (past : Past) : (e : Action) → e.Reply
  | .clock => .ofSecs past.length
  | .run .. => .overran
  | .launch .. => some (0 : ProcessId)
  | .poll _ => none
  | .settle .. => ()
  | .captured _ => []
  | .get .. => .answered 200
  | .post _ _ _ none => .answered 200 []
  | .post _ _ _ (some left) => if .ofSecs 1 ≤ left then .answered 200 [] else .abandoned
  | .pause _ => ()
  | .terminate _ => ()
  | .awaitExit .. => .exited
  | .kill _ => true
  | .takePermit => true
  | .popPort => none
  | .pushPort _ => ()
  | .releasePermit => ()

def slow : World where
  Replies past e r := r = slowReply past e
  responds past e := ⟨slowReply past e, rfl⟩

/-- The clock of the slow world counts what has been done. -/
def slowClock : slow.Clock where
  now past := (Duration.ofSecs past.length).nanos
  shows := by
    rintro past _ rfl
    exact Nat.le_refl _
  inTime := by
    intro past url body limit left r hr h_abandoned _
    have h_enough : Duration.ofSecs 1 ≤ left := by
      by_contra h_short
      exact h_abandoned (hr.trans (if_neg h_short))
    have h_second : 1 * 1000000000 ≤ left.nanos := h_enough
    show past.length * 1000000000 < (past.length + 1) * 1000000000 ∧
      (past.length + 1) * 1000000000 ≤ past.length * 1000000000 + left.nanos
    omega

/-- In the slow world every server gets ready. -/
theorem slow_startup {s : ServerSettings} {bundle : String} {port : Nat}
    {started : Except Failure Server} {startup : Startup}
    (h : slow.lending.Reaches past (Server.start s bundle port) past' started)
    (h_startup : started.map (fun _ => ()) = startup.result s port) : startup = .ready := by
  unfold Server.start at h
  obtain ⟨process?, rfl : process? = some (0 : ProcessId), h⟩ := reaches_perform_bind.mp h
  obtain ⟨_, readiness, h_await, h⟩ := reaches_bind.mp h
  -- there is a first probe, and it is answered
  obtain ⟨left, h_left⟩ : ∃ left, Readiness.attempts s = left + 1 :=
    Nat.exists_eq_succ_of_ne_zero (Nat.ne_of_gt (Nat.le_max_right _ 1))
  unfold Readiness.await at h_await
  rw [h_left, Readiness.probe] at h_await
  obtain ⟨exit?, rfl : exit? = none, h_await⟩ := reaches_perform_bind.mp h_await
  rw [Client.health_bind] at h_await
  obtain ⟨health, rfl : health = .answered 200, h_await⟩ := reaches_perform_bind.mp h_await
  obtain ⟨-, rfl⟩ := h_await
  obtain ⟨-, rfl⟩ := h
  exact Startup.eq_ready h_startup.symm

end World

/-! ### Late starts -/

namespace Bench

/-- A trial that began behind `past`, at `start`, came with a port of its own to the end of starting
its server: that end is `startup`, and what was done by then is `past₁`. -/
structure StartsUp (b : Bench) (w : World) (s : Scenario) (past : Past) (start : Duration)
    (port : Nat) (startup : Startup) (past₁ : Past) : Prop where
  began : w.Replies past .clock start
  reached : ∃ started, started.map (fun _ => ()) = startup.result b.server port ∧
    w.lending.Reaches
      (⟨.popPort, some port⟩ :: ⟨.takePermit, true⟩ :: ⟨.clock, start⟩ :: past)
      (Server.start b.server s.bundle port) past₁ started

/-- **What becomes of a late start.** Take any run of a trial over a server, and let its server be
started when the deadline of the scenario has passed, counted from the beginning of the trial. Then
the verdict is a timeout exactly if the server was ready or no probe was answered. A start that
failed is judged by its failure, in time or not: an exit by its text, as any expectation will have
it. -/
theorem late_startup_verdict (clock : w.Clock) (b : Bench) (s : Scenario) {v : Verdict}
    (h : w.lending.Reaches past (b.trial s .server) past' v) :
    ∃ start port startup past₁, b.StartsUp w s past start port startup past₁ ∧ past₁ <:+ past' ∧
      (start.nanos + b.settings.scenarioDeadline.nanos ≤ clock.now past₁ →
        (v.passed = false ∧ v.failure = some .timeout ↔
          startup = .ready ∨ startup = .silent)) ∧
      ∀ f, startup.result b.server port = .error f →
        v.assessment = evaluate s.expectation (.error f) := by
  rw [trial_server_eq] at h
  obtain ⟨start, finish, _, response, h_start, h_serve, rfl, rfl⟩ := timed_reaches h
  unfold serve at h_serve
  obtain ⟨ending, h_leased, rfl⟩ := reaches_map.mp h_serve
  obtain ⟨port, past₂, h_scoped, rfl⟩ := World.leased_reaches h_leased
  unfold Server.scoped at h_scoped
  obtain ⟨past₁, started, h_started, h_scoped⟩ := reaches_bind.mp h_scoped
  obtain ⟨startup, h_startup⟩ := Server.exists_startup h_started
  -- what is done behind the start of the server leaves its past behind
  have h_end :
      past₂ <:+ ⟨.clock, finish⟩ :: ⟨.releasePermit, ()⟩ :: ⟨.pushPort port, ()⟩ :: past₂ :=
    List.suffix_append [_, _, _] past₂
  have h_starts : b.StartsUp w s past start port startup past₁ :=
    ⟨h_start, started, h_startup, h_started⟩
  refine ⟨start, port, startup, past₁, h_starts, h_scoped.isSuffix.trans h_end, ?_⟩
  cases started with
  | error f =>
    obtain ⟨-, rfl⟩ := h_scoped
    have h_failed : startup.result b.server port = .error f := h_startup.symm
    refine ⟨fun _ => evaluate_startup_iff s.expectation h_failed, fun f' h_f' => ?_⟩
    rw [h_failed] at h_f'
    cases h_f'
    rfl
  | ok server =>
    have h_ready : startup = .ready := Startup.eq_ready h_startup.symm
    subst h_ready
    refine ⟨fun h_late => iff_of_true ?_ (.inl rfl), nofun⟩
    obtain ⟨_, ending', h_body, h_teardown⟩ := reaches_bind.mp h_scoped
    obtain ⟨r, h_request, rfl⟩ := reaches_map.mp h_body
    obtain ⟨_, teardown, -, -, rfl⟩ := reaches_bind.mp h_teardown
    -- the failure of the request is the response, whatever the teardown came to
    obtain ⟨f, rfl, hf⟩ := request_late clock h_late h_request
    exact evaluate_of_timeout s.expectation hf

/-- A scenario that has two seconds. Taking a port takes one more. -/
theorem late_startup_verdict_slow :
    let b : Bench := ⟨{ scenarioDeadlineSecs := 2 }, "mpe"⟩
    let s : Scenario := ⟨"s::a", "b.yml", .null, .errorContains [], some .server⟩
    ∃ past' v, World.slow.lending.Reaches [] (b.trial s .server) past' v ∧
      v.passed = false ∧ v.failure = some .timeout := by
  intro b s
  obtain ⟨past', v, h⟩ := Contract.exists_reaches World.slow.exists_lending (b.trial s .server)
  obtain ⟨start, port, startup, past₁, ⟨h_began, started, h_startup, h_started⟩, -, h_late, -⟩ :=
    b.late_startup_verdict World.slowClock s h
  have h_ready : startup = .ready := World.slow_startup h_started h_startup
  have h_three := h_started.isSuffix.length_le
  simp only [List.length_cons] at h_three
  have h_start : start = .ofSecs ([] : Past).length := h_began
  replace h_start : start.nanos = 0 := h_start ▸ Nat.zero_mul _
  refine ⟨past', v, h, (h_late ?_).mpr (.inl h_ready)⟩
  show start.nanos + 2 * 1000000000 ≤ past₁.length * 1000000000
  omega

/-- The engine sleeps for two seconds and then exits. The scenario has one second, and it passes. -/
theorem late_exit_accepted :
    let engine := Bytes.ofString "#!/bin/sh\nsleep 2\necho cycle >&2\nexit 1\n"
    let b : Bench := ⟨{ probeIntervalMs := 2500, scenarioDeadlineSecs := 1 }, "/engine"⟩
    let s : Scenario := ⟨"s::a", "b.yml", .null, .errorContains ["cycle"], some .server⟩
    let host := Host.initial ⟨[(["engine"], .file engine true)], ["work"]⟩ [] b.settings.ports
    let started := (Server.start b.server s.bundle b.settings.port).runWith Host.answer host
    let v := ((b.trial s .server).runWith Host.answer host).1
    b.settings.scenarioDeadline.nanos < started.2.now ∧ v.passed = true ∧ v.failure = none := by
  decide +kernel

end Bench

end PolicyTrial
