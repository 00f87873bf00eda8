import PolicyTrial.Proofs.Host.Fairness
import PolicyTrial.Proofs.Run.Sharing
import PolicyTrial.Proofs.ValidSettings
import PolicyTrial.Registry

/-!
# A report is complete

A report has one verdict for each scenario, in the order of the registry. The executor is only taken
to be fair: it may answer every action as it likes, so engines may fail to start, run late, or
answer the same question in two ways, and it may let the trials in isolation end in any order.

`Bench.Tried` ties a verdict to its scenario more tightly than by an id: the verdict comes of a
trial of that scenario. It is certain of the trials in isolation by fairness, and of a shared server
by `session_ensures`, where the contract promises nothing (`yields_tried`). Places then do the rest.
-/

namespace PolicyTrial

open Contract (ensures_anything)

namespace Bench

variable {b : Bench} {s : Scenario} {v : Verdict}

/-- A verdict comes of a trial of the scenario itself, be it on its own or, if the scenario goes to
a server, as a turn on a shared one. -/
inductive Tried (b : Bench) (s : Scenario) : Verdict → Prop
  | isolated {v : Verdict} (h : (b.trial s (s.resolveChannel b.settings.channel)).Ends v) :
      Tried b s v
  | shared {v : Verdict} {client : Client}
      (h_server : s.resolveChannel b.settings.channel = .server) (h : (b.turn client s).Ends v) :
      Tried b s v

/-- Whatever a trial meets with, its verdict is on its own scenario over the resolved channel. -/
theorem Tried.eq_ofResponse (h : b.Tried s v) : ∃ response elapsed,
    v = .ofResponse s (s.resolveChannel b.settings.channel) response elapsed := by
  cases h with
  | isolated h =>
    cases h_channel : s.resolveChannel b.settings.channel with
    | cli =>
      rw [h_channel, trial_cli_eq] at h
      exact eq_ofResponse_of_timed_ends h
    | server =>
      rw [h_channel, trial_server_eq] at h
      exact eq_ofResponse_of_timed_ends h
  | @shared client h_server h =>
    rw [turn_eq] at h
    rw [h_server]
    exact eq_ofResponse_of_timed_ends h

/-- Under a fair executor every verdict comes of a trial of its scenario. -/
theorem yields_tried {m : Type → Type} [Monad m] {A : Assurance m} {x : Executor m} (hx : x.Fair A)
    (h_jobs : 0 < b.settings.jobs) : b.Yields A x b.Tried where
  trials tasks h_channel := by
    refine A.mono (hx.several _ _ h_jobs) fun results h => h.imp ?_
    rw [List.forall₂_map_left_iff, List.forall₂_map_right_iff]
    refine List.forall₂_same.mpr fun t ht => ⟨rfl, fun v hv => .isolated ?_⟩
    rwa [← h_channel t ht]
  session bundle scenarios h_shares := by
    -- nothing is known of the server, so there is nothing that the turns would have to keep
    have h_session : Contract.anything.Ensures [] (b.session bundle scenarios) fun _ vs? =>
        True ∧ ∀ vs, vs? = some vs → Tallies b.Tried scenarios vs := by
      refine session_ensures (fun _ _ => True) (fun _ => True) bundle scenarios trivial
        ((ensures_anything _).mono fun _ _ _ => ⟨fun _ _ => trivial, fun _ _ => trivial⟩)
        (fun _ _ _ _ => ensures_anything _) (fun client p hp past _ => ?_)
        fun _ _ _ => ensures_anything _
      refine (Contract.ensures_anything_iff past).mpr fun v hv => ⟨trivial, ?_⟩
      exact .shared (h_shares p hp).1 hv
    exact A.mono (hx.alone _) fun vs? h => ((Contract.ensures_anything_iff []).mp h_session vs? h).2

end Bench

/-! ### The accounts of a report -/

/-- A verdict is the one on a scenario. -/
structure Verdict.IsOn (b : Bench) (s : Scenario) (v : Verdict) : Prop where
  tried : b.Tried s v
  scenarioId : v.scenarioId = s.id
  expectation : v.expectation = s.expectation
  channel : v.channel = s.resolveChannel b.settings.channel

/-- A report has one verdict for each scenario, in order, and its counts are those of the
verdicts. -/
structure Report.IsComplete (b : Bench) (scenarios : List Scenario) (r : Report) : Prop where
  verdicts : List.Forall₂ (Verdict.IsOn b) scenarios r.verdicts
  passed : r.passed = r.verdicts.countP (·.passed)
  total : r.passed + r.failed = scenarios.length
  allPassed_iff : r.allPassed = true ↔ ∀ v ∈ r.verdicts, v.passed = true

theorem Bench.Tried.isOn {b : Bench} {s : Scenario} {v : Verdict} (h : b.Tried s v) :
    v.IsOn b s := by
  obtain ⟨response, elapsed, h_eq⟩ := h.eq_ofResponse
  exact ⟨h, by rw [h_eq]; rfl, by rw [h_eq]; rfl, by rw [h_eq]; rfl⟩

theorem Report.IsComplete.ofVerdicts {b : Bench} {scenarios : List Scenario}
    {verdicts : List Verdict} (runId : String) (begins ends : Instant)
    (h : List.Forall₂ b.Tried scenarios verdicts) :
    (Report.ofVerdicts runId begins ends verdicts).IsComplete b scenarios := by
  have h_passed : (verdicts.filter (·.passed)).length = verdicts.countP (·.passed) :=
    List.countP_eq_length_filter.symm
  have h_le : verdicts.countP (·.passed) ≤ verdicts.length := List.countP_le_length
  have h_all : verdicts.countP (·.passed) = verdicts.length ↔ ∀ v ∈ verdicts, v.passed = true :=
    List.countP_eq_length
  refine ⟨h.imp fun _ _ => Bench.Tried.isOn, h_passed, ?_, ?_⟩
  · rw [h.length_eq]
    show (verdicts.filter (·.passed)).length +
      (verdicts.length - (verdicts.filter (·.passed)).length) = verdicts.length
    omega
  · rw [Report.allPassed, beq_iff_eq]
    show verdicts.length - (verdicts.filter (·.passed)).length = 0 ↔
      ∀ v ∈ verdicts, v.passed = true
    rw [h_passed, ← h_all]
    omega

/-- Under any notion of certainty, a fair executor is certain of a complete report. -/
theorem Bench.complete_of_fair {m : Type → Type} [Monad m] {A : Assurance m} {x : Executor m}
    (hx : x.Fair A) {build : Build} {b : Bench} (hb : b.settings.validate build = .ok ())
    (runId : String) (begins : Instant) (scenarios : List Scenario) :
    A.Always (b.record x runId begins scenarios) (Report.IsComplete b scenarios) := by
  have h_record := (yields_tried hx (Settings.validate_eq_ok_iff.mp hb).jobs).record
    (A.mono (hx.alone _) fun _ _ => trivial) hx.onFiles runId begins scenarios
  refine A.mono h_record ?_
  rintro report ⟨ends, verdicts, rfl, h⟩
  exact .ofVerdicts runId begins ends h

/-- The host comes to a complete report, whatever is on it. -/
theorem Host.record_isComplete {build : Build} {b : Bench}
    (hb : b.settings.validate build = .ok ()) (runId : String) (begins : Instant)
    (scenarios : List Scenario) (h : Host) :
    ((b.record executor runId begins scenarios).run h).1.IsComplete b scenarios :=
  Bench.complete_of_fair executor_fair hb runId begins scenarios h

/-- **Every run comes to a complete report.** Let the settings be valid, and let the executor be
fair, whichever of all possible runs it lets happen. Then there is a report, and any report has
exactly one verdict for each scenario of the registry, in order and on that scenario. -/
theorem Bench.record_complete {σ : Type} {x : Executor (Possible σ)}
    (hx : x.Fair Possible.everywhere) (b : Bench) {build : Build}
    (hb : b.settings.validate build = .ok ()) (runId : String) (begins : Instant)
    (registry : Registry) (s : σ) :
    (∃ report s', b.record x runId begins registry.scenarios s report s') ∧
    ∀ report s', b.record x runId begins registry.scenarios s report s' →
      report.IsComplete b registry.scenarios :=
  Possible.always_everywhere_iff.mp (complete_of_fair hx hb runId begins registry.scenarios) s

/-- On a bare host no engine can be started. Two of the scenarios would share a server and are tried
on their own instead. -/
theorem Bench.record_complete_bare :
    let b : Bench := ⟨{ serverScope := .session, jobs := 2 }, "mpe"⟩
    let registry : Registry := ⟨[⟨"s::a", "x.yml", .null, .errorContains ["denied"], some .server⟩,
      ⟨"s::b", "y.yml", .null, .exactDecision .deny, none⟩,
      ⟨"s::c", "x.yml/", .null, .notDecision .grant, some .server⟩], by decide⟩
    let x := Host.executor.relational
    let host := Host.initial .empty [] b.settings.ports
    x.Fair Possible.everywhere ∧ b.settings.validate .checked = .ok () ∧
      (∃ report host', b.record x "run" ⟨0, 0⟩ registry.scenarios host report host') ∧
      ∀ report host', b.record x "run" ⟨0, 0⟩ registry.scenarios host report host' →
        report.IsComplete b registry.scenarios := by
  intro b registry x host
  have h_fair : x.Fair Possible.everywhere := Host.executor_fair.relational
  have h_valid : b.settings.validate .checked = .ok () := by decide
  exact ⟨h_fair, h_valid, record_complete h_fair b h_valid "run" ⟨0, 0⟩ registry host⟩

end PolicyTrial
