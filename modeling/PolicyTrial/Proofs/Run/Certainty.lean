import PolicyTrial.Proofs.Run.Coverage
import PolicyTrial.Proofs.Run.Places
import PolicyTrial.Run.Record

/-!
# What is certain of a run

A run is carried out in some monad, and much of what comes of it is beyond its control: what the
engine answers, which trial ends first. `Assurance` is a notion of what is certain all the same,
given by the conditions that always hold of a result. It has to respect the monad and nothing else,
so what is derived here holds of a single host as well as of all possible runs.

Let each scenario have some condition on its verdict. If it is certain of trials in isolation and of
the turns on a shared server (`Bench.Yields`), then it is certain of all verdicts of a run, each
against its own scenario, however the scenarios are planned and whichever server cannot be shared
(`Yields.verdicts`). What a run does besides, it does not touch the verdicts
(`Yields.record`).
-/

namespace PolicyTrial

/-- A notion of what is certain of the results of a monad. -/
structure Assurance (m : Type → Type) [Monad m] where
  /-- A condition always holds of what comes of a computation. -/
  Always : {α : Type} → m α → (α → Prop) → Prop
  pure : ∀ {α : Type} {P : α → Prop} {a : α}, P a → Always (Pure.pure a) P
  mono : ∀ {α : Type} {P Q : α → Prop} {f : m α}, Always f P → (∀ a, P a → Q a) → Always f Q
  bind : ∀ {α β : Type} {P : α → Prop} {Q : β → Prop} {f : m α} {g : α → m β},
    Always f P → (∀ a, P a → Always (g a) Q) → Always (f >>= g) Q

/-- An executor is fair if it brings every procedure to one of its ends, and of several procedures
gives the result of each once, in whatever order. What work on files comes to is left open. -/
structure Executor.Fair {m : Type → Type} [Monad m] (A : Assurance m) (x : Executor m) : Prop where
  alone : ∀ {α : Type} (p : Procedure α), A.Always (x.alone p) p.Ends
  several : ∀ {α : Type} (n : Nat) (tasks : List (Nat × Procedure α)), 0 < n →
    A.Always (x.several n tasks) (Tallies Procedure.Ends tasks)
  onFiles : ∀ {α : Type} (f : StateM FileTree α), A.Always (x.onFiles f) fun _ => True

/-- What is certain of the verdicts on a bench, scenario by scenario: `Q` holds of those of trials
in isolation, and of those of a shared server if there are any. -/
structure Bench.Yields {m : Type → Type} [Monad m] (A : Assurance m) (x : Executor m) (b : Bench)
    (Q : Scenario → Verdict → Prop) : Prop where
  trials : ∀ tasks : List Isolated,
    (∀ t ∈ tasks, t.channel = t.scenario.resolveChannel b.settings.channel) →
    A.Always (b.trials x tasks) (Tallies Q (tasks.map fun t => (t.index, t.scenario)))
  session : ∀ (bundle : String) (scenarios : List Placed),
    (∀ p ∈ scenarios, Placed.Shares b.settings.channel bundle p) →
    A.Always (x.alone (b.session bundle scenarios)) fun vs? =>
      ∀ vs, vs? = some vs → Tallies Q scenarios vs

namespace Bench.Yields

variable {m : Type → Type} [Monad m] {A : Assurance m} {x : Executor m} {b : Bench}
  {Q : Scenario → Verdict → Prop}

/-- A group has its verdicts, be they those of its server or those of isolation. -/
theorem groupVerdicts (h : b.Yields A x Q) (g : Group)
    (hg : ∀ p ∈ g.scenarios, Placed.Shares b.settings.channel g.bundle p) :
    A.Always (b.groupVerdicts x g) (Tallies Q g.scenarios) := by
  refine A.bind (h.session g.bundle g.scenarios hg) fun vs? hvs => ?_
  cases vs? with
  | some vs => exact A.pure (hvs vs rfl)
  | none =>
    -- the group falls back to trials in isolation, with the places it had
    have h_trials := h.trials (g.scenarios.map fun p => ⟨p.1, p.2, .server⟩) fun t ht => by
      obtain ⟨p, hp, rfl⟩ := List.mem_map.mp ht
      exact (hg p hp).1.symm
    rw [List.map_map] at h_trials
    have h_items : g.scenarios.map ((fun t : Isolated => (t.index, t.scenario)) ∘
        fun p => ⟨p.1, p.2, .server⟩) = g.scenarios := List.map_id _
    rwa [h_items] at h_trials

/-- One group after another, nothing is lost. -/
theorem allGroupVerdicts (h : b.Yields A x Q) (groups : List Group)
    (hg : ∀ g ∈ groups, ∀ p ∈ g.scenarios, Placed.Shares b.settings.channel g.bundle p) :
    A.Always (b.allGroupVerdicts x groups) (Tallies Q (groups.flatMap (·.scenarios))) := by
  induction groups with
  | nil => exact A.pure .nil
  | cons g rest ih =>
    rw [List.forall_mem_cons] at hg
    refine A.bind (h.groupVerdicts g hg.1) fun first h_first => ?_
    exact A.bind (ih hg.2) fun others h_others => A.pure (h_first.append h_others)

/-- The verdicts of a run stand against its scenarios one by one. -/
theorem verdicts (h : b.Yields A x Q) (scenarios : List Scenario) :
    A.Always (b.verdicts x scenarios) (List.Forall₂ Q scenarios) := by
  have h_plan := b.plan_covers scenarios
  -- isolated and shared verdicts stand for the plan, and the plan stands for the scenarios
  refine A.bind (h.trials _ h_plan.isolated) fun isolated h_isolated => ?_
  refine A.bind (h.allGroupVerdicts _ h_plan.shared) fun shared h_shared => ?_
  exact A.pure ((h_isolated.append h_shared).regroup h_plan.perm.symm).forall₂_inOrder

/-- A run comes to the report on its verdicts, whether it leaves artifacts or not, provided that the
executor gets to the end of what it does besides. -/
theorem record (h : b.Yields A x Q)
    (h_clock : A.Always (x.alone (Procedure.perform .clock)) fun _ => True)
    (h_files : ∀ {α : Type} (f : StateM FileTree α), A.Always (x.onFiles f) fun _ => True)
    (runId : String) (begins : Instant) (scenarios : List Scenario) :
    A.Always (b.record x runId begins scenarios) fun report =>
      ∃ ends verdicts, report = Report.ofVerdicts runId begins ends verdicts ∧
        List.Forall₂ Q scenarios verdicts := by
  have h_report : A.Always (b.report x runId begins scenarios) fun report =>
      ∃ ends verdicts, report = Report.ofVerdicts runId begins ends verdicts ∧
        List.Forall₂ Q scenarios verdicts := by
    refine A.bind h_clock fun start _ => ?_
    refine A.bind (h.verdicts scenarios) fun verdicts hv => ?_
    exact A.bind h_clock fun finish _ => A.pure ⟨_, verdicts, rfl, hv⟩
  refine A.bind h_report fun report hr => ?_
  cases b.settings.artifactsDir with
  | none => exact A.pure hr
  | some root => exact A.bind (h_files _) fun _ _ => A.pure hr

end Bench.Yields

end PolicyTrial
