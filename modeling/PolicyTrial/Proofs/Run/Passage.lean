import PolicyTrial.Proofs.Run.Certainty

/-!
# What a run passes through

`Passage σ` is the monad of computations on a state of which it is known where they may end, and
also where they may come through on the way there. The way counts even if there is no end to it, as
when a part of the computation crashes.

`Passage.throughout` is certainty of the whole way: an invariant holds between one part of a
computation and the next, and wherever the computation comes through it is safe. A run as a whole is
safe if its parts are (`Bench.record_always`), since it does nothing else.
-/

namespace PolicyTrial

/-- Where a computation on a state comes through, and where it ends and with what. -/
structure Passage (σ α : Type) where
  passes : σ → σ → Prop
  ends : σ → α → σ → Prop

namespace Passage

variable {σ : Type}

/-- A second computation is on its way once the first one has ended. -/
instance : Monad (Passage σ) where
  pure a := ⟨fun s s' => s' = s, fun s a' s' => a' = a ∧ s' = s⟩
  bind f g :=
    ⟨fun s s'' => f.passes s s'' ∨ ∃ a s', f.ends s a s' ∧ (g a).passes s' s'',
      fun s b s'' => ∃ a s', f.ends s a s' ∧ (g a).ends s' b s''⟩

/-- From every state that satisfies the invariant a computation comes through safe states only. If
it ends, then so that the condition holds of its result and the invariant of the state. -/
def throughout (invariant safe : σ → Prop) (h_safe : ∀ s, invariant s → safe s) :
    Assurance (Passage σ) where
  Always f P := ∀ s, invariant s →
    (∀ s', f.passes s s' → safe s') ∧ ∀ a s', f.ends s a s' → invariant s' ∧ P a
  pure ha s hs := by
    constructor
    · rintro _ rfl
      exact h_safe _ hs
    · rintro _ _ ⟨rfl, rfl⟩
      exact ⟨hs, ha⟩
  mono hf hP s hs := by
    obtain ⟨h_way, h_end⟩ := hf s hs
    exact ⟨h_way, fun a s' h => ⟨(h_end a s' h).1, hP a (h_end a s' h).2⟩⟩
  bind hf hg s hs := by
    obtain ⟨h_way, h_end⟩ := hf s hs
    constructor
    · rintro s'' (h | ⟨a, s', h, h'⟩)
      · exact h_way s'' h
      · obtain ⟨hs', ha⟩ := h_end a s' h
        exact (hg a ha s' hs').1 s'' h'
    · rintro b s'' ⟨a, s', h, h'⟩
      obtain ⟨hs', ha⟩ := h_end a s' h
      exact (hg a ha s' hs').2 b s'' h'

end Passage

namespace Bench

variable {m : Type → Type} [Monad m] {A : Assurance m} {x : Executor m} {b : Bench}

/-- What is certain of trials in isolation and of shared servers, whatever they come to, is certain
of groups. -/
theorem allGroupVerdicts_always
    (h_trials : ∀ tasks : List Isolated, A.Always (b.trials x tasks) fun _ => True)
    (h_session : ∀ (bundle : String) (scenarios : List Placed),
      A.Always (x.alone (b.session bundle scenarios)) fun _ => True) (groups : List Group) :
    A.Always (b.allGroupVerdicts x groups) fun _ => True := by
  induction groups with
  | nil => exact A.pure trivial
  | cons g rest ih =>
    have h_group : A.Always (b.groupVerdicts x g) fun _ => True := by
      refine A.bind (h_session g.bundle g.scenarios) fun verdicts? _ => ?_
      cases verdicts? with
      | some verdicts => exact A.pure trivial
      | none => exact h_trials _
    refine A.bind h_group fun first _ => ?_
    exact A.bind ih fun others _ => A.pure trivial

/-- A run consists of looks at the clock, trials in isolation, shared servers, and work on files. -/
theorem record_always
    (h_clock : A.Always (x.alone (Procedure.perform .clock)) fun _ => True)
    (h_trials : ∀ tasks : List Isolated, A.Always (b.trials x tasks) fun _ => True)
    (h_session : ∀ (bundle : String) (scenarios : List Placed),
      A.Always (x.alone (b.session bundle scenarios)) fun _ => True)
    (h_files : ∀ {α : Type} (f : StateM FileTree α), A.Always (x.onFiles f) fun _ => True)
    (runId : String) (begins : Instant) (scenarios : List Scenario) :
    A.Always (b.record x runId begins scenarios) fun _ => True := by
  have h_verdicts : A.Always (b.verdicts x scenarios) fun _ => True := by
    refine A.bind (h_trials _) fun isolated _ => ?_
    refine A.bind (allGroupVerdicts_always h_trials h_session _) fun shared _ => ?_
    exact A.pure trivial
  have h_report : A.Always (b.report x runId begins scenarios) fun _ => True := by
    refine A.bind h_clock fun start _ => ?_
    refine A.bind h_verdicts fun verdicts _ => ?_
    exact A.bind h_clock fun finish _ => A.pure trivial
  refine A.bind h_report fun report _ => ?_
  cases b.settings.artifactsDir with
  | none => exact A.pure trivial
  | some root => exact A.bind (h_files _) fun _ _ => A.pure trivial

end Bench

end PolicyTrial
