import PolicyTrial.Assessment
import PolicyTrial.Proofs.Text.Fragments

/-!
# What passes, and under which kind the rest fails

The judgement of a response is compared with two relations that say nothing about how it is reached:

* `Satisfies`: the responses that meet an expectation. A response that carries a successful answer
  meets it by its decision, one that carries an unsuccessful answer by its diagnostics, and a server
  that exited while it started by the reason of its failure.
* `FailsAs`: the kind under which any other response fails.

The arms of `evaluate` only choose between judging a decision (`assessDecision_judges`) and judging
diagnostics (`assessFailure_judges`). Each of the two lemmas is used in both directions: whatever
meets the expectation passes (`passed_of_satisfies`) and whatever fails, fails under its kind
(`failure_of_failsAs`), and there is nothing else (`evaluate_reflects`). `evaluate_iff` puts them
together.
-/

namespace PolicyTrial

/-- A response carries an answer, as it is or as what a failed process left behind. -/
inductive Response.Carries : Response → Answer → Prop
  | answered (a : Answer) : Carries (.ok a) a
  | failed (a : Answer) : Carries (.error (.process a)) a

namespace Expectation

/-- The decisions that an expectation is met by. -/
def MetByDecision : Expectation → Decision → Prop
  | .exactDecision o, d => d.outcome = o
  | .decisionAndNoDenyReferences o, d => d.outcome = o ∧ ∀ r ∈ d.references, r.outcome ≠ .deny
  | .notDecision o, d => d.outcome ≠ o
  | .denyOrErrorContains _, d => d.outcome = .deny
  | .errorContains _, _ => False

/-- The diagnostics that an expectation is met by: they hold every fragment. -/
def MetByDiagnostics (e : Expectation) (text : String) : Prop :=
  ∃ fs, (e = .errorContains fs ∨ e = .denyOrErrorContains fs) ∧ ∀ f ∈ fs, Holds text f

/-- Only the expectations that name fragments are met by diagnostics. -/
theorem MetByDiagnostics.acceptsProcessFailure {e : Expectation} {text : String}
    (h : e.MetByDiagnostics text) : e.acceptsProcessFailure = true := by
  obtain ⟨fs, rfl | rfl, -⟩ := h <;> rfl

theorem not_metByDiagnostics {e : Expectation} (he : e.acceptsProcessFailure = false)
    (text : String) : ¬ e.MetByDiagnostics text := by
  intro h
  rw [h.acceptsProcessFailure] at he
  cases he

/-- An expectation that names fragments is met by the diagnostics that hold them. -/
theorem metByDiagnostics_iff {e : Expectation} {fs : List String}
    (he : e = .errorContains fs ∨ e = .denyOrErrorContains fs) (text : String) :
    e.MetByDiagnostics text ↔ ∀ f ∈ fs, Holds text f := by
  refine ⟨?_, fun h => ⟨fs, he, h⟩⟩
  rintro ⟨gs, hg, h⟩
  rcases he with rfl | rfl
  all_goals
    simp only [Expectation.errorContains.injEq, Expectation.denyOrErrorContains.injEq,
      reduceCtorEq, false_or, or_false] at hg
    subst hg
    exact h

end Expectation

/-- The responses that meet an expectation. -/
inductive Satisfies (e : Expectation) : Response → Prop
  | decision {r : Response} {a : Answer} {d : Decision} (hr : r.Carries a)
      (hs : a.success = true) (hd : Decision.ofOutput a.stdout = .ok d) (he : e.MetByDecision d) :
      Satisfies e r
  | diagnostics {r : Response} {a : Answer} (hr : r.Carries a) (hs : a.success = false)
      (he : e.MetByDiagnostics (a.stderrText ++ "\n" ++ a.stdoutText)) : Satisfies e r
  | startup {baseUrl reason : String} (he : e.MetByDiagnostics reason) :
      Satisfies e (.error (.serverNotStarted baseUrl reason false))

/-- The kinds under which the other responses fail. -/
inductive FailsAs (e : Expectation) : Response → FailureKind → Prop
  | decision {r : Response} {a : Answer} {d : Decision} (hr : r.Carries a)
      (hs : a.success = true) (hd : Decision.ofOutput a.stdout = .ok d)
      (he : ¬ e.MetByDecision d) : FailsAs e r .expectationMismatch
  /-- No decision was wanted, so it does not matter why there is none. -/
  | succeeded {r : Response} {a : Answer} {f : Failure} (hr : r.Carries a)
      (hs : a.success = true) (hd : Decision.ofOutput a.stdout = .error f)
      (he : e.acceptsDecision = false) : FailsAs e r .expectationMismatch
  | undecided {r : Response} {a : Answer} {f : Failure} (hr : r.Carries a)
      (hs : a.success = true) (hd : Decision.ofOutput a.stdout = .error f)
      (he : e.acceptsDecision = true) : FailsAs e r f.kind
  | diagnostics {r : Response} {a : Answer} (hr : r.Carries a) (hs : a.success = false)
      (he : e.acceptsProcessFailure = true)
      (ht : ¬ e.MetByDiagnostics (a.stderrText ++ "\n" ++ a.stdoutText)) :
      FailsAs e r .expectationMismatch
  | process {r : Response} {a : Answer} (hr : r.Carries a) (hs : a.success = false)
      (he : e.acceptsProcessFailure = false) : FailsAs e r .processFailure
  | startup {baseUrl reason : String} (he : e.acceptsProcessFailure = true)
      (ht : ¬ e.MetByDiagnostics reason) :
      FailsAs e (.error (.serverNotStarted baseUrl reason false)) .expectationMismatch
  /-- Every other failure, a server that took too long or that no diagnostics can excuse
  included. -/
  | failure {f : Failure} (hp : ∀ a, f ≠ .process a)
      (hs : ∀ baseUrl reason, f = .serverNotStarted baseUrl reason false →
        e.acceptsProcessFailure = false) : FailsAs e (.error f) f.kind

/-! ### The three judgements that `evaluate` chooses between -/

/-- An assessment passes if a condition holds, and fails under a kind if it does not. -/
inductive Assessment.Judges (condition : Prop) (kind : FailureKind) : Assessment → Prop
  | pass (h : condition) (observed : Observed) (categories : List ErrorCategory) :
      Judges condition kind (.pass observed categories)
  | fail (h : ¬ condition) (observed : Observed) (explanation : String)
      (categories : List ErrorCategory) :
      Judges condition kind (.fail kind observed explanation categories)

/-- There is no denial among the references exactly if none of them denies. -/
theorem denials_isEmpty_iff (d : Decision) :
    d.denials.isEmpty = true ↔ ∀ r ∈ d.references, r.outcome ≠ .deny := by
  rw [Decision.denials, List.isEmpty_iff, List.filter_eq_nil_iff]
  simp only [beq_iff_eq]

/-- A decision has no mismatch exactly if the expectation is met by it. -/
theorem mismatch_eq_none_iff (e : Expectation) (d : Decision) :
    mismatch e d = none ↔ e.MetByDecision d := by
  cases e with
  | exactDecision o => by_cases h : d.outcome = o <;> simp [mismatch, Expectation.MetByDecision, h]
  | errorContains fs => simp [mismatch, Expectation.MetByDecision]
  | decisionAndNoDenyReferences o =>
    simp only [mismatch, Expectation.MetByDecision, ← denials_isEmpty_iff]
    by_cases h : d.outcome = o
    · by_cases hd : d.denials.isEmpty = true
      · simp [h, hd]
      · simp [h, hd]
    · simp [h]
  | notDecision o => by_cases h : d.outcome = o <;> simp [mismatch, Expectation.MetByDecision, h]
  | denyOrErrorContains fs =>
    by_cases h : d.outcome = .deny <;> simp [mismatch, Expectation.MetByDecision, h]

theorem assessDecision_judges (e : Expectation) (d : Decision) :
    (assessDecision e d).Judges (e.MetByDecision d) .expectationMismatch := by
  unfold assessDecision
  cases h : mismatch e d with
  | none => exact .pass ((mismatch_eq_none_iff e d).mp h) _ _
  | some explanation =>
    refine .fail (fun h_met => ?_) _ _ _
    rw [(mismatch_eq_none_iff e d).mpr h_met] at h
    cases h

/-- Fragments decide a failed run where the expectation names some. Where it names none, the run
fails as a failure of the process. -/
theorem assessFailure_judges (e : Expectation) (text how : String) :
    (assessFailure e text how).Judges (e.MetByDiagnostics text)
      (if e.acceptsProcessFailure then .expectationMismatch else .processFailure) := by
  have h_fragments : ∀ fs, e = .errorContains fs ∨ e = .denyOrErrorContains fs →
      ((matchFragments text fs).explain = none ↔ e.MetByDiagnostics text) := fun fs he =>
    (explain_matchFragments_eq_none_iff text fs).trans
      (Expectation.metByDiagnostics_iff he text).symm
  cases e with
  | errorContains fs | denyOrErrorContains fs =>
    simp only [assessFailure]
    specialize h_fragments fs (by simp)
    cases h : (matchFragments text fs).explain with
    | none => exact .pass (h_fragments.mp h) _ _
    | some explanation =>
      refine .fail (fun h_met => ?_) _ _ _
      rw [h_fragments.mpr h_met] at h
      cases h
  | exactDecision o | decisionAndNoDenyReferences o | notDecision o =>
    exact .fail (Expectation.not_metByDiagnostics rfl text) _ _ _

/-- The categories of a failed run are those of its diagnostics, whatever was expected. -/
theorem categories_assessFailure (e : Expectation) (text how : String) :
    (assessFailure e text how).categories = ErrorCategory.classify text := by
  unfold assessFailure
  cases e with
  | errorContains fs | denyOrErrorContains fs =>
    dsimp only
    split <;> rfl
  | exactDecision o | decisionAndNoDenyReferences o | notDecision o => rfl

namespace Assessment.Judges

variable {condition : Prop} {kind : FailureKind} {a : Assessment}

theorem passed (ha : a.Judges condition kind) (h : condition) : a.passed = true := by
  cases ha with
  | pass => rfl
  | fail hn => exact absurd h hn

theorem failure (ha : a.Judges condition kind) (h : ¬ condition) : a.failure = some kind := by
  cases ha with
  | pass hp => exact absurd hp h
  | fail => rfl

theorem passed_iff (ha : a.Judges condition kind) : a.passed = true ↔ condition := by
  cases ha with
  | pass h => exact iff_of_true rfl h
  | fail h => exact iff_of_false Bool.false_ne_true h

end Assessment.Judges

/-! ### How a response is judged -/

section Answers

variable (e : Expectation) {r : Response} {a : Answer}

theorem evaluate_of_carries (hr : r.Carries a) : evaluate e r = assessAnswer e a := by
  cases hr with
  | answered | failed => rfl

theorem evaluate_of_decision (hr : r.Carries a) (hs : a.success = true) {d : Decision}
    (hd : Decision.ofOutput a.stdout = .ok d) : evaluate e r = assessDecision e d := by
  replace hd : Decision.ofText a.stdoutText = .ok d := hd
  rw [evaluate_of_carries e hr, assessAnswer, if_pos hs, assessOutput, hd]

theorem evaluate_of_undecided (hr : r.Carries a) (hs : a.success = true) {f : Failure}
    (hd : Decision.ofOutput a.stdout = .error f) :
    evaluate e r =
      if e.acceptsDecision then .fail f.kind (.output a.stdoutText) f.message []
      else .fail .expectationMismatch (.output a.stdoutText)
        ("expected " ++ e.text ++ ", but the engine succeeded") [] := by
  replace hd : Decision.ofText a.stdoutText = .error f := hd
  rw [evaluate_of_carries e hr, assessAnswer, if_pos hs, assessOutput, hd]

theorem evaluate_of_unsuccessful (hr : r.Carries a) (hs : a.success = false) :
    evaluate e r = assessFailure e (a.stderrText ++ "\n" ++ a.stdoutText) a.status.text := by
  rw [evaluate_of_carries e hr, assessAnswer, if_neg (by rw [hs]; exact Bool.false_ne_true)]
  rfl

theorem evaluate_of_startup (he : e.acceptsProcessFailure = true) (baseUrl reason : String) :
    evaluate e (.error (.serverNotStarted baseUrl reason false)) =
      assessFailure e reason "a startup failure" := by
  rw [evaluate, he]
  rfl

/-- A failure without an answer is reported as it is, unless it is the exit of a starting server
whose diagnostics count. -/
theorem evaluate_of_failure {f : Failure} (hp : ∀ a, f ≠ .process a)
    (hs : ∀ baseUrl reason, f = .serverNotStarted baseUrl reason false →
      e.acceptsProcessFailure = false) :
    evaluate e (.error f) = .fail f.kind (.failure f.message) f.message [] := by
  cases f with
  | process a => exact absurd rfl (hp a)
  | serverNotStarted baseUrl reason timedOut =>
    cases timedOut with
    | true => rfl
    | false => rw [evaluate, hs baseUrl reason rfl]; rfl
  | _ => rfl

/-- A timeout is a timeout, whatever was expected. -/
theorem evaluate_of_timeout {f : Failure} (hf : f.kind = .timeout) :
    (evaluate e (.error f)).passed = false ∧ (evaluate e (.error f)).failure = some .timeout := by
  have h_process : ∀ a, f ≠ .process a := by
    rintro a rfl
    cases hf
  have h_startup : ∀ baseUrl reason, f = .serverNotStarted baseUrl reason false →
      e.acceptsProcessFailure = false := by
    rintro baseUrl reason rfl
    cases hf
  rw [evaluate_of_failure e h_process h_startup, hf]
  exact ⟨rfl, rfl⟩

end Answers

/-- An unsuccessful answer passes exactly if the expectation is met by its diagnostics. -/
theorem passed_iff_of_unsuccessful (e : Expectation) {r : Response} {a : Answer}
    (hr : r.Carries a) (hs : a.success = false) :
    (evaluate e r).passed = true ↔ e.MetByDiagnostics a.diagnostics := by
  rw [evaluate_of_unsuccessful e hr hs]
  exact (assessFailure_judges e _ _).passed_iff

/-- A response that meets the expectation passes. -/
theorem passed_of_satisfies {e : Expectation} {r : Response} (h : Satisfies e r) :
    (evaluate e r).passed = true := by
  cases h with
  | decision hr hs hd he =>
    rw [evaluate_of_decision e hr hs hd]
    exact (assessDecision_judges e _).passed he
  | diagnostics hr hs he =>
    rw [evaluate_of_unsuccessful e hr hs]
    exact (assessFailure_judges e _ _).passed he
  | startup he =>
    rw [evaluate_of_startup e he.acceptsProcessFailure]
    exact (assessFailure_judges e _ _).passed he

/-- A response that fails as some kind is reported under it. -/
theorem failure_of_failsAs {e : Expectation} {r : Response} {k : FailureKind}
    (h : FailsAs e r k) : (evaluate e r).failure = some k := by
  cases h with
  | decision hr hs hd he =>
    rw [evaluate_of_decision e hr hs hd]
    exact (assessDecision_judges e _).failure he
  | succeeded hr hs hd he =>
    rw [evaluate_of_undecided e hr hs hd, if_neg (by rw [he]; exact Bool.false_ne_true)]
    rfl
  | undecided hr hs hd he =>
    rw [evaluate_of_undecided e hr hs hd, if_pos he]
    rfl
  | diagnostics hr hs he ht =>
    rw [evaluate_of_unsuccessful e hr hs, (assessFailure_judges e _ _).failure ht, if_pos he]
  | process hr hs he =>
    rw [evaluate_of_unsuccessful e hr hs,
      (assessFailure_judges e _ _).failure (Expectation.not_metByDiagnostics he _), he]
    rfl
  | startup he ht =>
    rw [evaluate_of_startup e he, (assessFailure_judges e _ _).failure ht, if_pos he]
  | failure hp hs =>
    rw [evaluate_of_failure e hp hs]
    rfl

/-! ### Nothing is left over -/

/-- An assessment passes because the response meets the expectation, or fails as a kind as which the
response fails, and then says why. -/
inductive Assessment.Reflects (e : Expectation) (r : Response) : Assessment → Prop
  | pass (h : Satisfies e r) (observed : Observed) (categories : List ErrorCategory) :
      Reflects e r (.pass observed categories)
  | fail {kind : FailureKind} (h : FailsAs e r kind) (observed : Observed) (explanation : String)
      (categories : List ErrorCategory) :
      Reflects e r (.fail kind observed explanation categories)

theorem Assessment.Judges.reflects {condition : Prop} {kind : FailureKind} {a : Assessment}
    {e : Expectation} {r : Response} (ha : a.Judges condition kind)
    (hp : condition → Satisfies e r) (hf : ¬ condition → FailsAs e r kind) : a.Reflects e r := by
  cases ha with
  | pass h => exact .pass (hp h) _ _
  | fail h => exact .fail (hf h) _ _ _

theorem evaluate_reflects_of_carries (e : Expectation) {r : Response} {a : Answer}
    (hr : r.Carries a) : (evaluate e r).Reflects e r := by
  cases hs : a.success with
  | true =>
    cases hd : Decision.ofOutput a.stdout with
    | ok d =>
      rw [evaluate_of_decision e hr hs hd]
      exact (assessDecision_judges e d).reflects (.decision hr hs hd) (.decision hr hs hd)
    | error f =>
      rw [evaluate_of_undecided e hr hs hd]
      cases he : e.acceptsDecision with
      | true => exact .fail (.undecided hr hs hd he) _ _ _
      | false => exact .fail (.succeeded hr hs hd he) _ _ _
  | false =>
    rw [evaluate_of_unsuccessful e hr hs]
    refine (assessFailure_judges e _ _).reflects (.diagnostics hr hs) (fun ht => ?_)
    cases he : e.acceptsProcessFailure with
    | true => exact .diagnostics hr hs he ht
    | false => exact .process hr hs he

theorem evaluate_reflects (e : Expectation) (r : Response) : (evaluate e r).Reflects e r := by
  -- Whatever carries no answer and is no excusable exit is reported as it is.
  have h_failure : ∀ f : Failure, (∀ a, f ≠ .process a) →
      (∀ baseUrl reason, f = .serverNotStarted baseUrl reason false →
        e.acceptsProcessFailure = false) → (evaluate e (.error f)).Reflects e (.error f) := by
    intro f hp hs
    rw [evaluate_of_failure e hp hs]
    exact .fail (.failure hp hs) _ _ _
  cases r with
  | ok a => exact evaluate_reflects_of_carries e (.answered a)
  | error f =>
    cases f with
    | process a => exact evaluate_reflects_of_carries e (.failed a)
    | serverNotStarted baseUrl reason timedOut =>
      cases timedOut with
      | true => exact h_failure _ (by simp) (by simp)
      | false =>
        cases he : e.acceptsProcessFailure with
        | false => exact h_failure _ (by simp) (fun _ _ _ => he)
        | true =>
          rw [evaluate_of_startup e he]
          refine (assessFailure_judges e _ _).reflects .startup (fun ht => ?_)
          rw [he]
          exact .startup he ht
    | _ => exact h_failure _ (by simp) (by simp)

/-- **The judgement of a response.** A response passes exactly if it meets the expectation, it has
neither a failure nor an explanation exactly if it passes, and it is reported under a kind exactly
if it fails as that kind. -/
theorem evaluate_iff (e : Expectation) (r : Response) :
    ((evaluate e r).passed = true ↔ Satisfies e r) ∧
    ((evaluate e r).failure = none ↔ (evaluate e r).passed = true) ∧
    ((evaluate e r).explanation = none ↔ (evaluate e r).passed = true) ∧
    ∀ k, (evaluate e r).failure = some k ↔ FailsAs e r k := by
  have h := evaluate_reflects e r
  have hp := @passed_of_satisfies e r
  have hk := @failure_of_failsAs e r
  generalize evaluate e r = a at h hp hk ⊢
  cases h with
  | pass hs observed categories =>
    refine ⟨⟨fun _ => hs, hp⟩, ?_, ?_, fun k => ⟨fun h => ?_, hk⟩⟩
    · simp [Assessment.pass]
    · simp [Assessment.pass]
    · cases h
  | fail hf observed explanation categories =>
    refine ⟨⟨fun h => ?_, hp⟩, ?_, ?_, fun k => ⟨fun h => ?_, hk⟩⟩
    · cases h
    · simp [Assessment.fail]
    · simp [Assessment.fail]
    · cases h
      exact hf

end PolicyTrial
