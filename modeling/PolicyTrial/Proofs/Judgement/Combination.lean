import PolicyTrial.Proofs.Judgement.Evaluation
import PolicyTrial.Verdict

/-!
# How expectations combine

Expectations ask for their answers under a strict or a lenient reading, as they need it. The reading
makes no difference to the verdict (`ofResponse_eq_of_carries`), so expectations can be compared
with each other on one and the same answer. `Answer.Meets` says what it takes to meet one; from it
follow the laws that the names of the expectations promise (`expectations_combine`):

* to deny or to fail with fragments is to deny, or to fail with fragments;
* any decision but one is the other one;
* a decision without references that deny is that decision;
* fragments can be asked for together or one list after the other;
* what fails as wanted does not decide.
-/

namespace PolicyTrial

/-- A scenario with another expectation. -/
def Scenario.expecting (s : Scenario) (e : Expectation) : Scenario := { s with expectation := e }

/-- An answer meets an expectation: by its decision if it is successful, and by its diagnostics if
it is not. -/
def Answer.Meets (a : Answer) (e : Expectation) : Prop :=
  if a.success then ∃ d, Decision.ofOutput a.stdout = .ok d ∧ e.MetByDecision d
  else e.MetByDiagnostics a.diagnostics

namespace Verdict

variable (s : Scenario) (channel : Channel) (a : Answer) (elapsed : Duration)

/-- The verdict on an answer for an expectation, under the reading that the expectation asks for. -/
def onAnswer (e : Expectation) : Verdict :=
  ofResponse (s.expecting e) channel (e.strictness.apply a) elapsed

/-- Under either reading a response carries the answer. -/
theorem carries_apply (strictness : Strictness) : Response.Carries (strictness.apply a) a := by
  cases strictness with
  | lenient => exact .answered a
  | strict =>
    show Response.Carries (if a.success then .ok a else .error (.process a)) a
    by_cases hs : a.success = true
    · rw [if_pos hs]
      exact .answered a
    · rw [if_neg hs]
      exact .failed a

/-- A verdict depends on the answer that a response carries, and not on how the response carries it.
-/
theorem ofResponse_eq_of_carries {r r' : Response} {a : Answer} (hr : r.Carries a)
    (hr' : r'.Carries a) : ofResponse s channel r elapsed = ofResponse s channel r' elapsed := by
  have h_judged : evaluate s.expectation r = evaluate s.expectation r' := by
    rw [evaluate_of_carries _ hr, evaluate_of_carries _ hr']
  have h_answer : ∀ {r : Response}, r.Carries a → r.answer? = some a := by
    intro r hr
    cases hr with
    | answered | failed => rfl
  unfold ofResponse
  rw [h_judged, h_answer hr, h_answer hr']

/-- A response passes exactly if the answer that it carries meets the expectation. -/
theorem passed_iff_meets (e : Expectation) {r : Response} {a : Answer} (hr : r.Carries a) :
    (evaluate e r).passed = true ↔ a.Meets e := by
  unfold Answer.Meets
  cases hs : a.success with
  | false =>
    rw [if_neg Bool.false_ne_true]
    exact passed_iff_of_unsuccessful e hr hs
  | true =>
    rw [if_pos rfl]
    cases hd : Decision.ofOutput a.stdout with
    | ok d =>
      rw [evaluate_of_decision e hr hs hd, (assessDecision_judges e d).passed_iff]
      constructor
      · exact fun he => ⟨d, rfl, he⟩
      · rintro ⟨d', h_eq, he⟩
        cases h_eq
        exact he
    | error f =>
      -- an output that is no decision never passes, whatever it is reported as
      rw [evaluate_of_undecided e hr hs hd]
      refine iff_of_false ?_ fun ⟨d, h_eq, _⟩ => by cases h_eq
      split <;> exact Bool.false_ne_true

theorem passed_onAnswer_iff (e : Expectation) :
    (onAnswer s channel a elapsed e).passed = true ↔ a.Meets e :=
  passed_iff_meets e (carries_apply a e.strictness)

end Verdict

/-! ### What it takes to meet two expectations -/

namespace Answer

variable (a : Answer)

theorem meets_of_success (hs : a.success = true) (e : Expectation) :
    a.Meets e ↔ ∃ d, Decision.ofOutput a.stdout = .ok d ∧ e.MetByDecision d := by
  rw [Meets, if_pos hs]

theorem meets_of_failure (hs : ¬ a.success = true) (e : Expectation) :
    a.Meets e ↔ e.MetByDiagnostics a.diagnostics := by
  rw [Meets, if_neg hs]

/-- An expectation of fragments is met by unsuccessful answers only, and by those that hold all
fragments. -/
theorem meets_errorContains_iff (fs : List String) :
    a.Meets (.errorContains fs) ↔ a.success = false ∧ ∀ f ∈ fs, Holds a.diagnostics f := by
  by_cases hs : a.success = true
  · rw [a.meets_of_success hs, hs]
    -- no decision is what was wanted
    refine iff_of_false ?_ fun h => by cases h.1
    rintro ⟨d, -, h_met⟩
    exact h_met
  · rw [a.meets_of_failure hs, Expectation.metByDiagnostics_iff (.inl rfl)]
    exact (and_iff_right (Bool.eq_false_iff.mpr hs)).symm

/-- An expectation that names no fragment is met by successful answers only. -/
theorem meets_decision_iff {e : Expectation} (he : e.acceptsProcessFailure = false) :
    a.Meets e ↔
      a.success = true ∧ ∃ d, Decision.ofOutput a.stdout = .ok d ∧ e.MetByDecision d := by
  by_cases hs : a.success = true
  · rw [a.meets_of_success hs, and_iff_right hs]
  · rw [a.meets_of_failure hs]
    exact iff_of_false (Expectation.not_metByDiagnostics he _) fun h => hs h.1

theorem meets_denyOrErrorContains_iff (fs : List String) :
    a.Meets (.denyOrErrorContains fs) ↔
      a.Meets (.errorContains fs) ∨ a.Meets (.exactDecision .deny) := by
  by_cases hs : a.success = true
  · -- a denial is what either of the two expectations is met by
    have h_not_failed : ¬ a.Meets (.errorContains fs) := by
      rw [a.meets_of_success hs]
      rintro ⟨d, -, h_met⟩
      exact h_met
    rw [or_iff_right h_not_failed, a.meets_of_success hs, a.meets_of_success hs]
    exact Iff.rfl
  · have h_not_denied : ¬ a.Meets (.exactDecision .deny) := by
      rw [a.meets_decision_iff rfl]
      exact fun h => hs h.1
    rw [or_iff_left h_not_denied, a.meets_of_failure hs, a.meets_of_failure hs,
      Expectation.metByDiagnostics_iff (.inr rfl), Expectation.metByDiagnostics_iff (.inl rfl)]

/-- There are two outcomes, so whatever is not the one is the other. -/
theorem ne_iff_eq_other (o o' : Outcome) : o' ≠ o ↔ o' = o.other := by
  cases o <;> cases o' <;> decide

theorem meets_notDecision_iff (o : Outcome) :
    a.Meets (.notDecision o) ↔ a.Meets (.exactDecision o.other) := by
  rw [a.meets_decision_iff rfl, a.meets_decision_iff rfl]
  refine and_congr_right' (exists_congr fun d => and_congr_right' ?_)
  exact ne_iff_eq_other o d.outcome

theorem Meets.exactDecision {a : Answer} {o : Outcome}
    (h : a.Meets (.decisionAndNoDenyReferences o)) : a.Meets (.exactDecision o) := by
  rw [a.meets_decision_iff rfl] at h ⊢
  obtain ⟨hs, d, hd, h_outcome, -⟩ := h
  exact ⟨hs, d, hd, h_outcome⟩

theorem meets_errorContains_append_iff (fs gs : List String) :
    a.Meets (.errorContains (fs ++ gs)) ↔
      a.Meets (.errorContains fs) ∧ a.Meets (.errorContains gs) := by
  rw [a.meets_errorContains_iff, a.meets_errorContains_iff, a.meets_errorContains_iff,
    List.forall_mem_append]
  exact and_and_left

/-- What fails as wanted does not decide. -/
theorem Meets.not_decision {a : Answer} {fs : List String} (h : a.Meets (.errorContains fs))
    {e : Expectation} (he : e.acceptsProcessFailure = false) : ¬ a.Meets e := by
  intro h_decision
  have h_failed := ((a.meets_errorContains_iff fs).mp h).1
  have h_succeeded := ((a.meets_decision_iff he).mp h_decision).1
  rw [h_failed] at h_succeeded
  cases h_succeeded

end Answer

namespace Verdict

/-- **Expectations combine as their names say.** On any answer the verdict is the same under a
strict and under a lenient reading. So let each expectation be tried on one answer under the reading
that it asks for. To deny or fail with fragments passes if one of the two passes, any decision but
one passes if the other one does, a decision without denials among its references passes only if
that decision does, two lists of fragments pass together if each does, and where fragments pass no
decision does. -/
theorem expectations_combine (s : Scenario) (channel : Channel) (a : Answer) (elapsed : Duration) :
    let passes (e : Expectation) : Bool := (onAnswer s channel a elapsed e).passed
    ofResponse s channel (Strictness.strict.apply a) elapsed =
        ofResponse s channel (Strictness.lenient.apply a) elapsed ∧
      (∀ fs, passes (.denyOrErrorContains fs) =
        (passes (.errorContains fs) || passes (.exactDecision .deny))) ∧
      (∀ o, passes (.notDecision o) = passes (.exactDecision o.other)) ∧
      (∀ o, passes (.decisionAndNoDenyReferences o) = true → passes (.exactDecision o) = true) ∧
      (∀ fs gs, passes (.errorContains (fs ++ gs)) =
        (passes (.errorContains fs) && passes (.errorContains gs))) ∧
      ∀ fs, passes (.errorContains fs) = true → ∀ o, passes (.exactDecision o) = false ∧
        passes (.notDecision o) = false ∧ passes (.decisionAndNoDenyReferences o) = false := by
  intro passes
  have h_passes : ∀ e, passes e = true ↔ a.Meets e := passed_onAnswer_iff s channel a elapsed
  refine ⟨?_, fun fs => ?_, fun o => ?_, fun o h => ?_, fun fs gs => ?_, fun fs h o => ?_⟩
  · exact ofResponse_eq_of_carries s channel elapsed (carries_apply a .strict)
      (carries_apply a .lenient)
  · rw [Bool.eq_iff_iff, Bool.or_eq_true, h_passes, h_passes, h_passes]
    exact a.meets_denyOrErrorContains_iff fs
  · rw [Bool.eq_iff_iff, h_passes, h_passes]
    exact a.meets_notDecision_iff o
  · rw [h_passes] at h ⊢
    exact h.exactDecision
  · rw [Bool.eq_iff_iff, Bool.and_eq_true, h_passes, h_passes, h_passes]
    exact a.meets_errorContains_append_iff fs gs
  · have h_fails : ∀ e : Expectation, e.acceptsProcessFailure = false → passes e = false := by
      intro e he
      rw [Bool.eq_false_iff, ne_eq, h_passes]
      exact ((h_passes _).mp h).not_decision he
    exact ⟨h_fails _ rfl, h_fails _ rfl, h_fails _ rfl⟩

/-- A process fails with a cycle, and a server grants but refers to a policy that denies. -/
theorem expectations_combine_cases :
    let s : Scenario := ⟨"suite::case", "bundle.yml", .null, .exactDecision .grant, none⟩
    let failed : Answer := ⟨.exit (some 1), [], Bytes.ofString "Reference cycle", ⟨3⟩⟩
    let granted : Answer := ⟨.http 200, Bytes.ofString
      "\x7b\"decision\": \"GRANT\", \"references\": [\x7b\"decision\": \"DENY\"\x7d]\x7d", [], ⟨5⟩⟩
    (onAnswer s .cli failed ⟨4⟩ (.errorContains ["cycle", "reference"])).passed = true ∧
      (onAnswer s .cli failed ⟨4⟩ (.decisionAndNoDenyReferences .grant)).passed = false ∧
      (onAnswer s .server granted ⟨6⟩ (.exactDecision .grant)).passed = true ∧
      (onAnswer s .server granted ⟨6⟩ (.notDecision .deny)).passed = true ∧
      (onAnswer s .server granted ⟨6⟩ (.decisionAndNoDenyReferences .grant)).passed = false := by
  intro s failed granted
  have h_failed : (onAnswer s .cli failed ⟨4⟩ (.errorContains (["cycle"] ++ ["reference"]))).passed
      = true := by
    decide +kernel
  have h_granted : (onAnswer s .server granted ⟨6⟩ (.exactDecision .grant)).passed = true := by
    decide +kernel
  obtain ⟨-, -, -, -, -, h_excludes⟩ := expectations_combine s .cli failed ⟨4⟩
  obtain ⟨-, -, h_not, -, -, -⟩ := expectations_combine s .server granted ⟨6⟩
  refine ⟨h_failed, (h_excludes _ h_failed .grant).2.2, h_granted, ?_, by decide +kernel⟩
  exact (h_not .deny).trans h_granted

end Verdict

end PolicyTrial
