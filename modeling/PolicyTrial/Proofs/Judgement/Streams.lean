import PolicyTrial.Proofs.Judgement.Evaluation
import PolicyTrial.Proofs.Text.NewLine

/-!
# Where an engine writes does not matter

An engine may answer as a process or as a server, and may report an error on its error stream, in
its output or in the body of an HTTP answer. None of this changes the judgement
(`streams_interchangeable`):

* A successful answer is judged by its output alone, whatever its status, its error stream and the
  time that it took (`evaluate_eq_of_successful`).
* An unsuccessful answer is judged alike if its two streams change places. The diagnostics have one
  stream behind the other with a new line in between, so a fragment within one line is held by them
  exactly if one of the streams holds it (`holds_combined_iff`), and it does not matter which one.
  The fragments of the categories all are within one line.

What is observed and how a mismatch is explained may differ for unsuccessful answers, since they
quote the diagnostics as they are.
-/

namespace PolicyTrial

/-- The fragments that an expectation names. -/
def Expectation.fragments : Expectation → List String
  | .errorContains fs | .denyOrErrorContains fs => fs
  | .exactDecision _ | .decisionAndNoDenyReferences _ | .notDecision _ => []

/-- Two answers whose two streams have the same texts, be they in the same places or exchanged. -/
def Answer.SameStreams (a b : Answer) : Prop :=
  (b.stderrText = a.stderrText ∧ b.stdoutText = a.stdoutText) ∨
    (b.stderrText = a.stdoutText ∧ b.stdoutText = a.stderrText)

/-! ### Successful answers -/

/-- The output of a successful answer is all that is judged of it. -/
theorem evaluate_eq_of_successful (e : Expectation) {r r' : Response} {a b : Answer}
    (hr : r.Carries a) (hr' : r'.Carries b) (hs : a.success = true) (hs' : b.success = true)
    (h_output : a.stdoutText = b.stdoutText) : evaluate e r = evaluate e r' := by
  rw [evaluate_of_carries e hr, evaluate_of_carries e hr', assessAnswer, assessAnswer, if_pos hs,
    if_pos hs', h_output]

/-! ### Unsuccessful answers -/

/-- A fragment within one line is held by the diagnostics exactly if one of the streams holds it. -/
theorem holds_combined_iff {fragment : String} (h_line : '\n' ∉ fragment.toList)
    (stderr stdout : String) :
    Holds (combined stderr stdout) fragment ↔ Holds stderr fragment ∨ Holds stdout fragment := by
  have h_not_across : ¬ Crosses stderr stdout fragment := fun h => h_line h.newLine_mem
  rw [combined, holds_line_iff, or_iff_left h_not_across]

/-- Such a fragment does not tell which stream comes first. -/
theorem holds_combined_comm {fragment : String} (h_line : '\n' ∉ fragment.toList)
    (stderr stdout : String) :
    Holds (combined stderr stdout) fragment ↔ Holds (combined stdout stderr) fragment := by
  rw [holds_combined_iff h_line, holds_combined_iff h_line, or_comm]

/-- The fragments of categories are within one line. -/
theorem newLine_notMem_fragments (c : ErrorCategory) : ∀ f ∈ c.fragments, '\n' ∉ f.toList := by
  cases c with
  | malformedSyntax | ruleCompilation | unresolvedReference | referenceCycle | missingBundle =>
    decide

theorem classify_combined_comm (stderr stdout : String) :
    ErrorCategory.classify (combined stderr stdout) =
      ErrorCategory.classify (combined stdout stderr) := by
  -- a category is recognized by its fragments, one after another
  refine ErrorCategory.classify_congr fun c f hf => ?_
  exact holds_combined_comm (newLine_notMem_fragments c f hf) stderr stdout

theorem metByDiagnostics_combined_comm {e : Expectation}
    (h_lines : ∀ f ∈ e.fragments, '\n' ∉ f.toList) (stderr stdout : String) :
    e.MetByDiagnostics (combined stderr stdout) ↔ e.MetByDiagnostics (combined stdout stderr) := by
  cases e with
  | errorContains fs =>
    rw [Expectation.metByDiagnostics_iff (.inl rfl), Expectation.metByDiagnostics_iff (.inl rfl)]
    exact forall₂_congr fun f hf => holds_combined_comm (h_lines f hf) stderr stdout
  | denyOrErrorContains fs =>
    rw [Expectation.metByDiagnostics_iff (.inr rfl), Expectation.metByDiagnostics_iff (.inr rfl)]
    exact forall₂_congr fun f hf => holds_combined_comm (h_lines f hf) stderr stdout
  | exactDecision o | decisionAndNoDenyReferences o | notDecision o =>
    -- no diagnostics meet an expectation of a decision
    exact iff_of_false (Expectation.not_metByDiagnostics rfl _)
      (Expectation.not_metByDiagnostics rfl _)

/-- What judges equivalent conditions under one kind comes to the same. -/
theorem Assessment.Judges.congr {p q : Prop} {kind : FailureKind} {x y : Assessment}
    (hx : x.Judges p kind) (hy : y.Judges q kind) (h : p ↔ q) :
    x.passed = y.passed ∧ x.failure = y.failure := by
  cases hx with
  | pass hp =>
    cases hy with
    | pass => exact ⟨rfl, rfl⟩
    | fail hq => exact absurd (h.mp hp) hq
  | fail hp =>
    cases hy with
    | pass hq => exact absurd (h.mpr hq) hp
    | fail => exact ⟨rfl, rfl⟩

/-- The diagnostics of two answers with the same streams are the same, or they have the streams the
other way round. -/
theorem Answer.SameStreams.diagnostics_eq {a b : Answer} (h : a.SameStreams b) :
    b.diagnostics = a.diagnostics ∨ b.diagnostics = combined a.stdoutText a.stderrText := by
  rcases h with ⟨h_err, h_out⟩ | ⟨h_err, h_out⟩
  · exact .inl (by rw [diagnostics, diagnostics, h_err, h_out])
  · exact .inr (by rw [diagnostics, h_err, h_out])

/-- Diagnostics judge an expectation whose fragments are within lines, whichever stream comes first.
-/
theorem assessFailure_congr {e : Expectation} (h_lines : ∀ f ∈ e.fragments, '\n' ∉ f.toList)
    {a b : Answer} (h : a.SameStreams b) (how how' : String) :
    let x := assessFailure e a.diagnostics how
    let y := assessFailure e b.diagnostics how'
    x.passed = y.passed ∧ x.failure = y.failure ∧ x.categories = y.categories := by
  intro x y
  have h_met : e.MetByDiagnostics a.diagnostics ↔ e.MetByDiagnostics b.diagnostics := by
    rcases h.diagnostics_eq with h_same | h_exchanged
    · rw [h_same]
    · rw [h_exchanged]
      exact metByDiagnostics_combined_comm h_lines a.stderrText a.stdoutText
  have h_categories :
      ErrorCategory.classify a.diagnostics = ErrorCategory.classify b.diagnostics := by
    rcases h.diagnostics_eq with h_same | h_exchanged
    · rw [h_same]
    · rw [h_exchanged]
      exact classify_combined_comm a.stderrText a.stdoutText
  obtain ⟨h_passed, h_failure⟩ :=
    (assessFailure_judges e a.diagnostics how).congr (assessFailure_judges e b.diagnostics how')
      h_met
  refine ⟨h_passed, h_failure, ?_⟩
  rw [categories_assessFailure, categories_assessFailure, h_categories]

/-! ### Both -/

/-- **Neither the channel nor the stream changes the judgement.** Two successful answers with the
same output are judged equal, whatever else they are. Two unsuccessful answers of whatever status
whose streams are the same or exchanged pass alike, and fail under the same kind and with the same
categories, as long as every fragment of the expectation is within one line. -/
theorem streams_interchangeable (e : Expectation) {r r' : Response} {a b : Answer}
    (hr : r.Carries a) (hr' : r'.Carries b) :
    (a.success = true → b.success = true → a.stdoutText = b.stdoutText →
      evaluate e r = evaluate e r') ∧
    ((∀ f ∈ e.fragments, '\n' ∉ f.toList) → a.success = false → b.success = false →
      a.SameStreams b →
        (evaluate e r).passed = (evaluate e r').passed ∧
        (evaluate e r).failure = (evaluate e r').failure ∧
        (evaluate e r).categories = (evaluate e r').categories) := by
  constructor
  · intro hs hs' h_output
    exact evaluate_eq_of_successful e hr hr' hs hs' h_output
  · intro h_lines hs hs' h_streams
    rw [evaluate_of_unsuccessful e hr hs, evaluate_of_unsuccessful e hr' hs']
    exact assessFailure_congr h_lines h_streams a.status.text b.status.text

/-- A cycle is reported on the error stream of a process, and in the body of an HTTP answer that
comes late. The same two engines grant, and the process adds a warning. -/
theorem streams_interchangeable_cycle :
    let onStderr : Answer := ⟨.exit (some 1), [], Bytes.ofString "Import Cycle: a, b", ⟨3⟩⟩
    let inBody : Answer := ⟨.http 422, Bytes.ofString "Import Cycle: a, b", [], ⟨90⟩⟩
    let granted := Bytes.ofString "\x7b\"decision\": \"GRANT\"\x7d"
    let byProcess : Answer := ⟨.exit (some 0), granted, Bytes.ofString "warning", ⟨3⟩⟩
    let byServer : Answer := ⟨.http 201, granted, [], ⟨90⟩⟩
    let e : Expectation := .errorContains ["cycle", "import"]
    evaluate e (.ok byProcess) = evaluate e (.ok byServer) ∧
      onStderr.diagnostics ≠ inBody.diagnostics ∧
      (evaluate e (.error (.process onStderr))).passed = true ∧
      (evaluate e (.error (.process inBody))).passed = true ∧
      (evaluate e (.ok inBody)).categories = [.referenceCycle] := by
  intro onStderr inBody granted byProcess byServer e
  have h_judged : (evaluate e (.error (.process onStderr))).passed = true ∧
      (evaluate e (.error (.process onStderr))).categories = [.referenceCycle] := by
    decide +kernel
  -- the streams are exchanged, be the answer a failure of the process or not
  have h_exchanged := fun {r : Response} (hr : r.Carries inBody) =>
    (streams_interchangeable e (.failed onStderr) hr).2 (by decide) rfl rfl (.inr ⟨rfl, rfl⟩)
  refine ⟨(streams_interchangeable e (.answered byProcess) (.answered byServer)).1 rfl rfl rfl,
    by decide +kernel, h_judged.1, ?_, ?_⟩
  · rw [← (h_exchanged (.failed inBody)).1]
    exact h_judged.1
  · rw [← (h_exchanged (.answered inBody)).2.2]
    exact h_judged.2

end PolicyTrial
