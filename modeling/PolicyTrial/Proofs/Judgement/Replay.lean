import PolicyTrial.Proofs.Judgement.Evaluation
import PolicyTrial.Proofs.Text.LossyText
import PolicyTrial.Verdict

/-!
# A verdict can be judged again from what it records

A verdict keeps the text of an answer and not its octets. That is enough: an answer is judged by its
status and its two texts alone (`Answer.SameText.assessAnswer_eq`), and the octets of a text that
was decoded once decode to the same text. So the answer that a verdict records, be it of ill-formed
octets, is judged just as the answer was that the verdict is on (`evaluate_recorded`).
-/

namespace PolicyTrial

/-- Two answers that a reader cannot tell apart: the same status and the same texts. -/
structure Answer.SameText (a b : Answer) : Prop where
  status : a.status = b.status
  stdout : a.stdoutText = b.stdoutText
  stderr : a.stderrText = b.stderrText

/-- An answer is judged by its status and its texts alone: the decision is read from the text of the
output, and fragments and categories are looked for in the text of the diagnostics. -/
theorem Answer.SameText.assessAnswer_eq {a b : Answer} (h : a.SameText b) (e : Expectation) :
    assessAnswer e a = assessAnswer e b := by
  have h_success : a.success = b.success := congrArg Status.success h.status
  have h_diagnostics : a.diagnostics = b.diagnostics := by
    rw [Answer.diagnostics, Answer.diagnostics, h.stdout, h.stderr]
  rw [assessAnswer, assessAnswer, h_success, h_diagnostics, h.stdout, h.status]

namespace Verdict

/-- The judgement that a verdict holds. -/
def assessment (v : Verdict) : Assessment :=
  ⟨v.passed, v.failure, v.observed, v.explanation, v.categories⟩

/-- The answer that a verdict records, under a status: the octets of its two texts. -/
def recorded (v : Verdict) (status : Status) (elapsed : Duration) : Answer :=
  ⟨status, Bytes.ofString v.stdout, Bytes.ofString v.stderr, elapsed⟩

variable (s : Scenario) (channel : Channel) {r : Response} (elapsed : Duration)

theorem assessment_ofResponse :
    (ofResponse s channel r elapsed).assessment = evaluate s.expectation r := rfl

/-- What a verdict records of a response that carries an answer. -/
theorem sameText_recorded {a : Answer} (hr : r.Carries a) (elapsed' : Duration) :
    ((ofResponse s channel r elapsed).recorded a.status elapsed').SameText a := by
  cases hr with
  | answered | failed => exact ⟨rfl, lossyText_ofString _, lossyText_ofString _⟩

/-- **A verdict can be replayed.** Let a response carry an answer, of whatever octets. Then the
verdict on it has the status of the answer, and judging the recorded answer gives the judgement that
the verdict holds. A response that carries no answer leaves no status and no text. -/
theorem evaluate_recorded (s : Scenario) (channel : Channel) (r : Response) (elapsed : Duration) :
    let v := ofResponse s channel r elapsed
    (∀ a, r.Carries a → v.status = some a.status ∧
      ∀ elapsed', evaluate v.expectation (.ok (v.recorded a.status elapsed')) = v.assessment) ∧
    ((∀ a, ¬ r.Carries a) → v.status = none ∧ v.stdout = "" ∧ v.stderr = "") := by
  refine ⟨fun a hr => ⟨?_, fun elapsed' => ?_⟩, fun h_none => ?_⟩
  · cases hr with
    | answered | failed => rfl
  · have h_same := sameText_recorded s channel elapsed hr elapsed'
    rw [assessment_ofResponse, evaluate_of_carries _ hr, ← h_same.assessAnswer_eq]
    rfl
  · cases r with
    | ok a => exact absurd (.answered a) (h_none a)
    | error f =>
      cases f with
      | process a => exact absurd (.failed a) (h_none a)
      | _ => exact ⟨rfl, rfl, rfl⟩

/-- A failed process whose streams hold an octet that is never valid and a character that breaks
off. -/
theorem evaluate_recorded_illFormed :
    let s : Scenario := ⟨"suite::case", "bundle.yml", .null, .errorContains ["Cycle"], none⟩
    let a : Answer := ⟨.exit (some 1), [0xFF], [0x63, 0x79, 0x63, 0x6C, 0x65, 0xE2, 0x82], ⟨5⟩⟩
    let v := ofResponse s .cli (.error (.process a)) ⟨7⟩
    v.stdout = "\uFFFD" ∧ v.stderr = "cycle\uFFFD" ∧ v.status = some (.exit (some 1)) ∧
      evaluate v.expectation (.ok (v.recorded (.exit (some 1)) ⟨0⟩)) = v.assessment := by
  intro s a v
  obtain ⟨h_status, h_replay⟩ :=
    (evaluate_recorded s .cli (.error (.process a)) ⟨7⟩).1 a (.failed a)
  exact ⟨by decide, by decide, h_status, h_replay ⟨0⟩⟩

end Verdict

end PolicyTrial
