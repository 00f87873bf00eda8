import PolicyTrial.Proofs.Host.Contract
import PolicyTrial.Proofs.Judgement.Evaluation
import PolicyTrial.Proofs.Text.NewLine
import PolicyTrial.Server.Scope

/-!
# How the exit of a starting server is judged

A server that exits while it starts fails for a reason that has two parts: a notice of the exit, in
the words of the bench, and behind a new line what the process wrote to its error stream. The
fragments of an expectation are looked for in the whole reason, so what is judged is not the error
stream alone:

* A fragment is found if the error stream holds it, but also if the notice does, or if it goes
  across the new line (`await_exit_judged`). A fragment of the notice is found where the error
  stream is empty (`notice_satisfies`).
* The categories are those of the error stream, since the notice holds no fragment of a category,
  whatever exit code it names (`classify_notice`).

`await_failure` ties this to the waiting itself: if it fails otherwise than by a timeout, it was
told of an exit by its last look at the process, and the failure quotes what was captured then.
-/

namespace PolicyTrial

namespace Readiness

/-- What the bench says of an exit, in front of what the process wrote to its error stream. -/
def notice (code : Option Int) : String :=
  "process exited with " ++ codeText code ++ " before becoming ready"

theorem exited_eq (client : Client) (code : Option Int) (stderr : Bytes) :
    exited client code stderr =
      .serverNotStarted client.baseUrl (notice code ++ "\n" ++ stderr.lossyText) false := by
  have h_words : " before becoming ready\n" = " before becoming ready" ++ "\n" := by decide +kernel
  have h_notice : notice code ++ "\n" =
      "process exited with " ++ codeText code ++ " before becoming ready\n" := by
    rw [h_words, ← String.append_assoc]
    rfl
  rw [h_notice]
  rfl

/-! ### What the waiting comes to -/

/-- The last that was seen of a process is its exit, and then what it left on its error stream. -/
def SawExit (s : ServerSettings) (client : Client) (code : Option Int) (stderr : Bytes)
    (past : Past) : Prop :=
  ∃ earlier, past = ⟨.captured client.process, stderr⟩ ::
    ⟨.settle client.process s.probeTimeout, ()⟩ :: ⟨.poll client.process, some code⟩ :: earlier

/-- What fails otherwise than by a timeout has seen the exit, and the error stream as the host tells
it. -/
theorem probe_failure {c : Contract} (h_permits : ∀ past e, c.Permits past e) (s : ServerSettings)
    (client : Client) (left : Nat) (past : Past) :
    c.Ensures past (probe s client left) fun past' r =>
      ∀ f, r = .error f → f.kind ≠ .timeout →
        ∃ code stderr, SawExit s client code stderr past' ∧ f = exited client code stderr ∧
          c.Promises past'.tail (.captured client.process) stderr := by
  induction left generalizing past with
  | zero =>
    intro f hf h_kind
    cases hf
    exact absurd rfl h_kind
  | succ left ih =>
    unfold probe
    refine Contract.ensures_perform_bind.mpr ⟨h_permits _ _, fun exit? _ => ?_⟩
    cases exit? with
    | some code =>
      refine Contract.ensures_perform_bind.mpr ⟨h_permits _ _, fun _ _ => ?_⟩
      refine Contract.ensures_perform_bind.mpr ⟨h_permits _ _, fun stderr h_stderr => ?_⟩
      intro f hf _
      cases hf
      exact ⟨code, stderr, ⟨past, rfl⟩, rfl, h_stderr⟩
    | none =>
      rw [Client.health_bind]
      refine Contract.ensures_perform_bind.mpr ⟨h_permits _ _, fun health _ => ?_⟩
      split
      · intro f hf
        cases hf
      · exact Contract.ensures_perform_bind.mpr ⟨h_permits _ _, fun _ _ => ih _⟩

/-- The waiting fails by a timeout, or because it saw the process exit. -/
theorem await_failure (s : ServerSettings) (client : Client) (past : Past) :
    Contract.anything.Ensures past (await s client) fun past' r =>
      ∀ f, r = .error f → f.kind ≠ .timeout →
        ∃ code stderr, SawExit s client code stderr past' ∧ f = exited client code stderr := by
  have h_probe := probe_failure (c := .anything) (fun _ _ => trivial) s client (attempts s) past
  refine h_probe.mono fun past' r h f hf h_kind => ?_
  obtain ⟨code, stderr, h_saw, h_exited, -⟩ := h f hf h_kind
  exact ⟨code, stderr, h_saw, h_exited⟩

/-! ### The notice belongs to no category -/

/-- A character of a decimal number. -/
def isNumeral (c : Char) : Bool := c.isDigit || c = '-'

theorem isNumeral_of_mem_toString {n : Int} {c : Char} (hc : c ∈ (toString n).toList) :
    isNumeral c = true := by
  have h_natural : ∀ {k : Nat}, c ∈ k.repr.toList → isNumeral c = true := by
    intro k hk
    rw [Nat.toList_repr] at hk
    rw [isNumeral, Nat.isDigit_of_mem_toDigits (by decide) (by decide) hk, Bool.true_or]
  cases n with
  | ofNat k => exact h_natural hc
  | negSucc k =>
    have h_text : (toString (Int.negSucc k)).toList = '-' :: (k + 1).repr.toList :=
      String.toList_append
    rw [h_text] at hc
    rcases List.mem_cons.mp hc with rfl | hc
    · rfl
    · exact h_natural hc

theorem lowerChar_of_isNumeral {c : Char} (hc : isNumeral c = true) :
    c ≠ 'Σ' ∧ Text.lowerChar c = [c] := by
  have h_all : ∀ n < 58, isNumeral (Char.ofNat n) = true →
      Char.ofNat n ≠ 'Σ' ∧ Text.lowerChar (Char.ofNat n) = [Char.ofNat n] := by
    decide +kernel
  have h_lt : c.toNat < 58 := by
    rw [isNumeral, Bool.or_eq_true, decide_eq_true_iff] at hc
    exact Text.toNat_lt_of_decimal hc
  have h_char := h_all c.toNat h_lt
  rw [Char.ofNat_toNat] at h_char
  exact h_char hc

/-- The words of a notice before and behind an exit code. -/
def noticeWords : List String := ["process exited with Some", " before becoming ready"]

/-- A fragment is in no notice of an exit and goes across none. It has no new line. In lower case,
it has a character that no number has, it has no parenthesis, and it is a part neither of the words
around an exit code nor of the notice that names none. -/
def IsForeign (fragment : String) : Prop :=
  '\n' ∉ fragment.toList ∧
  (∃ c ∈ Text.lowercase fragment.toList, isNumeral c = false) ∧
  '(' ∉ Text.lowercase fragment.toList ∧ ')' ∉ Text.lowercase fragment.toList ∧
  (∀ w ∈ noticeWords, ¬ Holds w fragment) ∧ ¬ Holds (notice none) fragment

instance (fragment : String) : Decidable (IsForeign fragment) :=
  have h_letter : Decidable (∃ c ∈ Text.lowercase fragment.toList, isNumeral c = false) :=
    decidable_of_iff ((Text.lowercase fragment.toList).any (!isNumeral ·) = true) <| by
      simp only [List.any_eq_true, Bool.not_eq_true']
  inferInstanceAs (Decidable (_ ∧ _ ∧ _ ∧ _ ∧ _ ∧ _))

theorem isForeign_of_mem_fragments (c : ErrorCategory) : ∀ f ∈ c.fragments, IsForeign f := by
  cases c with
  | malformedSyntax | ruleCompilation | unresolvedReference | referenceCycle | missingBundle =>
    decide +kernel

theorem lowercase_notice_some (n : Int) :
    Text.lowercase (notice (some n)).toList =
      Text.lowercase "process exited with Some".toList ++ '(' ::
        ((toString n).toList ++ ')' :: Text.lowercase " before becoming ready".toList) := by
  have h_text : (notice (some n)).toList =
      "process exited with Some".toList ++ '(' ::
        ((toString n).toList ++ ')' :: " before becoming ready".toList) := by
    have h_opening : "process exited with ".toList ++ "Some(".toList =
        "process exited with Some".toList ++ ['('] := by decide +kernel
    have h_closing : ")".toList = [')'] := by decide +kernel
    unfold notice codeText
    rw [String.toList_append, String.toList_append, String.toList_append, String.toList_append,
      ← List.append_assoc, ← List.append_assoc, h_opening, h_closing]
    generalize "process exited with Some".toList = front
    generalize " before becoming ready".toList = back
    simp only [List.append_assoc, List.cons_append, List.nil_append]
  have h_number : Text.lowercase (toString n).toList = (toString n).toList :=
    Text.lowercase_eq_self fun c hc => lowerChar_of_isNumeral (isNumeral_of_mem_toString hc)
  rw [h_text, Text.lowercase_append_cons (by decide +kernel) (by decide +kernel),
    Text.lowercase_append_cons (by decide +kernel) (by decide +kernel), h_number, List.append_assoc,
    List.append_assoc]
  rfl

theorem not_holds_notice {fragment : String} (h : IsForeign fragment) (code : Option Int) :
    ¬ Holds (notice code) fragment := by
  obtain ⟨-, h_letter, h_opening, h_closing, h_words, h_uncoded⟩ := h
  cases code with
  | none => exact h_uncoded
  | some n =>
    rw [Holds, lowercase_notice_some, isInfix_append_cons_iff, isInfix_append_cons_iff]
    rintro (h_front | (h_number | h_back | ⟨u, v, h_eq, -, -⟩) | ⟨u, v, h_eq, -, -⟩)
    · exact h_words _ (by decide) h_front
    · obtain ⟨c, hc, h_numeral⟩ := h_letter
      rw [isNumeral_of_mem_toString (h_number.subset hc)] at h_numeral
      cases h_numeral
    · exact h_words _ (by decide) h_back
    · exact h_closing (by rw [h_eq]; exact List.mem_append_right u List.mem_cons_self)
    · exact h_opening (by rw [h_eq]; exact List.mem_append_right u List.mem_cons_self)

/-- A notice of whatever exit adds no category to those of the error stream. -/
theorem classify_notice (code : Option Int) (text : String) :
    ErrorCategory.classify (notice code ++ "\n" ++ text) = ErrorCategory.classify text := by
  refine ErrorCategory.classify_congr fun c f hf => ?_
  have h_foreign := isForeign_of_mem_fragments c f hf
  exact holds_line_iff_of_not_holds h_foreign.1 (not_holds_notice h_foreign code)

/-! ### The judgement -/

/-- An exit is judged by the notice of it and by the error stream, line behind line. -/
theorem passed_exited_iff {e : Expectation} {fragments : List String}
    (he : e = .errorContains fragments ∨ e = .denyOrErrorContains fragments) (client : Client)
    (code : Option Int) (stderr : Bytes) :
    (evaluate e (.error (exited client code stderr))).passed = true ↔
      ∀ f ∈ fragments, Holds (notice code) f ∨ Holds stderr.lossyText f ∨
        Crosses (notice code) stderr.lossyText f := by
  have h_accepts : e.acceptsProcessFailure = true := by
    rcases he with rfl | rfl <;> rfl
  rw [exited_eq, evaluate_of_startup e h_accepts, (assessFailure_judges e _ _).passed_iff,
    Expectation.metByDiagnostics_iff he]
  simp only [holds_line_iff]

/-- No exit of a starting server is a timeout. -/
theorem failure_exited_ne (e : Expectation) (client : Client) (code : Option Int) (stderr : Bytes) :
    (evaluate e (.error (exited client code stderr))).failure ≠ some .timeout := by
  rw [exited_eq]
  cases he : e.acceptsProcessFailure with
  | true =>
    have h_judges := assessFailure_judges e (notice code ++ "\n" ++ stderr.lossyText)
      "a startup failure"
    rw [evaluate_of_startup e he]
    rw [he, if_pos rfl] at h_judges
    generalize assessFailure e _ _ = assessment at h_judges ⊢
    cases h_judges with
    | pass | fail => nofun
  | false =>
    rw [evaluate_of_failure e (fun _ h => by cases h) fun _ _ _ => he]
    nofun

theorem categories_exited {e : Expectation} (he : e.acceptsProcessFailure = true) (client : Client)
    (code : Option Int) (stderr : Bytes) :
    (evaluate e (.error (exited client code stderr))).categories =
      ErrorCategory.classify stderr.lossyText := by
  rw [exited_eq, evaluate_of_startup e he, categories_assessFailure, classify_notice]

/-- **The exit of a starting server is judged by a notice of it and by its error stream.** Let the
waiting for a server fail otherwise than by a timeout. Then it has just seen the process exit, with
some code and some text on its error stream. An expectation that names fragments accepts that
failure exactly if each fragment is held by the text or by the notice of the exit, or goes across
from the notice to the text. The categories are those of the text. If no fragment has a new line and
none is held by the notice, the failure is accepted exactly if the text alone matches. -/
theorem await_exit_judged (s : ServerSettings) (client : Client) (past : Past) :
    Contract.anything.Ensures past (await s client) fun past' r =>
      ∀ f, r = .error f → f.kind ≠ .timeout → ∃ code stderr, SawExit s client code stderr past' ∧
        ∀ (fragments : List String) (e : Expectation),
          e = .errorContains fragments ∨ e = .denyOrErrorContains fragments →
            ((evaluate e (.error f)).passed = true ↔
              ∀ x ∈ fragments, Holds (notice code) x ∨ Holds stderr.lossyText x ∨
                Crosses (notice code) stderr.lossyText x) ∧
            (evaluate e (.error f)).categories = ErrorCategory.classify stderr.lossyText ∧
            ((∀ x ∈ fragments, '\n' ∉ x.toList ∧ ¬ Holds (notice code) x) →
              ((evaluate e (.error f)).passed = true ↔
                (matchFragments stderr.lossyText fragments).passed = true)) := by
  refine (await_failure s client past).mono fun past' r h f hf h_kind => ?_
  obtain ⟨code, stderr, h_saw, rfl⟩ := h f hf h_kind
  refine ⟨code, stderr, h_saw, fun fragments e he => ?_⟩
  have h_passed := passed_exited_iff he client code stderr
  refine ⟨h_passed, categories_exited (by rcases he with rfl | rfl <;> rfl) client code stderr, ?_⟩
  intro h_apart
  rw [h_passed, passed_matchFragments_iff]
  refine forall₂_congr fun x hx => ?_
  rw [← holds_line_iff, holds_line_iff_of_not_holds (h_apart x hx).1 (h_apart x hx).2]

/-- A server that says on its error stream that a rule does not compile, and exits. -/
theorem await_exit_judged_compilation :
    let s := ({} : Settings).server "mpe"
    let failure := exited (s.client 9090 7) (some 1) (Bytes.ofString "Rego compilation failed")
    (evaluate (.errorContains ["compilation", "rego"]) (.error failure)).passed = true ∧
      (evaluate (.errorContains ["compilation", "rego"]) (.error failure)).categories =
        [.ruleCompilation] := by
  intro s failure
  have h := await_exit_judged s (s.client 9090 7) []
  have h_exit := (h.2 (some (some 1)) trivial).2 () trivial
  obtain ⟨code, stderr, ⟨earlier, h_past⟩, h_judged⟩ :=
    h_exit.2 (Bytes.ofString "Rego compilation failed") trivial failure rfl (by decide)
  cases h_past
  obtain ⟨-, h_categories, h_iff⟩ := h_judged ["compilation", "rego"] _ (.inl rfl)
  refine ⟨(h_iff (by decide +kernel)).mpr (by decide +kernel), ?_⟩
  rw [h_categories]
  decide +kernel

/-- A fragment of the notice is found where the error stream is empty, so the exit alone is
accepted. -/
theorem notice_satisfies :
    let s := ({} : Settings).server "mpe"
    let failure := exited (s.client 9090 7) (some 1) []
    (matchFragments "" ["process exited"]).passed = false ∧
      (evaluate (.errorContains ["process exited"]) (.error failure)).passed = true ∧
      (evaluate (.denyOrErrorContains ["process exited"]) (.error failure)).passed = true := by
  decide +kernel

end Readiness

end PolicyTrial
