import PolicyTrial.Proofs.Judgement.Evaluation
import PolicyTrial.Proofs.Manifest.Expansion
import PolicyTrial.Proofs.Text.NewLine

/-!
# Failures that say nothing

A run that fails without a word leaves a lone new line for its diagnostics, the one that stands
between the two streams. An expected failure is thus told from its mere occurrence exactly if the
manifest lists a fragment that such a line does not hold, and that is every fragment but the empty
one and the line itself (`silent_failure_iff`). A category always lists one. A list of fragments
need not: it may well be empty (`silent_failure_accepted`).
-/

namespace PolicyTrial

/-- An entry asks nothing of the diagnostics of a failed run: it lists no fragment but the empty one
and a lone new line. -/
def ExpectationEntry.IsVacuous : ExpectationEntry → Prop
  | .errorContains fs | .denyOrErrorContains fs => ∀ f ∈ fs, f = "" ∨ f = "\n"
  | .errorCategory _ | .denyOrErrorCategory _ => False
  | .exactDecision _ | .decisionAndNoDenyReferences _ | .notDecision _ => False

/-- Every category lists a fragment with more than a line break in it. -/
theorem ErrorCategory.exists_fragment (c : ErrorCategory) :
    ∃ f ∈ c.fragments, ¬ (f = "" ∨ f = "\n") := by
  cases c <;> decide

/-- The entries that a lone new line meets are the vacuous ones. -/
theorem ExpectationEntry.metByDiagnostics_newLine_iff (entry : ExpectationEntry) :
    entry.expectation.MetByDiagnostics "\n" ↔ entry.IsVacuous := by
  -- Behind a category there are its fragments, and one of them is missing.
  have h_category : ∀ c : ErrorCategory, ¬ ∀ f ∈ c.fragments, Holds "\n" f := by
    intro c h
    obtain ⟨f, hf, h_more⟩ := c.exists_fragment
    exact h_more ((holds_newLine_iff f).mp (h f hf))
  cases entry with
  | errorContains fs =>
    rw [expectation, Expectation.metByDiagnostics_iff (.inl rfl)]
    exact forall₂_congr fun f _ => holds_newLine_iff f
  | denyOrErrorContains fs =>
    rw [expectation, Expectation.metByDiagnostics_iff (.inr rfl)]
    exact forall₂_congr fun f _ => holds_newLine_iff f
  | errorCategory c =>
    rw [expectation, Expectation.metByDiagnostics_iff (.inl rfl)]
    exact iff_of_false (h_category c) id
  | denyOrErrorCategory c =>
    rw [expectation, Expectation.metByDiagnostics_iff (.inr rfl)]
    exact iff_of_false (h_category c) id
  | exactDecision o | decisionAndNoDenyReferences o | notDecision o =>
    exact iff_of_false (Expectation.not_metByDiagnostics rfl _) id

/-- A run that wrote nothing has a lone new line for its diagnostics. -/
theorem Answer.diagnostics_of_silent {a : Answer} (ho : a.stdout = []) (he : a.stderr = []) :
    a.diagnostics = "\n" := by
  rw [diagnostics, stderrText, stdoutText, ho, he]
  decide

/-- **A silent failure is accepted exactly if the manifest asks for no more.** For every manifest
that is accepted and every scenario of it, some entry of the manifest says what is expected of the
scenario, and a run of it that fails without a word passes exactly if that entry is vacuous. -/
theorem silent_failure_iff {read : Manifest.TextReader} {base path content : String} {r : Registry}
    (h : Registry.ofManifestText read base path content = .ok r) :
    ∃ m, Yaml.decode Manifest.decoder content = .ok m ∧
      ∀ s ∈ r.scenarios, ∃ entry, m.Asks s entry ∧
        ∀ (response : Response) (a : Answer), response.Carries a → a.success = false →
          a.stdout = [] → a.stderr = [] →
            ((evaluate s.expectation response).passed = true ↔ entry.IsVacuous) := by
  obtain ⟨m, hm, h_asks⟩ := Registry.asks_of_ofManifestText h
  refine ⟨m, hm, fun s hs => ?_⟩
  obtain ⟨entry, h_entry⟩ := h_asks s hs
  refine ⟨entry, h_entry, fun response a hr hf ho he => ?_⟩
  rw [h_entry.expectation_eq, passed_iff_of_unsuccessful _ hr hf,
    Answer.diagnostics_of_silent ho he, entry.metByDiagnostics_newLine_iff]

/-- A suite that expects errors and says nothing more of them, save for its last case. -/
def outageManifest : String :=
  "\n".intercalate
    ["suites:",
      "- name: outage",
      "  bundle: missing.yml",
      "  expect:",
      "    error_contains: []",
      "  cases:",
      "  - payload_inline: 1",
      "  - payload_inline: 2",
      "    expect:",
      "      error_category: missing_bundle"]

/-- The registry of the suite, which reads no file. -/
def outageRegistry : Except Failure Registry :=
  Registry.ofManifestText (fun _ => .error .notFound) "." "outage.yml" outageManifest

/-- The suite is accepted. -/
theorem exists_outageRegistry :
    ∃ r, outageRegistry = .ok r ∧
      r.scenarios.map (fun s => (s.id, s.expectation)) =
        [("outage::inline-0", .errorContains []),
          ("outage::inline-1", .errorContains ["no such file or directory"])] := by
  have h_scenarios : (outageRegistry.toOption.map fun r =>
      r.scenarios.map fun s => (s.id, s.expectation)) =
        some [("outage::inline-0", .errorContains []),
          ("outage::inline-1", .errorContains ["no such file or directory"])] := by
    decide +kernel
  obtain ⟨r, h_accepted, h_scenarios⟩ := Option.map_eq_some_iff.mp h_scenarios
  exact ⟨r, eq_ok_of_toOption h_accepted, h_scenarios⟩

/-- For both cases of the suite, silence is judged by the entry that counts for the case. -/
theorem silent_failure_iff_outage :
    ∃ r m, outageRegistry = .ok r ∧ Yaml.decode Manifest.decoder outageManifest = .ok m ∧
      r.scenarios.length = 2 ∧
      ∀ s ∈ r.scenarios, ∃ entry, m.Asks s entry ∧
        ((evaluate s.expectation (.ok ⟨.exit none, [], [], ⟨0⟩⟩)).passed = true ↔
          entry.IsVacuous) := by
  obtain ⟨r, hr, h_scenarios⟩ := exists_outageRegistry
  obtain ⟨m, hm, h_all⟩ := silent_failure_iff hr
  refine ⟨r, m, hr, hm, ?_, fun s hs => ?_⟩
  · have h_length := congrArg List.length h_scenarios
    rwa [List.length_map] at h_length
  · obtain ⟨entry, h_entry, h_iff⟩ := h_all s hs
    exact ⟨entry, h_entry, h_iff _ _ (.answered _) rfl rfl rfl⟩

/-- The suite is accepted, its first scenario expects an error, and a run that exits with code one
and writes nothing passes. -/
theorem silent_failure_accepted :
    ∃ r s fs, outageRegistry = .ok r ∧ s ∈ r.scenarios ∧ s.expectation = .errorContains fs ∧
      let a : Answer := ⟨.exit (some 1), [], [], ⟨0⟩⟩
      a.success = false ∧ (evaluate s.expectation (.error (.process a))).passed = true := by
  obtain ⟨r, hr, h_scenarios⟩ := exists_outageRegistry
  have h_mem : ("outage::inline-0", Expectation.errorContains []) ∈
      r.scenarios.map (fun s => (s.id, s.expectation)) := by
    rw [h_scenarios]
    exact List.mem_cons_self
  obtain ⟨s, hs, h_eq⟩ := List.mem_map.mp h_mem
  have h_expectation : s.expectation = .errorContains [] := congrArg Prod.snd h_eq
  refine ⟨r, s, [], hr, hs, h_expectation, rfl, ?_⟩
  rw [h_expectation]
  decide

end PolicyTrial
