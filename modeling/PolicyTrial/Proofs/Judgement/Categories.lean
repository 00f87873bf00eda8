import PolicyTrial.Manifest
import PolicyTrial.Proofs.Judgement.Evaluation

/-!
# Categories that are asked for and categories that are reported

A manifest may ask for an error by the name of its category, which stands for fragments, and what is
observed of a failed run is reported with the categories that it belongs to. Both look at the same
text, the diagnostics that the run left (`Response.Leaves`):

* A category that is asked for is found exactly if it is reported (`named_category_reported`).
* What is reported depends on the diagnostics alone (`Response.Leaves.categories_eq`), so a manifest
  that asks for one category is told of the others as well.
-/

namespace PolicyTrial

/-- A response is a failed run that left diagnostics: an unsuccessful answer, as it is or as what a
failed process left behind, or the exit of a server that was starting. -/
inductive Response.Leaves : Response → String → Prop
  | unsuccessful {r : Response} {a : Answer} (hr : r.Carries a) (hs : a.success = false) :
    Leaves r a.diagnostics
  | exited (baseUrl reason : String) :
    Leaves (.error (.serverNotStarted baseUrl reason false)) reason

/-- An entry of a manifest asks for a category by its name. -/
inductive ExpectationEntry.Names (c : ErrorCategory) : ExpectationEntry → Prop
  | error : Names c (.errorCategory c)
  | denyOrError : Names c (.denyOrErrorCategory c)

namespace Response.Leaves

variable {r : Response} {text : String} {e : Expectation}

/-- Diagnostics are judged in one way, wherever they come from. -/
theorem exists_evaluate_eq (h : r.Leaves text) (he : e.acceptsProcessFailure = true) :
    ∃ how, evaluate e r = assessFailure e text how := by
  cases h with
  | unsuccessful hr hs => exact ⟨_, evaluate_of_unsuccessful e hr hs⟩
  | exited baseUrl => exact ⟨_, evaluate_of_startup e he baseUrl text⟩

theorem passed_iff (h : r.Leaves text) (he : e.acceptsProcessFailure = true) :
    (evaluate e r).passed = true ↔ e.MetByDiagnostics text := by
  obtain ⟨how, h_eq⟩ := h.exists_evaluate_eq he
  rw [h_eq]
  exact (assessFailure_judges e text how).passed_iff

/-- The categories that are reported are those of the diagnostics. -/
theorem categories_eq (h : r.Leaves text) (he : e.acceptsProcessFailure = true) :
    (evaluate e r).categories = ErrorCategory.classify text := by
  obtain ⟨how, h_eq⟩ := h.exists_evaluate_eq he
  rw [h_eq, categories_assessFailure]

end Response.Leaves

namespace ExpectationEntry.Names

variable {c : ErrorCategory} {entry : ExpectationEntry}

theorem acceptsProcessFailure (h : entry.Names c) :
    entry.expectation.acceptsProcessFailure = true := by
  cases h with
  | error | denyOrError => rfl

/-- A name stands for the fragments of its category. -/
theorem metByDiagnostics_iff (h : entry.Names c) (text : String) :
    entry.expectation.MetByDiagnostics text ↔ c ∈ ErrorCategory.classify text := by
  rw [ErrorCategory.mem_classify_iff]
  cases h with
  | error => exact Expectation.metByDiagnostics_iff (.inl rfl) text
  | denyOrError => exact Expectation.metByDiagnostics_iff (.inr rfl) text

end ExpectationEntry.Names

/-- **A category that is asked for is found exactly if it is reported.** Let a failed run leave
diagnostics. Whatever is expected of it, provided that a failed run can be what is expected, it is
reported with the same categories, none of them twice and all in the order in which categories are
reported. An entry of a manifest that names a category is met exactly if the category is among
them. -/
theorem named_category_reported {r : Response} {text : String} (h : r.Leaves text) :
    ∃ categories : List ErrorCategory,
      (∀ e : Expectation, e.acceptsProcessFailure = true →
        (evaluate e r).categories = categories) ∧
      categories.Sublist ErrorCategory.all ∧ categories.Nodup ∧
      ∀ (c : ErrorCategory) (entry : ExpectationEntry), entry.Names c →
        ((evaluate entry.expectation r).passed = true ↔
          c ∈ (evaluate entry.expectation r).categories) := by
  have h_sublist : (ErrorCategory.classify text).Sublist ErrorCategory.all := List.filter_sublist
  have h_all : ErrorCategory.all.Nodup := by decide
  refine ⟨ErrorCategory.classify text, fun e he => h.categories_eq he, h_sublist,
    h_all.sublist h_sublist, fun c entry hc => ?_⟩
  rw [h.passed_iff hc.acceptsProcessFailure, h.categories_eq hc.acceptsProcessFailure,
    hc.metByDiagnostics_iff]

/-- A run that fails with a circle on one stream and a missing file on the other. -/
theorem named_category_reported_circle :
    let a : Answer := ⟨.exit (some 1), Bytes.ofString "open lib.yml: No such file or directory",
      Bytes.ofString "Error: dependency Cycle: a -> b -> a", ⟨0⟩⟩
    let entry := ExpectationEntry.denyOrErrorCategory
    (∃ categories : List ErrorCategory,
      (∀ e : Expectation, e.acceptsProcessFailure = true →
        (evaluate e (.error (.process a))).categories = categories) ∧
      categories.Sublist ErrorCategory.all ∧ categories.Nodup) ∧
    (evaluate (entry .missingBundle).expectation (.ok a)).passed = true ∧
    (evaluate (entry .ruleCompilation).expectation (.ok a)).passed = false := by
  intro a entry
  obtain ⟨categories, h_categories, h_sublist, h_nodup, -⟩ :=
    named_category_reported (.unsuccessful (.failed a) rfl)
  obtain ⟨-, -, -, -, h_iff⟩ := named_category_reported (.unsuccessful (.answered a) rfl)
  refine ⟨⟨categories, h_categories, h_sublist, h_nodup⟩, ?_, ?_⟩
  · exact (h_iff _ _ .denyOrError).mpr (by decide +kernel)
  · rw [← Bool.not_eq_true, h_iff _ _ .denyOrError]
    decide +kernel

end PolicyTrial
