import PolicyTrial.Proofs.Judgement.Evaluation
import PolicyTrial.Proofs.Text.FinalSigma

/-!
# Fragments that stand in the diagnostics word for word

Fragments are looked for without regard to letter case, so one would think that a fragment is found
wherever the diagnostics have it as it is spelled. That is so for every fragment whose lower case
form does not depend on what surrounds it, and for no other (`quoted_fragments_found`). A fragment
that breaks off after a capital sigma is of the other sort: `ΑΣ` is missing in `ΑΣΑ`
(`quoted_fragment_missed`).
-/

namespace PolicyTrial

/-- A text has a fragment word for word. -/
def Quotes (text fragment : String) : Prop := fragment.toList <:+: text.toList

instance (text fragment : String) : Decidable (Quotes text fragment) :=
  decidable_of_iff (Text.occursIn fragment.toList text.toList = true) (occursIn_iff_isInfix _ _)

/-- A settled fragment is held by every text that has it word for word, and no other fragment is. -/
theorem isSettled_toList_iff (fragment : String) :
    Text.IsSettled fragment.toList ↔ ∀ text, Quotes text fragment → Holds text fragment := by
  rw [Text.isSettled_iff]
  constructor
  · exact fun h text h_quotes => h text.toList h_quotes
  · intro h t h_infix
    have h_holds := h (String.ofList t) (by rwa [Quotes, String.toList_ofList])
    rwa [Holds, String.toList_ofList] at h_holds

/-- An unsuccessful answer whose diagnostics hold all fragments is what was expected, be it in place
of a denial or not. -/
theorem passed_of_holds {fragments : List String} {r : Response} {a : Answer} (hr : r.Carries a)
    (hs : a.success = false) (h : ∀ f ∈ fragments, Holds a.diagnostics f) :
    (evaluate (.errorContains fragments) r).passed = true ∧
      (evaluate (.denyOrErrorContains fragments) r).passed = true :=
  ⟨passed_of_satisfies (.diagnostics hr hs ⟨fragments, .inl rfl, h⟩),
    passed_of_satisfies (.diagnostics hr hs ⟨fragments, .inr rfl, h⟩)⟩

/-- A fragment that is not settled is missing in some text that has it word for word. -/
theorem exists_missing_of_not_isSettled {fragment : String}
    (h : ¬ Text.IsSettled fragment.toList) :
    ∃ text, Quotes text fragment ∧ (matchFragments text [fragment]).missing = [fragment] := by
  rw [isSettled_toList_iff, Classical.not_forall] at h
  obtain ⟨text, h⟩ := h
  obtain ⟨h_quotes, h_missed⟩ := Classical.not_imp.mp h
  refine ⟨text, h_quotes, ?_⟩
  have h_absent : holdsFragment (Text.lowercase text.toList) fragment = false := by
    rwa [← Bool.not_eq_true, holdsFragment_iff]
  simp [matchFragments, FragmentReport.missing, h_absent]

/-- **Quoted fragments are found if they are settled, and only then.** Let a text have every
fragment word for word. If each fragment fixes the form of its own capital sigmas, then every
fragment is found, and an unsuccessful answer with this text for its diagnostics is what was
expected. A fragment that does not fix the form of its capital sigmas is missing in some text that
has it word for word. -/
theorem quoted_fragments_found (text : String) (fragments : List String)
    (h_quotes : ∀ f ∈ fragments, Quotes text f) :
    ((∀ f ∈ fragments, Text.IsSettled f.toList) →
      (matchFragments text fragments).passed = true ∧
      (matchFragments text fragments).missing = [] ∧
      (matchFragments text fragments).explain = none ∧
      ∀ (r : Response) (a : Answer), r.Carries a → a.success = false → a.diagnostics = text →
        (evaluate (.errorContains fragments) r).passed = true ∧
          (evaluate (.denyOrErrorContains fragments) r).passed = true) ∧
    ∀ f ∈ fragments, ¬ Text.IsSettled f.toList →
      ∃ text', Quotes text' f ∧ (matchFragments text' [f]).missing = [f] := by
  constructor
  · intro h_settled
    have h_holds : ∀ f ∈ fragments, Holds text f := fun f hf =>
      (isSettled_toList_iff f).mp (h_settled f hf) text (h_quotes f hf)
    refine ⟨(passed_matchFragments_iff text fragments).mpr h_holds,
      (missing_matchFragments_eq_nil_iff text fragments).mpr h_holds,
      (explain_matchFragments_eq_none_iff text fragments).mpr h_holds, ?_⟩
    rintro r a hr hs rfl
    exact passed_of_holds hr hs h_holds
  · exact fun f _ h_unsettled => exists_missing_of_not_isSettled h_unsettled

/-- Both fragments have a capital sigma, one inside a word and one at the end of a word that the
fragment goes on behind. -/
theorem quoted_fragments_found_greek :
    let a : Answer :=
      ⟨.exit (some 1), [], Bytes.ofString "ΛΑΘΟΣ ΣΤΟ ΑΡΧΕΙΟ", ⟨0⟩⟩
    (matchFragments a.diagnostics ["ΛΑΘΟΣ ", "ΣΤΟ"]).missing = [] ∧
      (evaluate (.errorContains ["ΛΑΘΟΣ ", "ΣΤΟ"]) (.error (.process a))).passed = true := by
  intro a
  have h_found := quoted_fragments_found a.diagnostics ["ΛΑΘΟΣ ", "ΣΤΟ"] (by decide +kernel)
  obtain ⟨-, h_missing, -, h_passed⟩ := h_found.1 (by decide +kernel)
  exact ⟨h_missing, (h_passed _ a (.failed a) rfl rfl).1⟩

/-- In the fragment the capital sigma ends a word, in the diagnostics it does not. So the fragment
is missing where it stands word for word, and the failed run is not what was expected. -/
theorem quoted_fragment_missed :
    let a : Answer := ⟨.exit (some 1), [], Bytes.ofString "ΑΣΑ", ⟨0⟩⟩
    Quotes "ΑΣΑ" "ΑΣ" ∧ (matchFragments "ΑΣΑ" ["ΑΣ"]).missing = ["ΑΣ"] ∧
      Quotes a.diagnostics "ΑΣ" ∧
      (evaluate (.errorContains ["ΑΣ"]) (.error (.process a))).passed = false ∧
      (evaluate (.denyOrErrorContains ["ΑΣ"]) (.ok a)).passed = false := by
  exact ⟨by decide +kernel, by decide +kernel, by decide +kernel, by decide +kernel,
    by decide +kernel⟩

end PolicyTrial
