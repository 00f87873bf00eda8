import PolicyTrial.Diagnostics

/-!
# Looking for fragments

The search for fragments is read as a relation between texts: a fragment is found exactly if its
lower case form is a contiguous part of the lower case form of the text.

* `Holds`: a text holds a fragment, whatever the letter case of the two.
* `passed_matchFragments_iff`, `missing_matchFragments_eq_nil_iff`,
  `explain_matchFragments_eq_none_iff`: the report passes, misses nothing and has nothing to explain
  exactly if the text holds every fragment.
* `mem_classify_iff`: a text belongs to a category exactly if it holds every fragment of it. So
  texts that hold the same ones belong to the same categories (`classify_congr`).
-/

namespace PolicyTrial

/-- A text holds a fragment: in lower case, the fragment is a contiguous part of the text. -/
def Holds (text fragment : String) : Prop :=
  Text.lowercase fragment.toList <:+: Text.lowercase text.toList

/-- The search visits every suffix, so it finds exactly the contiguous parts. -/
theorem occursIn_iff_isInfix (needle text : List Char) :
    Text.occursIn needle text = true ↔ needle <:+: text := by
  induction text with
  | nil => rw [Text.occursIn, List.isEmpty_iff, List.infix_nil]
  | cons c rest ih =>
    rw [Text.occursIn, Bool.or_eq_true, List.isPrefixOf_iff_prefix, ih, List.infix_cons_iff]

theorem holdsFragment_iff (text fragment : String) :
    holdsFragment (Text.lowercase text.toList) fragment = true ↔ Holds text fragment :=
  occursIn_iff_isInfix _ _

instance (text fragment : String) : Decidable (Holds text fragment) :=
  decidable_of_iff _ (holdsFragment_iff text fragment)

/-- A fragment is missing exactly if it is looked for and the text does not hold it. -/
theorem mem_missing_matchFragments_iff (text fragment : String) (fragments : List String) :
    fragment ∈ (matchFragments text fragments).missing ↔
      fragment ∈ fragments ∧ ¬ Holds text fragment := by
  unfold matchFragments FragmentReport.missing
  simp only [List.filter_map, List.map_map, List.mem_map, List.mem_filter, Function.comp_apply,
    Bool.not_eq_true', ← holdsFragment_iff, Bool.not_eq_true]
  constructor
  · rintro ⟨f, hf, rfl⟩
    exact hf
  · intro hf
    exact ⟨fragment, hf, rfl⟩

/-- No fragment is missing exactly if the text holds every one. -/
theorem missing_matchFragments_eq_nil_iff (text : String) (fragments : List String) :
    (matchFragments text fragments).missing = [] ↔ ∀ f ∈ fragments, Holds text f := by
  rw [List.eq_nil_iff_forall_not_mem]
  refine forall_congr' fun f => ?_
  rw [mem_missing_matchFragments_iff, not_and, Classical.not_not]

/-- There is nothing to explain exactly if the text holds every fragment. -/
theorem explain_matchFragments_eq_none_iff (text : String) (fragments : List String) :
    (matchFragments text fragments).explain = none ↔ ∀ f ∈ fragments, Holds text f := by
  rw [← missing_matchFragments_eq_nil_iff, FragmentReport.explain, ← List.isEmpty_iff]
  split
  · next h => simp only [h]
  · next h => simp only [h, reduceCtorEq, Bool.false_eq_true]

/-- The report passes exactly if the text holds every fragment. -/
theorem passed_matchFragments_iff (text : String) (fragments : List String) :
    (matchFragments text fragments).passed = true ↔ ∀ f ∈ fragments, Holds text f := by
  simp only [matchFragments, FragmentReport.passed, List.all_map, List.all_eq_true,
    Function.comp_apply, holdsFragment_iff]

namespace ErrorCategory

theorem mem_all (c : ErrorCategory) : c ∈ all := by
  cases c <;> decide

/-- A text belongs to the categories whose fragments it holds. -/
theorem mem_classify_iff (text : String) (c : ErrorCategory) :
    c ∈ classify text ↔ ∀ f ∈ c.fragments, Holds text f := by
  rw [classify, List.mem_filter, and_iff_right c.mem_all, List.all_eq_true]
  exact forall₂_congr fun f _ => holdsFragment_iff text f

/-- Texts that hold the same fragments of categories belong to the same categories. -/
theorem classify_congr {text text' : String}
    (h : ∀ c : ErrorCategory, ∀ f ∈ c.fragments, Holds text f ↔ Holds text' f) :
    classify text = classify text' := by
  rw [classify, classify]
  refine List.filter_congr fun c _ => ?_
  rw [Bool.eq_iff_iff, List.all_eq_true, List.all_eq_true]
  refine forall₂_congr fun f hf => ?_
  rw [holdsFragment_iff, holdsFragment_iff]
  exact h c f hf

end ErrorCategory

end PolicyTrial
