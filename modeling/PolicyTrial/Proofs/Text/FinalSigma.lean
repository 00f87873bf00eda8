import PolicyTrial.Proofs.Text.LowerCase

/-!
# Texts whose lower case form is the same everywhere

To find one text in another without regard to letter case, both are brought to lower case, each by
itself. That finds what is there only if the part, by itself, has the form that it has in the whole.
It can fail for one letter: the capital sigma of `ΑΣ` ends a word, the one of `ΑΣΑ` does not.

* `IsSettled`: the text itself fixes, for each of its capital sigmas, whether it ends a word. A text
  without capital sigmas is settled.
* `isSettled_iff`: exactly the settled texts are found, in lower case, wherever they occur.

A text that is not settled can be put where it is not found: behind a letter if it is the start of
a word that is missing, and before a letter if it is the end (`not_isInfix_behind`,
`not_isInfix_before`). The two forms of the letter are counted there. The added letter turns forms
into the other form and none of them back, so the whole has fewer of the one form than the part by
itself.
-/

namespace PolicyTrial.Text

/-- A text fixes for each of its capital sigmas whether it ends a word. -/
def IsSettled (s : List Char) : Prop := ∀ p q, s = p ++ 'Σ' :: q → Fixes p.reverse q

/-- Whether every capital sigma of a text that follows `before`, a reversed text, is fixed. -/
def settledBehind (before : List Char) : List Char → Bool
  | [] => true
  | c :: rest => (c != 'Σ' || decide (Fixes before rest)) && settledBehind (c :: before) rest

theorem settledBehind_iff (before s : List Char) :
    settledBehind before s = true ↔
      ∀ p q, s = p ++ 'Σ' :: q → Fixes (p.reverse ++ before) q := by
  induction s generalizing before with
  | nil => simp [settledBehind]
  | cons c rest ih =>
    rw [settledBehind, Bool.and_eq_true, ih, Bool.or_eq_true, bne_iff_ne, decide_eq_true_iff]
    constructor
    · rintro ⟨h_head, h_rest⟩ p q h_eq
      cases p with
      | nil =>
        cases h_eq
        exact h_head.resolve_left (· rfl)
      | cons d p =>
        cases h_eq
        rw [List.reverse_cons, List.append_assoc]
        exact h_rest p q rfl
    · refine fun h => ⟨?_, fun p q h_eq => ?_⟩
      · by_cases hc : c = 'Σ'
        · exact .inr (h [] rest (by rw [hc]; rfl))
        · exact .inl hc
      · have h_place := h (c :: p) q (by rw [h_eq]; rfl)
        rwa [List.reverse_cons, List.append_assoc] at h_place

instance (s : List Char) : Decidable (IsSettled s) :=
  decidable_of_iff (settledBehind [] s = true) <| by
    rw [settledBehind_iff]
    simp only [List.append_nil, IsSettled]

/-! ### A settled text is found -/

theorem lowerWithin_of_isSettled {s : List Char} (h : IsSettled s) (before after : List Char) :
    lowerWithin before s after = lowercase s := by
  rw [lowercase_eq_lowerWithin]
  refine lowerWithin_congr fun p q h_eq => ?_
  rw [endsWord_of_fixes (h p q h_eq), List.append_nil, List.append_nil]

theorem IsSettled.isInfix {s t : List Char} (hs : IsSettled s) (h : s <:+: t) :
    lowercase s <:+: lowercase t := by
  obtain ⟨a, b, rfl⟩ := h
  rw [← lowerWithin_of_isSettled hs a.reverse b]
  exact lowerWithin_isInfix a s b

/-! ### Counting the two forms -/

/-- The form of a capital sigma that ends a word, and of one that does not. -/
def sigmaForm (final : Bool) : Char := if final then 'ς' else 'σ'

theorem lowerBetween_sigma (before after : List Char) :
    lowerBetween before 'Σ' after = [sigmaForm (endsWord before after)] := rfl

theorem count_sigmaForm (final : Bool) (form : Bool) :
    [sigmaForm form].count (sigmaForm final) = if form = final then 1 else 0 := by
  revert final form
  decide

variable {before before' after after' : List Char} {final : Bool}

/-- If no capital sigma takes a form in the second surroundings that it does not have in the first,
there are no more of this form in the second. -/
theorem count_lowerWithin_le {s : List Char}
    (h : ∀ p q, s = p ++ 'Σ' :: q → endsWord (p.reverse ++ before') (q ++ after') = final →
      endsWord (p.reverse ++ before) (q ++ after) = final) :
    (lowerWithin before' s after').count (sigmaForm final) ≤
      (lowerWithin before s after).count (sigmaForm final) := by
  induction s generalizing before before' with
  | nil => exact Nat.le_refl 0
  | cons c rest ih =>
    rw [lowerWithin, lowerWithin, List.count_append, List.count_append]
    refine Nat.add_le_add ?_ (ih fun p q h_eq => ?_)
    · by_cases hc : c = 'Σ'
      · have h_head : endsWord before' (rest ++ after') = final →
            endsWord before (rest ++ after) = final := h [] rest (by rw [hc]; rfl)
        rw [hc, lowerBetween_sigma, lowerBetween_sigma, count_sigmaForm, count_sigmaForm]
        split
        · next h_form => exact Nat.le_of_eq (if_pos (h_head h_form)).symm
        · exact Nat.zero_le _
      · exact Nat.le_of_eq (by rw [lowerBetween, lowerBetween, if_neg hc, if_neg hc])
    · have h_place := h (c :: p) q (by rw [h_eq]; rfl)
      rwa [List.reverse_cons, List.append_assoc, List.append_assoc] at h_place

/-- If moreover some capital sigma loses the form, there are fewer. -/
theorem count_lowerWithin_lt {p q : List Char}
    (h : ∀ p' q', p ++ 'Σ' :: q = p' ++ 'Σ' :: q' →
      endsWord (p'.reverse ++ before') (q' ++ after') = final →
        endsWord (p'.reverse ++ before) (q' ++ after) = final)
    (h_had : endsWord (p.reverse ++ before) (q ++ after) = final)
    (h_lost : endsWord (p.reverse ++ before') (q ++ after') ≠ final) :
    (lowerWithin before' (p ++ 'Σ' :: q) after').count (sigmaForm final) <
      (lowerWithin before (p ++ 'Σ' :: q) after).count (sigmaForm final) := by
  have h_front : (lowerWithin before' p ('Σ' :: q ++ after')).count (sigmaForm final) ≤
      (lowerWithin before p ('Σ' :: q ++ after)).count (sigmaForm final) := by
    refine count_lowerWithin_le fun p' q' h_eq => ?_
    have h_place := h p' (q' ++ 'Σ' :: q) (by rw [h_eq, List.append_assoc]; rfl)
    rwa [List.append_assoc, List.append_assoc] at h_place
  have h_back : (lowerWithin ('Σ' :: (p.reverse ++ before')) q after').count (sigmaForm final) ≤
      (lowerWithin ('Σ' :: (p.reverse ++ before)) q after).count (sigmaForm final) := by
    refine count_lowerWithin_le fun p' q' h_eq => ?_
    have h_place := h (p ++ 'Σ' :: p') q' (by rw [h_eq, List.append_assoc]; rfl)
    simpa only [List.reverse_append, List.reverse_cons, List.append_assoc, List.cons_append,
      List.nil_append] using h_place
  rw [lowerWithin_append, lowerWithin_append, lowerWithin, lowerWithin, lowerBetween_sigma,
    lowerBetween_sigma, List.count_append, List.count_append, List.count_append, List.count_append,
    count_sigmaForm, count_sigmaForm, if_pos h_had, if_neg h_lost]
  omega

/-! ### Any other text is missed somewhere -/

theorem exists_not_fixes {s : List Char} (h : ¬ IsSettled s) :
    ∃ p q, s = p ++ 'Σ' :: q ∧ ¬ Fixes p.reverse q := by
  simpa only [IsSettled, Classical.not_forall, exists_prop] using h

theorem meetsCased_capitalA : meetsCased ['A'] = true := by decide +kernel

/-- Behind a letter, a capital sigma that begins its text may end a word. -/
theorem not_isInfix_behind {p q : List Char} (h_before : ¬ Decides p.reverse)
    (h_after : meetsCased q = false) :
    ¬ lowercase (p ++ 'Σ' :: q) <:+: lowercase ('A' :: (p ++ 'Σ' :: q)) := by
  have h_count : (lowerWithin ['A'] (p ++ 'Σ' :: q) []).count (sigmaForm false) <
      (lowerWithin [] (p ++ 'Σ' :: q) []).count (sigmaForm false) := by
    refine count_lowerWithin_lt (fun p' q' _ h_form => ?_) ?_ ?_
    · -- A capital sigma that ended a word by itself still does.
      by_cases h_place : Decides p'.reverse
      · rwa [endsWord, meetsCased_append_of_decides h_place] at h_form ⊢
      · rw [List.append_nil p'.reverse, endsWord, meetsCased_of_not_decides h_place, Bool.false_and]
    · rw [List.append_nil p.reverse, endsWord, meetsCased_of_not_decides h_before, Bool.false_and]
    · rw [List.append_nil q, endsWord, meetsCased_append_of_not_decides h_before,
        meetsCased_capitalA, h_after]
      decide
  have h_whole : lowercase ('A' :: (p ++ 'Σ' :: q)) =
      'a' :: lowerWithin ['A'] (p ++ 'Σ' :: q) [] := by
    rw [lowercase_eq_lowerWithin]
    rfl
  intro h_infix
  have h_le := h_infix.sublist.count_le (sigmaForm false)
  rw [h_whole, lowercase_eq_lowerWithin, List.count_cons_of_ne (by decide)] at h_le
  exact absurd h_count (Nat.not_lt.mpr h_le)

/-- Before a letter, a capital sigma that ends its text ends no word. -/
theorem not_isInfix_before {p q : List Char} (h_before : meetsCased p.reverse = true)
    (h_after : ¬ Decides q) :
    ¬ lowercase (p ++ 'Σ' :: q) <:+: lowercase (p ++ 'Σ' :: q ++ ['A']) := by
  have h_count : (lowerWithin [] (p ++ 'Σ' :: q) ['A']).count (sigmaForm true) <
      (lowerWithin [] (p ++ 'Σ' :: q) []).count (sigmaForm true) := by
    refine count_lowerWithin_lt (fun p' q' _ h_form => ?_) ?_ ?_
    · by_cases h_place : Decides q'
      · rwa [endsWord, meetsCased_append_of_decides h_place] at h_form ⊢
      · rw [endsWord, meetsCased_append_of_not_decides h_place, meetsCased_capitalA, Bool.not_true,
          Bool.and_false] at h_form
        cases h_form
    · rw [List.append_nil p.reverse, List.append_nil q, endsWord, h_before,
        meetsCased_of_not_decides h_after]
      rfl
    · rw [endsWord, meetsCased_append_of_not_decides h_after, meetsCased_capitalA, Bool.not_true,
        Bool.and_false]
      decide
  have h_whole : lowercase (p ++ 'Σ' :: q ++ ['A']) =
      lowerWithin [] (p ++ 'Σ' :: q) ['A'] ++ ['a'] := by
    rw [lowercase_eq_lowerWithin, lowerWithin_append]
    rfl
  intro h_infix
  have h_le := h_infix.sublist.count_le (sigmaForm true)
  rw [h_whole, lowercase_eq_lowerWithin, List.count_append,
    show ['a'].count (sigmaForm true) = 0 by decide, Nat.add_zero] at h_le
  exact absurd h_count (Nat.not_lt.mpr h_le)

/-- The settled texts are those that are found, in lower case, wherever they occur. -/
theorem isSettled_iff (s : List Char) :
    IsSettled s ↔ ∀ t, s <:+: t → lowercase s <:+: lowercase t := by
  refine ⟨fun hs t h => hs.isInfix h, fun h => Decidable.byContradiction fun h_not => ?_⟩
  obtain ⟨p, q, rfl, h_fixes⟩ := exists_not_fixes h_not
  by_cases h_before : Decides p.reverse
  · -- Both sides would be fixed but for what follows.
    have h_cased : meetsCased p.reverse = true := by
      cases h_meets : meetsCased p.reverse with
      | true => rfl
      | false => exact absurd (.inr ⟨h_before, .inl h_meets⟩) h_fixes
    have h_after : ¬ Decides q := fun h_decides => h_fixes (.inr ⟨h_before, .inr h_decides⟩)
    exact not_isInfix_before h_cased h_after (h _ (List.prefix_append _ _).isInfix)
  · have h_after : meetsCased q = false := by
      cases h_meets : meetsCased q with
      | true => exact absurd (.inl h_meets) h_fixes
      | false => rfl
    exact not_isInfix_behind h_before h_after (h _ (List.suffix_cons _ _).isInfix)

end PolicyTrial.Text
