import PolicyTrial.Text.LetterCase

/-!
# Lower case, part by part

The lower case form of a text is read off its parts. Every character but one has the same lower case
form wherever it stands; a capital sigma looks at what surrounds it, on either side as far as the
first character that is not case-ignorable.

* `lowerWithin`: the lower case form of a text between two others. The form of a whole is made of
  those of its parts (`lowerWithin_append`).
* `Decides`: a text that such a look does not pass through.
* `Fixes`: the surroundings of a place that leave nothing to what lies behind them.
* `lowercase_append_cons`: a character that is neither case-ignorable nor a letter with case keeps
  what is before it apart from what is after it.
-/

namespace PolicyTrial.Text

/-- The lower case form of a text that stands between two others, the first one reversed. -/
def lowerWithin (before : List Char) : List Char → List Char → List Char
  | [], _ => []
  | c :: rest, after =>
    lowerBetween before c (rest ++ after) ++ lowerWithin (c :: before) rest after

theorem lowerOnto_eq (before out s : List Char) :
    lowerOnto before out s = out.reverse ++ lowerWithin before s [] := by
  induction s generalizing before out with
  | nil => rw [lowerOnto, lowerWithin, List.append_nil]
  | cons c rest ih =>
    rw [lowerOnto, ih, lowerWithin, List.reverse_append, List.reverse_reverse, List.append_nil,
      List.append_assoc]

theorem lowercase_eq_lowerWithin (s : List Char) : lowercase s = lowerWithin [] s [] := by
  rw [lowercase, lowerOnto_eq, List.reverse_nil, List.nil_append]

/-- Each of two parts is surrounded by the other one. -/
theorem lowerWithin_append (before s t after : List Char) :
    lowerWithin before (s ++ t) after =
      lowerWithin before s (t ++ after) ++ lowerWithin (s.reverse ++ before) t after := by
  induction s generalizing before with
  | nil => rfl
  | cons c s ih =>
    rw [List.cons_append, lowerWithin, lowerWithin, ih, List.append_assoc, List.append_assoc,
      List.reverse_cons, List.append_assoc]
    rfl

/-- The lower case form of a part, where it stands, is a part of the lower case form. -/
theorem lowerWithin_isInfix (a s b : List Char) :
    lowerWithin a.reverse s b <:+: lowercase (a ++ s ++ b) := by
  refine ⟨lowerWithin [] a (s ++ b), lowerWithin (s.reverse ++ a.reverse) b [], ?_⟩
  rw [lowercase_eq_lowerWithin, List.append_assoc a, lowerWithin_append, lowerWithin_append,
    List.append_nil, List.append_nil, List.append_nil, List.append_assoc]

/-! ### How far a capital sigma looks -/

/-- A text has a character that is not case-ignorable. -/
def Decides (s : List Char) : Prop := ∃ c ∈ s, caseIgnorable.contains c = false

instance (s : List Char) : Decidable (Decides s) :=
  decidable_of_iff (s.any (fun c => !caseIgnorable.contains c) = true) <| by
    simp only [List.any_eq_true, Bool.not_eq_true', Decides]

/-- The look of a capital sigma ends in a text that has a character to end it. -/
theorem meetsCased_append_of_decides {s : List Char} (h : Decides s) (t : List Char) :
    meetsCased (s ++ t) = meetsCased s := by
  induction s with
  | nil =>
    obtain ⟨c, hc, -⟩ := h
    cases hc
  | cons c s ih =>
    cases hc : caseIgnorable.contains c with
    | false => simp [meetsCased, hc]
    | true =>
      obtain ⟨d, hd, h_ignorable⟩ := h
      rcases List.mem_cons.mp hd with rfl | hd
      · rw [hc] at h_ignorable
        cases h_ignorable
      · simpa [meetsCased, hc] using ih ⟨d, hd, h_ignorable⟩

/-- It passes through any other text. -/
theorem meetsCased_append_of_not_decides {s : List Char} (h : ¬ Decides s) (t : List Char) :
    meetsCased (s ++ t) = meetsCased t := by
  induction s with
  | nil => rfl
  | cons c s ih =>
    have hc : caseIgnorable.contains c = true := by
      cases hc : caseIgnorable.contains c with
      | true => rfl
      | false => exact absurd ⟨c, List.mem_cons_self, hc⟩ h
    have h_rest : ¬ Decides s := fun ⟨d, hd, h_ignorable⟩ =>
      h ⟨d, List.mem_cons_of_mem c hd, h_ignorable⟩
    simpa [meetsCased, hc] using ih h_rest

theorem meetsCased_of_not_decides {s : List Char} (h : ¬ Decides s) : meetsCased s = false := by
  have h_nil := meetsCased_append_of_not_decides h []
  rw [List.append_nil] at h_nil
  rw [h_nil]
  rfl

theorem decides_of_meetsCased {s : List Char} (h : meetsCased s = true) : Decides s := by
  refine Decidable.byContradiction fun h_not => ?_
  rw [meetsCased_of_not_decides h_not] at h
  cases h

/-- Whether a place ends a word is fixed by the texts around it, the first one reversed: a letter
with case follows, or no such letter precedes, or both sides are decided. -/
def Fixes (before after : List Char) : Prop :=
  meetsCased after = true ∨ Decides before ∧ (meetsCased before = false ∨ Decides after)

instance (before after : List Char) : Decidable (Fixes before after) :=
  inferInstanceAs (Decidable
    (meetsCased after = true ∨ Decides before ∧ (meetsCased before = false ∨ Decides after)))

theorem endsWord_of_fixes {before after : List Char} (h : Fixes before after)
    (farBefore farAfter : List Char) :
    endsWord (before ++ farBefore) (after ++ farAfter) = endsWord before after := by
  unfold endsWord
  rcases h with h_after | ⟨h_before, h_uncased | h_after⟩
  · rw [meetsCased_append_of_decides (decides_of_meetsCased h_after), h_after, Bool.not_true,
      Bool.and_false, Bool.and_false]
  · rw [meetsCased_append_of_decides h_before, h_uncased, Bool.false_and, Bool.false_and]
  · rw [meetsCased_append_of_decides h_before, meetsCased_append_of_decides h_after]

/-- The lower case form of a text depends on its surroundings only where a capital sigma stands. -/
theorem lowerWithin_congr {before before' after after' s : List Char}
    (h : ∀ p q, s = p ++ 'Σ' :: q →
      endsWord (p.reverse ++ before) (q ++ after) =
        endsWord (p.reverse ++ before') (q ++ after')) :
    lowerWithin before s after = lowerWithin before' s after' := by
  induction s generalizing before before' with
  | nil => rfl
  | cons c rest ih =>
    have h_head : lowerBetween before c (rest ++ after) =
        lowerBetween before' c (rest ++ after') := by
      unfold lowerBetween
      by_cases hc : c = 'Σ'
      · have h_place : endsWord before (rest ++ after) = endsWord before' (rest ++ after') :=
          h [] rest (by rw [hc]; rfl)
        rw [if_pos hc, if_pos hc, h_place]
      · rw [if_neg hc, if_neg hc]
    have h_rest :
        lowerWithin (c :: before) rest after = lowerWithin (c :: before') rest after' := by
      refine ih fun p q h_eq => ?_
      have h_place := h (c :: p) q (by rw [h_eq]; rfl)
      rwa [List.reverse_cons, List.append_assoc, List.append_assoc] at h_place
    rw [lowerWithin, lowerWithin, h_head, h_rest]

/-- A text is its own lower case form if its characters are. -/
theorem lowercase_eq_self {s : List Char} (h : ∀ c ∈ s, c ≠ 'Σ' ∧ lowerChar c = [c]) :
    lowercase s = s := by
  suffices ∀ before, lowerWithin before s [] = s by rw [lowercase_eq_lowerWithin, this]
  induction s with
  | nil => exact fun _ => rfl
  | cons c rest ih =>
    intro before
    obtain ⟨h_sigma, h_char⟩ := h c List.mem_cons_self
    rw [lowerWithin, lowerBetween, if_neg h_sigma, h_char,
      ih (fun d hd => h d (List.mem_cons_of_mem c hd)), List.singleton_append]

/-! ### Texts kept apart -/

/-- A look for a letter with case ends at a character that is neither ignored nor such a letter. -/
theorem meetsCased_append_cons {c : Char} (h_ignorable : caseIgnorable.contains c = false)
    (h_cased : casedLetters.contains c = false) (s t : List Char) :
    meetsCased (s ++ c :: t) = meetsCased s := by
  by_cases hs : Decides s
  · exact meetsCased_append_of_decides hs _
  · have h_stop : meetsCased (c :: t) = false := by
      simp only [meetsCased, List.dropWhile_cons, h_ignorable, Bool.false_eq_true, if_false,
        h_cased]
    rw [meetsCased_append_of_not_decides hs, h_stop, meetsCased_of_not_decides hs]

/-- Such a character keeps what is before it apart from what is after it. -/
theorem lowercase_append_cons {c : Char} (h_ignorable : caseIgnorable.contains c = false)
    (h_cased : casedLetters.contains c = false) (s t : List Char) :
    lowercase (s ++ c :: t) = lowercase s ++ lowerChar c ++ lowercase t := by
  have h_sigma : c ≠ 'Σ' := by
    rintro rfl
    exact absurd h_cased (by decide +kernel)
  have h_before : lowerWithin [] s (c :: t) = lowerWithin [] s [] := by
    refine lowerWithin_congr fun p q _ => ?_
    rw [endsWord, endsWord, meetsCased_append_cons h_ignorable h_cased, List.append_nil q]
  have h_after : lowerWithin (c :: s.reverse) t [] = lowerWithin [] t [] := by
    refine lowerWithin_congr fun p q _ => ?_
    rw [endsWord, endsWord, meetsCased_append_cons h_ignorable h_cased, List.append_nil p.reverse]
  rw [lowercase_eq_lowerWithin, lowercase_eq_lowerWithin, lowercase_eq_lowerWithin,
    lowerWithin_append, lowerWithin, lowerBetween, if_neg h_sigma, List.append_nil,
    List.append_nil s.reverse, h_before, h_after, List.append_assoc]

end PolicyTrial.Text
