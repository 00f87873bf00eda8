import PolicyTrial.Outcome
import PolicyTrial.Json.Printer
import PolicyTrial.Proofs.Text.Capitals
import PolicyTrial.Proofs.Text.NewLine

/-!
# Tokens in upper case

What a token says is read off its upper case form, without the blanks around it.

* `ofToken_eq_empty_iff`: a token says nothing only if it is blank, since no character has an empty
  upper case form.
* `ofToken_number`: a number spells no outcome. Its text starts with a digit or a minus sign, which
  has no other upper case form, and no spelling starts with one.
-/

namespace PolicyTrial

namespace Text

/-! ### Numerals -/

/-- A character that a number may start with. -/
def StartsNumber (c : Char) : Prop := c.isDigit = true ∨ c = '-'

theorem StartsNumber.upperChar {c : Char} (hc : StartsNumber c) :
    isBlank c = false ∧ upperChar c = [c] := by
  have h_all : ∀ n < 58, (Char.ofNat n).isDigit = true ∨ Char.ofNat n = '-' →
      isBlank (Char.ofNat n) = false ∧ Text.upperChar (Char.ofNat n) = [Char.ofNat n] := by
    decide +kernel
  have h_char := h_all c.toNat (toNat_lt_of_decimal hc)
  rw [Char.ofNat_toNat] at h_char
  exact h_char hc

/-- A character that is not blank stays in front when blanks are cut off. -/
theorem trim_cons_of_not_isBlank {c : Char} (hc : isBlank c = false) (rest : List Char) :
    ∃ rest', trim (c :: rest) = c :: rest' := by
  have h_start : trimStart (c :: rest) = c :: rest := by
    rw [trimStart, List.dropWhile_cons_of_neg (by rw [hc]; exact Bool.false_ne_true)]
  rw [trim, h_start, trimEnd, List.reverse_cons, List.dropWhile_append]
  split
  · refine ⟨[], ?_⟩
    rw [List.dropWhile_cons_of_neg (by rw [hc]; exact Bool.false_ne_true)]
    rfl
  · exact ⟨_, List.reverse_append⟩

end Text

/-! ### Numbers -/

/-- The text of a number starts with a digit or a minus sign. -/
def Text.IsNumberText (text : List Char) : Prop := ∃ c rest, text = c :: rest ∧ StartsNumber c

namespace Json

theorem isNumberText_toDigits (n : Nat) : Text.IsNumberText (Nat.toDigits 10 n) := by
  cases h : Nat.toDigits 10 n with
  | nil => exact absurd h Nat.toDigits_ne_nil
  | cons c rest =>
    have h_mem : c ∈ Nat.toDigits 10 n := by
      rw [h]
      exact List.mem_cons_self
    exact ⟨c, rest, rfl, .inl (Nat.isDigit_of_mem_toDigits (by decide) (by decide) h_mem)⟩

theorem isNumberText_integerText (i : Int) : Text.IsNumberText (integerText i) := by
  unfold integerText
  split
  · exact ⟨'-', _, rfl, .inr rfl⟩
  · exact isNumberText_toDigits i.natAbs

theorem isNumberText_positional {digits : List Char} (h : Text.IsNumberText digits)
    (exponent : Int) : Text.IsNumberText (RealLayout.positional digits exponent) := by
  obtain ⟨c, rest, rfl, hc⟩ := h
  unfold RealLayout.positional
  dsimp only
  split
  · exact ⟨c, _, rfl, hc⟩
  · split
    · -- the point stands behind at least one digit
      obtain ⟨k, hk⟩ : ∃ k, (((c :: rest).length : Int) + exponent).toNat = k + 1 :=
        ⟨_, (Nat.sub_add_cancel (by omega)).symm⟩
      rw [hk]
      exact ⟨c, _, rfl, hc⟩
    · exact ⟨'0', _, rfl, .inl rfl⟩

theorem isNumberText_scientific {digits : List Char} (h : Text.IsNumberText digits)
    (exponent : Int) : Text.IsNumberText (RealLayout.scientific digits exponent) := by
  obtain ⟨c, rest, rfl, hc⟩ := h
  exact ⟨c, _, rfl, hc⟩

theorem isNumberText_render (layout : RealLayout) (x : Binary64) :
    Text.IsNumberText (layout.render x) := by
  have h_digits := isNumberText_toDigits x.shortest.digits
  unfold RealLayout.render
  dsimp only
  split
  · exact ⟨'-', _, rfl, .inr rfl⟩
  · split
    · exact isNumberText_positional h_digits x.shortest.exponent
    · exact isNumberText_scientific h_digits x.shortest.exponent

theorem Number.isNumberText_text (n : Number) : Text.IsNumberText n.text := by
  cases n with
  | integer i => exact isNumberText_integerText i
  | real x => exact isNumberText_render .json x

end Json

/-! ### What tokens say -/

namespace Recognition

theorem outcome?_eq_some_iff {r : Recognition} {o : Outcome} :
    r.outcome? = some o ↔ r = .canonical o := by
  cases r with
  | canonical o' => simp only [outcome?, Option.some.injEq, canonical.injEq]
  | unrecognized shown | empty => simp only [outcome?, reduceCtorEq]

theorem upperTrimmed_eq_empty_iff {token : String} :
    upperTrimmed token = "" ↔ Text.trim token.toList = [] := by
  rw [upperTrimmed, ← String.ofList_nil, String.ofList_inj, Text.uppercase_eq_nil_iff]

/-- A token says nothing exactly if it is blank. -/
theorem ofToken_eq_empty_iff {token : String} :
    ofToken (some token) = .empty ↔ Text.trim token.toList = [] := by
  rw [← upperTrimmed_eq_empty_iff, ofToken, ofUpper]
  constructor
  · intro h
    split at h
    · assumption
    · split at h <;> cases h
  · intro h
    rw [if_pos h]

theorem ofToken_of_not_blank {token : String} (h : Text.trim token.toList ≠ []) :
    ofToken (some token) =
      ((Outcome.spellings.lookup (upperTrimmed token)).map canonical).getD
        (.unrecognized (upperTrimmed token)) := by
  rw [ne_eq, ← upperTrimmed_eq_empty_iff] at h
  rw [ofToken, ofUpper, if_neg h]
  cases Outcome.spellings.lookup (upperTrimmed token) with
  | none | some o => rfl

/-- A token that is not blank and spells no outcome is kept in upper case. -/
theorem ofToken_eq_unrecognized {token : String} (h : Text.trim token.toList ≠ [])
    (h_none : (ofToken (some token)).outcome? = none) :
    ofToken (some token) = .unrecognized (upperTrimmed token) := by
  rw [ofToken_of_not_blank h] at h_none ⊢
  cases h_lookup : Outcome.spellings.lookup (upperTrimmed token) with
  | none => rfl
  | some o =>
    rw [h_lookup] at h_none
    cases h_none

/-- A number is no token that is known. -/
theorem ofToken_number (n : Json.Number) :
    ofToken (some (String.ofList n.text)) =
      .unrecognized (upperTrimmed (String.ofList n.text)) := by
  obtain ⟨c, rest, h_text, hc⟩ := n.isNumberText_text
  obtain ⟨h_blank, h_char⟩ := hc.upperChar
  obtain ⟨rest', h_trim⟩ := Text.trim_cons_of_not_isBlank h_blank rest
  have h_upper : (upperTrimmed (String.ofList n.text)).toList = c :: Text.uppercase rest' := by
    rw [upperTrimmed, String.toList_ofList, String.toList_ofList, h_text, h_trim, Text.uppercase,
      List.flatMap_cons, h_char]
    rfl
  have h_some : Text.trim (String.ofList n.text).toList ≠ [] := by
    rw [String.toList_ofList, h_text, h_trim]
    exact List.cons_ne_nil c rest'
  have h_letters : ∀ p ∈ Outcome.spellings,
      p.1.toList.head?.any (fun d => d.isDigit || d == '-') = false := by
    decide +kernel
  have h_lookup : Outcome.spellings.lookup (upperTrimmed (String.ofList n.text)) = none := by
    rw [List.lookup_eq_none_iff]
    intro p hp
    rw [bne_iff_ne]
    intro h_spelled
    have h_letter := h_letters p hp
    rw [← h_spelled, h_upper, List.head?_cons, Option.any_some, Bool.or_eq_false_iff] at h_letter
    rcases hc with h_digit | rfl
    · rw [h_digit] at h_letter
      cases h_letter.1
    · cases h_letter.2
  rw [ofToken_of_not_blank h_some, h_lookup]
  rfl

end Recognition

end PolicyTrial
