import Mathlib.Data.List.Infix
import PolicyTrial.Proofs.Text.CaseTable
import PolicyTrial.Proofs.Text.Fragments
import PolicyTrial.Proofs.Text.LowerCase

/-!
# Fragments and new lines

Texts are put together with a new line between them. The lower case form of the whole is then made
of theirs, so the search for a fragment can be taken apart:

* `holds_line_iff`: a text whose first line is `line` holds a fragment if the line or the rest does,
  or if the fragment goes across the new line.
* `holds_newLine_iff`: a new line alone holds two fragments, the empty one and itself.

Both rest on the new line being the lower case form of nothing but itself (`mem_lowercase_iff`), and
on no character having an empty lower case form (`length_le_length_lowercase`).
-/

namespace PolicyTrial.Text

/-! ### The forms of single characters -/

/-- Whatever is written in decimal is written in the first characters. -/
theorem toNat_lt_of_decimal {c : Char} (hc : c.isDigit = true ∨ c = '-') : c.toNat < 58 := by
  rcases hc with h_digit | rfl
  · rw [Char.isDigit, Bool.and_eq_true, decide_eq_true_iff, decide_eq_true_iff] at h_digit
    exact Nat.lt_succ_of_le (UInt32.le_iff_toNat_le.mp h_digit.2)
  · decide

theorem lowerChar_ne_nil (c : Char) : lowerChar c ≠ [] := by
  unfold lowerChar
  split
  · exact List.cons_ne_nil _ _
  · rw [ne_eq, List.map_eq_nil_iff]
    exact formOf_ne_nil (by decide) c.toNat

theorem lowerBetween_ne_nil (before : List Char) (c : Char) (after : List Char) :
    lowerBetween before c after ≠ [] := by
  unfold lowerBetween
  split
  · exact List.cons_ne_nil _ _
  · exact lowerChar_ne_nil c

theorem toLower_eq_newLine {n : Nat} (hn : n < 0x80) (h : (Char.ofNat n).toLower = '\n') :
    n = 0xA := by
  revert n
  decide

theorem ofNat_ne_newLine {n : Nat} (hn : 0x61 ≤ n) : Char.ofNat n ≠ '\n' := by
  intro h
  rcases toNat_ofNat n with h_code | h_null
  · rw [h] at h_code
    have h_newLine : n = 0xA := h_code.symm
    omega
  · exact absurd (h.symm.trans h_null) (by decide)

/-- No other character becomes a new line: the tables have images from the small letters on only. -/
theorem eq_of_mem_lowerChar {c : Char} (h : '\n' ∈ lowerChar c) : c = '\n' := by
  unfold lowerChar at h
  split at h
  · next h_ascii =>
    rw [List.mem_singleton, ← Char.ofNat_toNat c] at h
    rw [← Char.ofNat_toNat c, toLower_eq_newLine h_ascii h.symm]
  · next h_ascii =>
    obtain ⟨m, hm, h_char⟩ := List.mem_map.mp h
    have h_le : 0x61 ≤ m := le_of_mem_formOf (by decide +kernel) (by decide +kernel) (by omega) hm
    exact absurd h_char (ofNat_ne_newLine h_le)

/-! ### The forms of texts -/

theorem mem_lowerWithin {s before after : List Char} (h : '\n' ∈ lowerWithin before s after) :
    '\n' ∈ s := by
  induction s generalizing before with
  | nil => exact h
  | cons c rest ih =>
    rw [lowerWithin, List.mem_append] at h
    rcases h with h_head | h_rest
    · rw [lowerBetween] at h_head
      split at h_head
      · split at h_head <;> exact absurd h_head (by decide)
      · rw [eq_of_mem_lowerChar h_head]
        exact List.mem_cons_self
    · exact List.mem_cons_of_mem c (ih h_rest)

/-- The lines of a text have their lower case forms each by itself. -/
theorem lowercase_append_newLine (s t : List Char) :
    lowercase (s ++ '\n' :: t) = lowercase s ++ '\n' :: lowercase t := by
  rw [lowercase_append_cons (by decide +kernel) (by decide +kernel), List.append_assoc]
  rfl

theorem mem_lowercase_iff (s : List Char) : '\n' ∈ lowercase s ↔ '\n' ∈ s := by
  constructor
  · rw [lowercase_eq_lowerWithin]
    exact mem_lowerWithin
  · intro h
    obtain ⟨p, q, rfl⟩ := List.append_of_mem h
    rw [lowercase_append_newLine]
    exact List.mem_append_right _ List.mem_cons_self

theorem length_le_length_lowerWithin (before s after : List Char) :
    s.length ≤ (lowerWithin before s after).length := by
  induction s generalizing before with
  | nil => exact Nat.le_refl 0
  | cons c rest ih =>
    have h_head := List.length_pos_iff.mpr (lowerBetween_ne_nil before c (rest ++ after))
    have h_rest := ih (c :: before)
    rw [lowerWithin, List.length_append, List.length_cons]
    omega

theorem length_le_length_lowercase (s : List Char) : s.length ≤ (lowercase s).length := by
  rw [lowercase_eq_lowerWithin]
  exact length_le_length_lowerWithin [] s []

/-- A new line alone has, in lower case, the empty text and itself for parts. -/
theorem lowercase_isInfix_newLine_iff (s : List Char) :
    lowercase s <:+: ['\n'] ↔ s = [] ∨ s = ['\n'] := by
  rw [List.infix_singleton_iff]
  constructor
  · have h_length := length_le_length_lowercase s
    rintro (h | h)
    · rw [h] at h_length
      exact .inl (List.length_eq_zero_iff.mp (Nat.le_zero.mp h_length))
    · -- A text with a new line in it that is one character long is that new line.
      have h_mem : '\n' ∈ s := (mem_lowercase_iff s).mp (by rw [h]; exact List.mem_cons_self)
      rw [h] at h_length
      obtain ⟨p, q, rfl⟩ := List.append_of_mem h_mem
      rw [List.length_append, List.length_cons, List.length_singleton] at h_length
      have hp : p = [] := List.length_eq_zero_iff.mp (by omega)
      have hq : q = [] := List.length_eq_zero_iff.mp (by omega)
      rw [hp, hq]
      exact .inr rfl
  · rintro (rfl | rfl)
    · exact .inl rfl
    · exact .inr (lowercase_append_newLine [] [])

end PolicyTrial.Text

namespace PolicyTrial

/-- A part of two texts with a character between them is a part of one of them, or it goes across
that character. -/
theorem isInfix_append_cons_iff {α : Type} {l s t : List α} {c : α} :
    l <:+: s ++ c :: t ↔
      l <:+: s ∨ l <:+: t ∨ ∃ u v, l = u ++ c :: v ∧ u <:+ s ∧ v <+: t := by
  rw [List.infix_append_iff]
  constructor
  · rintro (h | h | ⟨u, w, rfl, hu, hw⟩)
    · exact .inl h
    · rcases List.infix_cons_iff.mp h with h | h
      · rcases List.prefix_cons_iff.mp h with rfl | ⟨v, rfl, hv⟩
        · exact .inl (List.nil_infix)
        · exact .inr (.inr ⟨[], v, rfl, List.nil_suffix, hv⟩)
      · exact .inr (.inl h)
    · rcases List.prefix_cons_iff.mp hw with rfl | ⟨v, rfl, hv⟩
      · exact .inl (by rw [List.append_nil]; exact hu.isInfix)
      · exact .inr (.inr ⟨u, v, rfl, hu, hv⟩)
  · rintro (h | h | ⟨u, v, rfl, hu, hv⟩)
    · exact .inl h
    · exact .inr (.inl (List.infix_cons_iff.mpr (.inr h)))
    · exact .inr (.inr ⟨u, c :: v, rfl, hu, List.prefix_cons_iff.mpr (.inr ⟨v, rfl, hv⟩)⟩)

/-- A fragment goes across the new line that ends a line: in lower case, its start is the end of the
line, and behind a new line it goes on with the start of what follows. -/
def Crosses (line rest fragment : String) : Prop :=
  ∃ u v, Text.lowercase fragment.toList = u ++ '\n' :: v ∧
    u <:+ Text.lowercase line.toList ∧ v <+: Text.lowercase rest.toList

/-- A line and what follows it have their lower case forms each by itself. -/
theorem lowercase_line (line rest : String) :
    Text.lowercase (line ++ "\n" ++ rest).toList =
      Text.lowercase line.toList ++ '\n' :: Text.lowercase rest.toList := by
  have h_text : (line ++ "\n" ++ rest).toList = line.toList ++ '\n' :: rest.toList := by
    rw [String.toList_append, String.toList_append, List.append_assoc]
    rfl
  rw [h_text, Text.lowercase_append_newLine]

/-- A text behind a line holds what one of them holds, and what goes across. -/
theorem holds_line_iff (line rest fragment : String) :
    Holds (line ++ "\n" ++ rest) fragment ↔
      Holds line fragment ∨ Holds rest fragment ∨ Crosses line rest fragment := by
  rw [Holds, lowercase_line]
  exact isInfix_append_cons_iff

/-- Only a fragment with a new line goes across one. -/
theorem Crosses.newLine_mem {line rest fragment : String} (h : Crosses line rest fragment) :
    '\n' ∈ fragment.toList := by
  obtain ⟨u, v, h_eq, -, -⟩ := h
  rw [← Text.mem_lowercase_iff, h_eq]
  exact List.mem_append_right u List.mem_cons_self

/-- A line that does not hold a fragment of one line does not matter to it. -/
theorem holds_line_iff_of_not_holds {line rest fragment : String}
    (h_newLine : '\n' ∉ fragment.toList) (h_line : ¬ Holds line fragment) :
    Holds (line ++ "\n" ++ rest) fragment ↔ Holds rest fragment := by
  rw [holds_line_iff]
  constructor
  · rintro (h | h | h)
    · exact absurd h h_line
    · exact h
    · exact absurd h.newLine_mem h_newLine
  · exact fun h => .inr (.inl h)

theorem holds_newLine_iff (fragment : String) :
    Holds "\n" fragment ↔ fragment = "" ∨ fragment = "\n" := by
  have h_lower : Text.lowercase "\n".toList = ['\n'] := Text.lowercase_append_newLine [] []
  rw [Holds, h_lower, Text.lowercase_isInfix_newLine_iff, ← String.toList_inj, ← String.toList_inj]
  rfl

end PolicyTrial
