import Mathlib.Data.List.DropRight
import PolicyTrial.Proofs.Text.CaseTable
import PolicyTrial.Text.Blank
import PolicyTrial.Text.LetterCase

/-!
# Texts in capitals

The upper case form of a trimmed text is a text that trimming and upper case leave as it is.

* `upperChar_of_mem`: what a character becomes in upper case has no other upper case form. The table
  of upper case forms makes no code point that it has itself.
* `isBlank_of_mem_upperChar`: no character becomes a blank.
* `Bare`: a text with no blank at its two ends. Trimming makes it (`bare_trim`) and keeps it
  (`Bare.trim_eq`), and upper case keeps it, too (`Bare.uppercase`).
* `uppercase_eq_iff`: which texts become a word in upper case. Most capital letters are the upper
  case form of themselves, of their small letter and of nothing else; I is that of one character
  more, and F and S are left out, since some characters become several of them.
-/

namespace PolicyTrial.Text

/-! ### Members of a set of characters -/

/-- The code points between the first two boundaries, the next two, and so on. -/
def CharSet.members : List Nat → List Nat
  | a :: b :: bounds => List.range' a (b - a) ++ members bounds
  | _ => []

theorem CharSet.mem_members {bounds : List Nat} {n : Nat} (h_even : bounds.length % 2 = 0)
    (h : inside bounds n = true) : n ∈ members bounds := by
  induction bounds using CharSet.members.induct with
  | case1 a b bounds ih =>
    rw [members, List.mem_append, List.mem_range'_1]
    rw [List.length_cons, List.length_cons] at h_even
    rw [inside] at h
    split at h
    · cases h
    · rw [inside] at h
      split at h
      · exact .inl (by omega)
      · rw [Bool.not_not] at h
        exact .inr (ih (by omega) h)
  | case2 bounds h_short =>
    -- Fewer than two boundaries are none, since there is an even number of them.
    rcases bounds with _ | ⟨a, _ | ⟨b, rest⟩⟩
    · cases h
    · cases h_even
    · exact absurd rfl (h_short a b rest)

/-! ### Single characters -/

/-- The table has the forms of the first characters, too: its first run is that of their letters,
and all else in it lies behind. -/
theorem upperChar_eq_map (c : Char) :
    upperChar c = (formOf upperRuns upperExpansions c.toNat).map Char.ofNat := by
  have h_letters : ∀ n < 0x80,
      (Char.ofNat n).toUpper =
        Char.ofNat (((⟨0x61, 0x7A, 1, 0x41⟩ : CaseRun).image? n).getD n) := by
    decide
  rw [upperChar]
  split
  · next h =>
    have h_form : formOf upperRuns upperExpansions c.toNat =
        [((⟨0x61, 0x7A, 1, 0x41⟩ : CaseRun).image? c.toNat).getD c.toNat] :=
      @formOf_cons_of_lt upperRuns.tail _ _ _ _ (by decide +kernel) (by decide +kernel) h
    rw [h_form, List.map_singleton, ← h_letters c.toNat h, Char.ofNat_toNat]
  · rfl

theorem upperChar_ne_nil (c : Char) : upperChar c ≠ [] := by
  rw [upperChar_eq_map, ne_eq, List.map_eq_nil_iff]
  exact formOf_ne_nil (by decide) c.toNat

/-- What the table makes of its code points is neither one of these nor a blank. -/
theorem upper_images_disjoint :
    (codesOf upperRuns upperExpansions ++ CharSet.members blanks.bounds).Disjoint
      (imagesOf upperRuns upperExpansions) :=
  disjoint_of_mask (by decide +kernel)

/-- What a character becomes in upper case is the character itself or comes from an image of the
table. -/
theorem mem_upperChar {c d : Char} (hd : d ∈ upperChar c) :
    upperChar c = [c] ∧ d = c ∨ d = '\x00' ∨ d.toNat ∈ imagesOf upperRuns upperExpansions := by
  rw [upperChar_eq_map] at hd ⊢
  obtain ⟨m, hm, rfl⟩ := List.mem_map.mp hd
  rcases mem_formOf hm with ⟨h_form, rfl⟩ | h_image
  · rw [h_form, List.map_singleton, Char.ofNat_toNat]
    exact .inl ⟨rfl, rfl⟩
  · rcases toNat_ofNat m with h | h
    · exact .inr (.inr (by rw [h]; exact h_image))
    · exact .inr (.inl h)

theorem upperChar_of_mem {c d : Char} (hd : d ∈ upperChar c) : upperChar d = [d] := by
  rcases mem_upperChar hd with ⟨h_self, rfl⟩ | rfl | h_image
  · exact h_self
  · decide +kernel
  · have h_code : d.toNat ∉ codesOf upperRuns upperExpansions := fun h =>
      upper_images_disjoint (List.mem_append_left _ h) h_image
    rw [upperChar_eq_map, formOf_eq_self h_code, List.map_singleton, Char.ofNat_toNat]

theorem isBlank_of_mem_upperChar {c d : Char} (hc : isBlank c = false) (hd : d ∈ upperChar c) :
    isBlank d = false := by
  rcases mem_upperChar hd with ⟨-, rfl⟩ | rfl | h_image
  · exact hc
  · decide
  · rw [← Bool.not_eq_true]
    intro h_blank
    exact upper_images_disjoint
      (List.mem_append_right _ (CharSet.mem_members (by decide) h_blank)) h_image

/-! ### Texts -/

theorem uppercase_uppercase (s : List Char) : uppercase (uppercase s) = uppercase s := by
  have h_kept : ∀ d ∈ uppercase s, upperChar d = [d] := by
    intro d hd
    obtain ⟨c, -, hd⟩ := List.mem_flatMap.mp hd
    exact upperChar_of_mem hd
  rw [uppercase, List.flatMap_congr h_kept, List.flatMap_singleton']

theorem uppercase_eq_nil_iff {s : List Char} : uppercase s = [] ↔ s = [] := by
  cases s with
  | nil => exact iff_of_true rfl rfl
  | cons c rest =>
    refine iff_of_false (fun h => upperChar_ne_nil c ?_) (List.cons_ne_nil c rest)
    rw [uppercase, List.flatMap_cons] at h
    exact (List.append_eq_nil_iff.mp h).1

/-- A text with no blank at its two ends. -/
structure Bare (s : List Char) : Prop where
  head : ∀ c ∈ s.head?, isBlank c = false
  last : ∀ c ∈ s.getLast?, isBlank c = false

theorem bare_trim (s : List Char) : Bare (trim s) where
  head := by
    intro c hc
    -- The start is that of the text whose leading blanks are cut off.
    obtain ⟨rest, h_rest⟩ : trim s <+: trimStart s := List.rdropWhile_prefix isBlank (trimStart s)
    have h_head : (trimStart s).head? = some c := by
      rw [← h_rest, List.head?_append, Option.mem_def.mp hc, Option.some_or]
    have h_blank := List.head?_dropWhile_not isBlank s
    rw [← trimStart, h_head] at h_blank
    exact h_blank
  last := by
    intro c hc
    obtain ⟨h_ne, rfl⟩ := List.mem_getLast?_eq_getLast hc
    exact Bool.not_eq_true _ ▸ List.rdropWhile_last_not isBlank (trimStart s) h_ne

theorem Bare.trim_eq {s : List Char} (h : Bare s) : trim s = s := by
  have h_start : trimStart s = s := by
    cases s with
    | nil => rfl
    | cons c rest =>
      exact List.dropWhile_cons_of_neg (by rw [h.head c rfl]; exact Bool.false_ne_true)
  rw [trim, h_start]
  refine List.rdropWhile_eq_self_iff.mpr fun h_ne => ?_
  rw [h.last _ (List.getLast?_eq_some_getLast h_ne)]
  exact Bool.false_ne_true

theorem Bare.uppercase {s : List Char} (h : Bare s) : Bare (uppercase s) where
  head := by
    intro d hd
    cases s with
    | nil => cases hd
    | cons c rest =>
      rw [Text.uppercase, List.flatMap_cons,
        List.head?_append_of_ne_nil _ (upperChar_ne_nil c)] at hd
      exact isBlank_of_mem_upperChar (h.head c rfl) (List.mem_of_mem_head? hd)
  last := by
    intro d hd
    rcases List.eq_nil_or_concat s with rfl | ⟨front, c, rfl⟩
    · cases hd
    · rw [List.concat_eq_append] at h hd
      rw [Text.uppercase, List.flatMap_append, List.flatMap_singleton,
        List.getLast?_append_of_ne_nil _ (upperChar_ne_nil c)] at hd
      exact isBlank_of_mem_upperChar (h.last c List.getLast?_concat)
        (List.mem_of_mem_getLast? hd)

/-! ### Words in capitals -/

/-- The capital letters but F and S, which ligatures and the sharp s are taken apart into. -/
def plainCapitals : List Char :=
  ['A', 'B', 'C', 'D', 'E', 'G', 'H', 'I', 'J', 'K', 'L', 'M', 'N', 'O', 'P', 'Q', 'R', 'T', 'U',
    'V', 'W', 'X', 'Y', 'Z']

/-- A character stands for a capital letter: it is the letter, capital or small, or a dotless i for
the letter I. -/
def StandsFor (c letter : Char) : Prop := c = letter ∨ c = letter.toLower ∨ letter = 'I' ∧ c = 'ı'

instance (c letter : Char) : Decidable (StandsFor c letter) :=
  inferInstanceAs (Decidable (c = letter ∨ c = letter.toLower ∨ letter = 'I' ∧ c = 'ı'))

theorem lt_of_mem_plainCapitals {n : Nat} (h : Char.ofNat n ∈ plainCapitals) : n < 0x80 := by
  have h_ascii : plainCapitals.all (·.toNat < 0x80) = true := by decide
  rcases toNat_ofNat n with h_code | h_null
  · rw [← h_code]
    exact of_decide_eq_true (List.all_eq_true.mp h_ascii _ h)
  · rw [h_null] at h
    exact absurd h (by decide)

/-- Only three runs lead to the first characters. -/
theorem eq_of_image_lt {r : CaseRun} (hr : r ∈ upperRuns) (h : r.image < 0x80) :
    r = ⟨0x61, 0x7A, 1, 0x41⟩ ∨ r = ⟨0x131, 0x131, 1, 0x49⟩ ∨ r = ⟨0x17F, 0x17F, 1, 0x53⟩ := by
  have h_all : ∀ r ∈ upperRuns, r.image < 0x80 →
      r = ⟨0x61, 0x7A, 1, 0x41⟩ ∨ r = ⟨0x131, 0x131, 1, 0x49⟩ ∨ r = ⟨0x17F, 0x17F, 1, 0x53⟩ := by
    decide +kernel
  exact h_all r hr h

/-- A character that a run takes to a plain capital stands for it. -/
theorem standsFor_of_shifted {r : CaseRun} {n : Nat} (hr : r ∈ upperRuns)
    (hn : r.contains n = true) (h : Char.ofNat (r.image + (n - r.first)) ∈ plainCapitals) :
    StandsFor (Char.ofNat n) (Char.ofNat (r.image + (n - r.first))) := by
  have h_lt := lt_of_mem_plainCapitals h
  rcases eq_of_image_lt hr (by omega) with rfl | rfl | rfl
  · have h_letters : ∀ n < 0x7B, 0x61 ≤ n →
        (Char.ofNat (0x41 + (n - 0x61))).toLower = Char.ofNat n := by
      decide
    simp only [CaseRun.contains, Bool.and_eq_true, decide_eq_true_iff] at hn
    exact .inr (.inl (h_letters n (by omega) hn.1.1).symm)
  · obtain rfl : n = 0x131 := by
      simp only [CaseRun.contains, Bool.and_eq_true, decide_eq_true_iff] at hn
      omega
    exact .inr (.inr ⟨rfl, rfl⟩)
  · obtain rfl : n = 0x17F := by
      simp only [CaseRun.contains, Bool.and_eq_true, decide_eq_true_iff] at hn
      omega
    exact absurd h (by decide)

/-- A character that becomes nothing but plain capitals becomes the one that it stands for. -/
theorem exists_standsFor {c : Char} (h : ∀ d ∈ upperChar c, d ∈ plainCapitals) :
    ∃ letter, upperChar c = [letter] ∧ StandsFor c letter := by
  rw [upperChar_eq_map] at h ⊢
  cases treatment upperRuns upperExpansions c.toNat with
  | @expanded e he h_form =>
    -- Whatever is taken apart has a part that is no plain capital.
    have h_parts : ∀ e ∈ upperExpansions, ∃ m ∈ e.images, Char.ofNat m ∉ plainCapitals := by
      decide +kernel
    obtain ⟨m, hm, h_other⟩ := h_parts e he
    rw [h_form] at h
    exact absurd (h _ (List.mem_map_of_mem hm)) h_other
  | @shifted r hr hn h_form =>
    rw [h_form, List.map_singleton] at h ⊢
    have h_stands := standsFor_of_shifted hr hn (h _ List.mem_cons_self)
    rw [Char.ofNat_toNat] at h_stands
    exact ⟨_, rfl, h_stands⟩
  | kept h_form =>
    rw [h_form, List.map_singleton, Char.ofNat_toNat]
    exact ⟨c, rfl, .inl rfl⟩

theorem StandsFor.upperChar {c letter : Char} (h : StandsFor c letter)
    (h_plain : letter ∈ plainCapitals) : upperChar c = [letter] := by
  have h_all : plainCapitals.all (fun letter =>
      Text.upperChar letter = [letter] ∧ Text.upperChar letter.toLower = [letter]) = true := by
    decide +kernel
  have h_letter := of_decide_eq_true (List.all_eq_true.mp h_all letter h_plain)
  rcases h with rfl | rfl | ⟨rfl, rfl⟩
  · exact h_letter.1
  · exact h_letter.2
  · decide +kernel

/-- A text becomes a word of plain capitals exactly if it spells the word letter by letter. -/
theorem uppercase_eq_iff {word : List Char} (h_word : word ⊆ plainCapitals) (s : List Char) :
    uppercase s = word ↔ List.Forall₂ StandsFor s word := by
  induction s generalizing word with
  | nil => rw [List.forall₂_nil_left_iff, eq_comm]; rfl
  | cons c s ih =>
    rw [uppercase, List.flatMap_cons, ← uppercase]
    constructor
    · rintro rfl
      obtain ⟨letter, h_upper, h_stands⟩ :=
        exists_standsFor fun d hd => h_word (List.mem_append_left _ hd)
      rw [h_upper] at h_word ⊢
      exact .cons h_stands ((ih fun d hd => h_word (List.mem_append_right _ hd)).mp rfl)
    · intro h
      cases h with
      | cons h_stands h_rest =>
        rw [h_stands.upperChar (h_word List.mem_cons_self),
          (ih fun d hd => h_word (List.mem_cons_of_mem _ hd)).mpr h_rest]
        rfl

end PolicyTrial.Text
