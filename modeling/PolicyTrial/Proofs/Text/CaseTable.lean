import Mathlib.Data.List.Range
import Mathlib.Data.Nat.Bitwise
import PolicyTrial.Text.CaseRun

/-!
# Reading tables of letter forms

A table of letter forms treats a code point in one of three ways: it expands it, shifts it along a
run, or keeps it.

* `Treatment`: the three ways. Whatever is to be shown of all forms is shown of each (`treatment`).
* `codesOf`, `imagesOf`: the code points that a table has, and those it makes of them. A code point
  that is not of the first kind is kept (`formOf_eq_self`), and any other becomes code points of the
  second kind (`mem_formOf`).
* `mask`: a list of numbers as the set bits of one number. Two lists share nothing if their masks do
  not (`disjoint_of_mask`), which compares the whole of two tables at once.
-/

namespace PolicyTrial.Text

variable {runs : List CaseRun} {expansions : List CaseExpansion} {n m : Nat}

/-- The character at a code point has this code point, unless there is no character at it. -/
theorem toNat_ofNat (n : Nat) : (Char.ofNat n).toNat = n ∨ Char.ofNat n = '\x00' := by
  by_cases h : n.isValidChar
  · exact .inl (by rw [Char.ofNat, dif_pos h]; rfl)
  · exact .inr (by rw [Char.ofNat, dif_neg h]; rfl)

/-! ### The ways of a table -/

/-- How a table comes to what it makes of a code point. -/
inductive Treatment (runs : List CaseRun) (expansions : List CaseExpansion) (n : Nat) : Prop
  | expanded {e : CaseExpansion} (he : e ∈ expansions)
      (h_form : formOf runs expansions n = e.images)
  | shifted {r : CaseRun} (hr : r ∈ runs) (hn : r.contains n = true)
      (h_form : formOf runs expansions n = [r.image + (n - r.first)])
  | kept (h_form : formOf runs expansions n = [n])

theorem treatment (runs : List CaseRun) (expansions : List CaseExpansion) (n : Nat) :
    Treatment runs expansions n := by
  cases h_find : expansions.find? (·.code == n) with
  | some e => exact .expanded (List.mem_of_find?_eq_some h_find) (by rw [formOf, h_find])
  | none =>
    cases h_run : runs.findSome? (·.image? n) with
    | none => exact .kept (by rw [formOf, h_find, h_run])
    | some k =>
      obtain ⟨r, hr, h_image⟩ := List.exists_of_findSome?_eq_some h_run
      rw [CaseRun.image?] at h_image
      split at h_image
      · next hn =>
        cases h_image
        exact .shifted hr hn (by rw [formOf, h_find, h_run])
      · cases h_image

/-- What a table makes of a code point is bounded below by what bounds the table's images and the
code point. -/
theorem le_of_mem_formOf {bound : Nat} (h_runs : ∀ r ∈ runs, bound ≤ r.image)
    (h_expansions : ∀ e ∈ expansions, ∀ k ∈ e.images, bound ≤ k) (hn : bound ≤ n)
    (hm : m ∈ formOf runs expansions n) : bound ≤ m := by
  cases treatment runs expansions n with
  | @expanded e he h_form =>
    rw [h_form] at hm
    exact h_expansions e he m hm
  | @shifted r hr _ h_form =>
    rw [h_form, List.mem_singleton] at hm
    rw [hm]
    exact Nat.le_trans (h_runs r hr) (Nat.le_add_right _ _)
  | kept h_form =>
    rw [h_form, List.mem_singleton] at hm
    rw [hm]
    exact hn

theorem formOf_ne_nil (h_expansions : ∀ e ∈ expansions, e.images ≠ []) (n : Nat) :
    formOf runs expansions n ≠ [] := by
  cases treatment runs expansions n with
  | @expanded e he h_form =>
    rw [h_form]
    exact h_expansions e he
  | shifted _ _ h_form | kept h_form =>
    rw [h_form]
    exact List.cons_ne_nil _ _

/-- Below everything else in a table, only its first run counts. -/
theorem formOf_cons_of_lt {bound : Nat} {r : CaseRun} (h_runs : ∀ r' ∈ runs, bound ≤ r'.first)
    (h_expansions : ∀ e ∈ expansions, bound ≤ e.code) (hn : n < bound) :
    formOf (r :: runs) expansions n = [(r.image? n).getD n] := by
  have h_find : expansions.find? (·.code == n) = none :=
    List.find?_eq_none.mpr fun e he h_code =>
      absurd (h_expansions e he) (by rw [beq_iff_eq.mp h_code]; exact Nat.not_le_of_lt hn)
  have h_run : runs.findSome? (·.image? n) = none :=
    List.findSome?_eq_none_iff.mpr fun r' hr' => if_neg (by
      have h_below : ¬ r'.first ≤ n := Nat.not_le_of_lt (Nat.lt_of_lt_of_le hn (h_runs r' hr'))
      rw [CaseRun.contains, decide_eq_false h_below]
      exact Bool.false_ne_true)
  rw [formOf, h_find, List.findSome?_cons, h_run]
  cases r.image? n with
  | none | some k => rfl

/-! ### Code points and images -/

namespace CaseRun

/-- How many code points a run has. -/
def size (r : CaseRun) : Nat := (r.last - r.first) / r.step + 1

/-- The code points of a run. -/
def codes (r : CaseRun) : List Nat := List.range' r.first r.size r.step

/-- What a run makes of its code points. -/
def images (r : CaseRun) : List Nat := List.range' r.image r.size r.step

/-- A code point of a run lies a number of steps behind the first one. -/
theorem exists_step_of_contains {r : CaseRun} (hn : r.contains n = true) :
    ∃ i < r.size, n = r.first + r.step * i := by
  rw [contains, Bool.and_eq_true, Bool.and_eq_true, decide_eq_true_iff, decide_eq_true_iff,
    beq_iff_eq] at hn
  obtain ⟨⟨h_first, h_last⟩, h_step⟩ := hn
  refine ⟨(n - r.first) / r.step, Nat.lt_succ_of_le (Nat.div_le_div_right (by omega)), ?_⟩
  rw [Nat.mul_div_cancel' (Nat.dvd_of_mod_eq_zero h_step)]
  omega

theorem mem_codes {r : CaseRun} (hn : r.contains n = true) : n ∈ r.codes :=
  List.mem_range'.mpr (exists_step_of_contains hn)

theorem image_mem_images {r : CaseRun} (hn : r.contains n = true) :
    r.image + (n - r.first) ∈ r.images := by
  obtain ⟨i, hi, rfl⟩ := exists_step_of_contains hn
  exact List.mem_range'.mpr ⟨i, hi, by rw [Nat.add_sub_cancel_left]⟩

end CaseRun

/-- The code points that a table has. -/
def codesOf (runs : List CaseRun) (expansions : List CaseExpansion) : List Nat :=
  runs.flatMap CaseRun.codes ++ expansions.map CaseExpansion.code

/-- What a table makes of the code points that it has. -/
def imagesOf (runs : List CaseRun) (expansions : List CaseExpansion) : List Nat :=
  runs.flatMap CaseRun.images ++ expansions.flatMap CaseExpansion.images

/-- A code point that the table does not have is kept. -/
theorem formOf_eq_self (hn : n ∉ codesOf runs expansions) : formOf runs expansions n = [n] := by
  rw [codesOf, List.mem_append, not_or] at hn
  have h_find : expansions.find? (·.code == n) = none :=
    List.find?_eq_none.mpr fun e he h_code =>
      hn.2 (List.mem_map.mpr ⟨e, he, beq_iff_eq.mp h_code⟩)
  have h_run : runs.findSome? (·.image? n) = none :=
    List.findSome?_eq_none_iff.mpr fun r hr =>
      if_neg fun h_mem => hn.1 (List.mem_flatMap.mpr ⟨r, hr, CaseRun.mem_codes h_mem⟩)
  rw [formOf, h_find, h_run]

/-- A table makes its images of the code points that it does not keep. -/
theorem mem_formOf (hm : m ∈ formOf runs expansions n) :
    formOf runs expansions n = [m] ∧ n = m ∨ m ∈ imagesOf runs expansions := by
  rw [imagesOf, List.mem_append]
  cases treatment runs expansions n with
  | @expanded e he h_form =>
    rw [h_form] at hm
    exact .inr (.inr (List.mem_flatMap.mpr ⟨e, he, hm⟩))
  | @shifted r hr hn h_form =>
    rw [h_form, List.mem_singleton] at hm
    rw [hm]
    exact .inr (.inl (List.mem_flatMap.mpr ⟨r, hr, CaseRun.image_mem_images hn⟩))
  | kept h_form =>
    rw [h_form, List.mem_singleton] at hm
    rw [hm]
    exact .inl ⟨h_form, rfl⟩

/-! ### Lists as masks -/

/-- The number whose set bits are the members of a list. -/
def mask (l : List Nat) : Nat := l.foldr (fun n bits => bits ||| 1 <<< n) 0

theorem testBit_mask_iff {l : List Nat} : (mask l).testBit n = true ↔ n ∈ l := by
  induction l with
  | nil => simp only [mask, List.foldr_nil, Nat.zero_testBit, Bool.false_eq_true, List.not_mem_nil]
  | cons k l ih =>
    rw [mask, List.foldr_cons, ← mask, Nat.testBit_or, Bool.or_eq_true, ih, Nat.shiftLeft_eq,
      one_mul, Nat.testBit_two_pow, decide_eq_true_iff, List.mem_cons, or_comm, eq_comm]

theorem disjoint_of_mask {l l' : List Nat} (h : mask l &&& mask l' = 0) : l.Disjoint l' := by
  intro n hn hn'
  have h_bit : (mask l &&& mask l').testBit n = true := by
    rw [Nat.testBit_and, testBit_mask_iff.mpr hn, testBit_mask_iff.mpr hn']
    rfl
  rw [h, Nat.zero_testBit] at h_bit
  cases h_bit

end PolicyTrial.Text
