import PolicyTrial.Proofs.Files.Walking

/-!
# What paths are called

Paths are put together and named without looking at any file. What comes out is said here without
the functions that do it.

* `Path.IsBelow`, `Path.IsPath`: a path below another one, and below several parts. An absolute part
  discards what precedes it (`isPath_append_absolute_iff`).
* `Path.HasName`, `Path.HasStem`: the name that a path ends with, and its stem.
-/

namespace PolicyTrial.Path

variable {base p path : String}

/-! ### Paths below paths -/

/-- A path, seen from a base. A slash goes between them unless the base ends with one. -/
inductive IsBelow (base : String) : String → String → Prop
  | absolute {p : String} (h : p.toList.head? = some '/') : IsBelow base p p
  | nowhere {p : String} (h : base = "") : IsBelow base p p
  | behindSlash {p : String} (h : p.toList.head? ≠ some '/') (h_base : base ≠ "")
      (h_slash : base.toList.getLast? = some '/') : IsBelow base p (base ++ p)
  | behind {p : String} (h : p.toList.head? ≠ some '/') (h_base : base ≠ "")
      (h_slash : base.toList.getLast? ≠ some '/') : IsBelow base p (base ++ "/" ++ p)

theorem isAbsolute_iff : isAbsolute p = true ↔ p.toList.head? = some '/' := by
  rw [isAbsolute, decide_eq_true_iff]

theorem isBelow_iff : IsBelow base p path ↔ join base p = path := by
  unfold join
  constructor
  · intro h
    cases h with
    | absolute h => rw [isAbsolute_iff.mpr h, Bool.true_or, if_pos rfl]
    | nowhere h => rw [decide_eq_true h, Bool.or_true, if_pos rfl]
    | behindSlash h h_base h_slash =>
      rw [Bool.eq_false_iff.mpr (mt isAbsolute_iff.mp h), decide_eq_false h_base, Bool.or_false,
        if_neg Bool.false_ne_true, if_pos h_slash]
    | behind h h_base h_slash =>
      rw [Bool.eq_false_iff.mpr (mt isAbsolute_iff.mp h), decide_eq_false h_base, Bool.or_false,
        if_neg Bool.false_ne_true, if_neg h_slash]
  · rintro rfl
    split
    · next h =>
      rw [Bool.or_eq_true, isAbsolute_iff, decide_eq_true_iff] at h
      exact h.elim .absolute .nowhere
    · next h =>
      rw [Bool.or_eq_true, isAbsolute_iff, decide_eq_true_iff, not_or] at h
      split
      · next h_slash => exact .behindSlash h.1 h.2 h_slash
      · next h_slash => exact .behind h.1 h.2 h_slash

/-- The path that some parts lead to from a base, each below what precedes it. -/
inductive IsPath : String → List String → String → Prop
  | base (base : String) : IsPath base [] base
  | part {base p next path : String} {parts : List String} (h : IsBelow base p next)
      (h_rest : IsPath next parts path) : IsPath base (p :: parts) path

theorem isPath_iff {parts : List String} :
    IsPath base parts path ↔ parts.foldl join base = path := by
  induction parts generalizing base with
  | nil =>
    constructor
    · intro h
      cases h
      rfl
    · rintro rfl
      exact .base base
  | cons p parts ih =>
    rw [List.foldl_cons]
    constructor
    · intro h
      cases h with
      | part h h_rest =>
        rw [isBelow_iff.mp h]
        exact ih.mp h_rest
    · exact fun h => .part (isBelow_iff.mpr rfl) (ih.mpr h)

/-- An absolute part discards what precedes it. -/
theorem isPath_append_absolute_iff {before after : List String} (h : p.toList.head? = some '/') :
    IsPath base (before ++ p :: after) path ↔ IsPath p after path := by
  have h_join : join (before.foldl join base) p = p := isBelow_iff.mp (.absolute h)
  rw [isPath_iff, isPath_iff, List.foldl_append, List.foldl_cons, h_join]

/-! ### Names and stems -/

/-- The name that a path ends with: its last part, but for parts that say nothing. Two dots are no
name. -/
def HasName (p name : String) : Prop :=
  ¬ (name = "" ∨ name = ".") ∧ name ≠ ".." ∧ ∃ before after, parts p = before ++ name :: after ∧
    ∀ part ∈ after, part = "" ∨ part = "."

/-- The stem of a path: its name up to the last dot, unless that is where the name starts. A path
without a name is its own stem. -/
inductive HasStem (p : String) : String → Prop
  | whole {name : String} (h : HasName p name) (h_dot : '.' ∉ name.toList.drop 1) : HasStem p name
  | start {stem extension : String} (h : HasName p (stem ++ "." ++ extension)) (h_stem : stem ≠ "")
      (h_dot : '.' ∉ extension.toList) : HasStem p stem
  | nameless (h : ∀ name, ¬ HasName p name) : HasStem p p

theorem isIdle_iff {part : List Char} :
    isIdle part = true ↔ String.ofList part = "" ∨ String.ofList part = "." := by
  rw [isIdle, Bool.or_eq_true, decide_eq_true_iff, decide_eq_true_iff, ← String.toList_inj,
    ← String.toList_inj, String.toList_ofList]
  rfl

theorem head?_dropWhile {α : Type} (f : α → Bool) (xs : List α) :
    (xs.dropWhile f).head? = xs.find? (!f ·) := by
  induction xs with
  | nil => rfl
  | cons x xs ih =>
    cases hx : f x with
    | true => rw [List.dropWhile_cons_of_pos hx, ih, List.find?_cons_of_neg (by simp [hx])]
    | false =>
      rw [List.dropWhile_cons_of_neg (by simp [hx]), List.find?_cons_of_pos (by simp [hx]),
        List.head?_cons]

/-- The parts behind the head are those between the slashes, but for some that say nothing. -/
theorem find?_headAndParts (p : String) :
    (headAndParts p).2.reverse.find? (!isIdle ·) =
      (split p.toList).reverse.find? (!isIdle ·) := by
  unfold headAndParts
  split
  · next rest h =>
    rw [h, split_cons, if_pos rfl, List.reverse_cons, List.find?_append]
    exact Option.or_none.symm
  · next h =>
    rw [h]
    rfl
  · next rest h =>
    rw [h, split_cons, if_neg (by decide), split_cons, if_pos rfl]
    dsimp only
    rw [List.reverse_cons, List.find?_append, List.reverse_cons, List.find?_append]
    rfl
  · rfl

theorem find?_eq_some_iff_parts {name : List Char} :
    (split p.toList).reverse.find? (!isIdle ·) = some name ↔
      ¬ (String.ofList name = "" ∨ String.ofList name = ".") ∧
        ∃ before after, parts p = before ++ String.ofList name :: after ∧
          ∀ part ∈ after, part = "" ∨ part = "." := by
  rw [List.find?_eq_some_iff_append, parts, Bool.not_eq_true', Bool.eq_false_iff, ne_eq, isIdle_iff]
  refine and_congr_right fun _ => ?_
  constructor
  · rintro ⟨after, before, h_parts, h_after⟩
    refine ⟨before.reverse.map String.ofList, after.reverse.map String.ofList, ?_, ?_⟩
    · rw [← List.reverse_reverse (split p.toList), h_parts]
      simp
    · intro part h_part
      obtain ⟨cs, h_cs, rfl⟩ := List.mem_map.mp h_part
      simpa [isIdle_iff] using h_after cs (List.mem_reverse.mp h_cs)
  · rintro ⟨before, after, h_parts, h_after⟩
    obtain ⟨before', rest, h_split, -, h_rest⟩ := List.map_eq_append_iff.mp h_parts
    obtain ⟨name', after', rfl, h_name, rfl⟩ := List.map_eq_cons_iff.mp h_rest
    obtain rfl : name' = name := String.ofList_inj.mp h_name
    refine ⟨after'.reverse, before'.reverse, ?_, fun cs h_cs => ?_⟩
    · rw [h_split]
      simp
    · have h_idle := h_after _ (List.mem_map_of_mem (List.mem_reverse.mp h_cs))
      simpa [isIdle_iff] using h_idle

/-- The name is the last part that says something. -/
theorem name?_eq_some_iff {name : List Char} :
    name? p = some name ↔ HasName p (String.ofList name) := by
  have h_last : (dropIdleEnd (headAndParts p).2).getLast? =
      (split p.toList).reverse.find? (!isIdle ·) := by
    rw [dropIdleEnd, List.getLast?_reverse, head?_dropWhile, find?_headAndParts]
  have h_up : ∀ part : List Char, part = ['.', '.'] ↔ String.ofList part = ".." := by
    intro part
    rw [← String.toList_inj, String.toList_ofList]
    rfl
  rw [name?, h_last, HasName, and_left_comm, ← find?_eq_some_iff_parts, ne_eq, ← h_up]
  constructor
  · intro h
    split at h
    · cases h
    · next part h_find =>
      split at h
      · cases h
      · next h_name =>
        cases h
        exact ⟨h_name, h_find⟩
  · rintro ⟨h_name, h_find⟩
    rw [h_find]
    exact if_neg h_name

/-! A stem ends at the last dot behind the first character. -/

theorem stemOf_of_not_mem {name : List Char} (h : '.' ∉ name.drop 1) : stemOf name = name := by
  have h_drop : (name.reverse.dropWhile (· ≠ '.')).drop 1 = [] := by
    cases name with
    | nil => rfl
    | cons c rest =>
      have h_rest : ∀ d ∈ rest.reverse, decide (d ≠ '.') = true := by
        intro d hd
        exact decide_eq_true fun h_eq => h (h_eq ▸ List.mem_reverse.mp hd)
      rw [List.reverse_cons, List.dropWhile_append_of_pos h_rest]
      by_cases hc : c = '.' <;> simp [hc]
  rw [stemOf, h_drop]

theorem stemOf_append {stem extension : List Char} (h_stem : stem ≠ []) (h : '.' ∉ extension) :
    stemOf (stem ++ '.' :: extension) = stem := by
  have h_extension : ∀ d ∈ extension.reverse, decide (d ≠ '.') = true := by
    intro d hd
    exact decide_eq_true fun h_eq => h (h_eq ▸ List.mem_reverse.mp hd)
  have h_drop : ((stem ++ '.' :: extension).reverse.dropWhile (· ≠ '.')).drop 1 = stem.reverse := by
    rw [List.reverse_append, List.reverse_cons, List.append_assoc,
      List.dropWhile_append_of_pos h_extension]
    rfl
  rw [stemOf, h_drop]
  split
  · next h_nil => exact absurd (List.reverse_eq_nil_iff.mp h_nil) h_stem
  · exact List.reverse_reverse stem

/-- A name has no dot behind its first character, or it has a last one. -/
theorem exists_of_dot_mem {name : List Char} (h : '.' ∈ name.drop 1) :
    ∃ stem extension, name = stem ++ '.' :: extension ∧ stem ≠ [] ∧ '.' ∉ extension := by
  cases name with
  | nil => cases h
  | cons c rest =>
    obtain ⟨after, before, h_rest, h_dot⟩ := List.eq_append_cons_of_mem (List.mem_reverse.mpr h)
    refine ⟨c :: before.reverse, after.reverse, ?_, List.cons_ne_nil _ _, ?_⟩
    · rw [← List.reverse_reverse rest]
      rw [List.drop_one, List.tail_cons] at h_rest
      rw [h_rest]
      simp
    · rwa [List.mem_reverse]

theorem hasStem_stem (p : String) : HasStem p (stem p) := by
  rw [stem]
  split
  · next name h =>
    have h_name := name?_eq_some_iff.mp h
    by_cases h_dot : '.' ∈ name.drop 1
    · obtain ⟨start, extension, rfl, h_start, h_extension⟩ := exists_of_dot_mem h_dot
      have h_spelled : String.ofList (start ++ '.' :: extension) =
          String.ofList start ++ "." ++ String.ofList extension := by
        rw [← String.toList_inj]
        simp
      have h_dot : '.' ∉ (String.ofList extension).toList := by rwa [String.toList_ofList]
      rw [h_spelled] at h_name
      rw [stemOf_append h_start h_extension]
      exact .start h_name (fun h_nil => h_start (String.ofList_eq_empty_iff.mp h_nil)) h_dot
    · rw [stemOf_of_not_mem h_dot]
      exact .whole h_name (by rwa [String.toList_ofList])
  · next h =>
    refine .nameless fun name h_name => ?_
    rw [← name.ofList_toList] at h_name
    cases h.symm.trans (name?_eq_some_iff.mpr h_name)

theorem HasStem.stem_eq {s : String} (h : HasStem p s) : stem p = s := by
  have h_found : ∀ {name : String}, HasName p name →
      stem p = String.ofList (stemOf name.toList) := by
    intro name h_name
    rw [stem, name?_eq_some_iff.mpr (name.ofList_toList.symm ▸ h_name)]
  cases h with
  | whole h h_dot => rw [h_found h, stemOf_of_not_mem h_dot, String.ofList_toList]
  | start h h_stem h_dot =>
    have h_some : s.toList ≠ [] := fun h_nil => h_stem (String.toList_eq_nil_iff.mp h_nil)
    rw [h_found h, String.toList_append, String.toList_append, List.append_assoc]
    exact (congrArg String.ofList (stemOf_append h_some h_dot)).trans String.ofList_toList
  | nameless h =>
    rw [stem]
    split
    · next name h_name => exact absurd (name?_eq_some_iff.mp h_name) (h _)
    · rfl

theorem hasStem_iff {s : String} : HasStem p s ↔ stem p = s :=
  ⟨HasStem.stem_eq, fun h => h ▸ hasStem_stem p⟩

end PolicyTrial.Path
