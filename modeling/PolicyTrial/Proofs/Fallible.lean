import Mathlib.Data.List.Forall2

/-!
# Computations that may fail

A computation that did not fail has steps that did not, and its result comes from what they gave.
One that failed did so by its first step that does (`bind_eq_error_iff`).

A list is gone through from its start. So what comes out stands against the elements one by one
(`mapM_eq_ok_iff`), and what is reported is the failure of the first element that fails
(`mapM_eq_error_iff`), which is what `FailsFirst` says.
-/

namespace PolicyTrial

variable {α β γ ε : Type}

/-- A step after which a computation goes on without an error had none itself. -/
theorem exists_of_bind_eq_ok {x : Except ε α} {f : α → Except ε β} {b : β}
    (h : x >>= f = .ok b) : ∃ a, x = .ok a ∧ f a = .ok b := by
  cases x with
  | error e => cases h
  | ok a => exact ⟨a, rfl, h⟩

theorem bind_eq_ok_iff {x : Except ε α} {f : α → Except ε β} {b : β} :
    x >>= f = .ok b ↔ ∃ a, x = .ok a ∧ f a = .ok b := by
  constructor
  · exact exists_of_bind_eq_ok
  · rintro ⟨a, rfl, h⟩
    exact h

/-- A computation fails by its first step, or by what comes after it. -/
theorem bind_eq_error_iff {x : Except ε α} {f : α → Except ε β} {e : ε} :
    x >>= f = .error e ↔ x = .error e ∨ ∃ a, x = .ok a ∧ f a = .error e := by
  cases x with
  | error e' =>
    constructor
    · intro h
      cases h
      exact .inl rfl
    · rintro (h | ⟨a, h, -⟩)
      · cases h
        rfl
      · cases h
  | ok a =>
    constructor
    · exact fun h => .inr ⟨a, rfl, h⟩
    · rintro (h | ⟨a', h, h_rest⟩)
      · cases h
      · cases h
        exact h_rest

theorem map_eq_ok_iff {x : Except ε α} {f : α → β} {b : β} :
    x.map f = .ok b ↔ ∃ a, x = .ok a ∧ f a = b := by
  cases x with
  | error e => exact iff_of_false nofun nofun
  | ok a =>
    constructor
    · intro h
      cases h
      exact ⟨a, rfl, rfl⟩
    · rintro ⟨_, h, rfl⟩
      cases h
      rfl

theorem map_eq_error_iff {x : Except ε α} {f : α → β} {e : ε} :
    x.map f = .error e ↔ x = .error e := by
  cases x with
  | error e' => exact ⟨fun h => by cases h; rfl, fun h => by cases h; rfl⟩
  | ok a => exact iff_of_false nofun nofun

theorem mapError_eq_ok_iff {ε' : Type} {x : Except ε α} {f : ε → ε'} {a : α} :
    x.mapError f = .ok a ↔ x = .ok a := by
  cases x with
  | error e => exact iff_of_false nofun nofun
  | ok b => exact ⟨fun h => by cases h; rfl, fun h => by cases h; rfl⟩

/-- A list is gone through without an error exactly if each element gives its result. -/
theorem mapM_eq_ok_iff {f : α → Except ε β} {xs : List α} {ys : List β} :
    xs.mapM f = .ok ys ↔ List.Forall₂ (fun x y => f x = .ok y) xs ys := by
  induction xs generalizing ys with
  | nil =>
    rw [List.forall₂_nil_left_iff]
    exact ⟨fun h => by cases h; rfl, fun h => by rw [h]; rfl⟩
  | cons x xs ih =>
    rw [List.mapM_cons, List.forall₂_cons_left_iff, bind_eq_ok_iff]
    constructor
    · rintro ⟨y, hx, h⟩
      obtain ⟨ys, h_rest, h⟩ := exists_of_bind_eq_ok h
      cases h
      exact ⟨y, ys, hx, ih.mp h_rest, rfl⟩
    · rintro ⟨y, ys, hx, h_rest, rfl⟩
      refine ⟨y, hx, ?_⟩
      rw [ih.mpr h_rest]
      rfl

/-- What comes out of a list that was gone through without an error comes from some element. -/
theorem exists_of_mem_mapM {f : α → Except ε β} {xs : List α} {ys : List β} {y : β}
    (h : xs.mapM f = .ok ys) (hy : y ∈ ys) : ∃ x ∈ xs, f x = .ok y := by
  replace h := mapM_eq_ok_iff.mp h
  induction h with
  | nil => cases hy
  | @cons x z xs ys hx _ ih =>
    rcases List.mem_cons.mp hy with rfl | hy
    · exact ⟨x, List.mem_cons_self, hx⟩
    · obtain ⟨x', hx', h'⟩ := ih hy
      exact ⟨x', List.mem_cons_of_mem x hx', h'⟩

/-- The first element of a list that fails, where those before it are fine. -/
def FailsFirst (Fine : α → Prop) (Fails : α → ε → Prop) (xs : List α) (e : ε) : Prop :=
  ∃ before x after, xs = before ++ x :: after ∧ (∀ b ∈ before, Fine b) ∧ Fails x e

theorem not_failsFirst_nil {Fine : α → Prop} {Fails : α → ε → Prop} {e : ε} :
    ¬ FailsFirst Fine Fails [] e := by
  rintro ⟨before, x, after, h, -⟩
  exact absurd h.symm (List.append_ne_nil_of_right_ne_nil _ (List.cons_ne_nil x after))

theorem failsFirst_cons_iff {Fine : α → Prop} {Fails : α → ε → Prop} {x : α} {xs : List α} {e : ε} :
    FailsFirst Fine Fails (x :: xs) e ↔ Fails x e ∨ Fine x ∧ FailsFirst Fine Fails xs e := by
  constructor
  · rintro ⟨before, x', after, h_eq, h_before, h_fails⟩
    cases before with
    | nil =>
      cases h_eq
      exact .inl h_fails
    | cons b before =>
      cases h_eq
      rw [List.forall_mem_cons] at h_before
      exact .inr ⟨h_before.1, before, x', after, rfl, h_before.2, h_fails⟩
  · rintro (h | ⟨hx, before, x', after, rfl, h_before, h_fails⟩)
    · exact ⟨[], x, xs, rfl, fun _ hb => absurd hb List.not_mem_nil, h⟩
    · exact ⟨x :: before, x', after, rfl, List.forall_mem_cons.mpr ⟨hx, h_before⟩, h_fails⟩

/-- Going through a list fails by the first element that does. -/
theorem mapM_eq_error_iff {f : α → Except ε β} {xs : List α} {e : ε} :
    xs.mapM f = .error e ↔
      FailsFirst (fun x => ∃ y, f x = .ok y) (fun x e => f x = .error e) xs e := by
  induction xs with
  | nil => exact iff_of_false nofun not_failsFirst_nil
  | cons x xs ih =>
    rw [List.mapM_cons, failsFirst_cons_iff, bind_eq_error_iff, ← ih]
    refine or_congr_right ⟨?_, ?_⟩
    · rintro ⟨y, hy, h⟩
      rcases bind_eq_error_iff.mp h with h | ⟨_, _, h⟩
      · exact ⟨⟨y, hy⟩, h⟩
      · cases h
    · rintro ⟨⟨y, hy⟩, h⟩
      exact ⟨y, hy, bind_eq_error_iff.mpr (.inl h)⟩

/-- A result that is there was given without an error. -/
theorem eq_ok_of_toOption {x : Except ε α} {a : α} (h : x.toOption = some a) : x = .ok a := by
  cases x with
  | error e => cases h
  | ok b =>
    cases h
    rfl

/-! ### Lists against lists -/

theorem exists_forall₂_iff {R : α → β → Prop} {xs : List α} :
    (∃ ys, List.Forall₂ R xs ys) ↔ ∀ x ∈ xs, ∃ y, R x y := by
  induction xs with
  | nil => exact iff_of_true ⟨[], .nil⟩ fun _ h => absurd h List.not_mem_nil
  | cons x xs ih =>
    rw [List.forall_mem_cons, ← ih]
    constructor
    · rintro ⟨_, h⟩
      cases h with
      | cons h h_rest => exact ⟨⟨_, h⟩, _, h_rest⟩
    · rintro ⟨⟨y, h⟩, ys, h_rest⟩
      exact ⟨y :: ys, .cons h h_rest⟩

theorem forall₂_append_left_iff {R : α → β → Prop} {xs xs' : List α} {ys : List β} :
    List.Forall₂ R (xs ++ xs') ys ↔
      ∃ front back, List.Forall₂ R xs front ∧ List.Forall₂ R xs' back ∧ ys = front ++ back := by
  constructor
  · intro h
    induction xs generalizing ys with
    | nil => exact ⟨[], ys, .nil, h, rfl⟩
    | cons x xs ih =>
      cases h with
      | cons h h_rest =>
        obtain ⟨front, back, h_front, h_back, rfl⟩ := ih h_rest
        exact ⟨_ :: front, back, .cons h h_front, h_back, rfl⟩
  · rintro ⟨front, back, h_front, h_back, rfl⟩
    exact List.rel_append h_front h_back

/-- Lists that are found one for each element and put behind one another are as good as one list for
the elements of all of them. -/
theorem exists_forall₂_flatten_iff {P : α → Prop} {f : α → List β} {R : α → β → γ → Prop}
    {xs : List α} {zs : List γ} :
    (∃ zss, List.Forall₂ (fun x zs => P x ∧ List.Forall₂ (R x) (f x) zs) xs zss ∧
      zs = zss.flatten) ↔
      (∀ x ∈ xs, P x) ∧
        List.Forall₂ (fun p z => R p.1 p.2 z) (xs.flatMap fun x => (f x).map (x, ·)) zs := by
  induction xs generalizing zs with
  | nil =>
    constructor
    · rintro ⟨_, h, rfl⟩
      cases h
      exact ⟨fun _ h => absurd h List.not_mem_nil, .nil⟩
    · rintro ⟨-, h⟩
      cases h
      exact ⟨[], .nil, rfl⟩
  | cons x xs ih =>
    rw [List.forall_mem_cons, List.flatMap_cons, forall₂_append_left_iff]
    simp only [List.forall₂_map_left_iff]
    constructor
    · rintro ⟨_, h, rfl⟩
      cases h with
      | cons h h_rest =>
        obtain ⟨h_all, h_rest⟩ := ih.mp ⟨_, h_rest, rfl⟩
        exact ⟨⟨h.1, h_all⟩, _, _, h.2, h_rest, List.flatten_cons⟩
    · rintro ⟨⟨hx, h_all⟩, front, back, h_front, h_back, rfl⟩
      obtain ⟨zss, h_rest, rfl⟩ := ih.mpr ⟨h_all, h_back⟩
      exact ⟨front :: zss, .cons ⟨hx, h_front⟩ h_rest, rfl⟩

end PolicyTrial
