import Mathlib.Data.List.Nodup
import Mathlib.Data.List.Perm.Basic
import PolicyTrial.Run.Verdicts

/-!
# Results and their places

Trials end in any order, and each result carries the number of what it is the result of. `Tallies`
is all that is ever known of such results: there is one for every numbered item, with its number,
and no other. It does not say in which order they come, so it survives every interleaving, every
split of the items (`Tallies.append`) and every regrouping of them (`Tallies.regroup`).

Numbers are places, so the order can be restored at the end: `Tallies.forall₂_inOrder`.
-/

namespace PolicyTrial

variable {α β γ : Type} {Q : α → β → Prop}

/-- Numbered results tally with numbered items: each item has exactly one result, which has its
number and stands in a relation to it. -/
def Tallies (Q : α → β → Prop) (items : List (Nat × α)) (results : List (Nat × β)) : Prop :=
  ∃ ordered, List.Forall₂ (fun p r => r.1 = p.1 ∧ Q p.2 r.2) items ordered ∧ results.Perm ordered

namespace Tallies

theorem nil : Tallies Q [] [] := ⟨[], .nil, .nil⟩

theorem append {items items' : List (Nat × α)} {results results' : List (Nat × β)}
    (h : Tallies Q items results) (h' : Tallies Q items' results') :
    Tallies Q (items ++ items') (results ++ results') := by
  obtain ⟨ordered, hf, hp⟩ := h
  obtain ⟨ordered', hf', hp'⟩ := h'
  exact ⟨ordered ++ ordered', List.rel_append hf hf', hp.append hp'⟩

theorem cons {n : Nat} {a : α} {b : β} {items : List (Nat × α)} {results : List (Nat × β)}
    (h : Tallies Q items results) (hb : Q a b) :
    Tallies Q ((n, a) :: items) ((n, b) :: results) := by
  obtain ⟨ordered, hf, hp⟩ := h
  exact ⟨(n, b) :: ordered, .cons ⟨rfl, hb⟩ hf, hp.cons _⟩

/-- The order of the items does not matter. -/
theorem regroup {items items' : List (Nat × α)} {results : List (Nat × β)}
    (h : Tallies Q items results) (hi : items'.Perm items) : Tallies Q items' results := by
  obtain ⟨ordered, hf, hp⟩ := h
  obtain ⟨ordered', hf', hp'⟩ := List.perm_comp_forall₂ hi hf
  exact ⟨ordered', hf', hp.trans hp'.symm⟩

/-- Results for some items are results for others, place by place, if each is one for the other. -/
theorem imp {R : γ → β → Prop} {items : List (Nat × γ)} {items' : List (Nat × α)}
    {results : List (Nat × β)} (h : Tallies R items results)
    (hi : List.Forall₂ (fun p p' => p'.1 = p.1 ∧ ∀ b, R p.2 b → Q p'.2 b) items items') :
    Tallies Q items' results := by
  obtain ⟨ordered, hf, hp⟩ := h
  refine ⟨ordered, ?_, hp⟩
  clear hp
  induction hi generalizing ordered with
  | nil => cases hf; exact .nil
  | cons hi _ ih =>
    cases hf with
    | cons hb hf => exact .cons ⟨hb.1.trans hi.1.symm, hi.2 _ hb.2⟩ (ih _ hf)

/-- A single item has a single result. -/
theorem singleton {n : Nat} {a : α} {results : List (Nat × β)} (h : Tallies Q [(n, a)] results) :
    ∃ b, results = [(n, b)] ∧ Q a b := by
  obtain ⟨ordered, hf, hp⟩ := h
  cases hf with
  | @cons _ r _ _ hb hf =>
    cases hf
    obtain ⟨m, b⟩ := r
    obtain ⟨rfl, hq⟩ : m = n ∧ Q a b := hb
    exact ⟨b, List.perm_singleton.mp hp, hq⟩

/-! ### Back into order -/

theorem map_snd_placed (scenarios : List Scenario) :
    (Scenario.placed scenarios).map (·.2) = scenarios := by
  rw [Scenario.placed, List.map_map]
  exact List.zipIdx_map_fst 0 scenarios

theorem map_fst_placed (scenarios : List Scenario) :
    (Scenario.placed scenarios).map (·.1) = List.range scenarios.length := by
  rw [Scenario.placed, List.map_map, List.range_eq_range']
  exact List.zipIdx_map_snd 0 scenarios

/-- Results whose places increase are what sorting makes of them in any order. -/
theorem mergeSort_eq {results ordered : List (Nat × Verdict)} (hp : results.Perm ordered)
    (ho : (ordered.map (·.1)).Pairwise (· < ·)) :
    (results.mergeSort fun a b => a.1 ≤ b.1) = ordered := by
  have h_nodup : (ordered.map (·.1)).Nodup := ho.imp fun hab => Nat.ne_of_lt hab
  have h_sorted : (results.mergeSort fun a b => a.1 ≤ b.1).Pairwise fun a b => a.1 ≤ b.1 := by
    have h : (results.mergeSort fun a b => a.1 ≤ b.1).Pairwise fun a b => decide (a.1 ≤ b.1) :=
      List.pairwise_mergeSort (fun a b c hab hbc => by simp at *; omega)
        (fun a b => by simp; omega) results
    exact h.imp of_decide_eq_true
  have h_perm := (List.mergeSort_perm results fun a b => a.1 ≤ b.1).trans hp
  refine List.Perm.eq_of_pairwise (fun a b ha hb hab hba => ?_) h_sorted
    ((List.pairwise_map.mp ho).imp fun hab => Nat.le_of_lt hab) h_perm
  -- no two results have one place
  exact List.inj_on_of_nodup_map h_nodup (h_perm.subset ha) hb (Nat.le_antisymm hab hba)

/-- Put into order, the results for the placed scenarios stand against the scenarios one by one. -/
theorem forall₂_inOrder {Q : Scenario → Verdict → Prop} {scenarios : List Scenario}
    {results : List (Nat × Verdict)} (h : Tallies Q (Scenario.placed scenarios) results) :
    List.Forall₂ Q scenarios (inOrder results) := by
  obtain ⟨ordered, hf, hp⟩ := h
  have h_places : ordered.map (·.1) = List.range scenarios.length := by
    have h_eq :
        List.Forall₂ (· = ·) (ordered.map (·.1)) ((Scenario.placed scenarios).map (·.1)) := by
      rw [List.forall₂_map_left_iff, List.forall₂_map_right_iff]
      exact hf.flip.imp fun _ _ hb => hb.1
    rw [List.forall₂_eq_eq_eq] at h_eq
    rw [h_eq, map_fst_placed]
  have h_sorted : (ordered.map (·.1)).Pairwise (· < ·) := by
    rw [h_places]
    exact List.pairwise_lt_range
  rw [inOrder, mergeSort_eq hp h_sorted, ← map_snd_placed scenarios, List.forall₂_map_left_iff,
    List.forall₂_map_right_iff]
  exact hf.imp fun _ _ hb => hb.2

end Tallies

end PolicyTrial
