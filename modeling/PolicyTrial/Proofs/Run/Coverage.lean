import Mathlib.Data.List.Perm.Basic
import PolicyTrial.Run.Plan

/-!
# A plan covers its scenarios

A plan takes scenarios out of their order: some are tried in isolation, the others join the group of
their bundle, and the groups are ordered by path. `Plan.Covers` says what is kept all the same.

* Every placed scenario is in the plan once, with its place.
* A scenario in isolation has its resolved channel.
* The scenarios of a group all ask for a server, and their bundles lead where the bundle of the
  group leads. The group keeps the spelling of the scenario that opened it.

One more scenario keeps this (`Covers.add`), and so all of them do (`Bench.plan_covers`).
-/

namespace PolicyTrial

/-! ### Paths that lead to the same place -/

theorem Path.compareParts_eq_iff {parts parts' : List Path.RankedPart} :
    Path.compareParts parts parts' = .eq ↔ parts = parts' := by
  constructor
  · intro h
    fun_induction Path.compareParts parts parts' with
    | case1 => rfl
    | case8 m a as n b bs h_m h_n h_a h_b ih =>
      have h_rank : m = n := by omega
      have h_text : a = b := List.le_antisymm (List.not_lt.mp h_b) (List.not_lt.mp h_a)
      rw [h_rank, h_text, ih h]
    | _ => cases h
  · rintro rfl
    induction parts with
    | nil => rfl
    | cons part rest ih =>
      rw [Path.compareParts, if_neg (Nat.lt_irrefl _), if_neg (Nat.lt_irrefl _),
        if_neg (List.lt_irrefl _), if_neg (List.lt_irrefl _), ih]

/-- Paths are equal as paths if they lead to the same place. -/
theorem Path.compare_eq_iff {p q : String} :
    Path.compare p q = .eq ↔ Path.rankedParts p = Path.rankedParts q :=
  compareParts_eq_iff

/-! ### Groups -/

/-- A placed scenario can share a server for a bundle: it asks for a server, and its own bundle
leads there. -/
def Placed.Shares (default : Channel) (bundle : String) (p : Placed) : Prop :=
  p.2.resolveChannel default = .server ∧ Path.compare p.2.bundle bundle = .eq

namespace Plan

variable {default : Channel}

/-- Joining neither loses nor doubles a scenario. -/
theorem join_perm (p : Placed) (groups : List Group) :
    ((join p groups).flatMap (·.scenarios)).Perm (groups.flatMap (·.scenarios) ++ [p]) := by
  induction groups with
  | nil => exact .refl _
  | cons g rest ih =>
    unfold join
    split
    · exact (List.perm_append_singleton p _).symm
    · -- behind its own group the scenario stands in front of the other groups
      rw [List.flatMap_cons, List.flatMap_cons, List.append_assoc, List.append_assoc]
      exact List.perm_append_comm.append_left _
    · rw [List.flatMap_cons, List.flatMap_cons, List.append_assoc]
      exact ih.append_left _

/-- Joining keeps groups that can share a server. -/
theorem join_shares {p : Placed} {groups : List Group}
    (hp : p.2.resolveChannel default = .server)
    (hg : ∀ g ∈ groups, ∀ q ∈ g.scenarios, Placed.Shares default g.bundle q) :
    ∀ g ∈ join p groups, ∀ q ∈ g.scenarios, Placed.Shares default g.bundle q := by
  have h_new : ∀ q ∈ [p], Placed.Shares default p.2.bundle q := by
    intro q hq
    rw [List.mem_singleton.mp hq]
    exact ⟨hp, Path.compare_eq_iff.mpr rfl⟩
  induction groups with
  | nil => exact fun g h => by rw [List.mem_singleton.mp h]; exact h_new
  | cons g rest ih =>
    rw [List.forall_mem_cons] at hg
    unfold join
    split
    · exact List.forall_mem_cons.mpr ⟨h_new, List.forall_mem_cons.mpr hg⟩
    · next h_eq =>
      refine List.forall_mem_cons.mpr ⟨fun q hq => ?_, hg.2⟩
      rcases List.mem_append.mp hq with hq | hq
      · exact hg.1 q hq
      · rw [List.mem_singleton.mp hq]
        exact ⟨hp, h_eq⟩
    · exact List.forall_mem_cons.mpr ⟨hg.1, ih hg.2⟩

/-! ### Plans -/

/-- The placed scenarios of a plan, those in isolation first. -/
def placed (plan : Plan) : List Placed :=
  plan.isolated.map (fun t => (t.index, t.scenario)) ++ plan.shared.flatMap (·.scenarios)

/-- What a plan for some placed scenarios keeps of them. -/
structure Covers (default : Channel) (scenarios : List Placed) (plan : Plan) : Prop where
  perm : plan.placed.Perm scenarios
  isolated : ∀ t ∈ plan.isolated, t.channel = t.scenario.resolveChannel default
  shared : ∀ g ∈ plan.shared, ∀ p ∈ g.scenarios, Placed.Shares default g.bundle p

theorem Covers.add {scenarios : List Placed} {plan : Plan} (h : Covers default scenarios plan)
    (sharing : Bool) (p : Placed) :
    Covers default (scenarios ++ [p]) (Plan.add sharing default plan p) := by
  rw [Plan.add]
  by_cases h_shared : (sharing && p.2.resolveChannel default == .server) = true
  · rw [if_pos h_shared]
    rw [Bool.and_eq_true, beq_iff_eq] at h_shared
    refine ⟨?_, h.isolated, join_shares h_shared.2 h.shared⟩
    refine List.Perm.trans ?_ (h.perm.append_right _)
    rw [placed, placed, List.append_assoc]
    exact (join_perm p plan.shared).append_left _
  · rw [if_neg h_shared]
    refine ⟨?_, fun t ht => ?_, h.shared⟩
    · -- the scenario stands behind the isolated ones and in front of the groups
      refine List.Perm.trans ?_ (h.perm.append_right _)
      rw [placed, placed, List.map_append, List.append_assoc, List.append_assoc]
      exact List.perm_append_comm.append_left _
    · rcases List.mem_append.mp ht with ht | ht
      · exact h.isolated t ht
      · rw [List.mem_singleton.mp ht]

end Plan

/-- What holds of an empty plan, and still holds with one scenario more, holds of the plan for some
scenarios. -/
theorem Bench.plan_induction {P : List Placed → Plan → Prop} (b : Bench) (h_empty : P [] ⟨[], []⟩)
    (h_add : ∀ before plan p, P before plan → P (before ++ [p])
      (Plan.add (b.settings.serverScope == .session) b.settings.channel plan p))
    (scenarios : List Scenario) : P (Scenario.placed scenarios) (b.plan scenarios) := by
  have h_run : ∀ (ps before : List Placed) (plan : Plan), P before plan → P (before ++ ps)
      (ps.foldl (Plan.add (b.settings.serverScope == .session) b.settings.channel) plan) := by
    intro ps
    induction ps with
    | nil => intro before plan h; rwa [List.append_nil]
    | cons p ps ih =>
      intro before plan h
      rw [List.foldl_cons, List.append_cons]
      exact ih _ _ (h_add before plan p h)
  exact h_run _ [] _ h_empty

/-- The plan of a bench covers the placed scenarios. -/
theorem Bench.plan_covers (b : Bench) (scenarios : List Scenario) :
    (b.plan scenarios).Covers b.settings.channel (Scenario.placed scenarios) := by
  refine b.plan_induction ?_ ?_ scenarios
  · exact ⟨.nil, List.forall_mem_nil _, List.forall_mem_nil _⟩
  · exact fun _ _ p h => h.add _ p

end PolicyTrial
