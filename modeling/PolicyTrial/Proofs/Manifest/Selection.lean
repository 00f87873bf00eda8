import Mathlib.Data.List.Nodup
import Mathlib.Data.List.Perm.Subperm
import PolicyTrial.Manifest.Decode
import PolicyTrial.Proofs.Manifest.Exactness

/-!
# Selecting scenarios

Patterns select scenarios of a registry by their ids. What a selection keeps is said without going
through the scenarios (`Registry.Keeps`): it is a part of the registry in its order, with exactly
the scenarios that some pattern is after. Since no two scenarios of a registry have the same id,
there is only one such part (`Registry.keeps_iff`).

* `IdPattern.Selects`, `IdPattern.Matched`, `IdPattern.Want`: a pattern, one of some patterns, or
  some patterns that may be none are after an id.
* `Registry.select_eq_ok_iff`, `Registry.select_eq_error_iff`: what a selection keeps, and when it
  fails. Failing is the same as keeping nothing where there are patterns.
* `Registry.Made`: the registries that can be made. Their ids are pairwise distinct, and they are
  all there are.
* `Registry.selection_laws`: what follows for two selections, one after the other or at once.
-/

namespace PolicyTrial

/-! ### The patterns -/

/-- Some patterns are after an id: it is matched by one of them, or there are none. -/
def IdPattern.Want (patterns : List String) (id : String) : Prop :=
  patterns = [] ∨ ∃ p ∈ patterns, (ofText p).matches id = true

instance (patterns : List String) (id : String) : Decidable (IdPattern.Want patterns id) :=
  inferInstanceAs (Decidable (_ ∨ _))

namespace IdPattern

/-- A pattern is after an id: it matches it as a glob, or it is no glob and spells it. -/
inductive Selects (pattern id : String) : Prop
  | glob {g : Glob} (h_glob : Glob.parse pattern = some g) (h_match : g.matches id = true)
  | literal (h_glob : Glob.parse pattern = none) (h_id : id = pattern)

theorem ofText_matches_iff {pattern id : String} :
    (ofText pattern).matches id = true ↔ Selects pattern id := by
  unfold ofText
  cases h_glob : Glob.parse pattern with
  | some g =>
    show g.matches id = true ↔ _
    refine ⟨.glob h_glob, fun h => ?_⟩
    rcases h with ⟨h_glob', h_match⟩ | ⟨h_none, -⟩
    · obtain rfl := Option.some.inj (h_glob.symm.trans h_glob')
      exact h_match
    · exact absurd (h_glob.symm.trans h_none) (Option.some_ne_none g)
  | none =>
    show (pattern == id) = true ↔ _
    rw [beq_iff_eq]
    refine ⟨fun h => .literal h_glob h.symm, fun h => ?_⟩
    rcases h with ⟨h_glob', -⟩ | ⟨-, h_id⟩
    · exact absurd (h_glob'.symm.trans h_glob) (Option.some_ne_none _)
    · exact h_id.symm

/-- One of some patterns is after an id. -/
def Matched (patterns : List String) (id : String) : Prop := ∃ p ∈ patterns, Selects p id

theorem want_iff {patterns : List String} {id : String} :
    Want patterns id ↔ patterns = [] ∨ Matched patterns id := by
  simp only [Want, Matched, ofText_matches_iff]

theorem matched_append_iff {ps qs : List String} {id : String} :
    Matched (ps ++ qs) id ↔ Matched ps id ∨ Matched qs id := by
  simp only [Matched, List.mem_append, or_and_right, exists_or]

/-- Neither the order of patterns nor their repetition matters. -/
theorem want_congr {ps qs : List String} (h : ∀ p, p ∈ ps ↔ p ∈ qs) (id : String) :
    Want ps id ↔ Want qs id := by
  have h_nil : ps = [] ↔ qs = [] := by
    simp only [List.eq_nil_iff_forall_not_mem, h]
  simp only [want_iff, Matched, h_nil, h]

end IdPattern

namespace Registry

open IdPattern (Matched Want)

variable {r kept selected : Registry} {patterns ps qs : List String} {P Q : String → Prop}

/-- The scenarios of a registry that some patterns are after, in order. -/
def wanted (r : Registry) (patterns : List String) : List Scenario :=
  r.scenarios.filter fun s => Want patterns s.id

theorem wanted_nil (r : Registry) : r.wanted [] = r.scenarios :=
  List.filter_eq_self.mpr fun _ _ => decide_eq_true (.inl rfl)

/-- Patterns keep what they are after. -/
theorem filter_matches (r : Registry) (h : patterns ≠ []) :
    (r.filter fun id => (patterns.map IdPattern.ofText).any (·.matches id)).scenarios =
      r.wanted patterns := by
  refine List.filter_congr fun s _ => ?_
  dsimp only
  rw [Bool.eq_iff_iff, List.any_map, List.any_eq_true, decide_eq_true_iff]
  exact ⟨.inr, fun h_want => h_want.resolve_left h⟩

theorem eq_iff_scenarios_eq {r r' : Registry} : r = r' ↔ r.scenarios = r'.scenarios := by
  cases r with
  | mk scenarios h =>
    cases r' with
    | mk scenarios' h' => rw [mk.injEq]

theorem select_eq_ok_iff :
    r.select patterns = .ok selected ↔
      selected.scenarios = r.wanted patterns ∧ (patterns = [] ∨ r.wanted patterns ≠ []) := by
  rw [select]
  split
  · next h =>
    rw [h, wanted_nil, Except.ok.injEq, eq_comm, eq_iff_scenarios_eq]
    exact ⟨fun h_eq => ⟨h_eq, .inl rfl⟩, fun h => h.1⟩
  · next h =>
    rw [← filter_matches r h, ← eq_iff_scenarios_eq]
    dsimp only
    split
    · next h_none =>
      exact iff_of_false nofun fun h_some => h_some.2.elim h (absurd (List.isEmpty_iff.mp h_none))
    · next h_some =>
      rw [List.isEmpty_iff] at h_some
      rw [Except.ok.injEq, eq_comm, and_iff_left (.inr h_some)]

theorem select_eq_error_iff {f : Failure} :
    r.select patterns = .error f ↔
      patterns ≠ [] ∧ r.wanted patterns = [] ∧
        f = .config "" ("no scenario matches " ++ ", ".intercalate patterns) := by
  rw [select]
  split
  · next h => exact iff_of_false nofun fun h_some => h_some.1 h
  · next h =>
    rw [← filter_matches r h]
    dsimp only
    split
    · next h_none =>
      rw [Except.error.injEq, eq_comm, and_iff_right h, and_iff_right (List.isEmpty_iff.mp h_none)]
    · next h_some => exact iff_of_false nofun fun h_none => h_some (List.isEmpty_iff.mpr h_none.2.1)

/-! ### What is kept -/

/-- A registry has, unchanged and in their order, exactly the scenarios of another one whose ids
satisfy a condition. -/
structure Keeps (r : Registry) (P : String → Prop) (kept : Registry) : Prop where
  sublist : kept.scenarios.Sublist r.scenarios
  mem_iff : ∀ s, s ∈ kept.scenarios ↔ s ∈ r.scenarios ∧ P s.id

theorem scenarios_nodup (r : Registry) : r.scenarios.Nodup := List.Nodup.of_map _ r.ids_nodup

/-- There is one way to keep some scenarios of a registry: to leave out the others. -/
theorem keeps_iff [DecidablePred P] :
    r.Keeps P kept ↔ kept.scenarios = r.scenarios.filter fun s => P s.id := by
  refine ⟨fun h => ?_, fun h => ⟨h ▸ List.filter_sublist, fun s => ?_⟩⟩
  · have h_self : (kept.scenarios.filter fun s => P s.id) = kept.scenarios :=
      List.filter_eq_self.mpr fun s hs => decide_eq_true ((h.mem_iff s).mp hs).2
    have h_sublist : kept.scenarios.Sublist (r.scenarios.filter fun s => P s.id) := by
      have h_filtered := h.sublist.filter fun s => decide (P s.id)
      rwa [h_self] at h_filtered
    -- nothing is left out twice, so what remains cannot be longer than what is kept
    have h_subset : (r.scenarios.filter fun s => P s.id) ⊆ kept.scenarios := by
      intro s hs
      obtain ⟨h_mem, h_id⟩ := List.mem_filter.mp hs
      exact (h.mem_iff s).mpr ⟨h_mem, of_decide_eq_true h_id⟩
    have h_length := (List.Nodup.subperm (r.scenarios_nodup.filter _) h_subset).length_le
    exact h_sublist.eq_of_length_le h_length
  · rw [h, List.mem_filter, decide_eq_true_iff]

theorem keeps_congr (h : ∀ id, P id ↔ Q id) : r.Keeps P kept ↔ r.Keeps Q kept := by
  rw [funext fun id => propext (h id)]

theorem exists_keeps (r : Registry) (P : String → Prop) [DecidablePred P] :
    ∃ kept, r.Keeps P kept :=
  ⟨r.filter fun id => P id, keeps_iff.mpr rfl⟩

/-- To keep something of what was kept is to keep what satisfies both conditions. -/
theorem Keeps.keeps_iff [DecidablePred P] [DecidablePred Q] (h : r.Keeps P kept) :
    kept.Keeps Q selected ↔ r.Keeps (fun id => P id ∧ Q id) selected := by
  rw [Registry.keeps_iff, Registry.keeps_iff, Registry.keeps_iff.mp h, List.filter_filter]
  simp only [Bool.decide_and, Bool.and_comm]

theorem Keeps.eq_nil_iff (h : r.Keeps P kept) :
    kept.scenarios = [] ↔ ∀ s ∈ r.scenarios, ¬ P s.id := by
  simp only [List.eq_nil_iff_forall_not_mem, h.mem_iff, not_and]

theorem keeps_wanted_iff :
    r.Keeps (Want patterns) kept ↔ kept.scenarios = r.wanted patterns := keeps_iff

theorem wanted_eq_nil_iff : r.wanted patterns = [] ↔ ∀ s ∈ r.scenarios, ¬ Want patterns s.id := by
  simp only [wanted, List.filter_eq_nil_iff, decide_eq_true_iff]

/-- A selection keeps what its patterns are after, and it comes to something. -/
theorem select_eq_ok_iff_keeps : r.select patterns = .ok kept ↔
    r.Keeps (Want patterns) kept ∧ (patterns = [] ∨ kept.scenarios ≠ []) := by
  rw [select_eq_ok_iff, keeps_wanted_iff]
  refine and_congr_right fun h => ?_
  rw [h]

theorem select_nil (r : Registry) : r.select [] = .ok r := if_pos rfl

/-- Patterns that are the same but for their order and repetition select the same. -/
theorem toOption_select_congr (h : ∀ p, p ∈ ps ↔ p ∈ qs) (r : Registry) :
    (r.select ps).toOption = (r.select qs).toOption := by
  have h_nil : ps = [] ↔ qs = [] := by
    simp only [List.eq_nil_iff_forall_not_mem, h]
  have h_same : ∀ kept, r.select ps = .ok kept ↔ r.select qs = .ok kept := by
    intro kept
    rw [select_eq_ok_iff_keeps, select_eq_ok_iff_keeps, h_nil,
      keeps_congr fun id => IdPattern.want_congr h id]
  cases h_ps : r.select ps with
  | ok kept => rw [(h_same kept).mp h_ps]
  | error f =>
    cases h_qs : r.select qs with
    | ok kept => exact absurd (h_ps.symm.trans ((h_same kept).mpr h_qs)) nofun
    | error f' => rfl

/-! ### One selection after the other -/

/-- Two selections, one after the other, keep what both lists of patterns are after. -/
theorem select_select_eq_ok_iff :
    (r.select ps >>= fun selected => selected.select qs) = .ok kept ↔
      r.Keeps (fun id => Want ps id ∧ Want qs id) kept ∧
        (ps = [] ∧ qs = [] ∨ kept.scenarios ≠ []) := by
  simp only [bind_eq_ok_iff, select_eq_ok_iff_keeps]
  refine ⟨?_, fun ⟨h_keeps, h_some⟩ => ?_⟩
  · rintro ⟨selected, ⟨h_first, h_some⟩, h_second, h_some'⟩
    have h_keeps := h_first.keeps_iff.mp h_second
    refine ⟨h_keeps, ?_⟩
    by_cases h_qs : qs = []
    · -- the second selection changes nothing
      have h_eq : kept.scenarios = selected.scenarios := by
        rw [keeps_wanted_iff.mp h_second, h_qs, wanted_nil]
      rw [h_eq]
      exact h_some.imp_left fun h_ps => ⟨h_ps, h_qs⟩
    · exact .inr (h_some'.resolve_left h_qs)
  · obtain ⟨selected, h_first⟩ := r.exists_keeps (Want ps)
    have h_second : selected.Keeps (Want qs) kept := h_first.keeps_iff.mpr h_keeps
    refine ⟨selected, ⟨h_first, ?_⟩, h_second, h_some.imp_left And.right⟩
    refine h_some.imp And.left fun h_kept h_none => h_kept ?_
    exact List.sublist_nil.mp (h_none ▸ h_second.sublist)

/-- They fail if there is nothing that both are after. -/
theorem select_select_eq_error_iff :
    (∃ f, (r.select ps >>= fun selected => selected.select qs) = .error f) ↔
      ¬ (ps = [] ∧ qs = []) ∧ ∀ s ∈ r.scenarios, ¬ (Want ps s.id ∧ Want qs s.id) := by
  obtain ⟨both, h_both⟩ := r.exists_keeps fun id => Want ps id ∧ Want qs id
  rw [← h_both.eq_nil_iff]
  refine ⟨fun ⟨f, h_error⟩ => ?_, fun ⟨h_patterns, h_none⟩ => ?_⟩
  · refine ⟨fun h_patterns => ?_, Classical.not_not.mp fun h_some => ?_⟩
    · cases h_error.symm.trans (select_select_eq_ok_iff.mpr ⟨h_both, .inl h_patterns⟩)
    · cases h_error.symm.trans (select_select_eq_ok_iff.mpr ⟨h_both, .inr h_some⟩)
  · cases h : (r.select ps >>= fun selected => selected.select qs) with
    | error f => exact ⟨f, rfl⟩
    | ok kept =>
      obtain ⟨h_keeps, h_some⟩ := select_select_eq_ok_iff.mp h
      have h_kept := h_keeps.eq_nil_iff.mpr (h_both.eq_nil_iff.mp h_none)
      exact absurd h_kept (h_some.resolve_left h_patterns)

/-- To select twice by the same patterns is to select once. -/
theorem select_select_self (r : Registry) (patterns : List String) :
    (r.select patterns >>= fun selected => selected.select patterns) = r.select patterns := by
  cases h : r.select patterns with
  | error f => rfl
  | ok kept =>
    obtain ⟨h_keeps, h_some⟩ := select_eq_ok_iff_keeps.mp h
    have h_again : kept.Keeps (Want patterns) kept := by
      rw [h_keeps.keeps_iff]
      exact (keeps_congr fun id => and_self_iff).mpr h_keeps
    exact select_eq_ok_iff_keeps.mpr ⟨h_again, h_some⟩

/-! ### The registries that can be made -/

/-- The registries that can be made: of scenarios, of a manifest, and by selecting from those. -/
inductive Made : Registry → Prop
  | ofScenarios {scenarios : List Scenario} {r : Registry} (h : ofScenarios scenarios = .ok r) :
    Made r
  | ofManifest {read : Manifest.TextReader} {base path content : String} {r : Registry}
      (h : ofManifestText read base path content = .ok r) : Made r
  | select {r selected : Registry} {patterns : List String} (hr : Made r)
      (h : r.select patterns = .ok selected) : Made selected

/-- Scenarios are accepted as they are if their ids are pairwise distinct, and not otherwise. -/
theorem ofScenarios_eq_ok_iff_nodup {scenarios : List Scenario} {r : Registry} :
    ofScenarios scenarios = .ok r ↔
      (scenarios.map (·.id)).Nodup ∧ r.scenarios = scenarios := by
  rw [ofScenarios_eq_ok_iff]
  refine ⟨fun h => ⟨h ▸ r.ids_nodup, h⟩, fun h => h.2⟩

theorem exists_made_iff {scenarios : List Scenario} :
    (∃ r, Made r ∧ r.scenarios = scenarios) ↔ (scenarios.map (·.id)).Nodup := by
  refine ⟨fun ⟨r, _, h⟩ => h ▸ r.ids_nodup, fun h_nodup => ?_⟩
  have h_made : ofScenarios scenarios = .ok ⟨scenarios, h_nodup⟩ :=
    ofScenarios_eq_ok_iff.mpr rfl
  exact ⟨⟨scenarios, h_nodup⟩, .ofScenarios h_made, rfl⟩

/-- **The laws of selection.** Scenarios are accepted, as they are, if their ids are pairwise
distinct; all registries that can be made have such ids, and nothing else is asked of them. Let some
patterns be after an id if one of them matches it, or if there are none. A selection keeps, in order
and unchanged, exactly the scenarios that its patterns are after, and it fails exactly if there are
patterns and none of them matches anything. So the order of the patterns and their repetition do not
matter; a second selection by the same patterns changes nothing; two selections, one after the
other, keep what both lists of patterns are after, and fail if that is nothing; and a selection by
two lists at once keeps what a pattern of one of them matches. -/
theorem selection_laws (r : Registry) (ps qs : List String) :
    (∀ scenarios r', ofScenarios scenarios = .ok r' ↔
      (scenarios.map (·.id)).Nodup ∧ r'.scenarios = scenarios) ∧
    (∀ scenarios, (∃ r', Made r' ∧ r'.scenarios = scenarios) ↔
      (scenarios.map (·.id)).Nodup) ∧
    (∀ id, Want ps id ↔ ps = [] ∨ Matched ps id) ∧
    r.select [] = .ok r ∧
    (∀ kept, r.select ps = .ok kept ↔
      r.Keeps (Want ps) kept ∧ (ps = [] ∨ kept.scenarios ≠ [])) ∧
    (∀ f, r.select ps = .error f ↔ ps ≠ [] ∧ (∀ s ∈ r.scenarios, ¬ Matched ps s.id) ∧
      f = .config "" ("no scenario matches " ++ ", ".intercalate ps)) ∧
    ((∀ p, p ∈ ps ↔ p ∈ qs) → (r.select ps).toOption = (r.select qs).toOption) ∧
    (r.select ps >>= fun selected => selected.select ps) = r.select ps ∧
    (∀ kept, (r.select ps >>= fun selected => selected.select qs) = .ok kept ↔
      r.Keeps (fun id => Want ps id ∧ Want qs id) kept ∧
        (ps = [] ∧ qs = [] ∨ kept.scenarios ≠ [])) ∧
    ((∃ f, (r.select ps >>= fun selected => selected.select qs) = .error f) ↔
      ¬ (ps = [] ∧ qs = []) ∧ ∀ s ∈ r.scenarios, ¬ (Want ps s.id ∧ Want qs s.id)) ∧
    ∀ kept, r.select (ps ++ qs) = .ok kept ↔
      r.Keeps (fun id => ps ++ qs = [] ∨ Matched ps id ∨ Matched qs id) kept ∧
        (ps ++ qs = [] ∨ kept.scenarios ≠ []) := by
  refine ⟨fun _ _ => ofScenarios_eq_ok_iff_nodup, fun _ => exists_made_iff,
    fun _ => IdPattern.want_iff, select_nil r, fun _ => select_eq_ok_iff_keeps, fun f => ?_,
    fun h => toOption_select_congr h r, select_select_self r ps, fun _ => select_select_eq_ok_iff,
    select_select_eq_error_iff, fun kept => ?_⟩
  · rw [select_eq_error_iff, wanted_eq_nil_iff]
    refine and_congr_right fun h_ps => ?_
    simp only [IdPattern.want_iff, h_ps, false_or]
  · rw [select_eq_ok_iff_keeps]
    refine and_congr_left' (keeps_congr fun id => ?_)
    rw [IdPattern.want_iff, IdPattern.matched_append_iff]

/-- One of the patterns is no glob, and stands for the id that it spells. The patterns are given in
another order, and one of them twice. -/
theorem selection_laws_bracket :
    let scenario (id : String) : Scenario := ⟨id, "b.yml", .null, .exactDecision .grant, none⟩
    let r : Registry := ⟨[scenario "s::a", scenario "t::b", scenario "[s"], by decide⟩
    let ids (patterns : List String) : Option (List String) :=
      (r.select patterns).toOption.map fun kept => kept.scenarios.map (·.id)
    ids ["s::*", "[s"] = some ["s::a", "[s"] ∧ ids ["[s", "s::*", "[s"] = some ["s::a", "[s"] := by
  intro scenario r ids
  have h_ids : ids ["s::*", "[s"] = some ["s::a", "[s"] := by decide +kernel
  obtain ⟨-, -, -, -, -, -, h_order, -⟩ := selection_laws r ["s::*", "[s"] ["[s", "s::*", "[s"]
  have h_same : ∀ p, p ∈ ["s::*", "[s"] ↔ p ∈ ["[s", "s::*", "[s"] := by
    simp only [List.mem_cons, List.not_mem_nil, or_false]
    grind
  refine ⟨h_ids, ?_⟩
  show (r.select ["[s", "s::*", "[s"]).toOption.map _ = _
  rw [← h_order h_same]
  exact h_ids

end Registry

end PolicyTrial
