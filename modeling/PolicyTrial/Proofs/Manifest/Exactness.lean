import PolicyTrial.Proofs.Manifest.Questions

/-!
# Exactly the scenarios of a manifest

The registry of a manifest has the scenarios that its questions ask for and nothing else, and a
manifest without a registry tells its first defect (`Registry.ofManifest_exact`).

* `Manifest.IsSound`: the manifests that have a registry.
* `Manifest.Defect`: what is wrong with a manifest. It is the first defect on the way through the
  suites and their questions; ids are compared when all scenarios are there.
-/

namespace PolicyTrial

namespace Manifest

open SuiteEntry (Question)

/-- The ids of the questions. -/
def HasIds (m : Manifest) (ids : List String) : Prop :=
  List.Forall₂ (fun p id => p.2.HasId p.1 id) m.questions ids

/-- A suite asks something, and all that it asks yields scenarios. -/
def SuiteExpands (read : TextReader) (base : String) (m : Manifest) (suite : SuiteEntry) : Prop :=
  (suite.payloads ≠ [] ∨ suite.cases ≠ []) ∧
    ∀ q ∈ suite.questions, ∃ s, m.Yields read base suite q s

/-- What a manifest and its payload files need for a registry. -/
structure IsSound (read : TextReader) (base : String) (m : Manifest) : Prop where
  asks : ∀ suite ∈ m.suites, suite.payloads ≠ [] ∨ suite.cases ≠ []
  shared : ∀ suite ∈ m.suites, suite.payloads ≠ [] → suite.expect.isSome
  expects : ∀ suite ∈ m.suites, ∀ c ∈ suite.cases, c.expect.isSome ∨ suite.expect.isSome
  /-- Exactly one of the two is there. -/
  sources : ∀ suite ∈ m.suites, ∀ c ∈ suite.cases, c.payload.isSome ≠ c.payloadInline.isSome
  files : ∀ suite ∈ m.suites, ∀ file ∈ suite.files,
    ∃ payload, m.Provides read base file payload
  ids : ∃ ids, m.HasIds ids ∧ ids.Nodup

/-! ### What may be wrong -/

/-- What is wrong with a suite: it asks nothing, or it is the first of its questions that has a
defect. -/
inductive SuiteDefect (read : TextReader) (base : String) (m : Manifest) (suite : SuiteEntry) :
    String → Prop
  | empty (h_payloads : suite.payloads = []) (h_cases : suite.cases = []) :
    SuiteDefect read base m suite ("suite '" ++ suite.name ++ "' has neither cases nor payloads")
  | question {reason : String}
      (h : FailsFirst (fun q => ∃ s, m.Yields read base suite q s)
        (m.QuestionDefect read base suite) suite.questions reason) :
    SuiteDefect read base m suite reason

/-- What is wrong with a manifest: it is the first of its suites that has a defect, or all is well
with them and it is the first id that comes again. -/
inductive Defect (read : TextReader) (base : String) (m : Manifest) : String → Prop
  | suite {reason : String}
      (h : FailsFirst (m.SuiteExpands read base) (m.SuiteDefect read base) m.suites reason) :
    Defect read base m reason
  | duplicate {before after : List String} {id : String}
      (h_suites : ∀ suite ∈ m.suites, m.SuiteExpands read base suite)
      (h_ids : m.HasIds (before ++ id :: after)) (h_before : before.Nodup) (h_mem : id ∈ before) :
    Defect read base m ("duplicate scenario '" ++ id ++ "'")

variable {read : TextReader} {base : String} {m : Manifest} {suite : SuiteEntry} {q : Question}

/-! ### Suites -/

theorem caseScenarios_eq {payloadDir bundle : String} (start : Nat) (cases : List CaseEntry) :
    caseScenarios read payloadDir bundle suite start cases =
      (cases.zipIdx start).mapM fun p => caseScenario read payloadDir bundle suite p.2 p.1 := by
  induction cases generalizing start with
  | nil => rfl
  | cons c rest ih => rw [caseScenarios, List.zipIdx_cons, List.mapM_cons, ih]

/-- The scenarios of a suite that is not empty are those of its questions. -/
theorem suiteScenarios_of_asks (h : suite.payloads ≠ [] ∨ suite.cases ≠ []) :
    suiteScenarios read (dirBelow base m.bundleDir) (dirBelow base m.payloadDir) suite =
      suite.questions.mapM (m.scenarioOf read base suite) := by
  have h_some : ¬ (suite.payloads.isEmpty && suite.cases.isEmpty) = true := by
    rw [Bool.and_eq_true, List.isEmpty_iff, List.isEmpty_iff]
    exact not_and_or.mpr h
  rw [suiteScenarios, if_neg h_some]
  dsimp only
  rw [caseScenarios_eq, SuiteEntry.questions, List.mapM_append, List.mapM_map, List.mapM_map]
  rfl

theorem suiteScenarios_of_empty {bundleDir payloadDir : String} (h_payloads : suite.payloads = [])
    (h_cases : suite.cases = []) :
    suiteScenarios read bundleDir payloadDir suite =
      .error ("suite '" ++ suite.name ++ "' has neither cases nor payloads") := by
  rw [suiteScenarios, h_payloads, h_cases]
  rfl

theorem suiteScenarios_eq_ok_iff {scenarios : List Scenario} :
    suiteScenarios read (dirBelow base m.bundleDir) (dirBelow base m.payloadDir) suite =
        .ok scenarios ↔
      (suite.payloads ≠ [] ∨ suite.cases ≠ []) ∧
        List.Forall₂ (m.Yields read base suite) suite.questions scenarios := by
  by_cases h : suite.payloads ≠ [] ∨ suite.cases ≠ []
  · rw [suiteScenarios_of_asks h, mapM_eq_ok_iff]
    simp only [scenarioOf_eq_ok_iff]
    exact (and_iff_right h).symm
  · have h_empty : suite.payloads = [] ∧ suite.cases = [] := by
      rwa [not_or, not_ne_iff, not_ne_iff] at h
    rw [suiteScenarios_of_empty h_empty.1 h_empty.2]
    exact iff_of_false nofun fun h_asks => h h_asks.1

theorem suiteScenarios_eq_error_iff {reason : String} :
    suiteScenarios read (dirBelow base m.bundleDir) (dirBelow base m.payloadDir) suite =
        .error reason ↔ m.SuiteDefect read base suite reason := by
  have h_questions : (suite.payloads ≠ [] ∨ suite.cases ≠ []) →
      (suiteScenarios read (dirBelow base m.bundleDir) (dirBelow base m.payloadDir) suite =
          .error reason ↔
        FailsFirst (fun q => ∃ s, m.Yields read base suite q s) (m.QuestionDefect read base suite)
          suite.questions reason) := by
    intro h
    rw [suiteScenarios_of_asks h, mapM_eq_error_iff]
    simp only [scenarioOf_eq_ok_iff, scenarioOf_eq_error_iff]
  constructor
  · intro h
    by_cases h_asks : suite.payloads ≠ [] ∨ suite.cases ≠ []
    · exact .question ((h_questions h_asks).mp h)
    · have h_empty : suite.payloads = [] ∧ suite.cases = [] := by
        rwa [not_or, not_ne_iff, not_ne_iff] at h_asks
      rw [suiteScenarios_of_empty h_empty.1 h_empty.2] at h
      cases h
      exact .empty h_empty.1 h_empty.2
  · intro h
    cases h with
    | empty h_payloads h_cases => exact suiteScenarios_of_empty h_payloads h_cases
    | question h =>
      refine (h_questions ?_).mpr h
      -- a suite that asks nothing has no question that could fail
      by_contra h_asks
      rw [not_or, not_ne_iff, not_ne_iff] at h_asks
      rw [SuiteEntry.questions, h_asks.1, h_asks.2] at h
      exact not_failsFirst_nil h

/-! ### All suites -/

/-- All suites give their scenarios exactly if none is empty and each question gives its own. -/
theorem expand_eq_ok_iff {scenarios : List Scenario} :
    m.expand read base = .ok scenarios ↔
      (∀ suite ∈ m.suites, suite.payloads ≠ [] ∨ suite.cases ≠ []) ∧
        List.Forall₂ (fun p s => m.Yields read base p.1 p.2 s) m.questions scenarios := by
  rw [expand, bind_eq_ok_iff, questions, ← exists_forall₂_flatten_iff]
  simp only [mapM_eq_ok_iff, suiteScenarios_eq_ok_iff]
  refine exists_congr fun perSuite => and_congr_right fun _ => ?_
  constructor
  · intro h
    cases h
    rfl
  · rintro rfl
    rfl

theorem suiteExpands_iff :
    m.SuiteExpands read base suite ↔ ∃ scenarios,
      suiteScenarios read (dirBelow base m.bundleDir) (dirBelow base m.payloadDir) suite =
        .ok scenarios := by
  simp only [suiteScenarios_eq_ok_iff]
  rw [exists_and_left, exists_forall₂_iff, SuiteExpands]

theorem expand_eq_error_iff {reason : String} :
    m.expand read base = .error reason ↔
      FailsFirst (m.SuiteExpands read base) (m.SuiteDefect read base) m.suites reason := by
  rw [expand, bind_eq_error_iff, mapM_eq_error_iff]
  simp only [suiteScenarios_eq_error_iff, ← suiteExpands_iff]
  -- putting the scenarios together does not fail
  refine or_iff_left ?_
  rintro ⟨_, -, h⟩
  cases h

theorem mem_questions_iff {p : SuiteEntry × Question} :
    p ∈ m.questions ↔ p.1 ∈ m.suites ∧ p.2 ∈ p.1.questions := by
  rw [questions, List.mem_flatMap]
  constructor
  · rintro ⟨suite, h_suite, h⟩
    obtain ⟨q, hq, rfl⟩ := List.mem_map.mp h
    exact ⟨h_suite, hq⟩
  · rintro ⟨h_suite, hq⟩
    exact ⟨p.1, h_suite, List.mem_map.mpr ⟨p.2, hq, rfl⟩⟩

theorem exists_expand_iff :
    (∃ scenarios, m.expand read base = .ok scenarios) ↔
      ∀ suite ∈ m.suites, m.SuiteExpands read base suite := by
  simp only [expand_eq_ok_iff]
  rw [exists_and_left, exists_forall₂_iff]
  simp only [mem_questions_iff]
  constructor
  · rintro ⟨h_asks, h⟩ suite h_suite
    exact ⟨h_asks suite h_suite, fun q hq => h (suite, q) ⟨h_suite, hq⟩⟩
  · intro h
    exact ⟨fun suite h_suite => (h suite h_suite).1, fun p hp => (h p.1 hp.1).2 p.2 hp.2⟩

/-- A manifest has the ids that its questions make, and no others. -/
theorem hasIds_iff {ids : List String} :
    m.HasIds ids ↔ (m.questions.map fun p => scenarioId p.1.name p.2.name) = ids := by
  simp only [HasIds, Question.hasId_iff]
  rw [← List.forall₂_eq_eq_eq, List.forall₂_map_left_iff]

theorem HasIds.unique {ids ids' : List String} (h : m.HasIds ids) (h' : m.HasIds ids') :
    ids = ids' := (hasIds_iff.mp h).symm.trans (hasIds_iff.mp h')

/-- The ids of a manifest are those of its scenarios. -/
theorem hasIds_of_yields {scenarios : List Scenario}
    (h : List.Forall₂ (fun p s => m.Yields read base p.1 p.2 s) m.questions scenarios) :
    m.HasIds (scenarios.map (·.id)) :=
  List.forall₂_map_right_iff.mpr (h.imp fun _ _ h => h.id)

/-! ### Sound manifests -/

theorem exists_hasPayload_iff :
    (∃ payload, m.HasPayload read base q payload) ↔ q.file?.isSome ≠ q.inline?.isSome ∧
      ∀ file ∈ q.file?, ∃ payload, m.Provides read base file payload := by
  constructor
  · rintro ⟨payload, ⟨file, h_file, h_inline, h⟩ | ⟨h_file, h_inline⟩⟩
    · rw [h_file, h_inline]
      refine ⟨nofun, fun _ h_mem => ?_⟩
      cases h_mem
      exact ⟨payload, h⟩
    · rw [h_file, h_inline]
      exact ⟨nofun, nofun⟩
  · rintro ⟨h_sources, h_files⟩
    rcases sources_cases q with ⟨file, h_file, h_inline⟩ | ⟨payload, h_file, h_inline⟩ | h
    · obtain ⟨payload, h⟩ := h_files file h_file
      exact ⟨payload, .inl ⟨file, h_file, h_inline, h⟩⟩
    · exact ⟨payload, .inr ⟨h_file, h_inline⟩⟩
    · exact absurd h h_sources

theorem exists_yields_iff :
    (∃ s, m.Yields read base suite q s) ↔
      (q.expect suite).isSome ∧ ∃ payload, m.HasPayload read base q payload := by
  constructor
  · rintro ⟨s, h⟩
    obtain ⟨entry, h_entry, -⟩ := h.expectation
    exact ⟨Option.isSome_iff_exists.mpr ⟨entry, h_entry⟩, s.payload, h.payload⟩
  · rintro ⟨h_expect, payload, h⟩
    obtain ⟨entry, h_entry⟩ := Option.isSome_iff_exists.mp h_expect
    exact ⟨⟨scenarioId suite.name q.name, Path.join (dirBelow base m.bundleDir) suite.bundle,
      payload, entry.expectation, q.channel suite⟩, Question.hasId_iff.mpr rfl,
      isBundle_iff.mpr rfl, h, ⟨entry, h_entry, ExpectationEntry.spells_iff.mpr rfl⟩, rfl⟩

theorem forall_questions_iff {P : Question → Prop} :
    (∀ q ∈ suite.questions, P q) ↔
      (∀ file ∈ suite.payloads, P (.payload file)) ∧
        ∀ p ∈ suite.cases.zipIdx, P (.case p.2 p.1) := by
  rw [SuiteEntry.questions, List.forall_mem_append, List.forall_mem_map, List.forall_mem_map]

theorem exists_yields_payload_iff {file : String} :
    (∃ s, m.Yields read base suite (.payload file) s) ↔
      suite.expect.isSome ∧
        ∃ payload, m.Provides read base file payload := by
  rw [exists_yields_iff]
  exact and_congr_right fun _ => exists_congr fun _ => hasPayload_of_file rfl rfl

theorem exists_yields_case_iff {index : Nat} {c : CaseEntry} :
    (∃ s, m.Yields read base suite (.case index c) s) ↔
      (c.expect.isSome ∨ suite.expect.isSome) ∧ c.payload.isSome ≠ c.payloadInline.isSome ∧
        ∀ file ∈ c.payload, ∃ payload, m.Provides read base file payload := by
  rw [exists_yields_iff, exists_hasPayload_iff, Question.expect, Option.isSome_or, Bool.or_eq_true]
  rfl

theorem forall_mem_files_iff {P : String → Prop} :
    (∀ file ∈ suite.files, P file) ↔
      (∀ file ∈ suite.payloads, P file) ∧ ∀ c ∈ suite.cases, ∀ file ∈ c.payload, P file := by
  rw [SuiteEntry.files, List.forall_mem_append]
  refine and_congr_right fun _ => ?_
  constructor
  · exact fun h c hc file h_file => h file (List.mem_filterMap.mpr ⟨c, hc, h_file⟩)
  · intro h file h_mem
    obtain ⟨c, hc, h_file⟩ := List.mem_filterMap.mp h_mem
    exact h c hc file h_file

theorem suiteExpands_iff_conditions :
    m.SuiteExpands read base suite ↔
      (suite.payloads ≠ [] ∨ suite.cases ≠ []) ∧
      (suite.payloads ≠ [] → suite.expect.isSome) ∧
      (∀ c ∈ suite.cases, c.expect.isSome ∨ suite.expect.isSome) ∧
      (∀ c ∈ suite.cases, c.payload.isSome ≠ c.payloadInline.isSome) ∧
      ∀ file ∈ suite.files, ∃ payload, m.Provides read base file payload := by
  -- the index of a case does not matter for what the case needs
  have h_cases : (∀ p ∈ suite.cases.zipIdx, ∃ s, m.Yields read base suite (.case p.2 p.1) s) ↔
      ∀ c ∈ suite.cases, (c.expect.isSome ∨ suite.expect.isSome) ∧
        c.payload.isSome ≠ c.payloadInline.isSome ∧
        ∀ file ∈ c.payload, ∃ payload, m.Provides read base file payload := by
    simp only [exists_yields_case_iff]
    conv_rhs => rw [← List.zipIdx_map_fst 0 suite.cases, List.forall_mem_map]
  rw [SuiteExpands, forall_questions_iff, h_cases, forall_mem_files_iff]
  simp only [exists_yields_payload_iff]
  refine and_congr_right fun _ => ?_
  constructor
  · rintro ⟨h_payloads, h_cases⟩
    refine ⟨fun h => ?_, fun c hc => (h_cases c hc).1, fun c hc => (h_cases c hc).2.1,
      fun file h_file => (h_payloads file h_file).2, fun c hc => (h_cases c hc).2.2⟩
    obtain ⟨file, h_file⟩ := List.exists_mem_of_ne_nil suite.payloads h
    exact (h_payloads file h_file).1
  · rintro ⟨h_shared, h_expects, h_sources, h_payloads, h_files⟩
    refine ⟨fun file h_file => ⟨h_shared (List.ne_nil_of_mem h_file), h_payloads file h_file⟩, ?_⟩
    exact fun c hc => ⟨h_expects c hc, h_sources c hc, h_files c hc⟩

/-- A manifest is sound if all of its suites expand, and to different ids. -/
theorem isSound_iff :
    m.IsSound read base ↔
      (∀ suite ∈ m.suites, m.SuiteExpands read base suite) ∧
        ∃ ids, m.HasIds ids ∧ ids.Nodup := by
  simp only [suiteExpands_iff_conditions]
  constructor
  · intro h
    refine ⟨fun suite h_suite => ?_, h.ids⟩
    exact ⟨h.asks suite h_suite, h.shared suite h_suite, h.expects suite h_suite,
      h.sources suite h_suite, h.files suite h_suite⟩
  · rintro ⟨h, h_ids⟩
    exact ⟨fun suite hs => (h suite hs).1, fun suite hs => (h suite hs).2.1,
      fun suite hs => (h suite hs).2.2.1, fun suite hs => (h suite hs).2.2.2.1,
      fun suite hs => (h suite hs).2.2.2.2, h_ids⟩

end Manifest

namespace Registry

/-- The first duplicate is the first id that is among those before it. -/
theorem firstDuplicate_eq_some_iff {seen ids : List String} {id : String} :
    firstDuplicate seen ids = some id ↔ ∃ before after, ids = before ++ id :: after ∧
      firstDuplicate seen before = none ∧ (id ∈ before ∨ id ∈ seen) := by
  induction ids generalizing seen with
  | nil =>
    refine iff_of_false nofun ?_
    rintro ⟨before, after, h, -⟩
    exact absurd h.symm (List.append_ne_nil_of_right_ne_nil _ (List.cons_ne_nil id after))
  | cons x rest ih =>
    by_cases h_seen : x ∈ seen
    · -- the first id is itself the duplicate
      rw [firstDuplicate, if_pos h_seen]
      constructor
      · intro h
        cases h
        exact ⟨[], rest, rfl, rfl, .inr h_seen⟩
      · rintro ⟨before, after, h_eq, h_none, -⟩
        cases before with
        | nil =>
          cases h_eq
          rfl
        | cons b before =>
          cases h_eq
          rw [firstDuplicate, if_pos h_seen] at h_none
          cases h_none
    · -- the first id is new, and is one of those seen from here on
      have h_place : ∀ before, id ∈ x :: before ∨ id ∈ seen ↔ id ∈ before ∨ id ∈ x :: seen := by
        intro before
        rw [List.mem_cons, List.mem_cons, or_assoc, or_left_comm]
      rw [firstDuplicate, if_neg h_seen, ih]
      constructor
      · rintro ⟨before, after, rfl, h_none, h_mem⟩
        refine ⟨x :: before, after, rfl, ?_, (h_place before).mpr h_mem⟩
        rw [firstDuplicate, if_neg h_seen, h_none]
      · rintro ⟨before, after, h_eq, h_none, h_mem⟩
        cases before with
        | nil =>
          cases h_eq
          exact absurd (h_mem.resolve_left List.not_mem_nil) h_seen
        | cons b before =>
          cases h_eq
          rw [firstDuplicate, if_neg h_seen] at h_none
          exact ⟨before, after, rfl, h_none, (h_place before).mp h_mem⟩

theorem nodup_iff_firstDuplicate_eq_none {ids : List String} :
    ids.Nodup ↔ firstDuplicate [] ids = none := by
  refine ⟨fun h_nodup => ?_, fun h => (firstDuplicate_eq_none h).1⟩
  cases h : firstDuplicate [] ids with
  | none => rfl
  | some id =>
    obtain ⟨before, after, rfl, -, h_mem⟩ := firstDuplicate_eq_some_iff.mp h
    have h_before : id ∈ before := h_mem.resolve_right List.not_mem_nil
    exact absurd rfl ((List.nodup_append.mp h_nodup).2.2 id h_before id List.mem_cons_self)

/-- Scenarios with different ids are a registry. -/
theorem ofScenarios_eq_ok_iff {scenarios : List Scenario} {r : Registry} :
    ofScenarios scenarios = .ok r ↔ r.scenarios = scenarios := by
  refine ⟨scenarios_of_ofScenarios, ?_⟩
  rintro rfl
  unfold ofScenarios
  split
  · next id h =>
    rw [nodup_iff_firstDuplicate_eq_none.mp r.ids_nodup] at h
    cases h
  · rfl

theorem ofScenarios_eq_error_iff {scenarios : List Scenario} {f : Failure} :
    ofScenarios scenarios = .error f ↔ ∃ before id after,
      scenarios.map (·.id) = before ++ id :: after ∧ before.Nodup ∧ id ∈ before ∧
      f = .config "" ("duplicate scenario '" ++ id ++ "'") := by
  constructor
  · intro h
    unfold ofScenarios at h
    split at h
    · next id h_some =>
      cases h
      obtain ⟨before, after, h_ids, h_none, h_mem⟩ := firstDuplicate_eq_some_iff.mp h_some
      exact ⟨before, id, after, h_ids, nodup_iff_firstDuplicate_eq_none.mpr h_none,
        h_mem.resolve_right List.not_mem_nil, rfl⟩
    · cases h
  · rintro ⟨before, id, after, h_ids, h_nodup, h_mem, rfl⟩
    have h_some : firstDuplicate [] (scenarios.map (·.id)) = some id :=
      firstDuplicate_eq_some_iff.mpr
        ⟨before, after, h_ids, nodup_iff_firstDuplicate_eq_none.mp h_nodup, .inl h_mem⟩
    unfold ofScenarios
    split
    · next h =>
      cases h_some.symm.trans h
      rfl
    · next h => cases h_some.symm.trans h

variable {read : Manifest.TextReader} {base path : String} {m : Manifest}

theorem ofManifest_eq_ok_iff {r : Registry} :
    ofManifest read base path m = .ok r ↔ m.expand read base = .ok r.scenarios := by
  refine ⟨expand_of_ofManifest, fun h => ?_⟩
  rw [ofManifest, h]
  dsimp only
  rw [ofScenarios_eq_ok_iff.mpr rfl]

theorem ofManifest_eq_error_iff {f : Failure} :
    ofManifest read base path m = .error f ↔
      ∃ reason, f = .config path reason ∧ m.Defect read base reason := by
  rw [ofManifest]
  cases h_expand : m.expand read base with
  | error reason =>
    have h_defect := Manifest.expand_eq_error_iff.mp h_expand
    constructor
    · intro h
      cases h
      exact ⟨reason, rfl, .suite h_defect⟩
    · rintro ⟨_, rfl, h⟩
      cases h with
      | suite h =>
        cases h_expand.symm.trans (Manifest.expand_eq_error_iff.mpr h)
        rfl
      | duplicate h_suites =>
        obtain ⟨_, h_ok⟩ := Manifest.exists_expand_iff.mpr h_suites
        cases h_expand.symm.trans h_ok
  | ok scenarios =>
    dsimp only
    -- nothing is wrong with the suites, so a defect is one of the ids
    have h_ids := Manifest.hasIds_of_yields (Manifest.expand_eq_ok_iff.mp h_expand).2
    have h_suites := Manifest.exists_expand_iff.mp ⟨scenarios, h_expand⟩
    constructor
    · intro h
      cases h_registry : ofScenarios scenarios with
      | ok r =>
        rw [h_registry] at h
        cases h
      | error f' =>
        obtain ⟨before, id, after, h_eq, h_nodup, h_mem, rfl⟩ :=
          ofScenarios_eq_error_iff.mp h_registry
        rw [h_registry] at h
        cases h
        rw [h_eq] at h_ids
        exact ⟨_, rfl, .duplicate h_suites h_ids h_nodup h_mem⟩
    · rintro ⟨_, rfl, h⟩
      cases h with
      | suite h => cases h_expand.symm.trans (Manifest.expand_eq_error_iff.mpr h)
      | @duplicate before after id _ h_eq h_nodup h_mem =>
        rw [ofScenarios_eq_error_iff.mpr
          ⟨before, id, after, h_ids.unique h_eq, h_nodup, h_mem, rfl⟩]

theorem exists_ofManifest_iff :
    (∃ r, ofManifest read base path m = .ok r) ↔ m.IsSound read base := by
  simp only [ofManifest_eq_ok_iff]
  rw [Manifest.isSound_iff, ← Manifest.exists_expand_iff]
  constructor
  · rintro ⟨r, h⟩
    have h_ids := Manifest.hasIds_of_yields (Manifest.expand_eq_ok_iff.mp h).2
    exact ⟨⟨r.scenarios, h⟩, _, h_ids, r.ids_nodup⟩
  · rintro ⟨⟨scenarios, h⟩, ids, h_ids, h_nodup⟩
    have h_same := (Manifest.hasIds_of_yields (Manifest.expand_eq_ok_iff.mp h).2).unique h_ids
    exact ⟨⟨scenarios, h_same ▸ h_nodup⟩, h⟩

/-- The registry of a sound manifest has the scenarios of its questions. -/
theorem ofManifest_eq_ok_iff_yields {r : Registry} :
    ofManifest read base path m = .ok r ↔ m.IsSound read base ∧
      List.Forall₂ (fun p s => m.Yields read base p.1 p.2 s) m.questions r.scenarios := by
  constructor
  · intro h
    exact ⟨exists_ofManifest_iff.mp ⟨r, h⟩,
      (Manifest.expand_eq_ok_iff.mp (ofManifest_eq_ok_iff.mp h)).2⟩
  · rintro ⟨h_sound, h_yields⟩
    rw [ofManifest_eq_ok_iff, Manifest.expand_eq_ok_iff]
    exact ⟨h_sound.asks, h_yields⟩

/-- **A manifest becomes exactly what it asks for, or it tells its first defect.** It has a
registry if it is sound; the scenarios are then those of its questions, one for one and in order.
Of any other manifest nothing is kept. -/
theorem ofManifest_exact (read : Manifest.TextReader) (base path : String) (m : Manifest) :
    ((∃ r, ofManifest read base path m = .ok r) ↔ m.IsSound read base) ∧
    (∀ r, ofManifest read base path m = .ok r ↔ m.IsSound read base ∧
      List.Forall₂ (fun p s => m.Yields read base p.1 p.2 s) m.questions r.scenarios) ∧
    (∀ f, ofManifest read base path m = .error f ↔
      ∃ reason, f = .config path reason ∧ m.Defect read base reason) ∧
    ∀ before p after path, p.toList.head? = some '/' →
      (Path.IsPath base (before ++ p :: after) path ↔ Path.IsPath p after path) := by
  exact ⟨exists_ofManifest_iff, fun _ => ofManifest_eq_ok_iff_yields,
    fun _ => ofManifest_eq_error_iff, fun _ _ _ _ h => Path.isPath_append_absolute_iff h⟩

/-- A suite whose expectation is a category and counts for a payload file and for a case that is
written out; another case has an expectation and a channel of its own, and an absolute path. -/
theorem ofManifest_exact_category :
    let read : Manifest.TextReader := fun path =>
      if path = "m/payloads/deny.json" then .ok "1"
      else if path = "/p/grant.json" then .ok "2" else .error .notFound
    let category : Expectation := .errorContains ["reference", "not found"]
    let m : Manifest := ⟨some "bundles", some "payloads", [⟨"s", "b.yml", some .server,
      some (.errorCategory .unresolvedReference), ["deny.json"],
      [⟨none, some "/p/grant.json", none, some (.exactDecision .grant), some .cli⟩,
        ⟨none, none, some (.string "x"), none, none⟩]⟩]⟩
    ofManifest read "m" "m/suite.yml" m = .ok ⟨[
      ⟨"s::deny", "m/bundles/b.yml", .ofNat 1, category, some .server⟩,
      ⟨"s::grant", "m/bundles/b.yml", .ofNat 2, .exactDecision .grant, some .cli⟩,
      ⟨"s::inline-1", "m/bundles/b.yml", .string "x", category, some .server⟩], by decide⟩ := by
  intro read category m
  have h_deny : m.Provides read "m" "deny.json" (.ofNat 1) :=
    ⟨"m/payloads/deny.json", Manifest.isPayload_iff.mpr (by decide +kernel), "1", rfl, rfl⟩
  have h_grant : m.Provides read "m" "/p/grant.json" (.ofNat 2) :=
    ⟨"/p/grant.json", Manifest.isPayload_iff.mpr (by decide +kernel), "2", rfl, rfl⟩
  have h_bundle : ∀ suite ∈ m.suites, m.IsBundle "m" suite "m/bundles/b.yml" := by
    simp only [m, List.forall_mem_singleton]
    exact Manifest.isBundle_iff.mpr (by decide +kernel)
  have h_category : (ExpectationEntry.errorCategory .unresolvedReference).Spells category :=
    .errorCategory .unresolvedReference
  have h_yields : List.Forall₂ (fun p s => m.Yields read "m" p.1 p.2 s) m.questions [
      ⟨"s::deny", "m/bundles/b.yml", .ofNat 1, category, some .server⟩,
      ⟨"s::grant", "m/bundles/b.yml", .ofNat 2, .exactDecision .grant, some .cli⟩,
      ⟨"s::inline-1", "m/bundles/b.yml", .string "x", category, some .server⟩] := by
    have h_suite := h_bundle _ List.mem_cons_self
    refine .cons ?_ (.cons ?_ (.cons ?_ .nil))
    · exact ⟨⟨"deny", .payload (Path.hasStem_iff.mpr (by decide +kernel)), by decide +kernel⟩,
        h_suite, .inl ⟨_, rfl, rfl, h_deny⟩, ⟨_, rfl, h_category⟩, rfl⟩
    · exact ⟨⟨"grant", .file rfl rfl (Path.hasStem_iff.mpr (by decide +kernel)), by decide +kernel⟩,
        h_suite, .inl ⟨_, rfl, rfl, h_grant⟩, ⟨_, rfl, .exactDecision _⟩, rfl⟩
    · exact ⟨⟨"inline-1", .inline rfl rfl, by decide +kernel⟩, h_suite, .inr ⟨rfl, rfl⟩,
        ⟨_, rfl, h_category⟩, rfl⟩
  have h_sound : m.IsSound read "m" := by
    have h_files : ∀ file ∈ ["deny.json", "/p/grant.json"], ∃ payload,
        m.Provides read "m" file payload :=
      List.forall_mem_cons.mpr ⟨⟨_, h_deny⟩, List.forall_mem_singleton.mpr ⟨_, h_grant⟩⟩
    exact ⟨by simp [m], by simp [m], by simp [m], by simp [m],
      List.forall_mem_singleton.mpr h_files, _, Manifest.hasIds_of_yields h_yields, by decide⟩
  exact ((ofManifest_exact read "m" "m/suite.yml" m).2.1 _).mpr ⟨h_sound, h_yields⟩

end Registry

end PolicyTrial
