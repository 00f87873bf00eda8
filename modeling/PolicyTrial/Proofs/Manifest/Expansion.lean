import PolicyTrial.Manifest.Decode
import PolicyTrial.Proofs.Fallible

/-!
# What the scenarios of a manifest come from

Every scenario of a manifest is one of its payloads or one of its cases, and one entry of the
manifest says what is expected of it.

* `Manifest.Asks`: the scenario that a manifest asks for, with the entry that counts for it. It says
  nothing of files and of what else may be wrong with the manifest.
* `asks_of_ofManifestText`: the registry of a manifest's text has no scenario that the manifest does
  not ask for.
-/

namespace PolicyTrial

namespace Manifest

/-- The name of the case at an index: its own, else the stem of its payload's file, else a name for
an inline payload. -/
def caseName (index : Nat) (c : CaseEntry) : String :=
  match c.name, c.payload with
  | some name, _ => name
  | none, some file => Path.stem file
  | none, none => "inline-" ++ toString index

/-- A manifest asks for a scenario, and an entry says what is expected of it. For a payload that is
the entry of its suite; for a case it is its own entry, and that of its suite if it has none. -/
inductive Asks (m : Manifest) : Scenario → ExpectationEntry → Prop
  | payload {suite : SuiteEntry} {file : String} {entry : ExpectationEntry} {s : Scenario}
      (hs : suite ∈ m.suites) (hf : file ∈ suite.payloads) (he : suite.expect = some entry)
      (hid : s.id = scenarioId suite.name (Path.stem file))
      (hx : s.expectation = entry.expectation) : Asks m s entry
  | case {suite : SuiteEntry} {index : Nat} {c : CaseEntry} {entry : ExpectationEntry}
      {s : Scenario} (hs : suite ∈ m.suites) (hc : suite.cases[index]? = some c)
      (he : c.expect.or suite.expect = some entry)
      (hid : s.id = scenarioId suite.name (caseName index c))
      (hx : s.expectation = entry.expectation) : Asks m s entry

theorem Asks.expectation_eq {m : Manifest} {s : Scenario} {entry : ExpectationEntry}
    (h : m.Asks s entry) : s.expectation = entry.expectation := by
  cases h with
  | payload _ _ _ _ hx | case _ _ _ _ hx => exact hx

section Suites

variable {read : TextReader} {bundleDir payloadDir bundle : String} {suite : SuiteEntry}

/-- What is known of the scenario of a payload. -/
theorem payloadScenario_ok {file : String} {s : Scenario}
    (h : payloadScenario read payloadDir bundle suite file = .ok s) :
    ∃ entry, suite.expect = some entry ∧ s.id = scenarioId suite.name (Path.stem file) ∧
      s.expectation = entry.expectation := by
  rw [payloadScenario] at h
  cases he : suite.expect with
  | none =>
    rw [he] at h
    cases h
  | some entry =>
    rw [he] at h
    obtain ⟨json, -, h⟩ := exists_of_bind_eq_ok h
    cases h
    exact ⟨entry, rfl, rfl, rfl⟩

/-- A case has the name that its entry gives it, wherever its payload comes from. -/
theorem casePayload_ok {index : Nat} {c : CaseEntry} {name : String} {json : Json}
    (h : casePayload read payloadDir suite index c = .ok (name, json)) :
    name = caseName index c := by
  unfold casePayload at h
  rw [caseName]
  -- A case with both payloads, or with none, has been refused.
  split at h
  · next file hf _ =>
    obtain ⟨payload, -, h⟩ := exists_of_bind_eq_ok h
    cases h
    rw [hf]
    cases c.name with
    | none | some _ => rfl
  · next inline hf _ =>
    cases h
    rw [hf]
    cases c.name with
    | none | some _ => rfl
  · cases h

/-- What is known of the scenario of a case. -/
theorem caseScenario_ok {index : Nat} {c : CaseEntry} {s : Scenario}
    (h : caseScenario read payloadDir bundle suite index c = .ok s) :
    ∃ entry, c.expect.or suite.expect = some entry ∧
      s.id = scenarioId suite.name (caseName index c) ∧ s.expectation = entry.expectation := by
  rw [caseScenario] at h
  cases he : c.expect.or suite.expect with
  | none =>
    rw [he] at h
    cases h
  | some entry =>
    rw [he] at h
    obtain ⟨⟨name, json⟩, h_payload, h⟩ := exists_of_bind_eq_ok h
    cases h
    rw [casePayload_ok h_payload]
    exact ⟨entry, rfl, rfl, rfl⟩

/-- A scenario of the cases is that of one case, at its own index. -/
theorem exists_of_mem_caseScenarios {start : Nat} {cases : List CaseEntry}
    {scenarios : List Scenario} {s : Scenario}
    (h : caseScenarios read payloadDir bundle suite start cases = .ok scenarios)
    (hs : s ∈ scenarios) :
    ∃ i c, cases[i]? = some c ∧
      caseScenario read payloadDir bundle suite (start + i) c = .ok s := by
  induction cases generalizing start scenarios with
  | nil =>
    cases h
    cases hs
  | cons c rest ih =>
    rw [caseScenarios] at h
    obtain ⟨first, h_first, h⟩ := exists_of_bind_eq_ok h
    obtain ⟨others, h_others, h⟩ := exists_of_bind_eq_ok h
    cases h
    rcases List.mem_cons.mp hs with rfl | hs
    · exact ⟨0, c, rfl, h_first⟩
    · obtain ⟨i, c', hi, h'⟩ := ih h_others hs
      refine ⟨i + 1, c', hi, ?_⟩
      rwa [Nat.add_comm i 1, ← Nat.add_assoc]

/-- A scenario of a suite is one of its payloads or one of its cases. -/
theorem asks_of_mem_suiteScenarios {m : Manifest} (hm : suite ∈ m.suites)
    {scenarios : List Scenario} {s : Scenario}
    (h : suiteScenarios read bundleDir payloadDir suite = .ok scenarios) (hs : s ∈ scenarios) :
    ∃ entry, m.Asks s entry := by
  rw [suiteScenarios] at h
  split at h
  · cases h
  obtain ⟨ofPayloads, h_payloads, h⟩ := exists_of_bind_eq_ok h
  obtain ⟨ofCases, h_cases, h⟩ := exists_of_bind_eq_ok h
  cases h
  rcases List.mem_append.mp hs with hs | hs
  · obtain ⟨file, hf, h_file⟩ := exists_of_mem_mapM h_payloads hs
    obtain ⟨entry, he, hid, hx⟩ := payloadScenario_ok h_file
    exact ⟨entry, .payload hm hf he hid hx⟩
  · obtain ⟨i, c, hi, h_case⟩ := exists_of_mem_caseScenarios h_cases hs
    obtain ⟨entry, he, hid, hx⟩ := caseScenario_ok h_case
    rw [Nat.zero_add] at hid
    exact ⟨entry, .case hm hi he hid hx⟩

end Suites

/-- A manifest asks for every scenario that it expands to. -/
theorem asks_of_expand {read : TextReader} {base : String} {m : Manifest}
    {scenarios : List Scenario} {s : Scenario} (h : m.expand read base = .ok scenarios)
    (hs : s ∈ scenarios) : ∃ entry, m.Asks s entry := by
  obtain ⟨perSuite, h_suites, h⟩ := exists_of_bind_eq_ok h
  cases h
  obtain ⟨ofSuite, h_suite, hs⟩ := List.mem_flatten.mp hs
  obtain ⟨suite, hm, h_scenarios⟩ := exists_of_mem_mapM h_suites h_suite
  exact asks_of_mem_suiteScenarios hm h_scenarios hs

end Manifest

namespace Registry

/-- A registry has the scenarios that it was made of. -/
theorem scenarios_of_ofScenarios {scenarios : List Scenario} {r : Registry}
    (h : ofScenarios scenarios = .ok r) : r.scenarios = scenarios := by
  unfold ofScenarios at h
  split at h
  · cases h
  · cases h
    rfl

/-- A registry that a manifest became has the scenarios that the manifest expands to. -/
theorem expand_of_ofManifest {read : Manifest.TextReader} {base path : String} {m : Manifest}
    {r : Registry} (h : ofManifest read base path m = .ok r) :
    m.expand read base = .ok r.scenarios := by
  rw [ofManifest] at h
  cases hx : m.expand read base with
  | error reason =>
    rw [hx] at h
    cases h
  | ok scenarios =>
    rw [hx] at h
    cases hr : ofScenarios scenarios with
    | error f =>
      simp only [hr] at h
      split at h
      · cases h
      · cases h
      · next h_ok => cases h_ok
    | ok r' =>
      simp only [hr] at h
      cases h
      rw [scenarios_of_ofScenarios hr]

/-- A manifest's text was read as a manifest that asks for every scenario of the registry. -/
theorem asks_of_ofManifestText {read : Manifest.TextReader} {base path content : String}
    {r : Registry} (h : ofManifestText read base path content = .ok r) :
    ∃ m, Yaml.decode Manifest.decoder content = .ok m ∧
      ∀ s ∈ r.scenarios, ∃ entry, m.Asks s entry := by
  unfold ofManifestText at h
  split at h
  · cases h
  · next m hm =>
    have h_expand : m.expand read base = .ok r.scenarios := expand_of_ofManifest h
    exact ⟨m, hm, fun s hs => Manifest.asks_of_expand h_expand hs⟩

end Registry

end PolicyTrial
