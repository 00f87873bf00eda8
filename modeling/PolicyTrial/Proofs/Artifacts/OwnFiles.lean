import PolicyTrial.Proofs.Artifacts.Writing
import PolicyTrial.Proofs.Manifest.Expansion

/-!
# What becomes of a scenario's own files

The directory of a scenario is named after its id, but not every character of the id stays in the
name. So two scenarios can come to share a directory, and then the later one writes over the files
of the earlier one, without a word (`first_files_lost`). Apart from that nothing gets lost: a
scenario whose directory no later one shares has all its own files in it when the writing is done
(`own_files_kept`).

For ids that come from a manifest the directory is always one below that of the run
(`hasDirectoryBelow_of_ofManifestText`), so two of them share it exactly if its name is the same.
-/

namespace PolicyTrial

/-- Two ids have one directory, seen from the directory of a run. -/
def SharesDirectory (run : Place) (id id' : String) : Prop :=
  run.enter (sanitizeId id) = run.enter (sanitizeId id')

/-- The directory of an id is one below that of the run: its name is neither idle nor two dots. -/
structure HasDirectoryBelow (id : String) : Prop where
  not_idle : ¬ (sanitizeId id = "" ∨ sanitizeId id = ".")
  not_up : sanitizeId id ≠ ".."

/-- A name that leads down leads where no other name leads. -/
theorem Place.enter_eq_enter_iff {p : Place} {name name' : String}
    (h_idle : ¬ (name = "" ∨ name = ".")) (h_up : name ≠ "..") :
    p.enter name = p.enter name' ↔ name = name' := by
  refine ⟨fun h => ?_, fun h => h ▸ rfl⟩
  -- Going down makes a place longer, and no other move does.
  rw [enter, if_neg h_idle, if_neg h_up, enter] at h
  split at h
  · have h_length := congrArg List.length h
    rw [List.length_append, List.length_singleton] at h_length
    omega
  split at h
  · have h_length := congrArg List.length h
    rw [List.length_append, List.length_singleton, List.length_dropLast] at h_length
    omega
  · exact List.singleton_inj.mp (List.append_cancel_left h)

theorem sharesDirectory_iff {run : Place} {id id' : String} (h : HasDirectoryBelow id) :
    SharesDirectory run id id' ↔ sanitizeId id = sanitizeId id' :=
  Place.enter_eq_enter_iff h.not_idle h.not_up

/-- A character that does not stay leaves an underscore in the name. -/
theorem underscore_mem_sanitizeId {id : String} {c : Char} (hc : c ∈ id.toList)
    (h_plain : isPlain c = false) : '_' ∈ (sanitizeId id).toList := by
  rw [sanitizeId, String.toList_ofList]
  exact List.mem_map.mpr ⟨c, hc, by rw [h_plain]; rfl⟩

/-- The colons between suite and case are such characters. -/
theorem underscore_mem_scenarioId (suite case : String) :
    '_' ∈ (sanitizeId (Manifest.scenarioId suite case)).toList := by
  refine underscore_mem_sanitizeId (c := ':') ?_ (by decide)
  rw [Manifest.scenarioId, String.toList_append, String.toList_append]
  exact List.mem_append_left _ (List.mem_append_right _ (by decide))

/-- A name with an underscore leads down. -/
theorem hasDirectoryBelow_of_underscore {id : String} (h : '_' ∈ (sanitizeId id).toList) :
    HasDirectoryBelow id := by
  have h_other : ∀ name ∈ ["", ".", ".."], sanitizeId id ≠ name := by
    intro name h_name h_eq
    rw [h_eq] at h
    have h_none : ∀ name ∈ ["", ".", ".."], '_' ∉ name.toList := by decide
    exact h_none name h_name h
  constructor
  · rintro (h | h)
    · exact h_other "" (by simp) h
    · exact h_other "." (by simp) h
  · exact h_other ".." (by simp)

/-- Every scenario of a manifest has an underscore in the name of its directory. -/
theorem underscore_mem_of_ofManifestText {read : Manifest.TextReader}
    {base path content : String} {r : Registry}
    (h : Registry.ofManifestText read base path content = .ok r) {s : Scenario}
    (hs : s ∈ r.scenarios) : '_' ∈ (sanitizeId s.id).toList := by
  obtain ⟨m, -, h_asks⟩ := Registry.asks_of_ofManifestText h
  obtain ⟨entry, h_entry⟩ := h_asks s hs
  cases h_entry with
  | payload _ _ _ h_id _ | case _ _ _ h_id _ =>
    rw [h_id]
    exact underscore_mem_scenarioId _ _

/-- Every scenario of a manifest has its directory below that of the run. -/
theorem hasDirectoryBelow_of_ofManifestText {read : Manifest.TextReader}
    {base path content : String} {r : Registry}
    (h : Registry.ofManifestText read base path content = .ok r) {s : Scenario}
    (hs : s ∈ r.scenarios) : HasDirectoryBelow s.id :=
  hasDirectoryBelow_of_underscore (underscore_mem_of_ofManifestText h hs)

/-- A registry finds each of its scenarios by its id. -/
theorem find?_eq_some_of_nodup {scenarios : List Scenario} {s : Scenario}
    (h : (scenarios.map (·.id)).Nodup) (hs : s ∈ scenarios) :
    scenarios.find? (·.id == s.id) = some s := by
  induction scenarios with
  | nil => exact nomatch hs
  | cons first rest ih =>
    rw [List.map_cons, List.nodup_cons] at h
    rcases List.mem_cons.mp hs with rfl | hs
    · rw [List.find?_cons, beq_self_eq_true]
    · have h_ne : (first.id == s.id) = false := by
        rw [beq_eq_false_iff_ne]
        intro h_eq
        exact h.1 (List.mem_map.mpr ⟨s, hs, h_eq.symm⟩)
      rw [List.find?_cons, h_ne]
      exact ih h.2 hs

namespace Artifacts

open FileTree

/-- A directory holds what is recorded of a verdict, and the payload of its scenario. -/
structure HoldsFiles (u : FileTree) (dir : String) (v : Verdict) (scenarios : List Scenario) :
    Prop where
  verdict : u.read (Path.join dir "verdict.json") = .ok (Bytes.ofString v.toJson.pretty)
  stdout : u.read (Path.join dir "stdout.txt") = .ok (Bytes.ofString v.stdout)
  stderr : u.read (Path.join dir "stderr.txt") = .ok (Bytes.ofString v.stderr)
  payload : ∀ s ∈ scenarios, s.id = v.scenarioId →
    u.read (Path.join dir "payload.json") = .ok (Bytes.ofString s.payload.pretty)

/-- What is written before the bundle of a scenario is read: the directory of the run, the scenarios
before it, its own directory, and its payload. -/
def writeUntil (runDir : String) (scenarios : List Scenario) (before : List Verdict) (v : Verdict) :
    Writing Unit := do
  change ("creating artifacts directory " ++ runDir) (·.makeDirs runDir)
  before.forM (writeScenario runDir scenarios)
  let dir := scenarioDir runDir v.scenarioId
  change ("creating " ++ dir) (·.makeDirs dir)
  writeFiles dir (payloadFile (scenarios.find? (·.id == v.scenarioId)))

/-- Where a path to a file of a scenario leads. -/
theorem eq_of_leadsTo_file {u : FileTree} {runDir id name : String} {run q : Place}
    {n : Option FileNode} (h_name : name ∈ fileNames)
    (h_run : u.LeadsTo runDir run (some .directory))
    (h : u.LeadsTo (Path.join (scenarioDir runDir id) name) q n) :
    q = run.enter (sanitizeId id) ++ [name] := by
  obtain ⟨h_is_name, h_slash⟩ := isName_of_mem_fileNames h_name
  obtain ⟨own, h_own, h_last⟩ := (leadsTo_join_iff _ h_slash).mp h
  obtain ⟨run', h_run', h_dir⟩ := (leadsTo_join_iff _ (not_mem_sanitizeId id)).mp h_own
  obtain rfl : run' = run := (h_run'.unique h_run).1
  obtain rfl : own = run'.enter (sanitizeId id) := h_dir.eq_enter
  exact h_last.eq_enter.trans (enter_of_isName h_is_name)

section Files

variable (t : FileTree) (v : Verdict)

/-- What a verdict records is among the files of its scenario, whatever the scenario is. -/
theorem mem_scenarioFiles (s : Option Scenario) :
    ∀ file ∈ verdictFiles v, file ∈ scenarioFiles t v s :=
  fun _ h => List.mem_append_right _ (List.mem_append_right _ h)

theorem payload_mem_scenarioFiles (s : Scenario) :
    ("payload.json", Bytes.ofString s.payload.pretty) ∈ scenarioFiles t v (some s) :=
  List.mem_append_left _ List.mem_cons_self

/-- The bundle is among the files exactly if it can be read. -/
theorem bundle_mem_scenarioFiles_iff (s : Scenario) (bundle : Bytes) :
    ("bundle.yml", bundle) ∈ scenarioFiles t v (some s) ↔ t.read s.bundle = .ok bundle := by
  unfold scenarioFiles payloadFile bundleFile verdictFiles
  dsimp only
  cases t.read s.bundle with
  | ok content => simp [eq_comm]
  | error e => simp

end Files

/-- The places of two scenarios' files are different, unless the two share a directory. -/
theorem OwnPlace.sharesDirectory {run : Place} {v : Verdict} {id name : String}
    (h : OwnPlace run v (run.enter (sanitizeId id) ++ [name])) :
    SharesDirectory run id v.scenarioId := by
  obtain ⟨name', -, h_same⟩ := h
  exact (List.append_inj' h_same rfl).1

/-- The report is no file of a scenario. -/
theorem not_mem_fileNames_of_report {p q : Place} {name : String} (h_name : name ∈ fileNames) :
    ¬ p ++ [name] = q ++ ["report.json"] := by
  intro h
  obtain rfl : name = "report.json" := List.singleton_inj.mp (List.append_inj' h rfl).2
  exact absurd h_name (by decide)

/-- The course of the writing, seen from one scenario: what is written before it, its turn, and what
is written after it. At its turn it has its directory, and then its payload, too. -/
structure Course (dir : String) (run : Place) (scenarios : List Scenario) (before : List Verdict)
    (v : Verdict) (after : List Verdict) (t made turn s u : FileTree) : Prop where
  until_turn : Ends (writeUntil dir scenarios before v) t () turn
  keeps_before : t.Keeps made (fun p => ∃ w ∈ before, OwnPlace run w p)
  at_turn : Turn dir run v (scenarioFiles turn v (scenarios.find? (·.id == v.scenarioId))) made s
  keeps_after : s.Keeps u
    (fun p => (∃ w ∈ after, OwnPlace run w p) ∨ p = run ++ ["report.json"])
  run_leads : u.LeadsTo dir run (some .directory)

/-- When everything is written, each scenario has had its course. -/
theorem exists_course {root : String} {report : Report} {scenarios : List Scenario}
    {t u : FileTree} (h : Ends (write root report scenarios) t () u) :
    let dir := runDir root report.runId
    ∃ run, u.LeadsTo dir run (some .directory) ∧
      ∀ before v after, report.verdicts = before ++ v :: after →
        ∃ made turn s, Course dir run scenarios before v after t made turn s u := by
  intro dir
  unfold write at h
  obtain ⟨_, t₀, h_dir, h⟩ := ends_bind_iff.mp h
  obtain ⟨_, t₁, h_all, h_report⟩ := ends_bind_iff.mp h
  have h_report := ends_change_iff.mp h_report
  -- The report is written last, so there is a directory of the run.
  obtain ⟨run, h_run⟩ := exists_directory_of_write (by decide) h_report
  have h_name : IsName "report.json" := ⟨by decide, by decide, by decide⟩
  obtain ⟨h_end, -, -⟩ := write_join_ok h_name (by decide) h_run h_report
  have h_run_end := h_end.leadsTo_directory h_run
  refine ⟨run, h_run_end, fun before v after h_verdicts => ?_⟩
  rw [h_verdicts] at h_all
  obtain ⟨s₁, h_before, h_rest⟩ := ends_forM_append_iff.mp h_all
  obtain ⟨_, s₂, h_v, h_after⟩ := ends_bind_iff.mp h_rest
  obtain ⟨made, turn, run', h_own, h_payload, h_turn⟩ := ends_writeScenario h_v
  have h_kept := keeps_of_writeScenarios (.refl t₁ fun _ => False) h_run h_after
  -- Seen from the turn, the directory of the run is where it is at the end.
  have h_run' : t₁.LeadsTo dir run' (some .directory) :=
    h_kept.leadsTo_directory (h_turn.keeps.leadsTo_directory h_turn.leads)
  obtain rfl : run' = run := (h_run'.unique h_run).1
  have h_own_keeps := keeps_of_makeDirs h_own
  have h_kept_before := keeps_of_writeScenarios h_own_keeps h_turn.leads h_before
  have h_made := keeps_of_makeDirs (ends_change_iff.mp h_dir)
  have h_until : Ends (writeUntil dir scenarios before v) t () turn := by
    refine ends_bind_iff.mpr ⟨(), t₀, h_dir, ends_bind_iff.mpr ⟨(), s₁, h_before, ?_⟩⟩
    exact ends_bind_iff.mpr ⟨(), made, ends_change_iff.mpr h_own, h_payload⟩
  exact ⟨made, turn, s₂, h_until,
    (h_made.mono fun _ h => h.elim).trans
      (h_kept_before.trans (h_own_keeps.mono fun _ h => h.elim)),
    h_turn, (h_kept.mono fun _ => .inl).trans (h_end.mono fun _ => .inr), h_run_end⟩

section Course

variable {dir : String} {run : Place} {scenarios : List Scenario} {before after : List Verdict}
  {v : Verdict} {t made turn s u : FileTree}

/-- After its turn nothing is written to the place of a file, unless a later scenario shares the
directory. -/
theorem not_written_after {name : String} (h_name : name ∈ fileNames)
    (h_own : ∀ w ∈ after, ¬ SharesDirectory run v.scenarioId w.scenarioId) :
    ¬ ((∃ w ∈ after, OwnPlace run w (run.enter (sanitizeId v.scenarioId) ++ [name])) ∨
      run.enter (sanitizeId v.scenarioId) ++ [name] = run ++ ["report.json"]) := by
  rintro (⟨w, hw, h_place⟩ | h_report)
  · exact h_own w hw h_place.sharesDirectory
  · exact not_mem_fileNames_of_report h_name h_report

/-- A file that was written at a scenario's turn is still there at the end, unless a later scenario
shares the directory. -/
theorem Course.read_file (h : Course dir run scenarios before v after t made turn s u)
    (h_own : ∀ w ∈ after, ¬ SharesDirectory run v.scenarioId w.scenarioId) {name : String}
    {content : Bytes} (h_name : name ∈ fileNames)
    (h_file : (name, content) ∈
      scenarioFiles turn v (scenarios.find? (·.id == v.scenarioId))) :
    u.read (Path.join (scenarioDir dir v.scenarioId) name) = .ok content := by
  obtain ⟨h_taken, q, x, h_leads⟩ := read_eq_ok_iff.mp (h.at_turn.read _ h_file)
  refine h.keeps_after.read h_taken h_leads ?_
  have h_run := h.at_turn.keeps.leadsTo_directory h.at_turn.leads
  rw [eq_of_leadsTo_file h_name h_run h_leads]
  exact not_written_after h_name h_own

theorem Course.holdsFiles (h : Course dir run scenarios before v after t made turn s u)
    (h_nodup : (scenarios.map (·.id)).Nodup)
    (h_own : ∀ w ∈ after, ¬ SharesDirectory run v.scenarioId w.scenarioId) :
    HoldsFiles u (scenarioDir dir v.scenarioId) v scenarios := by
  have h_record := mem_scenarioFiles turn v (scenarios.find? (·.id == v.scenarioId))
  refine ⟨?_, ?_, ?_, fun scenario hs h_id => ?_⟩
  · exact h.read_file h_own (by decide) (h_record _ (by simp [verdictFiles]))
  · exact h.read_file h_own (by decide) (h_record _ (by simp [verdictFiles]))
  · exact h.read_file h_own (by decide) (h_record _ (by simp [verdictFiles]))
  · refine h.read_file h_own (by decide) ?_
    rw [← h_id, find?_eq_some_of_nodup h_nodup hs]
    exact payload_mem_scenarioFiles turn v scenario

/-- A bundle that could not be read at the scenario's turn is not written at any time, unless some
other scenario shares the directory. -/
theorem Course.at?_bundle (h : Course dir run scenarios before v after t made turn s u)
    {scenario : Scenario}
    (h_find : scenarios.find? (·.id == v.scenarioId) = some scenario)
    (h_unreadable : ∀ bundle, turn.read scenario.bundle ≠ .ok bundle)
    (h_before : ∀ w ∈ before, ¬ SharesDirectory run v.scenarioId w.scenarioId)
    (h_after : ∀ w ∈ after, ¬ SharesDirectory run v.scenarioId w.scenarioId) {q : Place}
    {c : Bytes} {x : Bool}
    (h_leads : u.LeadsTo (Path.join (scenarioDir dir v.scenarioId) "bundle.yml") q
      (some (.file c x))) : t.at? q = some (.file c x) := by
  have h_place := eq_of_leadsTo_file (by decide) h.run_leads h_leads
  have h_at : u.at? q = some (.file c x) := Leads.at?_eq h_leads nofun
  have h_turn := h.at_turn.keeps
  rw [h_place] at h_at ⊢
  rw [h_find] at h_turn
  rw [h.keeps_after.file _ (not_written_after (by decide) h_after), h_turn.file,
    h.keeps_before.file] at h_at
  · exact h_at
  · rintro ⟨w, hw, h_own_place⟩
    exact h_before w hw h_own_place.sharesDirectory
  · rintro ⟨⟨name, content⟩, h_file, h_same⟩
    obtain rfl : "bundle.yml" = name := List.singleton_inj.mp (List.append_cancel_left h_same)
    exact h_unreadable content ((bundle_mem_scenarioFiles_iff turn v scenario content).mp h_file)

end Course

/-- **A scenario's own files are kept unless its directory is shared.** When everything has been
written, the directory of a scenario holds its verdict, its two texts and its payload, as long as no
scenario that was written later shares the directory. The bundle is with them if it could be read at
the scenario's turn, when its payload had been written. If it could not, and no scenario written
earlier shares the directory either, then there is no bundle with them that was not there before.
Ids whose directories have different names share none. -/
theorem own_files_kept {root : String} {report : Report} {registry : Registry} {t u : FileTree}
    (h : Ends (write root report registry.scenarios) t () u) :
    let dir := runDir root report.runId
    ∃ run, u.LeadsTo dir run (some .directory) ∧
      (∀ id id', HasDirectoryBelow id →
        (SharesDirectory run id id' ↔ sanitizeId id = sanitizeId id')) ∧
      ∀ before v after, report.verdicts = before ++ v :: after →
        (∀ w ∈ after, ¬ SharesDirectory run v.scenarioId w.scenarioId) →
          let own := scenarioDir dir v.scenarioId
          HoldsFiles u own v registry.scenarios ∧
          ∃ turn, Ends (writeUntil dir registry.scenarios before v) t () turn ∧
            ∀ s ∈ registry.scenarios, s.id = v.scenarioId →
              (∀ bundle, turn.read s.bundle = .ok bundle →
                u.read (Path.join own "bundle.yml") = .ok bundle) ∧
              ((∀ w ∈ before, ¬ SharesDirectory run v.scenarioId w.scenarioId) →
                (∀ bundle, turn.read s.bundle ≠ .ok bundle) →
                  ∀ q c x, u.LeadsTo (Path.join own "bundle.yml") q (some (.file c x)) →
                    t.at? q = some (.file c x)) := by
  intro dir
  obtain ⟨run, h_run, h_courses⟩ := exists_course h
  refine ⟨run, h_run, fun id id' h_below => sharesDirectory_iff h_below, ?_⟩
  intro before v after h_verdicts h_after own
  obtain ⟨made, turn, s₂, h_course⟩ := h_courses before v after h_verdicts
  refine ⟨h_course.holdsFiles registry.ids_nodup h_after, turn, h_course.until_turn, ?_⟩
  intro s hs h_id
  have h_find : registry.scenarios.find? (·.id == v.scenarioId) = some s := by
    rw [← h_id]
    exact find?_eq_some_of_nodup registry.ids_nodup hs
  constructor
  · intro bundle h_bundle
    refine h_course.read_file h_after (by decide) ?_
    rw [h_find]
    exact (bundle_mem_scenarioFiles_iff turn v s bundle).mpr h_bundle
  · intro h_before h_unreadable q c x h_leads
    exact h_course.at?_bundle h_find h_unreadable h_before h_after h_leads

/-! ### Two scenarios of one run -/

/-- A scenario whose payload is its id, and of which a failure is expected. -/
def sampleScenario (id : String) : Scenario :=
  ⟨id, "bundle.yml", .string id, .errorContains [], none⟩

/-- The verdict on it, when the engine is stopped after it has written the id. -/
def sampleVerdict (id : String) : Verdict :=
  .ofResponse (sampleScenario id) .cli (.ok ⟨.exit none, Bytes.ofString id, [], ⟨0⟩⟩) ⟨0⟩

/-- The report on two such scenarios. -/
def sampleReport (id id' : String) : Report :=
  .ofVerdicts "run" ⟨0, 0⟩ ⟨0, 0⟩ [sampleVerdict id, sampleVerdict id']

/-- A tree with the bundle and nothing else. -/
def sampleTree : FileTree :=
  FileTree.empty.place "bundle.yml" (Bytes.ofString "domain: iam") false

/-- The registry of two such scenarios. -/
def sampleRegistry (id id' : String) (h : [id, id'].Nodup) : Registry :=
  ⟨[sampleScenario id, sampleScenario id'], h⟩

theorem scenarioId_sampleVerdict (id : String) : (sampleVerdict id).scenarioId = id := rfl

theorem runId_sampleReport (id id' : String) : (sampleReport id id').runId = "run" := rfl

theorem verdicts_sampleReport (id id' : String) :
    (sampleReport id id').verdicts = [sampleVerdict id, sampleVerdict id'] := rfl

/-- The artifacts of two cases of a suite are written, and each case has its own files. -/
theorem own_files_kept_cases :
    ∃ u, Ends (write "artifacts" (sampleReport "s::1" "s::2")
        (sampleRegistry "s::1" "s::2" (by decide)).scenarios) sampleTree () u ∧
      HoldsFiles u (scenarioDir (runDir "artifacts" "run") "s::1")
        (sampleVerdict "s::1")
        (sampleRegistry "s::1" "s::2" (by decide)).scenarios ∧
      HoldsFiles u (scenarioDir (runDir "artifacts" "run") "s::2")
        (sampleVerdict "s::2")
        (sampleRegistry "s::1" "s::2" (by decide)).scenarios := by
  have h_ends : ∃ u, Ends (write "artifacts" (sampleReport "s::1" "s::2")
      (sampleRegistry "s::1" "s::2" (by decide)).scenarios) sampleTree () u :=
    ⟨_, ends_of_isOk (by decide +kernel)⟩
  obtain ⟨u, h_ends⟩ := h_ends
  obtain ⟨run, -, h_shares, h_files⟩ := own_files_kept h_ends
  have h_apart : ¬ SharesDirectory run "s::1" "s::2" := by
    rw [h_shares _ _ ⟨by decide, by decide⟩]
    decide
  have h_one := h_files [] (sampleVerdict "s::1") [sampleVerdict "s::2"]
    (verdicts_sampleReport _ _)
  have h_two := h_files [sampleVerdict "s::1"] (sampleVerdict "s::2") []
    (verdicts_sampleReport _ _) (fun _ hw => nomatch hw)
  rw [scenarioId_sampleVerdict, runId_sampleReport] at h_one h_two
  refine ⟨u, h_ends, (h_one fun w hw => ?_).1, h_two.1⟩
  obtain rfl := List.mem_singleton.mp hw
  rw [scenarioId_sampleVerdict]
  exact h_apart

/-- The tree that is left when the ids differ in a character only that does not stay. -/
def sampleLeft : FileTree :=
  ((write "artifacts" (sampleReport "a b" "a_b")
    (sampleRegistry "a b" "a_b" (by decide)).scenarios).run.run sampleTree).2

/-- Both ids are in the registry and nothing fails, but the two scenarios have one directory, and
the text and the payload in it are those of the second scenario and not of the first. -/
theorem first_files_lost :
    Ends (write "artifacts" (sampleReport "a b" "a_b")
        (sampleRegistry "a b" "a_b" (by decide)).scenarios) sampleTree () sampleLeft ∧
      scenarioDir (runDir "artifacts" "run") "a b" = "artifacts/run/a_b" ∧
      scenarioDir (runDir "artifacts" "run") "a_b" = "artifacts/run/a_b" ∧
      (sampleLeft.read "artifacts/run/a_b/stdout.txt").toOption =
        some (Bytes.ofString (sampleVerdict "a_b").stdout) ∧
      Bytes.ofString (sampleVerdict "a b").stdout ≠
        Bytes.ofString (sampleVerdict "a_b").stdout ∧
      (sampleLeft.read "artifacts/run/a_b/payload.json").toOption =
        some (Bytes.ofString (sampleScenario "a_b").payload.pretty) ∧
      Bytes.ofString (sampleScenario "a b").payload.pretty ≠
        Bytes.ofString (sampleScenario "a_b").payload.pretty := by
  have h_all : ((write "artifacts" (sampleReport "a b" "a_b")
        (sampleRegistry "a b" "a_b" (by decide)).scenarios).run.run sampleTree).1.isOk = true ∧
      (sampleLeft.read "artifacts/run/a_b/stdout.txt").toOption =
        some (Bytes.ofString (sampleVerdict "a_b").stdout) ∧
      (sampleLeft.read "artifacts/run/a_b/payload.json").toOption =
        some (Bytes.ofString (sampleScenario "a_b").payload.pretty) := by
    decide +kernel
  obtain ⟨h_ok, h_stdout, h_payload⟩ := h_all
  have h_ends : Ends (write "artifacts" (sampleReport "a b" "a_b")
      (sampleRegistry "a b" "a_b" (by decide)).scenarios) sampleTree () sampleLeft := by
    unfold sampleLeft
    exact ends_of_isOk h_ok
  exact ⟨h_ends, by decide +kernel, by decide +kernel, h_stdout, by decide +kernel, h_payload,
    by decide +kernel⟩

end Artifacts

end PolicyTrial
