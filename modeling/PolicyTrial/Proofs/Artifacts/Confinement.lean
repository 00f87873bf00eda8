import PolicyTrial.Proofs.Artifacts.OwnFiles
import PolicyTrial.Proofs.Files.Confining
import PolicyTrial.Proofs.Manifest.Selection
import PolicyTrial.Proofs.Run.Completeness

/-!
# Artifacts stay inside the directory of the run

A suite and a case may have any names, slashes and dots among them, and both get into the id of a
scenario. In the name of its directory only plain characters are left, but this alone does not keep
the directory inside: a dot is plain, so an id may well be named `..`, and the empty one is not
named at all. Ids of a manifest have two colons in the middle, though, and these leave underscores.
So their directories have proper names (`IsDirectoryName`), and none of them is named like the
report.

What is written is followed as it goes, since the writing can fail at any point and leaves what it
has done before. `Leaves` says what holds of the tree in either case. The directory of the run is
made first; from then on each step changes nothing but a file of the run's own or the directory of a
scenario (`leaves_writeScenario`), and so does all that is written (`confined_write`).

`Bench.record_confined` says so of the report of any run over any scenarios of a manifest.
-/

namespace PolicyTrial

open FileTree

/-! ### The names of directories -/

/-- The name has as many characters as the id. -/
theorem length_sanitizeId (id : String) : (sanitizeId id).length = id.length := by
  rw [← String.length_toList, sanitizeId, String.toList_ofList, List.length_map,
    String.length_toList]

/-- What is left in a name is plain. -/
theorem isPlain_of_mem_sanitizeId {id : String} {c : Char} (hc : c ∈ (sanitizeId id).toList) :
    isPlain c = true := by
  rw [sanitizeId, String.toList_ofList, List.mem_map] at hc
  obtain ⟨c', -, rfl⟩ := hc
  split
  · next h => exact h
  · rfl

/-- A name is its own name. -/
theorem sanitizeId_sanitizeId (id : String) : sanitizeId (sanitizeId id) = sanitizeId id := by
  have h_same : (sanitizeId id).toList.map (fun c => if isPlain c then c else '_') =
      (sanitizeId id).toList := by
    refine (List.map_congr_left fun c hc => ?_).trans (List.map_id _)
    rw [if_pos (isPlain_of_mem_sanitizeId hc)]
    rfl
  rw [sanitizeId, h_same, String.ofList_toList]

/-- The plain characters, one by one. -/
theorem isPlain_iff {c : Char} : isPlain c = true ↔
    'A' ≤ c ∧ c ≤ 'Z' ∨ 'a' ≤ c ∧ c ≤ 'z' ∨ '0' ≤ c ∧ c ≤ '9' ∨ c = '-' ∨ c = '_' ∨ c = '.' := by
  have h_upper : c.isUpper = true ↔ 'A' ≤ c ∧ c ≤ 'Z' := decide_eq_true_iff
  have h_lower : c.isLower = true ↔ 'a' ≤ c ∧ c ≤ 'z' :=
    Bool.and_eq_true_iff.trans (and_congr decide_eq_true_iff decide_eq_true_iff)
  have h_digit : c.isDigit = true ↔ '0' ≤ c ∧ c ≤ '9' :=
    Bool.and_eq_true_iff.trans (and_congr decide_eq_true_iff decide_eq_true_iff)
  have h_alphanum : c.isAlphanum = (c.isUpper || c.isLower || c.isDigit) := rfl
  rw [isPlain, h_alphanum]
  simp only [Bool.or_eq_true, decide_eq_true_eq, h_upper, h_lower, h_digit, or_assoc]

/-- A name for the directory of a scenario: a single part of a path, of plain characters only, that
leads one step down and not to the report. -/
structure IsDirectoryName (name : String) : Prop extends Path.IsNormal name where
  plain : ∀ c ∈ name.toList,
    'A' ≤ c ∧ c ≤ 'Z' ∨ 'a' ≤ c ∧ c ≤ 'z' ∨ '0' ≤ c ∧ c ≤ '9' ∨ c = '-' ∨ c = '_' ∨ c = '.'
  not_report : name ≠ "report.json"

/-- Whatever a manifest calls its suites and cases, their scenarios have proper directories. -/
theorem isDirectoryName_of_ofManifestText {read : Manifest.TextReader}
    {base path content : String} {r : Registry}
    (h : Registry.ofManifestText read base path content = .ok r) {s : Scenario}
    (hs : s ∈ r.scenarios) : IsDirectoryName (sanitizeId s.id) := by
  have h_below := hasDirectoryBelow_of_ofManifestText h hs
  refine ⟨⟨not_mem_sanitizeId s.id, h_below.not_idle, h_below.not_up⟩,
    fun c hc => isPlain_iff.mp (isPlain_of_mem_sanitizeId hc), fun h_report => ?_⟩
  have h_underscore := underscore_mem_of_ofManifestText h hs
  rw [h_report] at h_underscore
  exact absurd h_underscore (by decide)

namespace Artifacts

/-! ### Writing that may fail -/

section Leaves

variable {α β : Type} {I : FileTree → Prop} {t u : FileTree}

/-- Whatever becomes of a piece of writing on a tree, the tree that it leaves satisfies a
condition. -/
def Leaves (I : FileTree → Prop) (w : Writing α) (t : FileTree) : Prop := I (w.run.run t).2

theorem Ends.of_leaves {w : Writing α} {a : α} (h : Ends w t a u) (h_leaves : Leaves I w t) :
    I u := by
  unfold Leaves at h_leaves
  rwa [h] at h_leaves

/-- If the first piece fails, then the tree is as that one has left it. -/
theorem leaves_bind {w : Writing α} {f : α → Writing β} (h : Leaves I w t)
    (hf : ∀ a s, Ends w t a s → Leaves I (f a) s) : Leaves I (w >>= f) t := by
  unfold Leaves at h ⊢
  rw [run_bind]
  cases h_run : w.run.run t with
  | mk r s =>
    cases r with
    | ok a => exact hf a s h_run
    | error e =>
      rw [h_run] at h
      exact h

/-- To look at the tree leaves it as it is. -/
theorem leaves_get_bind {f : FileTree → Writing β} (h : Leaves I (f t) t) :
    Leaves I (get >>= f) t := by
  unfold Leaves at h ⊢
  rw [run_bind]
  exact h

/-- A change that fails leaves the tree as it is. -/
theorem leaves_change {action : String} {f : FileTree → Except FileError FileTree}
    (ht : ∀ e, f t = .error e → I t) (h : ∀ u, f t = .ok u → I u) :
    Leaves I (change action f) t := by
  refine leaves_get_bind ?_
  cases h_done : f t with
  | ok u => exact h u h_done
  | error e => exact ht e h_done

/-- What each piece preserves, all of them preserve. -/
theorem leaves_forM {f : α → Writing Unit} {xs : List α}
    (h : ∀ x ∈ xs, ∀ t, I t → Leaves I (f x) t) (ht : I t) : Leaves I (xs.forM f) t := by
  induction xs generalizing t with
  | nil => exact ht
  | cons x rest ih =>
    have h_first := h x List.mem_cons_self t ht
    refine leaves_bind h_first fun _ s h_ends => ?_
    exact ih (fun y hy => h y (List.mem_cons_of_mem x hy)) (h_ends.of_leaves h_first)

end Leaves

/-! ### The places of a run -/

/-- The places of a run's files: the report, and below the directory of each scenario those of the
names that there are. -/
def IsRunFile (run : Place) (ids : List String) (p : Place) : Prop :=
  p = run ++ ["report.json"] ∨
    ∃ id ∈ ids, ∃ name ∈ fileNames, p = run ++ [sanitizeId id, name]

/-- The directories of a run's scenarios. -/
def IsScenarioDir (run : Place) (ids : List String) (p : Place) : Prop :=
  ∃ id ∈ ids, p = run ++ [sanitizeId id]

/-- Of all files, only those of a run may have been changed: its report and the files of its
scenarios, in the directory of the run, which is below the directory of all artifacts. Once the
directory of the run is there, only those of its scenarios may have been made. -/
structure Confined (root runId : String) (ids : List String) (t u : FileTree) : Prop where
  files : t.Keeps u fun p =>
    ∃ base, u.LeadsTo root base (some .directory) ∧ IsRunFile (base ++ [runId]) ids p
  dirs : ∀ s, t.makeDirs (runDir root runId) = .ok s → ∀ p, u.at? p = some .directory →
    s.at? p = some .directory ∨
      ∃ base, u.LeadsTo root base (some .directory) ∧ IsScenarioDir (base ++ [runId]) ids p

/-- A tree to which a run may come when its directory has been made. -/
abbrev Within (s : FileTree) (run : Place) (ids : List String) (u : FileTree) : Prop :=
  s.Confines u (IsRunFile run ids) (IsScenarioDir run ids)

section Within

variable {dir : String} {run : Place} {ids : List String} {s t : FileTree}

/-- The files of a scenario go into its directory, as far as the writing comes, and the directory
stays where it is. -/
theorem leaves_writeFiles {id : String} (h_id : id ∈ ids) {own : String}
    {files : List (String × Bytes)} (h_names : ∀ f ∈ files, f.1 ∈ fileNames)
    (h_own : t.LeadsTo own (run ++ [sanitizeId id]) (some .directory)) (ht : Within s run ids t) :
    Leaves (fun t => Within s run ids t ∧ t.LeadsTo own (run ++ [sanitizeId id]) (some .directory))
      (writeFiles own files) t := by
  refine leaves_forM (fun f hf t ⟨ht, h_own⟩ => ?_) ⟨ht, h_own⟩
  obtain ⟨name, content⟩ := f
  refine leaves_change (fun _ _ => ⟨ht, h_own⟩) fun u h_write => ?_
  obtain ⟨h_name, h_slash⟩ := isName_of_mem_fileNames (h_names _ hf)
  have h_step := confines_of_write_join h_name h_slash h_own h_write
  refine ⟨ht.trans (h_step.mono ?_ fun _ h => h.elim), h_step.toKeeps.leadsTo_directory h_own⟩
  rintro p rfl
  refine .inr ⟨id, h_id, name, h_names _ hf, ?_⟩
  rw [List.append_assoc]
  rfl

/-- What one scenario writes, step by step. -/
theorem writeScenario_eq (scenarios : List Scenario) (v : Verdict) :
    writeScenario dir scenarios v =
      (change ("creating " ++ scenarioDir dir v.scenarioId)
        (·.makeDirs (scenarioDir dir v.scenarioId)) >>= fun _ =>
          writeFiles (scenarioDir dir v.scenarioId)
            (payloadFile (scenarios.find? (·.id == v.scenarioId))) >>= fun _ => get >>= fun t =>
              writeFiles (scenarioDir dir v.scenarioId)
                (bundleFile t (scenarios.find? (·.id == v.scenarioId)) ++ verdictFiles v)) := rfl

/-- **One scenario stays inside**: it makes its directory in that of the run, and writes its files
there. -/
theorem leaves_writeScenario {scenarios : List Scenario} {v : Verdict} (hv : v.scenarioId ∈ ids)
    (h_name : Path.IsNormal (sanitizeId v.scenarioId))
    (h_run : s.LeadsTo dir run (some .directory)) (ht : Within s run ids t) :
    Leaves (Within s run ids) (writeScenario dir scenarios v) t := by
  have h_dir := ht.toKeeps.leadsTo_directory h_run
  have h_made : ∀ u, t.makeDirs (scenarioDir dir v.scenarioId) = .ok u → Within s run ids u ∧
      u.LeadsTo (scenarioDir dir v.scenarioId) (run ++ [sanitizeId v.scenarioId])
        (some .directory) := by
    intro u h_make
    obtain ⟨h_step, h_own⟩ := confines_of_makeDirs_join h_name h_dir h_make
    refine ⟨ht.trans (h_step.mono (fun _ h => h.elim) ?_), h_own⟩
    rintro p rfl
    exact ⟨v.scenarioId, hv, rfl⟩
  rw [writeScenario_eq]
  refine leaves_bind (leaves_change (fun _ _ => ht) fun u h_make => (h_made u h_make).1)
    fun _ u h_ends => ?_
  have h_make := ends_change_iff.mp h_ends
  obtain ⟨hu, h_own⟩ := h_made u h_make
  -- whatever tree the bundle is read from, all files have names of their own
  have h_names : ∀ turn, ∀ f ∈ scenarioFiles turn v (scenarios.find? (·.id == v.scenarioId)),
      f.1 ∈ fileNames := fun turn f hf =>
    (map_fst_scenarioFiles turn v _).subset (List.mem_map_of_mem hf)
  have h_payload := leaves_writeFiles hv
    (fun f hf => h_names u f (List.mem_append_left _ hf)) h_own hu
  refine leaves_bind h_payload.1 fun _ turn h_ends => ?_
  obtain ⟨h_turn, h_own⟩ := h_ends.of_leaves h_payload
  refine leaves_get_bind ?_
  exact (leaves_writeFiles hv
    (fun f hf => h_names turn f (List.mem_append_right _ hf)) h_own h_turn).1

/-- Once there is a directory of the run, all else that is written stays inside. -/
theorem leaves_writeRest {scenarios : List Scenario} {verdicts : List Verdict} {report : Bytes}
    {action : String} (h_ids : ∀ v ∈ verdicts, v.scenarioId ∈ ids)
    (h_names : ∀ v ∈ verdicts, Path.IsNormal (sanitizeId v.scenarioId))
    (h_run : s.LeadsTo dir run (some .directory)) :
    Leaves (Within s run ids)
      (verdicts.forM (writeScenario dir scenarios) >>= fun _ =>
        change action (·.write (Path.join dir "report.json") report)) s := by
  have h_start : Within s run ids s := .refl s _ _
  have h_all : Leaves (Within s run ids) (verdicts.forM (writeScenario dir scenarios)) s :=
    leaves_forM (fun v hv t => leaves_writeScenario (h_ids v hv) (h_names v hv) h_run) h_start
  refine leaves_bind h_all fun _ t h_ends => ?_
  have ht := h_ends.of_leaves h_all
  refine leaves_change (fun _ _ => ht) fun u h_write => ?_
  have h_name : IsName "report.json" := ⟨by decide, by decide, by decide⟩
  have h_step := confines_of_write_join h_name (by decide) (ht.toKeeps.leadsTo_directory h_run)
    h_write
  exact ht.trans (h_step.mono (fun _ h => .inl h) fun _ h => h.elim)

/-- When the directory of the run has been made, it is below that of all artifacts, and what a run
comes to from there is confined. -/
theorem exists_confined {root runId : String} (h_run : Path.IsNormal runId)
    (h_make : t.makeDirs (runDir root runId) = .ok s) :
    ∃ run, s.LeadsTo (runDir root runId) run (some .directory) ∧
      ∀ u, Within s run ids u → Confined root runId ids t u := by
  have h_filled : runId ≠ "" := fun h_empty => h_run.not_idle (.inl h_empty)
  obtain ⟨-, run, h_there⟩ := exists_directory_of_makeDirs
    (withoutEndSlash_join root h_run.noSlash h_filled) (join_ne_empty root h_filled) h_make
  obtain ⟨base, h_base, h_last⟩ := (leadsTo_join_iff root h_run.noSlash).mp h_there
  obtain rfl : run = base ++ [runId] :=
    h_last.eq_enter.trans (enter_of_isName (h_last.isName h_run))
  refine ⟨_, h_there, fun u hu => ?_⟩
  have h_root : u.LeadsTo root base (some .directory) := hu.toKeeps.leadsTo_directory h_base
  refine ⟨?_, fun s' hs' p hp => ?_⟩
  · refine Keeps.trans ((keeps_of_makeDirs h_make).mono fun _ h => h.elim) ?_
    exact hu.toKeeps.mono fun p hp => ⟨base, h_root, hp⟩
  · obtain rfl : s = s' := Except.ok.inj (h_make.symm.trans hs')
    exact (hu.made p hp).imp_right fun h => ⟨base, h_root, h⟩

end Within

/-- **All that is written stays inside**, whether the writing succeeds or fails somewhere. -/
theorem confined_write (root : String) (report : Report) (scenarios : List Scenario)
    (h_run : Path.IsNormal report.runId)
    (h_names : ∀ v ∈ report.verdicts, Path.IsNormal (sanitizeId v.scenarioId)) (t : FileTree) :
    Leaves (Confined root report.runId (report.verdicts.map (·.scenarioId)) t)
      (write root report scenarios) t := by
  unfold write
  refine leaves_bind (leaves_change (fun e h_error => ?_) fun s h_make => ?_) fun _ s h_ends => ?_
  · -- without a directory of the run nothing is written at all
    exact ⟨.refl t _, fun s h_make => by cases h_error.symm.trans h_make⟩
  · obtain ⟨run, -, h_confined⟩ := exists_confined h_run h_make
    exact h_confined s (.refl s _ _)
  · have h_make := ends_change_iff.mp h_ends
    obtain ⟨run, h_dir, h_confined⟩ := exists_confined h_run h_make
    exact h_confined _ (leaves_writeRest (fun v hv => List.mem_map_of_mem hv) h_names h_dir)

end Artifacts

/-! ### Runs over the scenarios of a manifest -/

/-- **Artifacts stay inside the directory of the run.** Take any manifest that is accepted, any
scenarios of it, any run over them, and an id of the run that is a single part of a path. Each
scenario has a proper name for its directory. Wherever the report of the run is to be written, and
however far the writing comes, no file is changed but the report itself and the files of the
scenarios in these directories, and once there is a directory of the run, no other directory is made
but these. Names are as long as the ids, and they are their own names. -/
theorem Bench.record_confined {m : Type → Type} [Monad m] {A : Assurance m} {x : Executor m}
    (hx : x.Fair A) (b : Bench) {build : Build} (hb : b.settings.validate build = .ok ())
    {read : Manifest.TextReader} {base path content : String} {r : Registry}
    (hr : Registry.ofManifestText read base path content = .ok r) {scenarios : List Scenario}
    (h_scenarios : ∀ s ∈ scenarios, s ∈ r.scenarios) {runId : String}
    (h_run : Path.IsNormal runId) (begins : Instant) :
    (∀ s ∈ scenarios, IsDirectoryName (sanitizeId s.id)) ∧
    A.Always (b.record x runId begins scenarios) (fun report =>
      ∀ root t, Artifacts.Confined root runId (scenarios.map (·.id)) t
        ((Artifacts.write root report scenarios).run.run t).2) ∧
    ∀ id, (sanitizeId id).length = id.length ∧ sanitizeId (sanitizeId id) = sanitizeId id := by
  have h_names : ∀ s ∈ scenarios, IsDirectoryName (sanitizeId s.id) :=
    fun s hs => isDirectoryName_of_ofManifestText hr (h_scenarios s hs)
  refine ⟨h_names, ?_, fun id => ⟨length_sanitizeId id, sanitizeId_sanitizeId id⟩⟩
  have h_jobs := (Settings.validate_eq_ok_iff.mp hb).jobs
  have h_record := (yields_tried hx h_jobs).record (A.mono (hx.alone _) fun _ _ => trivial)
    hx.onFiles runId begins scenarios
  refine A.mono h_record ?_
  rintro report ⟨ends, verdicts, rfl, h_tried⟩ root t
  have h_ids : scenarios.map (·.id) = verdicts.map (·.scenarioId) := by
    rw [← List.forall₂_eq_eq_eq, List.forall₂_map_left_iff, List.forall₂_map_right_iff]
    exact h_tried.imp fun s v h => h.isOn.scenarioId.symm
  rw [h_ids]
  refine Artifacts.confined_write root (.ofVerdicts runId begins ends verdicts) scenarios h_run
    (fun v hv => ?_) t
  -- the id of a verdict is that of a scenario
  have h_id : v.scenarioId ∈ scenarios.map (·.id) := h_ids ▸ List.mem_map_of_mem hv
  obtain ⟨s, hs, h_same⟩ := List.mem_map.mp h_id
  have h_normal := (h_names s hs).toIsNormal
  rwa [h_same] at h_normal

/-- A suite whose name leads up, with a case whose name leads away and one without a name, and
another suite. -/
def strayManifest : String :=
  "\n".intercalate
    ["suites:",
      "- name: ..",
      "  bundle: b.yml",
      "  expect:",
      "    error_contains: []",
      "  cases:",
      "  - name: /../étc",
      "    payload_inline: 1",
      "  - name: \"\"",
      "    payload_inline: 2",
      "- name: other",
      "  bundle: b.yml",
      "  expect:",
      "    error_contains: []",
      "  cases:",
      "  - payload_inline: 3"]

/-- The suite whose name leads up is tried on a bare host, and its files stay inside. -/
theorem Bench.record_confined_stray :
    let b : Bench := ⟨{ jobs := 2, artifactsDir := some "out" }, "mpe"⟩
    let host := Host.initial .empty [] b.settings.ports
    ∃ r selected, Registry.ofManifestText (fun _ => .error .notFound) "." "m.yml" strayManifest =
        .ok r ∧ r.select ["..::*"] = .ok selected ∧
      selected.scenarios.map (fun s => (s.id, sanitizeId s.id)) =
        [("..::/../étc", "..___..__tc"), ("..::", "..__")] ∧
      (∀ s ∈ selected.scenarios, IsDirectoryName (sanitizeId s.id)) ∧
      let report := ((b.record Host.executor "run" ⟨0, 0⟩ selected.scenarios).run host).1
      Artifacts.Confined "out" "run" (selected.scenarios.map (·.id)) .empty
        ((Artifacts.write "out" report selected.scenarios).run.run .empty).2 := by
  intro b host
  have h_loads : ((Registry.ofManifestText (fun _ => .error .notFound) "." "m.yml"
      strayManifest).toOption.bind fun r => (r.select ["..::*"]).toOption.map fun selected =>
        selected.scenarios.map fun s => (s.id, sanitizeId s.id)) =
      some [("..::/../étc", "..___..__tc"), ("..::", "..__")] := by
    decide +kernel
  obtain ⟨r, hr, h_selects⟩ := Option.bind_eq_some_iff.mp h_loads
  obtain ⟨selected, h_selected, h_ids⟩ := Option.map_eq_some_iff.mp h_selects
  have hr := eq_ok_of_toOption hr
  have h_selected := eq_ok_of_toOption h_selected
  have h_part : ∀ s ∈ selected.scenarios, s ∈ r.scenarios := fun s hs =>
    (Registry.select_eq_ok_iff_keeps.mp h_selected).1.sublist.subset hs
  have h_valid : b.settings.validate .checked = .ok () := by decide
  have h_run : Path.IsNormal "run" := ⟨by decide, by decide, by decide⟩
  obtain ⟨h_names, h_always, -⟩ :=
    record_confined Host.executor_fair b h_valid hr h_part h_run ⟨0, 0⟩
  exact ⟨r, selected, hr, h_selected, h_ids, h_names, h_always host "out" .empty⟩

end PolicyTrial
