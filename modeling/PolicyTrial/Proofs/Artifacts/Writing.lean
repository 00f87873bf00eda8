import PolicyTrial.Artifacts
import PolicyTrial.Proofs.Files.Keeping

/-!
# What writing the artifacts leaves behind

Writing is followed from one tree to the next. One scenario writes into one directory only, the one
that its name leads to from the directory of the run, and nothing else changes. So what many
scenarios write is told by their directories.

* `Ends`: a piece of writing succeeds on a tree and leaves another one.
* `ends_writeFiles`: the files of one directory.
* `ends_writeScenario`: the directory of one scenario.
* `keeps_of_writeScenarios`: the directories of many scenarios, one after the other.
-/

namespace PolicyTrial

open FileTree

/-- A scenario's directory has a name without slashes. -/
theorem not_mem_sanitizeId (id : String) : '/' ∉ (sanitizeId id).toList := by
  rw [sanitizeId, String.toList_ofList, List.mem_map]
  rintro ⟨c, -, hc⟩
  split at hc
  · next h_plain =>
    subst hc
    exact absurd h_plain (by decide)
  · exact absurd hc (by decide)

namespace Artifacts

/-! ### Pieces of writing -/

/-- A piece of writing succeeds on a tree, with a result, and leaves another tree. -/
def Ends {α : Type} (w : Writing α) (t : FileTree) (a : α) (u : FileTree) : Prop :=
  w.run.run t = (.ok a, u)

section Pieces

variable {α β : Type} {t u : FileTree}

/-- Writing that does not fail leaves the tree it has come to. -/
theorem ends_of_isOk {w : Writing Unit} (h : (w.run.run t).1.isOk = true) :
    Ends w t () (w.run.run t).2 := by
  unfold Ends
  generalize w.run.run t = done at h ⊢
  obtain ⟨r, s⟩ := done
  cases r with
  | ok a => rfl
  | error e => cases h

theorem ends_pure_iff {a b : α} : Ends (pure a) t b u ↔ a = b ∧ t = u := by
  constructor
  · intro h
    cases h
    exact ⟨rfl, rfl⟩
  · rintro ⟨rfl, rfl⟩
    rfl

/-- One piece after another: the second one goes on where the first one has come to, unless that
fails. -/
theorem run_bind (w : Writing α) (f : α → Writing β) (t : FileTree) :
    (w >>= f).run.run t =
      match w.run.run t with
      | (.ok a, s) => (f a).run.run s
      | (.error e, s) => (.error e, s) := by
  rw [ExceptT.run_bind, StateT.run_bind]
  cases w.run.run t with
  | mk r s =>
    cases r with
    | ok a | error e => rfl

/-- One piece after another succeeds if both do, the second one on what the first one left. -/
theorem ends_bind_iff {w : Writing α} {f : α → Writing β} {b : β} :
    Ends (w >>= f) t b u ↔ ∃ a s, Ends w t a s ∧ Ends (f a) s b u := by
  unfold Ends
  rw [run_bind]
  generalize w.run.run t = done
  obtain ⟨r, s⟩ := done
  constructor
  · intro h
    cases r with
    | ok a => exact ⟨a, s, rfl, h⟩
    | error e => cases h
  · rintro ⟨a, s', h_first, h_second⟩
    cases h_first
    exact h_second

theorem ends_get_iff {s : FileTree} : Ends get t s u ↔ t = s ∧ t = u := by
  constructor
  · intro h
    cases h
    exact ⟨rfl, rfl⟩
  · rintro ⟨rfl, rfl⟩
    rfl

/-- A change succeeds if the operation behind it does. -/
theorem ends_change_iff {action : String} {f : FileTree → Except FileError FileTree} {a : Unit} :
    Ends (change action f) t a u ↔ f t = .ok u := by
  rw [change, ends_bind_iff]
  constructor
  · rintro ⟨_, s, h_get, h_done⟩
    obtain ⟨rfl, rfl⟩ := ends_get_iff.mp h_get
    split at h_done
    · next h_ok =>
      cases h_done
      exact h_ok
    · cases h_done
  · intro h_ok
    refine ⟨t, t, ends_get_iff.mpr ⟨rfl, rfl⟩, ?_⟩
    rw [h_ok]
    rfl

/-- A list is gone through in two parts. -/
theorem ends_forM_append_iff {f : α → Writing Unit} {xs ys : List α} :
    Ends ((xs ++ ys).forM f) t () u ↔
      ∃ s, Ends (xs.forM f) t () s ∧ Ends (ys.forM f) s () u := by
  induction xs generalizing t with
  | nil =>
    constructor
    · exact fun h => ⟨t, ends_pure_iff.mpr ⟨rfl, rfl⟩, h⟩
    · rintro ⟨s, h_none, h⟩
      obtain ⟨-, rfl⟩ := ends_pure_iff.mp h_none
      exact h
  | cons x xs ih =>
    constructor
    · intro h
      obtain ⟨_, s, h_first, h⟩ := ends_bind_iff.mp h
      obtain ⟨s', h_rest, h_behind⟩ := ih.mp h
      exact ⟨s', ends_bind_iff.mpr ⟨(), s, h_first, h_rest⟩, h_behind⟩
    · rintro ⟨s', h, h_behind⟩
      obtain ⟨_, s, h_first, h_rest⟩ := ends_bind_iff.mp h
      exact ends_bind_iff.mpr ⟨(), s, h_first, ih.mpr ⟨s', h_rest, h_behind⟩⟩

end Pieces

/-! ### The files of one directory -/

/-- The names of the files that a scenario may leave. -/
def fileNames : List String :=
  ["payload.json", "bundle.yml", "stdout.txt", "stderr.txt", "verdict.json"]

/-- They are names of files, and no paths. -/
theorem isName_of_mem_fileNames {name : String} (h : name ∈ fileNames) :
    IsName name ∧ '/' ∉ name.toList := by
  have h_all : ∀ name ∈ fileNames, (¬ (name = "" ∨ name = ".") ∧ name ≠ ".." ∧
      ¬ name.utf8ByteSize > nameLimit) ∧ '/' ∉ name.toList := by decide
  obtain ⟨⟨h_idle, h_up, h_short⟩, h_slash⟩ := h_all name h
  exact ⟨⟨h_idle, h_up, h_short⟩, h_slash⟩

/-- The files of a scenario, with its bundle as it is found in a tree. -/
def scenarioFiles (t : FileTree) (v : Verdict) (s : Option Scenario) : List (String × Bytes) :=
  payloadFile s ++ (bundleFile t s ++ verdictFiles v)

/-- The files of a scenario have some of these names, each of them once. -/
theorem map_fst_scenarioFiles (t : FileTree) (v : Verdict) (s : Option Scenario) :
    ((scenarioFiles t v s).map Prod.fst).Sublist fileNames := by
  unfold scenarioFiles
  rw [List.map_append, List.map_append]
  cases s with
  | none => exact .cons _ (.cons _ (.refl _))
  | some s =>
    unfold bundleFile
    dsimp only
    cases t.read s.bundle with
    | ok bundle => exact .refl _
    | error e => exact .cons_cons _ (.cons _ (.refl _))

/-- Files that are written into a directory are there afterwards, each with its content, and
nothing else has changed. -/
theorem ends_writeFiles {dir : String} {d : Place} {files : List (String × Bytes)}
    {t u : FileTree} (h_names : ∀ f ∈ files, f.1 ∈ fileNames) (h_nodup : (files.map Prod.fst).Nodup)
    (h_dir : t.LeadsTo dir d (some .directory)) (h : Ends (writeFiles dir files) t () u) :
    t.Keeps u (fun p => ∃ f ∈ files, p = d ++ [f.1]) ∧
      ∀ f ∈ files, u.read (Path.join dir f.1) = .ok f.2 := by
  -- By induction on the files: the directory stays where it is, whatever is written into it.
  induction files generalizing t with
  | nil =>
    obtain ⟨-, rfl⟩ := ends_pure_iff.mp h
    exact ⟨.refl t _, fun f hf => nomatch hf⟩
  | cons file rest ih =>
    obtain ⟨name, content⟩ := file
    obtain ⟨_, s, h_first, h_rest⟩ := ends_bind_iff.mp h
    obtain ⟨h_name, h_slash⟩ := isName_of_mem_fileNames (h_names _ List.mem_cons_self)
    obtain ⟨h_once, h_nodup⟩ := List.nodup_cons.mp h_nodup
    obtain ⟨h_keeps, h_taken, x, h_there⟩ :=
      write_join_ok h_name h_slash h_dir (ends_change_iff.mp h_first)
    obtain ⟨h_keeps', h_read⟩ := ih (fun f hf => h_names f (List.mem_cons_of_mem _ hf)) h_nodup
      (h_keeps.leadsTo_directory h_dir) h_rest
    refine ⟨?_, ?_⟩
    · refine (h_keeps.mono ?_).trans (h_keeps'.mono ?_)
      · rintro p rfl
        exact ⟨_, List.mem_cons_self, rfl⟩
      · rintro p ⟨f, hf, rfl⟩
        exact ⟨f, List.mem_cons_of_mem _ hf, rfl⟩
    · intro f hf
      rcases List.mem_cons.mp hf with rfl | hf
      · -- The files behind the first one have other names, so it is still as it was written.
        refine h_keeps'.read h_taken h_there ?_
        rintro ⟨f, hf, h_same⟩
        have h_eq : name = f.1 := List.singleton_inj.mp (List.append_cancel_left h_same)
        exact h_once (List.mem_map.mpr ⟨f, hf, h_eq.symm⟩)
      · exact h_read f hf

/-! ### The directories of scenarios -/

/-- The path of a scenario's directory. -/
def scenarioDir (runDir id : String) : String := Path.join runDir (sanitizeId id)

/-- From a tree with a scenario's directory to the tree with its files. The directory is the one
that its name leads to from the directory of the run. -/
structure Turn (runDir : String) (run : Place) (v : Verdict) (files : List (String × Bytes))
    (t u : FileTree) : Prop where
  leads : t.LeadsTo runDir run (some .directory)
  keeps : t.Keeps u (fun p => ∃ f ∈ files, p = run.enter (sanitizeId v.scenarioId) ++ [f.1])
  read : ∀ f ∈ files, u.read (Path.join (scenarioDir runDir v.scenarioId) f.1) = .ok f.2

/-- Who writes files into a scenario's directory has taken the scenario's turn with them. -/
theorem exists_turn_of_writeFiles {runDir : String} {v : Verdict} {files : List (String × Bytes)}
    {made u : FileTree} (h_sub : (files.map Prod.fst).Sublist fileNames) (h_some : files ≠ [])
    (h : Ends (writeFiles (scenarioDir runDir v.scenarioId) files) made () u) :
    ∃ run, Turn runDir run v files made u := by
  have h_names : ∀ f ∈ files, f.1 ∈ fileNames := fun f hf =>
    h_sub.subset (List.mem_map_of_mem hf)
  -- The first file that is written shows that the directory is there.
  obtain ⟨own, h_own⟩ :
      ∃ own, made.LeadsTo (scenarioDir runDir v.scenarioId) own (some .directory) := by
    obtain ⟨file, rest, rfl⟩ := List.exists_cons_of_ne_nil h_some
    obtain ⟨_, _, h_first, -⟩ := ends_bind_iff.mp h
    exact exists_directory_of_write (isName_of_mem_fileNames (h_names _ List.mem_cons_self)).2
      (ends_change_iff.mp h_first)
  obtain ⟨run, h_run, h_name⟩ := (leadsTo_join_iff runDir (not_mem_sanitizeId _)).mp h_own
  obtain rfl : own = run.enter (sanitizeId v.scenarioId) := h_name.eq_enter
  obtain ⟨h_keeps, h_read⟩ := ends_writeFiles h_names (h_sub.nodup (by decide)) h_own h
  exact ⟨run, h_run, h_keeps, h_read⟩

/-- A scenario makes its directory and then takes its turn. Its bundle is read from the tree in
which its payload has been written. -/
theorem ends_writeScenario {runDir : String} {scenarios : List Scenario} {v : Verdict}
    {t u : FileTree} (h : Ends (writeScenario runDir scenarios v) t () u) :
    ∃ made turn run, t.makeDirs (scenarioDir runDir v.scenarioId) = .ok made ∧
      Ends (writeFiles (scenarioDir runDir v.scenarioId)
        (payloadFile (scenarios.find? (·.id == v.scenarioId)))) made () turn ∧
      Turn runDir run v (scenarioFiles turn v (scenarios.find? (·.id == v.scenarioId))) made u := by
  unfold writeScenario at h
  obtain ⟨_, made, h_dir, h⟩ := ends_bind_iff.mp h
  obtain ⟨_, turn, h_payload, h⟩ := ends_bind_iff.mp h
  obtain ⟨_, _, h_get, h⟩ := ends_bind_iff.mp h
  obtain ⟨rfl, rfl⟩ := ends_get_iff.mp h_get
  -- all files together, for which the bundle may be taken as known
  have h_all : Ends (writeFiles (scenarioDir runDir v.scenarioId)
      (scenarioFiles turn v (scenarios.find? (·.id == v.scenarioId)))) made () u :=
    ends_forM_append_iff.mpr ⟨turn, h_payload, h⟩
  have h_last : ("stdout.txt", Bytes.ofString v.stdout) ∈
      scenarioFiles turn v (scenarios.find? (·.id == v.scenarioId)) :=
    List.mem_append_right _ (List.mem_append_right _ List.mem_cons_self)
  obtain ⟨run, h_turn⟩ :=
    exists_turn_of_writeFiles (map_fst_scenarioFiles _ _ _) (List.ne_nil_of_mem h_last) h_all
  have h_made := ends_change_iff.mp h_dir
  exact ⟨made, turn, run, h_made, h_payload, h_turn⟩

/-- The places where a scenario of a run may leave files. -/
def OwnPlace (run : Place) (v : Verdict) (p : Place) : Prop :=
  ∃ name ∈ fileNames, p = run.enter (sanitizeId v.scenarioId) ++ [name]

theorem Turn.keeps_ownPlace {runDir : String} {run : Place} {v : Verdict} {s : Option Scenario}
    {turn t u : FileTree} (h : Turn runDir run v (scenarioFiles turn v s) t u) :
    t.Keeps u (OwnPlace run v) := by
  refine h.keeps.mono ?_
  rintro p ⟨f, hf, rfl⟩
  exact ⟨f.1, (map_fst_scenarioFiles turn v s).subset (List.mem_map_of_mem hf), rfl⟩

/-- Scenarios that are written one after the other change nothing but their own files. Where the
directory of the run is can be told from any later tree. -/
theorem keeps_of_writeScenarios {runDir : String} {run : Place} {scenarios : List Scenario}
    {verdicts : List Verdict} {t u later : FileTree} {written : Place → Prop}
    (h_later : u.Keeps later written) (h_run : later.LeadsTo runDir run (some .directory))
    (h : Ends (verdicts.forM (writeScenario runDir scenarios)) t () u) :
    t.Keeps u (fun p => ∃ v ∈ verdicts, OwnPlace run v p) := by
  induction verdicts generalizing t with
  | nil =>
    obtain ⟨-, rfl⟩ := ends_pure_iff.mp h
    exact .refl t _
  | cons v rest ih =>
    obtain ⟨_, s, h_first, h_rest⟩ := ends_bind_iff.mp h
    obtain ⟨made, turn, run', h_dir, -, h_turn⟩ := ends_writeScenario h_first
    have h_rest := ih h_rest
    -- The directory of the run stays where it is, so it is the same for all of them.
    have h_run' : later.LeadsTo runDir run' (some .directory) :=
      h_later.leadsTo_directory
        (h_rest.leadsTo_directory (h_turn.keeps.leadsTo_directory h_turn.leads))
    obtain rfl : run' = run := (h_run'.unique h_run).1
    refine ((keeps_of_makeDirs h_dir).mono fun _ h => h.elim).trans
      ((h_turn.keeps_ownPlace.mono fun p hp => ?_).trans (h_rest.mono fun p hp => ?_))
    · exact ⟨v, List.mem_cons_self, hp⟩
    · obtain ⟨w, hw, hp⟩ := hp
      exact ⟨w, List.mem_cons_of_mem v hw, hp⟩

end Artifacts

end PolicyTrial
