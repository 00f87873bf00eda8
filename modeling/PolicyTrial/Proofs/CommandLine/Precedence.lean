import Mathlib.Data.List.TakeWhile
import PolicyTrial.Proofs.CommandLine.ConfigFile
import PolicyTrial.Proofs.CommandLine.Preparation

/-!
# Which source decides on the port and on the engine

A port is looked for in a flag, in the environment and in the config file, an engine in a flag, in
the config file, in the environment and then by its name in some directories. `Sources` are all of
these side by side, and `Request.HasSources` tells what they say where a request is made.

* `Sources.port`: the port of the first source that has one.
* `Sources.Engine`: the engine, or why there is none. The first source that names a path decides
  (`Sources.Names`), even if that path leads nowhere; only if there is none, places are tried.
* `Sources.SamePort`, `Sources.SameEngine`: two families of sources agree up to the one that
  decides. Whatever the others say, the port and the engine are the same.

`Request.first_source_decides` ties this to the settings of a request and to the work it comes to.
-/

namespace PolicyTrial

/-! ### The environment -/

theorem Text.trim_eq_nil_iff {s : List Char} :
    Text.trim s = [] ↔ ∀ c ∈ s, Text.isBlank c = true := by
  have h_end : Text.trim s = [] ↔ ∀ c ∈ Text.trimStart s, Text.isBlank c = true := by
    rw [Text.trim, Text.trimEnd, List.reverse_eq_nil_iff, List.dropWhile_eq_nil_iff]
    simp only [List.mem_reverse]
  rw [h_end, Text.trimStart]
  constructor
  · intro h
    -- what is left behind the leading blanks would not start with a blank
    rw [← List.dropWhile_eq_nil_iff]
    cases h_rest : s.dropWhile Text.isBlank with
    | nil => rfl
    | cons c rest =>
      have h_head := List.head?_dropWhile_not Text.isBlank s
      rw [h_rest] at h h_head
      rw [List.head?_cons] at h_head
      dsimp only at h_head
      cases h_head.symm.trans (h c List.mem_cons_self)
  · exact fun h c hc => h c ((List.dropWhile_sublist _).subset hc)

/-- The path of the engine that the environment gives: none if the variable is not set or has
nothing but blanks, else what it has between the blanks at its ends. -/
inductive Environment.GivesEngine (e : Environment) : Option String → Prop
  | unset (h : e.bindings.lookup Settings.enginePathVariable = none) : GivesEngine e none
  | blank {raw : String} (h : e.bindings.lookup Settings.enginePathVariable = some raw)
      (h_blank : ∀ c ∈ raw.toList, Text.isBlank c = true) : GivesEngine e none
  | set {raw : String} {c : Char} (h : e.bindings.lookup Settings.enginePathVariable = some raw)
      (hc : c ∈ raw.toList) (h_char : Text.isBlank c = false) :
    GivesEngine e (some (Text.trimmed raw))

theorem Settings.environmentPath_eq_iff {e : Environment} {path? : Option String} :
    environmentPath e = path? ↔ e.GivesEngine path? := by
  have h_empty : ∀ raw, Text.trimmed raw = "" ↔ ∀ c ∈ raw.toList, Text.isBlank c = true := by
    intro raw
    rw [← Text.trim_eq_nil_iff, Text.trimmed, ← String.toList_eq_nil_iff, String.toList_ofList]
  unfold environmentPath
  constructor
  · rintro rfl
    cases h_set : e.bindings.lookup enginePathVariable with
    | none => exact .unset h_set
    | some raw =>
      dsimp only [Option.bind]
      split
      · next h_blank => exact .blank h_set ((h_empty raw).mp h_blank)
      · next h_blank =>
        obtain ⟨c, hc, h_char⟩ : ∃ c ∈ raw.toList, Text.isBlank c = false := by
          simpa only [h_empty, not_forall, Bool.not_eq_true, exists_prop] using h_blank
        exact .set h_set hc h_char
  · intro h
    cases h with
    | unset h_unset => rw [h_unset]; rfl
    | blank h_set h_blank =>
      rw [h_set, Option.bind_some, if_pos ((h_empty _).mpr h_blank)]
    | set h_set hc h_char =>
      have h_some : ¬ Text.trimmed _ = "" := fun h_blank => by
        cases h_char.symm.trans ((h_empty _).mp h_blank _ hc)
      rw [h_set, Option.bind_some, if_neg h_some]

/-! ### The config file -/

/-- The port of a file, if it has one. -/
def Settings.Draft.port? (d : Settings.Draft) : Option Port :=
  if "port" ∈ d.seen then some d.settings.port else none

theorem Settings.Draft.ReadFrom.port_eq {doc : Yaml.Document} {d : Settings.Draft}
    (h : d.ReadFrom doc) : d.settings.port = d.port?.getD 9090 := by
  unfold Settings.Draft.port?
  split
  · rfl
  · next h_unseen =>
    -- the port among the fields of the settings, and among those of the defaults
    have h_field : some (Json.ofNat d.settings.port) = some (Json.ofNat 9090) :=
      h.field?_eq h_unseen
    have h_port : (d.settings.port.val : Int) = (9090 : Nat) := by
      simpa only [Json.ofNat, Option.some.injEq, Json.number.injEq, Json.Number.integer.injEq]
        using h_field
    exact Fin.ext (Int.ofNat_inj.mp h_port)

/-- What the config file of a request says, if it has one, of the port, of the path of the engine,
which is below the directory of the file, and of the engine's name. -/
inductive CommandLine.Request.FileSays (build : Build) (t : FileTree) (r : CommandLine.Request) :
    Option Port → Option String → String → Prop
  | without (h : r.config = none) : FileSays build t r none none "mpe"
  | file {path dir : String} {d : Settings.Draft} (h : r.config = some path)
      (h_dir : dir = (Path.parent? path).getD ".") (h_content : Settings.IsIn t path d)
      (h_valid : (d.settings.below dir).validate build = .ok ()) :
    FileSays build t r d.port? (d.settings.enginePath.map (Path.join dir)) d.settings.engineName

/-! ### Sources -/

/-- Everything that may say something of the port or of the engine. -/
structure Sources where
  flagPort : Option Port
  environmentPort : Option Port
  filePort : Option Port
  flagEngine : Option String
  fileEngine : Option String
  environmentEngine : Option String
  engineName : String
  /-- The directories where the name is looked up, in order. -/
  dirs : List String
  isFile : String → Bool

namespace Sources

variable {src src' : Sources} {source path : String} {result : Except Failure String}

/-- The first port there is, or the usual one. -/
def port (src : Sources) : Port :=
  ((src.flagPort.or src.environmentPort).or src.filePort).getD 9090

/-- The first source that gives a path for the engine gives this one. -/
inductive Names (src : Sources) : String → String → Prop
  | flag {path : String} (h : src.flagEngine = some path) : Names src "configured engine_path" path
  | file {path : String} (h_flag : src.flagEngine = none) (h : src.fileEngine = some path) :
    Names src "configured engine_path" path
  | environment {path : String} (h_flag : src.flagEngine = none) (h_file : src.fileEngine = none)
      (h : src.environmentEngine = some path) : Names src "GAUNTLET_ENGINE_PATH" path

/-- No source gives a path for the engine. -/
structure NamesNone (src : Sources) : Prop where
  flag : src.flagEngine = none
  file : src.fileEngine = none
  environment : src.environmentEngine = none

/-- Where the engine is looked up by its name. -/
def candidates (src : Sources) : List String := src.dirs.map (Path.join · src.engineName)

/-- The engine that the sources lead to, or why they lead to none. -/
inductive Engine (src : Sources) : Except Failure String → Prop
  /-- The path that is given is that of a file. -/
  | given {source path : String} (h : src.Names source path) (h_file : src.isFile path = true) :
    Engine src (.ok path)
  /-- The path that is given is that of no file, and nothing else is tried. -/
  | missing {source path : String} (h : src.Names source path)
      (h_file : src.isFile path = false) :
    Engine src (.error (.setup (source ++ " points to " ++ path ++ " which does not exist")))
  /-- The first file among the places where the name is looked up. -/
  | found {before after : List String} {path : String} (h : src.NamesNone)
      (h_candidates : src.candidates = before ++ path :: after)
      (h_before : ∀ p ∈ before, src.isFile p = false) (h_file : src.isFile path = true) :
    Engine src (.ok path)
  /-- There is no file at any of them. -/
  | notFound (h : src.NamesNone) (h_none : ∀ p ∈ src.candidates, src.isFile p = false) :
    Engine src (.error (.setup ("engine binary '" ++ src.engineName ++
      "' not found beside the harness or on PATH")))

theorem names_or_namesNone (src : Sources) :
    (∃ source path, src.Names source path) ∨ src.NamesNone := by
  cases h_flag : src.flagEngine with
  | some path => exact .inl ⟨_, path, .flag h_flag⟩
  | none =>
    cases h_file : src.fileEngine with
    | some path => exact .inl ⟨_, path, .file h_flag h_file⟩
    | none =>
      cases h_environment : src.environmentEngine with
      | some path => exact .inl ⟨_, path, .environment h_flag h_file h_environment⟩
      | none => exact .inr ⟨h_flag, h_file, h_environment⟩

/-- Sources always lead to something. -/
theorem exists_engine (src : Sources) : ∃ result, src.Engine result := by
  rcases src.names_or_namesNone with ⟨source, path, h_names⟩ | h_none
  · cases h_file : src.isFile path with
    | true => exact ⟨_, .given h_names h_file⟩
    | false => exact ⟨_, .missing h_names h_file⟩
  · cases h_find : src.candidates.find? src.isFile with
    | some path =>
      obtain ⟨h_file, before, after, h_candidates, h_before⟩ :=
        List.find?_eq_some_iff_append.mp h_find
      exact ⟨_, .found h_none h_candidates (fun p hp => by simpa using h_before p hp) h_file⟩
    | none =>
      exact ⟨_, .notFound h_none fun p hp => by simpa using List.find?_eq_none.mp h_find p hp⟩

/-- An engine that is found is a file. -/
theorem Engine.isFile (h : src.Engine (.ok path)) : src.isFile path = true := by
  cases h with
  | given _ h_file | found _ _ _ h_file => exact h_file

/-! ### Agreement up to the source that decides -/

/-- Two families of sources have the same first port. Nothing is asked of the sources behind the one
that decides. -/
inductive SamePort (src src' : Sources) : Prop
  | flag {p : Port} (h : src.flagPort = some p) (h' : src'.flagPort = some p)
  | environment {p : Port} (h_flag : src.flagPort = none) (h_flag' : src'.flagPort = none)
      (h : src.environmentPort = some p) (h' : src'.environmentPort = some p)
  | file (h_flag : src.flagPort = none) (h_flag' : src'.flagPort = none)
      (h_environment : src.environmentPort = none) (h_environment' : src'.environmentPort = none)
      (h : src'.filePort = src.filePort)

theorem SamePort.port_eq (h : src.SamePort src') : src'.port = src.port := by
  unfold port
  cases h with
  | flag h h' => rw [h, h']; rfl
  | environment h_flag h_flag' h h' => rw [h_flag, h_flag', h, h']; rfl
  | file h_flag h_flag' h_environment h_environment' h =>
    rw [h_flag, h_flag', h_environment, h_environment', h]

/-- Two families of sources agree up to the source that decides on the engine, and on whether there
is a file at the places that are tried. Nothing is asked of the sources behind that one, of the
directories behind the first file, or of any other file. -/
inductive SameEngine (src src' : Sources) : Prop
  | named {source path : String} (h : src.Names source path) (h' : src'.Names source path)
      (h_file : src'.isFile path = src.isFile path)
  | found {before after after' : List String} {path : String} (h : src.NamesNone)
      (h' : src'.NamesNone) (h_candidates : src.candidates = before ++ path :: after)
      (h_candidates' : src'.candidates = before ++ path :: after')
      (h_before : ∀ p ∈ before, src.isFile p = false ∧ src'.isFile p = false)
      (h_file : src.isFile path = true) (h_file' : src'.isFile path = true)
  | notFound (h : src.NamesNone) (h' : src'.NamesNone) (h_name : src'.engineName = src.engineName)
      (h_none : ∀ p ∈ src.candidates, src.isFile p = false)
      (h_none' : ∀ p ∈ src'.candidates, src'.isFile p = false)

/-- Such sources lead to the same. -/
theorem SameEngine.exists_engine (h : src.SameEngine src') :
    ∃ result, src.Engine result ∧ src'.Engine result := by
  cases h with
  | @named source path h h' h_same =>
    -- whether there is a file or not, it is the same for both
    cases h_file : src.isFile path with
    | true => exact ⟨_, .given h h_file, .given h' (h_same.trans h_file)⟩
    | false => exact ⟨_, .missing h h_file, .missing h' (h_same.trans h_file)⟩
  | found h h' h_candidates h_candidates' h_before h_file h_file' =>
    exact ⟨_, .found h h_candidates (fun p hp => (h_before p hp).1) h_file,
      .found h' h_candidates' (fun p hp => (h_before p hp).2) h_file'⟩
  | notFound h h' h_name h_none h_none' =>
    exact ⟨_, .notFound h h_none, h_name ▸ .notFound h' h_none'⟩

end Sources

namespace CommandLine

/-- The bench of some work, if it needs one. -/
def Work.bench? : Work → Option Bench
  | .run bench _ | .probe bench _ => some bench
  | .list .. => none

namespace Request

variable {e e' : Environment} {r r' : Request} {src src' : Sources} {s s' : Settings}

/-- What the sources say where a request is made. -/
structure HasSources (e : Environment) (r : Request) (src : Sources) : Prop where
  flagPort : src.flagPort = r.port
  environmentPort : e.GivesPort src.environmentPort
  file : r.FileSays e.build e.files src.filePort src.fileEngine src.engineName
  flagEngine : src.flagEngine = r.engine
  environmentEngine : e.GivesEngine src.environmentEngine
  dirs : src.dirs = e.programDir :: Settings.searchDirs e
  isFile : src.isFile = e.files.isFile

/-- Settings have what the sources say. -/
structure Obeys (s : Settings) (src : Sources) : Prop where
  port : s.port = src.port
  enginePath : s.enginePath = src.flagEngine.or src.fileEngine
  engineName : s.engineName = src.engineName

/-- A file that loads says something. -/
theorem exists_fileSays (h_file : ∀ path, r.config = some path →
    ∃ loaded, Settings.load e.build e.files path = .ok loaded) :
    ∃ port path name, r.FileSays e.build e.files port path name := by
  cases h_config : r.config with
  | none => exact ⟨_, _, _, .without h_config⟩
  | some path =>
    obtain ⟨loaded, h_load⟩ := h_file path h_config
    obtain ⟨d, h_content, rfl, h_valid⟩ := Settings.load_eq_ok_iff.mp h_load
    exact ⟨_, _, _, .file h_config rfl h_content h_valid⟩

theorem FileSays.exists_loads {port : Option Port} {path : Option String} {name : String}
    (h : r.FileSays e.build e.files port path name) :
    ∃ loaded, r.Loads e.build e.files loaded ∧ loaded.port = port.getD 9090 ∧
      loaded.enginePath = path ∧ loaded.engineName = name := by
  cases h with
  | without h => exact ⟨{}, .without h, rfl, rfl, rfl⟩
  | @file path _ d h h_dir h_content h_valid =>
    have h_loads := Loads.file h h_content (Settings.validate_eq_ok_iff.mp (h_dir ▸ h_valid))
    obtain ⟨content, -, h_draft⟩ := h_content
    refine ⟨_, h_loads, (Settings.Draft.readFrom_of_decode h_draft).port_eq, ?_, rfl⟩
    rw [h_dir]
    rfl

theorem exists_hasSources (h_file : ∀ path, r.config = some path →
      ∃ loaded, Settings.load e.build e.files path = .ok loaded)
    (h_port : ∀ raw, e.bindings.lookup Settings.portVariable = some raw →
      ∃ port, Settings.port? (Text.trim raw.toList) = some port) :
    ∃ src, r.HasSources e src := by
  obtain ⟨filePort, fileEngine, engineName, h_content⟩ := exists_fileSays h_file
  obtain ⟨environmentPort, h_gives⟩ : ∃ port, e.GivesPort port := by
    cases h_set : e.bindings.lookup Settings.portVariable with
    | none => exact ⟨none, .unset h_set⟩
    | some raw =>
      obtain ⟨port, h_valid⟩ := h_port raw h_set
      exact ⟨some port, .set h_set h_valid⟩
  exact ⟨⟨r.port, environmentPort, filePort, r.engine, fileEngine, Settings.environmentPath e,
    engineName, e.programDir :: Settings.searchDirs e, e.files.isFile⟩,
    rfl, h_gives, h_content, rfl, Settings.environmentPath_eq_iff.mp rfl, rfl, rfl⟩

/-- The settings of a request obey its sources. -/
theorem HasSources.exists_settings (h : r.HasSources e src) :
    ∃ s, r.settings e = .ok s ∧ Obeys s src := by
  obtain ⟨loaded, h_loads, h_port, h_path, h_name⟩ := h.file.exists_loads
  refine ⟨_, settings_eq_ok_iff.mpr ⟨loaded, _, h_loads, h.environmentPort, rfl⟩, ?_, ?_, h_name⟩
  · -- the port of the file counts if neither the flag nor the environment has one
    have h_or : ∀ first second : Option Port,
        first.getD (second.getD 9090) = (first.or second).getD 9090 := by
      intro first second
      cases first with
      | some p => rfl
      | none => rfl
    calc (r.port.or src.environmentPort).getD loaded.port
        = (r.port.or src.environmentPort).getD (src.filePort.getD 9090) := by rw [h_port]
      _ = ((r.port.or src.environmentPort).or src.filePort).getD 9090 := h_or _ _
      _ = src.port := by rw [Sources.port, h.flagPort]
  · show r.engine.or loaded.enginePath = _
    rw [h_path, h.flagEngine]

theorem HasSources.obeys (h : r.HasSources e src) (h_settings : r.settings e = .ok s) :
    Obeys s src := by
  obtain ⟨s', h_settings', h_obeys⟩ := h.exists_settings
  cases h_settings.symm.trans h_settings'
  exact h_obeys

/-! ### The engine -/

/-- A path that is given is the only one that is looked at. -/
theorem findEngine_of_names (h : r.HasSources e src) (h_obeys : Obeys s src) {source path : String}
    (h_names : src.Names source path) :
    s.findEngine e = Settings.existingFile e.files source path := by
  rw [Settings.findEngine, h_obeys.enginePath]
  cases h_names with
  | flag h_flag => rw [h_flag]; rfl
  | file h_flag h_file => rw [h_flag, h_file]; rfl
  | environment h_flag h_file h_environment =>
    rw [h_flag, h_file]
    dsimp only [Option.or]
    rw [Settings.environmentPath_eq_iff.mpr h.environmentEngine, h_environment]
    rfl

/-- Without one, the engine is looked up by its name. -/
theorem findEngine_of_namesNone (h : r.HasSources e src) (h_obeys : Obeys s src)
    (h_none : src.NamesNone) : s.findEngine e =
      (src.candidates.find? src.isFile).elim
        (.error (.setup ("engine binary '" ++ src.engineName ++
          "' not found beside the harness or on PATH"))) .ok := by
  -- the first two ways to find an engine are closed, and the places of the third are the same
  have h_path : s.enginePath = none := by
    rw [h_obeys.enginePath, h_none.flag, h_none.file]
    rfl
  have h_environment : Settings.environmentPath e = none := by
    rw [Settings.environmentPath_eq_iff.mpr h.environmentEngine, h_none.environment]
  have h_candidates : src.candidates = Settings.candidates e s.engineName := by
    rw [Sources.candidates, h.dirs, h_obeys.engineName]
    rfl
  rw [Settings.findEngine, h_path, h_environment, h_candidates, h.isFile, ← h_obeys.engineName]
  cases (Settings.candidates e s.engineName).find? e.files.isFile with
  | some path => rfl
  | none => rfl

theorem findEngine_of_engine (h : r.HasSources e src) (h_obeys : Obeys s src)
    {result : Except Failure String} (h_engine : src.Engine result) : s.findEngine e = result := by
  cases h_engine with
  | given h_names h_file =>
    rw [findEngine_of_names h h_obeys h_names, Settings.existingFile, if_pos (h.isFile ▸ h_file)]
  | @missing source path h_names h_file =>
    have h_missing : ¬ e.files.isFile path = true := by
      rw [← h.isFile, h_file]
      exact Bool.false_ne_true
    rw [findEngine_of_names h h_obeys h_names, Settings.existingFile, if_neg h_missing]
  | @found before after path h_none h_candidates h_before h_file =>
    have h_find : src.candidates.find? src.isFile = some path :=
      List.find?_eq_some_iff_append.mpr
        ⟨h_file, before, after, h_candidates, fun p hp => by simpa using h_before p hp⟩
    rw [findEngine_of_namesNone h h_obeys h_none, h_find, Option.elim_some]
  | notFound h_none h_nowhere =>
    have h_find : src.candidates.find? src.isFile = none :=
      List.find?_eq_none.mpr fun p hp => by simpa using h_nowhere p hp
    rw [findEngine_of_namesNone h h_obeys h_none, h_find, Option.elim_none]

/-- The search for an engine comes to what the sources lead to. -/
theorem findEngine_eq_iff (h : r.HasSources e src) (h_obeys : Obeys s src)
    {result : Except Failure String} : s.findEngine e = result ↔ src.Engine result := by
  constructor
  · -- what the sources lead to is found, so what is found is that
    rintro rfl
    obtain ⟨result, h_engine⟩ := src.exists_engine
    rwa [findEngine_of_engine h h_obeys h_engine]
  · exact findEngine_of_engine h h_obeys

/-- The bench of the work has the port and the engine of the settings: the options of a run change
neither. -/
theorem bench_of_prepare {work : Work} {bench : Bench} (h_settings : r.settings e = .ok s)
    (h_prepare : r.prepare e = .ok work) (h_bench : work.bench? = some bench) :
    bench.settings.port = s.port ∧ s.findEngine e = .ok bench.binary := by
  -- the engine of a bench was found by the settings, before they were checked
  have h_found : ∀ {s : Settings} {binary : String},
      during .setUp (s.setUp e) = .ok binary → s.findEngine e = .ok binary :=
    fun h_setUp => (Settings.setUp_eq_ok_iff.mp (during_eq_ok_iff.mp h_setUp)).1
  unfold prepare at h_prepare
  obtain ⟨s', h_settings', h_task⟩ := exists_of_bind_eq_ok h_prepare
  cases h_settings.symm.trans h_settings'
  clear h_prepare
  -- a run and a probe have a bench, a list has none
  split at h_task
  · obtain ⟨scenarios, -, h_rest⟩ := exists_of_bind_eq_ok h_task
    obtain ⟨binary, h_setUp, h_work⟩ := exists_of_bind_eq_ok h_rest
    cases h_work
    cases h_bench
    have h_engine := h_found h_setUp
    exact ⟨rfl, h_engine⟩
  · obtain ⟨scenarios, -, h_work⟩ := exists_of_bind_eq_ok h_task
    cases h_work
    cases h_bench
  · obtain ⟨binary, h_setUp, h_work⟩ := exists_of_bind_eq_ok h_task
    cases h_work
    cases h_bench
    exact ⟨rfl, h_found h_setUp⟩

/-- **The first source decides.** Let the config file of a request load, if it has one, and let the
environment give a valid port, if it gives one. Then the sources say something, and the settings of
the request follow them: the port is that of the flag, or else of the environment, or else of the
file, or else 9090, and the search for an engine comes to what the sources lead to. An engine that
is found is a file. The bench of any work has that port and that engine. And where the sources of
another request in another place agree with these up to the one that decides, its port, or its
engine, is the same. -/
theorem first_source_decides (e : Environment) (r : Request)
    (h_file : ∀ path, r.config = some path →
      ∃ loaded, Settings.load e.build e.files path = .ok loaded)
    (h_port : ∀ raw, e.bindings.lookup Settings.portVariable = some raw →
      ∃ port, Settings.port? (Text.trim raw.toList) = some port) :
    (∃ src, r.HasSources e src) ∧
    ∀ src, r.HasSources e src → ∃ s, r.settings e = .ok s ∧
      s.port = ((src.flagPort.or src.environmentPort).or src.filePort).getD 9090 ∧
      (∀ result, s.findEngine e = result ↔ src.Engine result) ∧
      (∀ engine, s.findEngine e = .ok engine → e.files.isFile engine = true) ∧
      (∀ work bench, r.prepare e = .ok work → work.bench? = some bench →
        bench.settings.port = s.port ∧ s.findEngine e = .ok bench.binary) ∧
      ∀ e' r' src' s', HasSources e' r' src' → r'.settings e' = .ok s' →
        (src.SamePort src' → s'.port = s.port) ∧
        (src.SameEngine src' → s'.findEngine e' = s.findEngine e) := by
  refine ⟨exists_hasSources h_file h_port, fun src h => ?_⟩
  obtain ⟨s, h_settings, h_obeys⟩ := h.exists_settings
  have h_engine : ∀ result, s.findEngine e = result ↔ src.Engine result :=
    fun _ => findEngine_eq_iff h h_obeys
  refine ⟨s, h_settings, h_obeys.port, h_engine, ?_, ?_, ?_⟩
  · intro engine h_found
    have h_is := ((h_engine _).mp h_found).isFile
    rwa [h.isFile] at h_is
  · exact fun work bench h_prepare h_bench => bench_of_prepare h_settings h_prepare h_bench
  · intro e' r' src' s' h' h_settings'
    have h_obeys' := h'.obeys h_settings'
    refine ⟨fun h_same => ?_, fun h_same => ?_⟩
    · rw [h_obeys'.port, h_same.port_eq, h_obeys.port]
    · -- the searches come to the same, be it an engine or a failure
      obtain ⟨result, h_leads, h_leads'⟩ := h_same.exists_engine
      rw [findEngine_of_engine h' h_obeys' h_leads', findEngine_of_engine h h_obeys h_leads]

/-- A place with a config file and an engine below its directory. The environment gives a port, the
path of an engine, and directories to look in. -/
def layeredEnvironment (engine dirs config : String) : Environment where
  bindings := [("GAUNTLET_PORT", " 9393 "), ("GAUNTLET_ENGINE_PATH", engine), ("PATH", dirs)]
  programDir := "/usr/local/bin"
  files := (FileTree.empty.place "conf/gauntlet.yml" (Bytes.ofString config) false).place
    "conf/bin/mpe" [] true
  build := .unchecked

/-- A request with a config file and without any other flag. -/
def layeredRequest : Request := ⟨.probe none, false, some "conf/gauntlet.yml", none, none⟩

/-- What the sources say there, if the file says something. -/
def layeredSources (engine dirs config : String) (d : Settings.Draft) : Sources where
  flagPort := none
  environmentPort := some 9393
  filePort := d.port?
  flagEngine := none
  fileEngine := d.settings.enginePath.map (Path.join "conf")
  environmentEngine := some (Text.trimmed engine)
  engineName := d.settings.engineName
  dirs := "/usr/local/bin" :: dirs.splitOn ":"
  isFile := (layeredEnvironment engine dirs config).files.isFile

theorem layered_hasSources {engine dirs config : String} {d : Settings.Draft} {c : Char}
    (h_content : Settings.IsIn (layeredEnvironment engine dirs config).files "conf/gauntlet.yml" d)
    (h_valid : (d.settings.below "conf").validate .unchecked = .ok ()) (hc : c ∈ engine.toList)
    (h_char : Text.isBlank c = false) :
    HasSources (layeredEnvironment engine dirs config) layeredRequest
      (layeredSources engine dirs config d) where
  flagPort := rfl
  environmentPort := .set rfl (by decide +kernel)
  file := .file rfl (by decide +kernel) h_content h_valid
  flagEngine := rfl
  environmentEngine := .set rfl hc h_char
  dirs := rfl
  isFile := rfl

/-- The port of the environment masks that of the file, and the engine of the file masks that of the
environment, so what the masked ones say does not matter. -/
theorem first_source_decides_layered :
    let e := layeredEnvironment " /opt/mpe " "/usr/bin:/bin" "engine_path: bin/mpe\nport: 9191\n"
    let e' := layeredEnvironment "/dev/null" "" "engine_path: bin/mpe\nport: 7000\nhost: h\n"
    ∃ s s', layeredRequest.settings e = .ok s ∧ layeredRequest.settings e' = .ok s' ∧
      s.port = 9393 ∧ s.findEngine e = .ok "conf/bin/mpe" ∧
      s'.port = s.port ∧ s'.findEngine e' = s.findEngine e := by
  intro e e'
  have h_content : Settings.IsIn e.files "conf/gauntlet.yml"
      ⟨{ enginePath := some "bin/mpe", port := 9191 }, ["port", "engine_path"]⟩ :=
    ⟨"engine_path: bin/mpe\nport: 9191\n", FileTree.readText_eq_ok_iff.mp (by decide +kernel), rfl⟩
  have h_content' : Settings.IsIn e'.files "conf/gauntlet.yml"
      ⟨{ enginePath := some "bin/mpe", port := 7000, host := "h" },
        ["host", "port", "engine_path"]⟩ :=
    ⟨"engine_path: bin/mpe\nport: 7000\nhost: h\n",
      FileTree.readText_eq_ok_iff.mp (by decide +kernel), rfl⟩
  have h_engine : (some "bin/mpe").map (Path.join "conf") = some "conf/bin/mpe" := by
    decide +kernel
  have h_file : e.files.isFile "conf/bin/mpe" = true := by decide +kernel
  have h_file' : e'.files.isFile "conf/bin/mpe" = true := by decide +kernel
  have h_src := layered_hasSources (c := '/') h_content
    (by decide +kernel) (by decide) (by decide)
  have h_src' := layered_hasSources (c := '/') h_content'
    (by decide +kernel) (by decide) (by decide)
  obtain ⟨s', h_settings', -⟩ := h_src'.exists_settings
  obtain ⟨-, h_decides⟩ := first_source_decides e layeredRequest
    (fun path h => by
      cases h
      exact ⟨_, Settings.load_eq_ok_iff.mpr ⟨_, h_content, rfl, by decide +kernel⟩⟩)
    (fun raw h => by
      cases h
      exact ⟨9393, by decide +kernel⟩)
  obtain ⟨s, h_settings, h_port, h_leads, -, -, h_same⟩ := h_decides _ h_src
  obtain ⟨h_port_eq, h_engine_eq⟩ := h_same e' layeredRequest _ s' h_src' h_settings'
  refine ⟨s, s', h_settings, h_settings', h_port,
    (h_leads _).mpr (.given (.file rfl h_engine) h_file), h_port_eq (.environment rfl rfl rfl rfl),
    h_engine_eq ?_⟩
  exact .named (.file rfl h_engine) (.file rfl h_engine) (h_file'.trans h_file.symm)

end Request

end CommandLine

end PolicyTrial
