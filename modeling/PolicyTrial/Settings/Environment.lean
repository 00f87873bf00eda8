import PolicyTrial.Files.Tree
import PolicyTrial.Settings
import PolicyTrial.Text.Blank

/-!
# The environment and the engine

* `Environment`: the variables, the directory of the running program, and the files.
* `Settings.applyEnvironment`: the port of the environment.
* `Settings.findEngine`: the engine, from the first of its sources that says something.
-/

namespace PolicyTrial

/-- What the program finds around it, and how it is built. -/
structure Environment where
  /-- The variables with their values. -/
  bindings : List (String × String)
  /-- The directory of the running program. -/
  programDir : String
  files : FileTree
  build : Build
  deriving Repr

namespace Settings

/-- The variable with the engine's path. -/
def enginePathVariable : String := "GAUNTLET_ENGINE_PATH"

/-- The variable with the port. -/
def portVariable : String := "GAUNTLET_PORT"

/-- The port that a text spells in decimal digits, a plus sign before them allowed. -/
def port? (s : List Char) : Option Port :=
  let digits := match s with
    | '+' :: rest => rest
    | _ => s
  if digits.isEmpty || !digits.all Char.isDigit then none
  else
    let n := digits.foldl (fun v d => v * 10 + (d.toNat - '0'.toNat)) 0
    if h : n < twoTo 16 then some ⟨n, h⟩ else none

/-- The settings with the port of the environment, if there is one. -/
def applyEnvironment (e : Environment) (s : Settings) : Except Failure Settings :=
  match e.bindings.lookup portVariable with
  | none => .ok s
  | some raw =>
    match port? (Text.trim raw.toList) with
    | some port => .ok { s with port }
    | none => .error (.config ("$" ++ portVariable) (Text.quoted raw ++ " is not a valid port"))

/-- A path that has to lead to a file; `source` says where it comes from. -/
def existingFile (t : FileTree) (source path : String) : Except Failure String :=
  if t.isFile path then .ok path
  else .error (.setup (source ++ " points to " ++ path ++ " which does not exist"))

/-- The engine's path in the environment, if it is not blank. -/
def environmentPath (e : Environment) : Option String :=
  (e.bindings.lookup enginePathVariable).bind fun raw =>
    let path := Text.trimmed raw
    if path = "" then none else some path

/-- The directories in which programs are looked up, in order. An empty entry is the working
directory. -/
def searchDirs (e : Environment) : List String :=
  match e.bindings.lookup "PATH" with
  | none => []
  | some dirs => dirs.splitOn ":"

/-- The places where an engine is looked up by its name: beside the running program, then in each
directory of the search path. -/
def candidates (e : Environment) (name : String) : List String :=
  (e.programDir :: searchDirs e).map (Path.join · name)

/-- The engine. A path that is given decides, and nothing else is tried if it leads nowhere. -/
def findEngine (e : Environment) (s : Settings) : Except Failure String :=
  match s.enginePath with
  | some path => existingFile e.files "configured engine_path" path
  | none =>
    match environmentPath e with
    | some path => existingFile e.files enginePathVariable path
    | none =>
      match (candidates e s.engineName).find? e.files.isFile with
      | some path => .ok path
      | none => .error (.setup ("engine binary '" ++ s.engineName ++
          "' not found beside the harness or on PATH"))

/-- The settings have to be such that they can be used for a run. -/
def check (build : Build) (s : Settings) : Except (Halt Failure) Unit :=
  (s.validate build).mapError (Halt.map (.config "<harness config>"))

/-- The engine, for settings that can be used for a run. The engine is looked for first. -/
def setUp (e : Environment) (s : Settings) : Except (Halt Failure) String := do
  let binary ← Halt.lift (findEngine e s)
  s.check e.build
  return binary

end Settings

end PolicyTrial
