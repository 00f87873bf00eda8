import PolicyTrial.Files.Tree
import PolicyTrial.Json.Printer
import PolicyTrial.Report

/-!
# Artifacts

A run can leave a directory with its report, and a directory for each scenario with everything
needed to look at it alone.

* `sanitizeId`: the name of a scenario's directory.
* `Artifacts.write`: all files of a run; the first failure ends the writing.
-/

namespace PolicyTrial

/-- Whether a character of an id stays in the name of its directory. -/
def isPlain (c : Char) : Bool := c.isAlphanum || c = '-' || c = '_' || c = '.'

/-- The name of a scenario's directory: every character that is not plain becomes an underscore. -/
def sanitizeId (id : String) : String :=
  String.ofList (id.toList.map fun c => if isPlain c then c else '_')

namespace Artifacts

/-- Work on a tree of files that can fail, and keeps what it did before. A failure is told in
words. -/
abbrev Writing := ExceptT String (StateM FileTree)

/-- A file error with what was being done, in words. -/
def during (action : String) (e : FileError) : String :=
  if action = "" then e.message else action ++ ": " ++ e.message

/-- One change of the tree; a failure is told with what was being done. -/
def change (action : String) (f : FileTree → Except FileError FileTree) : Writing Unit := do
  match f (← get) with
  | .ok t => set t
  | .error e => throw (during action e)

/-- Files with their names and contents, in a directory. -/
def writeFiles (dir : String) (files : List (String × Bytes)) : Writing Unit :=
  files.forM fun (name, content) => change "" (·.write (Path.join dir name) content)

/-- The file with the payload of a scenario. -/
def payloadFile : Option Scenario → List (String × Bytes)
  | none => []
  | some s => [("payload.json", Bytes.ofString s.payload.pretty)]

/-- The file with the bundle of a scenario, if the bundle can be read. -/
def bundleFile (t : FileTree) : Option Scenario → List (String × Bytes)
  | none => []
  | some s =>
    match t.read s.bundle with
    | .ok bundle => [("bundle.yml", bundle)]
    | .error _ => []

/-- The files with what a verdict records. -/
def verdictFiles (v : Verdict) : List (String × Bytes) :=
  [("stdout.txt", Bytes.ofString v.stdout), ("stderr.txt", Bytes.ofString v.stderr),
    ("verdict.json", Bytes.ofString v.toJson.pretty)]

/-- The directory of one scenario, with its files. The bundle is read when the payload has been
written. -/
def writeScenario (runDir : String) (scenarios : List Scenario) (v : Verdict) : Writing Unit := do
  let dir := Path.join runDir (sanitizeId v.scenarioId)
  change ("creating " ++ dir) (·.makeDirs dir)
  let s := scenarios.find? (·.id == v.scenarioId)
  writeFiles dir (payloadFile s)
  writeFiles dir (bundleFile (← get) s ++ verdictFiles v)

/-- The directory of a run. -/
def runDir (root runId : String) : String := Path.join root runId

/-- Everything that a run leaves: a directory for each scenario, then the report. -/
def write (root : String) (report : Report) (scenarios : List Scenario) : Writing Unit := do
  let dir := runDir root report.runId
  change ("creating artifacts directory " ++ dir) (·.makeDirs dir)
  report.verdicts.forM (writeScenario dir scenarios)
  let path := Path.join dir "report.json"
  change ("writing " ++ path) (·.write path (Bytes.ofString report.toJson.pretty))

end Artifacts

end PolicyTrial
