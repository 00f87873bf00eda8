import PolicyTrial.CommandLine.Arguments
import PolicyTrial.Report
import PolicyTrial.Table
import PolicyTrial.Text.Blank

/-!
# What is printed

* `Printed`: what is printed, and the exit code.
* `reportText`, `scenarioTable`, `probeTable`: reports, scenarios and checks for people to read.
* `Stop.printed`: what is printed if there is nothing to be done.
-/

namespace PolicyTrial.CommandLine

/-- What is printed, and the exit code. -/
structure Printed where
  exit : Nat
  out : String := ""
  err : String := ""
  deriving Repr, DecidableEq

/-- The word for a verdict. -/
def passWord (passed : Bool) : String := if passed then "PASS" else "FAIL"

/-- The first line of a text, cut off behind so many characters. -/
def firstLine (text : String) (limit : Nat) : String :=
  let line := text.toList.takeWhile (· ≠ '\n')
  let line :=
    if line.length < text.length ∧ line.getLast? = some '\r' then line.dropLast else line
  if line.length > limit then String.ofList (line.take limit) ++ "..." else String.ofList line

/-- The length to which details are cut in tables. -/
def detailLimit : Nat := 80

/-- A text as lines to be printed. -/
def line (s : String) : String := s ++ "\n"

/-- The table of some verdicts. -/
def verdictTable (vs : List Verdict) : Table where
  header := ["Scenario", "Result", "Failure", "Time", "Detail"]
  rows := vs.map fun v =>
    [v.scenarioId, passWord v.passed, (v.failure.map FailureKind.text).getD "",
      toString v.elapsed.millis ++ "ms", firstLine (v.explanation.getD "") detailLimit]

/-- What is printed of a failing verdict. -/
def failureText (v : Verdict) : String :=
  line "" ++ line ("--- " ++ v.scenarioId ++ " ---") ++ line ("expected: " ++ v.expectation.text) ++
    (v.explanation.map line).getD "" ++
    (if Text.trimmed v.stderr = "" then "" else line ("stderr:\n" ++ Text.trimmedEnd v.stderr))

/-- What is printed of a report. -/
def reportText (r : Report) : String :=
  line (verdictTable r.verdicts).text ++ String.join (r.failures.map failureText) ++
    line "" ++ line r.summary

/-- The table of some scenarios. -/
def scenarioTable (default : Channel) (ss : List Scenario) : Table where
  header := ["Scenario", "Bundle", "Channel", "Expectation"]
  rows := ss.map fun s => [s.id, s.bundle, (s.resolveChannel default).name, s.expectation.text]

/-- The table of the outcomes of checks. -/
def probeTable (ps : List ProbeOutcome) : Table where
  header := ["Probe", "Result", "Detail"]
  rows := ps.map fun p => [p.name, passWord p.passed, firstLine p.detail detailLimit]

/-- The exit code when nothing could be done. -/
def refusedCode : Nat := 2

/-- The name and the version of the program. -/
def versionText : String := "gauntlet 0.1.0"

/-- How the program is used. -/
def usageText : String :=
  "Usage: gauntlet [OPTIONS] <COMMAND>\n\nCommands:\n" ++
    "  run    Run scenarios from a suite manifest\n" ++
    "  list   List scenarios without running them\n" ++
    "  probe  Check the engine's auxiliary commands"

/-- What is printed if there is nothing to be done. -/
def Stop.printed : Stop → Printed
  | .help => { exit := 0, out := line usageText }
  | .version => { exit := 0, out := line versionText }
  | .misuse m => { exit := refusedCode, err := line ("error: " ++ m.message) }

end PolicyTrial.CommandLine
