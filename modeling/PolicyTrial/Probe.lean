import PolicyTrial.Invocation
import PolicyTrial.Report
import PolicyTrial.Text.Blank

/-!
# Checks of the auxiliary commands

* `Probe.version`, `Probe.help`, `Probe.lint`: the check of one command.
* `Probe.all`: the checks that are made, in order.
-/

namespace PolicyTrial.Probe

/-- The check that the engine tells its version. -/
def version : Response → Bool × String
  | .error f => (false, f.message)
  | .ok a =>
    let said := Text.trimmed a.stdoutText
    if !a.success then (false, "exited with " ++ a.status.text)
    else if said = "" then (false, "printed nothing")
    else (true, said)

/-- The check that the engine lists its commands under its name. -/
def help (engineName : String) : Response → Bool × String
  | .error f => (false, f.message)
  | .ok a =>
    if !a.success then (false, "exited with " ++ a.status.text)
    else
      match (matchFragments a.stdoutText
          [engineName, "commands", "test", "serve", "lint"]).explain with
      | none => (true, "lists the expected commands")
      | some explanation => (false, explanation)

/-- The check that the engine can look through a bundle. To report warnings is fine. -/
def lint : Response → Bool × String
  | .error f => (false, f.message)
  | .ok a =>
    match a.status with
    | .exit (some 0) => (true, "no findings")
    | .exit (some 1) => (true, "reported warnings")
    | status => (false, "exited with " ++ status.text ++ ": " ++ Text.trimmed a.stderrText)

/-- One check of a command. -/
def check (i : Invoker) (name : String) (args : List String)
    (judge : Response → Bool × String) : Procedure ProbeOutcome := do
  let (passed, detail) := judge (← i.auxiliary args)
  return ⟨name, passed, detail⟩

/-- The checks that are made, in order; the last one only if there is a bundle for it. -/
def all (i : Invoker) (engineName : String) (bundle : Option String) :
    Procedure (List ProbeOutcome) := do
  let first ← check i "version" ["version"] version
  let second ← check i "help" ["--help"] (help engineName)
  match bundle with
  | none => return [first, second]
  | some path => return [first, second, ← check i "lint" ["lint", "-f", path] lint]

end PolicyTrial.Probe
