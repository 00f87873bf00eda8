import PolicyTrial.Host.Action
import PolicyTrial.Shell.Execution

/-!
# Processes

What a process does by some moment is a function of what it was given when it was launched, and of
the signals that it got since.

* `Program`: what an executable file runs.
* `Process`: a launched process.
* `Process.transcript`: what it has done by a moment.
-/

namespace PolicyTrial

/-- What an executable file runs: a script. -/
structure Program where
  script : Octets
  /-- Whether a command that fails ends the script. -/
  strict : Bool
  deriving Repr, DecidableEq

namespace Program

/-- The shells that can run scripts. -/
def shells : List String :=
  ["/bin/sh", "/bin/dash", "/bin/bash", "/usr/bin/sh", "/usr/bin/dash", "/usr/bin/bash",
    "/usr/bin/env sh", "/usr/bin/env dash", "/usr/bin/env bash"]

/-- The script that hands everything over to a utility. -/
def handover (path : List Char) : Octets := "exec ".toList ++ path ++ " \"$0\" \"$@\"\n".toList

/-- The program in an executable file; nothing if its first line names neither a shell nor a
utility. -/
def ofContent (content : Bytes) : Option Program :=
  let script := Octets.ofBytes content
  match script with
  | '#' :: '!' :: rest =>
    let line := (rest.takeWhile (· ≠ '\n')).map fun c => if c = '\t' then ' ' else c
    let words := (List.splitOn ' ' line).filter (!·.isEmpty)
    let (options, names) := words.partition (·.head? = some '-')
    let interpreter : List Char := ([' '] : List Char).intercalate names
    if shells.contains (String.ofList interpreter) then
      some ⟨script, options.any (·.contains 'e')⟩
    else if Shell.isUtility interpreter then some ⟨handover interpreter, false⟩
    else none
  | _ => none

/-- The program at a path; nothing if there is no file there that can be executed. -/
def atPath (t : FileTree) (path : String) : Option Program :=
  match t.resolve path with
  | .ok (_, some (.file content true)) => ofContent content
  | _ => none

/-- The program of a command. A name without a slash is looked up in some directories. -/
def find (t : FileTree) (searchDirs : List String) (name : String) : Option Program :=
  if name.toList.contains '/' then atPath t name
  else if name = "" then none
  else searchDirs.findSome? fun dir => atPath t (Path.join dir name)

end Program

/-- A launched process. Times are in nanoseconds. -/
structure Process where
  id : ProcessId
  program : Program
  command : Command
  input : Bytes
  /-- The variables of the environment with their values. -/
  bindings : List (String × String)
  /-- The files that it found when it was launched. -/
  files : FileTree
  started : Nat
  /-- The signals that it got, with their times. -/
  signals : List (Nat × Nat)
  /-- How many of its changes to the files have been seen. -/
  seen : Nat
  deriving Repr

namespace Process

/-- The state in which the script of a process starts, to be looked at at some moment. -/
def initial (p : Process) (moment : Nat) : Shell.State where
  name := Octets.ofString p.command.program
  arguments := p.command.arguments.map Octets.ofString
  bindings := p.bindings.map fun (name, value) => (Octets.ofString name, Octets.ofString value)
  strict := p.program.strict
  input := Octets.ofBytes p.input
  files := p.files
  horizon := moment - p.started
  signals := p.signals.map fun (t, n) => (t - p.started, n)

/-- What a process has done by a moment. -/
def transcript (p : Process) (moment : Nat) : Shell.Transcript :=
  Shell.execute p.program.script (p.initial moment)

/-- The exit code of an ended script, if no signal ended it. -/
def codeOf : Shell.ScriptEnd → Option Int
  | .exited status => some status
  | .killed => none

end Process

end PolicyTrial
