import PolicyTrial.Host.PortPool
import PolicyTrial.Host.Process
import PolicyTrial.Server.Capture
import PolicyTrial.Settings.Environment

/-!
# A host

A host has a clock, files, processes and ports. Its network leads nowhere: every request fails.
Whatever it does takes some time, so that its clock tells what comes first.

* `Host`: the state of a host.
* `Host.answer`: what comes of an action, and the host after it.
-/

namespace PolicyTrial

/-- The state of a host. Times are in nanoseconds. -/
structure Host where
  now : Nat
  files : FileTree
  /-- The variables of the environment with their values. -/
  bindings : List (String × String)
  processes : List Process
  pool : PortPool
  /-- When a permit was last given back. -/
  releasedAt : Nat
  deriving Repr

namespace Host

/-- A host on which nothing has happened yet. -/
def initial (files : FileTree) (bindings : List (String × String)) (pool : PortPool) : Host :=
  ⟨0, files, bindings, [], pool, 0⟩

/-- How long it takes to launch a process. -/
def launchCost : Nat := 1000000

/-- How long it takes for a request to fail. -/
def requestCost : Nat := 1000000

/-- A host at a later moment. -/
def later (moment : Nat) (h : Host) : Host := { h with now := max h.now moment }

/-- The directories in which programs are looked up. -/
def searchDirs (h : Host) : List String :=
  ((h.bindings.lookup "PATH").getD "/usr/bin:/bin").splitOn ":"

/-- The octets that one argument of a program may have. -/
def argumentLimit : Nat := 131071

/-- Whether a text can be handed to a program: it ends at a character zero, so it may hold none. -/
def isArgument (s : String) : Bool := !s.toList.contains '\x00' && s.utf8ByteSize ≤ argumentLimit

/-- The process that a command becomes; nothing if there is no such program, or if it cannot be
handed its name and its arguments. -/
def process? (h : Host) (command : Command) (input : Bytes) : Option Process :=
  if (command.program :: command.arguments).all isArgument then
    (Program.find h.files h.searchDirs command.program).map fun program =>
      ⟨h.processes.length, program, command, input, h.bindings, h.files, h.now + launchCost, [], 0⟩
  else none

/-- The files after the changes that a process has made by a moment and that have not been seen
yet. -/
def absorb (p : Process) (t : Shell.Transcript) (h : Host) : Host :=
  { h with
    files := (t.changes.drop p.seen).foldl Shell.FileChange.apply h.files
    processes := h.processes.map fun q =>
      if q.id = p.id then { q with seen := t.changes.length } else q }

/-- What a process has done by a moment, and the host that has seen it. -/
def look (id : ProcessId) (moment : Nat) (h : Host) : Option Shell.Transcript × Host :=
  match h.processes.find? (·.id == id) with
  | some p =>
    let t := p.transcript moment
    (some t, h.absorb p t)
  | none => (none, h)

/-- A process gets a signal. -/
def signal (id : ProcessId) (signal : Nat) (h : Host) : Host :=
  { h with processes := h.processes.map fun p =>
      if p.id = id then { p with signals := p.signals ++ [(h.now, signal)] } else p }

/-- Runs a command to its end, within its bound, which counts from its start, and within what is
left of a deadline, which counts from now. -/
def run (command : Command) (input : Option Bytes) (limit : Duration) (deadline : Option Duration)
    (h : Host) : RunEnd × Host :=
  match h.process? command (input.getD []) with
  | none => (.notStarted, h.later (h.now + launchCost))
  | some p =>
    -- Whichever of the two bounds comes first decides how the command is late.
    let bound := p.started + limit.nanos
    let (bound, late) := match deadline with
      | some d =>
        if h.now + d.nanos < bound then (h.now + d.nanos, RunEnd.abandoned) else (bound, .overran)
      | none => (bound, .overran)
    let t := p.transcript bound
    let h := h.absorb p t
    match t.ending with
    | some (ending, _) =>
      -- An exit is not enough: the streams have to be closed as well.
      if p.started + t.streamsEnd ≤ bound then
        (.finished (Process.codeOf ending) (Octets.toBytes t.out) (Octets.toBytes t.err),
          h.later (p.started + t.streamsEnd))
      else (late, h.later bound)
    | none => (late, h.later bound)

/-- Launches a server. -/
def launch (command : Command) (h : Host) : Option ProcessId × Host :=
  match h.process? command [] with
  | none => (none, h.later (h.now + launchCost))
  | some p => (some p.id, { h with processes := h.processes ++ [p] }.later p.started)

/-- Waits for a process to exit. -/
def awaitExit (id : ProcessId) (limit : Duration) (h : Host) : WaitEnd × Host :=
  let started := ((h.processes.find? (·.id == id)).map (·.started)).getD h.now
  match h.look id (h.now + limit.nanos) with
  | (some t, h) =>
    match t.ending with
    | some (_, moment) => (.exited, h.later (started + moment))
    | none => (.elapsed, h.later (h.now + limit.nanos))
  | (none, h) => (.failed, h)

/-- What comes of an action, and the host after it. -/
def perform : (e : Action) → Host → e.Reply × Host
  | .clock, h => (⟨h.now⟩, h)
  | .run command input limit deadline, h => h.run command input limit deadline
  | .launch command _, h => h.launch command
  | .poll id, h =>
    let (t, h) := h.look id h.now
    (t.bind fun t => t.ending.map fun (ending, _) => Process.codeOf ending, h)
  | .settle id limit, h =>
    let started := ((h.processes.find? (·.id == id)).map (·.started)).getD h.now
    let (t, h) := h.look id h.now
    let closed := (t.map fun t => started + t.streamsEnd).getD h.now
    ((), h.later (min closed (h.now + limit.nanos)))
  | .captured id, h =>
    let (t, h) := h.look id h.now
    ((Capture.drain [] (Capture.reads ((t.map fun t => Octets.toBytes t.err).getD []))).1, h)
  | .get _ limit, h => (if limit.nanos < requestCost then .overran else .failed,
      h.later (h.now + min requestCost limit.nanos))
  | .post _ _ limit deadline, h =>
    let left := (deadline.map (·.nanos)).getD limit.nanos
    -- The deadline decides a tie with the bound of the request.
    if left < requestCost ∧ left ≤ limit.nanos then
      (if deadline.isSome then .abandoned else .overran, h.later (h.now + left))
    else if limit.nanos < requestCost then (.overran, h.later (h.now + limit.nanos))
    else (.failed, h.later (h.now + requestCost))
  | .pause span, h => ((), h.later (h.now + span.nanos))
  | .terminate id, h => ((), h.signal id 15)
  | .awaitExit id limit, h => h.awaitExit id limit
  | .kill id, h =>
    -- What the process had done to the files by now stays done.
    let (_, h) := (h.signal id 9).look id h.now
    (true, h)
  | .takePermit, h =>
    match h.pool.acquire? with
    | some pool => (true, { h with pool }.later h.releasedAt)
    | none => (false, h)
  | .popPort, h =>
    match h.pool.pop? with
    | some (port, pool) => (some port, { h with pool })
    | none => (none, h)
  | .pushPort port, h => ((), { h with pool := h.pool.push port })
  | .releasePermit, h => ((), { h with pool := h.pool.release, releasedAt := h.now })

/-- What comes of an action. -/
def answer (e : Action) : StateM Host e.Reply := fun h => h.perform e

end Host

end PolicyTrial
