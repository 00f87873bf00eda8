import PolicyTrial.Files.Path
import PolicyTrial.Run.Session

/-!
# Which scenarios are tried how

Scenarios that ask for a server may share one with the others of their bundle. All the rest are
tried in isolation.

* `Plan`: the isolated scenarios, and the groups that share a server.
* `Bench.plan`: the plan for some scenarios.
-/

namespace PolicyTrial

/-- The scenarios of one bundle that share a server. -/
structure Group where
  bundle : String
  scenarios : List Placed
  deriving Repr

/-- A scenario that is tried in isolation, with its place in the run and its channel. -/
structure Isolated where
  index : Nat
  scenario : Scenario
  channel : Channel
  deriving Repr

/-- Which scenarios are tried how. Groups are in the order of their bundles' paths. -/
structure Plan where
  isolated : List Isolated
  shared : List Group
  deriving Repr

namespace Plan

/-- A scenario joins the group of its bundle. -/
def join (p : Placed) : List Group → List Group
  | [] => [⟨p.2.bundle, [p]⟩]
  | g :: rest =>
    match Path.compare p.2.bundle g.bundle with
    | .lt => ⟨p.2.bundle, [p]⟩ :: g :: rest
    | .eq => { g with scenarios := g.scenarios ++ [p] } :: rest
    | .gt => g :: join p rest

/-- A plan with one scenario more; `sharing` says whether servers are shared. -/
def add (sharing : Bool) (default : Channel) (plan : Plan) (p : Placed) : Plan :=
  let channel := p.2.resolveChannel default
  if sharing && channel == .server then { plan with shared := join p plan.shared }
  else { plan with isolated := plan.isolated ++ [⟨p.1, p.2, channel⟩] }

end Plan

/-- Some scenarios with their places. -/
def Scenario.placed (scenarios : List Scenario) : List Placed :=
  scenarios.zipIdx.map fun (s, i) => (i, s)

/-- The plan for some scenarios. -/
def Bench.plan (b : Bench) (scenarios : List Scenario) : Plan :=
  (Scenario.placed scenarios).foldl
    (Plan.add (b.settings.serverScope == .session) b.settings.channel) ⟨[], []⟩

end PolicyTrial
