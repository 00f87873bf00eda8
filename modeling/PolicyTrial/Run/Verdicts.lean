import PolicyTrial.Files.Tree
import PolicyTrial.Run.Plan

/-!
# The verdicts of a run

First all isolated scenarios are tried, as many at a time as there are jobs; then one group after
another gets its shared server. In whatever order the trials end, the verdicts come out in the order
of the scenarios.

* `Executor`: what carries out procedures, one alone or several at a time, and work on files.
* `Bench.verdicts`: the verdicts on some scenarios.
-/

namespace PolicyTrial

/-- What carries out procedures, one alone or several at a time, and work on files. Several
procedures come back with their numbers, in the order in which they ended. -/
structure Executor (m : Type → Type) where
  alone : {α : Type} → Procedure α → m α
  several : {α : Type} → Nat → List (Nat × Procedure α) → m (List (Nat × α))
  onFiles : {α : Type} → StateM FileTree α → m α

/-- Verdicts with their places, in the order of the places. -/
def inOrder (verdicts : List (Nat × Verdict)) : List Verdict :=
  (verdicts.mergeSort fun a b => a.1 ≤ b.1).map (·.2)

namespace Bench

variable {m : Type → Type} [Monad m]

/-- The verdicts on scenarios in isolation, as many at a time as there are jobs. -/
def trials (x : Executor m) (b : Bench) (tasks : List Isolated) : m (List (Nat × Verdict)) :=
  x.several b.settings.jobs (tasks.map fun t => (t.index, b.trial t.scenario t.channel))

/-- The verdicts on a group: those of its shared server, or those of isolation if it cannot be
shared. -/
def groupVerdicts (x : Executor m) (b : Bench) (g : Group) : m (List (Nat × Verdict)) := do
  match ← x.alone (b.session g.bundle g.scenarios) with
  | some verdicts => return verdicts
  | none => b.trials x (g.scenarios.map fun (i, s) => ⟨i, s, .server⟩)

/-- The verdicts on some groups, one group after another. -/
def allGroupVerdicts (x : Executor m) (b : Bench) : List Group → m (List (Nat × Verdict))
  | [] => return []
  | g :: rest => do
    let first ← b.groupVerdicts x g
    return first ++ (← allGroupVerdicts x b rest)

/-- The verdicts on some scenarios, in their order. -/
def verdicts (x : Executor m) (b : Bench) (scenarios : List Scenario) : m (List Verdict) := do
  let plan := b.plan scenarios
  let isolated ← b.trials x plan.isolated
  let shared ← b.allGroupVerdicts x plan.shared
  return inOrder (isolated ++ shared)

end Bench

end PolicyTrial
