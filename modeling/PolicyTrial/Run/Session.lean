import PolicyTrial.Run.Trial

/-!
# The scenarios of one bundle on one server

A server may be shared once it has been seen to answer the same question twice in the same way. The
requests to it go one at a time.

* `Client.isStateless`: whether a server answers the same question twice in the same way.
* `Bench.session`: the verdicts of a shared server; nothing if the scenarios have to be tried in
  isolation.
-/

namespace PolicyTrial

/-- What counts of an answer when answers are compared: the outcome, and the outcomes of the
references. -/
abbrev Essence := Outcome × List Outcome

/-- What counts of a response; nothing if it holds no decision. -/
def Response.essence (r : Response) : Option Essence :=
  match r.bind Strictness.strict.apply with
  | .error _ => none
  | .ok a =>
    match Decision.ofOutput a.stdout with
    | .error _ => none
    | .ok d => some (d.outcome, d.referenceOutcomes)

/-- Whether a server answers the same question twice in the same way. The second request is sent
only if the first one was answered with a decision. -/
def Client.isStateless (c : Client) (payload : Json) : Procedure Bool := do
  match (← c.decide payload none).essence with
  | none => return false
  | some first =>
    let second := (← c.decide payload none).essence
    return second == some first

/-- A scenario with its place in the run. -/
abbrev Placed := Nat × Scenario

namespace Bench

/-- One scenario on a shared server. -/
def turn (b : Bench) (client : Client) (s : Scenario) : Procedure Verdict := do
  let start ← Procedure.perform .clock
  let response ← b.request s client start
  let finish ← Procedure.perform .clock
  return Verdict.ofResponse s .server response (finish - start)

/-- Some scenarios on a shared server, one after another. -/
def turns (b : Bench) (client : Client) : List Placed → Procedure (List (Nat × Verdict))
  | [] => return []
  | (index, s) :: rest => do
    let v ← b.turn client s
    return (index, v) :: (← turns b client rest)

/-- The verdicts of a server that is shared by all scenarios of a bundle. There is nothing if the
server does not start or is not seen to be stateless: then it is shut down, and the scenarios have
to be tried in isolation. -/
def session (b : Bench) (bundle : String) : List Placed → Procedure (Option (List (Nat × Verdict)))
  | [] => return some []
  | (index, first) :: rest => do
    match ← Server.start b.server bundle b.settings.port with
    | .error _ => return none
    | .ok server =>
      if ← server.client.isStateless first.payload then
        let verdicts ← b.turns server.client ((index, first) :: rest)
        let _ ← server.shutdown
        return some verdicts
      else
        let _ ← server.shutdown
        return none

end Bench

end PolicyTrial
