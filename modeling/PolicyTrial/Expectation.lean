import PolicyTrial.Diagnostics
import PolicyTrial.Failure
import PolicyTrial.Outcome

/-!
# Channels and expectations

* `Channel`: how an engine is asked.
* `Expectation`: what a scenario requires of the engine.
-/

namespace PolicyTrial

/-- How an engine is asked: one process for each question, or requests to its server. -/
inductive Channel
  | cli
  | server
  deriving Repr, DecidableEq

namespace Channel

/-- The name of a channel. -/
def name : Channel → String
  | .cli => "cli"
  | .server => "server"

/-- All channels. -/
def all : List Channel := [.cli, .server]

/-- The channel as a JSON value. -/
def toJson (c : Channel) : Json := .string c.name

end Channel

/-- What a scenario requires of the engine. -/
inductive Expectation
  /-- A successful run with this decision. -/
  | exactDecision (outcome : Outcome)
  /-- An unsuccessful run whose diagnostics hold every fragment. -/
  | errorContains (fragments : List String)
  /-- A successful run with this decision and no reference that denies. -/
  | decisionAndNoDenyReferences (outcome : Outcome)
  /-- A successful run with any decision but this. -/
  | notDecision (outcome : Outcome)
  /-- A successful denial, or an unsuccessful run whose diagnostics hold every fragment. -/
  | denyOrErrorContains (fragments : List String)
  deriving Repr, DecidableEq

namespace Expectation

/-- Whether an unsuccessful run can be what is expected. -/
def acceptsProcessFailure : Expectation → Bool
  | .errorContains _ | .denyOrErrorContains _ => true
  | _ => false

/-- Whether a decision can be what is expected. -/
def acceptsDecision : Expectation → Bool
  | .errorContains _ => false
  | _ => true

/-- The channel for this expectation where nothing else picks one. -/
def preferredChannel : Expectation → Option Channel
  | .errorContains _ => some .cli
  | _ => none

/-- A failure is an answer like any other only where an unsuccessful run is one of two ways to
pass. -/
def strictness : Expectation → Strictness
  | .denyOrErrorContains _ => .lenient
  | _ => .strict

/-- The expectation in words. -/
def text : Expectation → String
  | .exactDecision o => "decision " ++ o.text
  | .errorContains fs => "error containing " ++ FragmentReport.listed fs
  | .decisionAndNoDenyReferences o => "decision " ++ o.text ++ " with no DENY references"
  | .notDecision o => "any decision but " ++ o.text
  | .denyOrErrorContains fs => "DENY or error containing " ++ FragmentReport.listed fs

/-- The expectation as a JSON value. -/
def toJson : Expectation → Json
  | .exactDecision o => .object [("exact_decision", o.toJson)]
  | .errorContains fs => .object [("error_contains", .ofStrings fs)]
  | .decisionAndNoDenyReferences o => .object [("decision_and_no_deny_references", o.toJson)]
  | .notDecision o => .object [("not_decision", o.toJson)]
  | .denyOrErrorContains fs => .object [("deny_or_error_contains", .ofStrings fs)]

end Expectation

end PolicyTrial
