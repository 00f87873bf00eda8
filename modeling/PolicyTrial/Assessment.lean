import PolicyTrial.Decision
import PolicyTrial.Expectation

/-!
# Judging a response

* `Assessment`: whether a response is what was expected, and what was observed.
* `evaluate`: the assessment of a response.
-/

namespace PolicyTrial

/-- What was observed of the engine. -/
inductive Observed
  /-- A decision. -/
  | decision (decision : Decision)
  /-- The diagnostics of an unsuccessful run, or the text of a failure. -/
  | failure (text : String)
  /-- The output of a successful run that is no decision. -/
  | output (text : String)
  deriving Repr

/-- What was observed, as a JSON value. -/
def Observed.toJson : Observed → Json
  | .decision d => .object [("type", .string "decision"), ("value", d.toJson)]
  | .failure s => .object [("type", .string "failure"), ("value", .string s)]
  | .output s => .object [("type", .string "output"), ("value", .string s)]

/-- Whether a response is what was expected; if not, under which kind it fails and why. -/
structure Assessment where
  passed : Bool
  failure : Option FailureKind
  observed : Observed
  explanation : Option String
  categories : List ErrorCategory
  deriving Repr

namespace Assessment

/-- A response that is what was expected. -/
def pass (observed : Observed) (categories : List ErrorCategory) : Assessment :=
  ⟨true, none, observed, none, categories⟩

/-- A response that is not what was expected. -/
def fail (kind : FailureKind) (observed : Observed) (explanation : String)
    (categories : List ErrorCategory) : Assessment :=
  ⟨false, some kind, observed, some explanation, categories⟩

end Assessment

/-- An unsuccessful run, judged by its diagnostics; `how` says how it failed. -/
def assessFailure (e : Expectation) (diagnostics how : String) : Assessment :=
  let categories := ErrorCategory.classify diagnostics
  match e with
  | .errorContains fragments | .denyOrErrorContains fragments =>
    match (matchFragments diagnostics fragments).explain with
    | none => .pass (.failure diagnostics) categories
    | some explanation => .fail .expectationMismatch (.failure diagnostics) explanation categories
  | _ => .fail .processFailure (.failure diagnostics)
      ("engine failed with " ++ how ++ " where " ++ e.text ++ " was expected") categories

/-- Why a decision is not the expected one; nothing if it is. -/
def mismatch (e : Expectation) (d : Decision) : Option String :=
  match e with
  | .exactDecision o =>
    if d.outcome ≠ o then some ("expected decision " ++ o.text ++ ", got " ++ d.outcome.text)
    else none
  | .decisionAndNoDenyReferences o =>
    if d.outcome ≠ o then some ("expected decision " ++ o.text ++ ", got " ++ d.outcome.text)
    else if d.denials.isEmpty then none
    else some ("decision is " ++ o.text ++ " but " ++ toString d.denials.length ++
      " reference decision(s) normalized to DENY: " ++
      ", ".intercalate (d.denials.map (·.raw.compact)))
  | .notDecision o =>
    if d.outcome = o then some ("expected any decision but " ++ o.text ++ ", got " ++ o.text)
    else none
  | .denyOrErrorContains _ =>
    if d.outcome ≠ .deny then
      some ("expected DENY or a failing run, got decision " ++ d.outcome.text)
    else none
  | .errorContains _ =>
    some ("expected " ++ e.text ++ ", but the engine returned decision " ++ d.outcome.text)

/-- A decision, judged. -/
def assessDecision (e : Expectation) (d : Decision) : Assessment :=
  match mismatch e d with
  | none => .pass (.decision d) []
  | some explanation => .fail .expectationMismatch (.decision d) explanation []

/-- A successful output, judged. -/
def assessOutput (e : Expectation) (output : String) : Assessment :=
  match Decision.ofText output with
  | .ok d => assessDecision e d
  | .error f =>
    if e.acceptsDecision then .fail f.kind (.output output) f.message []
    else .fail .expectationMismatch (.output output)
      ("expected " ++ e.text ++ ", but the engine succeeded") []

/-- An answer, judged: a decision if it is successful, its diagnostics if not. -/
def assessAnswer (e : Expectation) (a : Answer) : Assessment :=
  if a.success then assessOutput e a.stdoutText
  else assessFailure e a.diagnostics a.status.text

/-- A response, judged. A failure of the process is judged by the answer it carries, and a server
that exited while it started by its diagnostics, where the expectation accepts a failed run. -/
def evaluate (e : Expectation) : Response → Assessment
  | .ok a | .error (.process a) => assessAnswer e a
  | .error (.serverNotStarted baseUrl reason timedOut) =>
    if !timedOut && e.acceptsProcessFailure then assessFailure e reason "a startup failure"
    else
      let f := Failure.serverNotStarted baseUrl reason timedOut
      .fail f.kind (.failure f.message) f.message []
  | .error f => .fail f.kind (.failure f.message) f.message []

end PolicyTrial
