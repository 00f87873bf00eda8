import PolicyTrial.Failure
import PolicyTrial.Json.Parser
import PolicyTrial.Json.Printer
import PolicyTrial.Outcome

/-!
# Decision documents

A successful engine writes a JSON object with a `decision`, and may list the decisions of the
policies it refers to under `references`. Reading it fails closed: whatever has another shape is no
decision.

* `Decision`: the outcome and the outcomes of the references, in order.
* `Decision.ofText`: the decision in a document, or the first thing that is wrong with it.
-/

namespace PolicyTrial

/-- The decision of one reference, with its entry as the engine wrote it. -/
structure ReferenceDecision where
  outcome : Outcome
  raw : Json
  deriving Repr

/-- A decision with the decisions of its references, in order. -/
structure Decision where
  outcome : Outcome
  references : List ReferenceDecision
  deriving Repr

namespace Decision

/-- The references that deny, in order. -/
def denials (d : Decision) : List ReferenceDecision := d.references.filter (·.outcome == .deny)

/-- The outcomes of the references, in order. -/
def referenceOutcomes (d : Decision) : List Outcome := d.references.map (·.outcome)

/-- The decision as a JSON value. -/
def toJson (d : Decision) : Json :=
  .object [("outcome", d.outcome.toJson),
    ("references", .array (d.references.map fun r =>
      .object [("outcome", r.outcome.toJson), ("raw", r.raw)]))]

/-- What the value of a `decision` field says; nothing if it cannot be a token. -/
def tokenOf : Json → Option Recognition
  | .string s => some (.ofToken (some s))
  | .number n => some (.ofToken (some (String.ofList n.text)))
  | .null => some .empty
  | _ => none

/-- How a token is shown that says nothing. -/
def shownToken : Recognition → String
  | .empty => "<empty>"
  | r => r.text

/-- The outcome of a `decision` field. -/
def outcomeAt (output : String) (location : String) (token : Json) : Except Failure Outcome :=
  match tokenOf token with
  | none => .error (.malformedOutput
      (location ++ " must be a string token, got " ++ token.kind) output)
  | some r =>
    match r.outcome? with
    | some o => .ok o
    | none => .error (.unrecognizedToken (shownToken r) location)

/-- The reference at a position of the list. -/
def referenceAt (output : String) (index : Nat) (entry : Json) :
    Except Failure ReferenceDecision :=
  let location := "references[" ++ toString index ++ "].decision"
  match entry.field? "decision" with
  | none => .error (.malformedOutput
      (location ++ " is missing or the entry is not an object") output)
  | some token => (outcomeAt output location token).map (⟨·, entry⟩)

/-- The references from a position of the list on. -/
def referencesFrom (output : String) : Nat → List Json → Except Failure (List ReferenceDecision)
  | _, [] => .ok []
  | index, entry :: rest => do
    let r ← referenceAt output index entry
    let rs ← referencesFrom output (index + 1) rest
    return r :: rs

/-- The references of a document; there are none if the field is absent. -/
def referencesOf (output : String) (document : Json) : Except Failure (List ReferenceDecision) :=
  match document.field? "references" with
  | none => .ok []
  | some (.array entries) => referencesFrom output 0 entries
  | some other => .error (.malformedOutput
      ("`references` must be an array, got " ++ other.kind) output)

/-- The decision of a document that was read from an output. -/
def ofDocument (output : String) (document : Json) : Except Failure Decision := do
  let .object _ := document
    | .error (.malformedOutput ("expected a JSON object, got " ++ document.kind) output)
  let some token := document.field? "decision"
    | .error (.malformedOutput "missing `decision` field" output)
  let outcome ← outcomeAt output "decision" token
  let references ← referencesOf output document
  return ⟨outcome, references⟩

/-- The decision in the text of an output, or the first thing that is wrong with it. -/
def ofText (output : String) : Except Failure Decision :=
  let text := Text.trim output.toList
  if text.isEmpty then .error (.malformedOutput "output is empty" output)
  else
    match Json.parse text with
    | .error e => .error (.malformedOutput ("output is not JSON (" ++ e.message ++ ")") output)
    | .ok document => ofDocument output document

/-- The decision in an output. -/
def ofOutput (output : Bytes) : Except Failure Decision := ofText output.lossyText

end Decision

end PolicyTrial
