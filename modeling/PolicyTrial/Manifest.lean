import PolicyTrial.Files.Tree
import PolicyTrial.Json.Parser
import PolicyTrial.Registry

/-!
# Manifests

A manifest lists suites. Each suite names one bundle and either payloads that share an expectation,
or cases.

* `Manifest`: suites with their payloads and cases, as they are written.
* `Manifest.expand`: the scenarios of a manifest, suite by suite, or the first thing that is wrong.
* `Registry.ofManifest`: the registry of these scenarios.
-/

namespace PolicyTrial

/-- An expectation as a manifest spells it. A category stands for its fragments. -/
inductive ExpectationEntry
  | exactDecision (outcome : Outcome)
  | errorContains (fragments : List String)
  | errorCategory (category : ErrorCategory)
  | decisionAndNoDenyReferences (outcome : Outcome)
  | notDecision (outcome : Outcome)
  | denyOrErrorContains (fragments : List String)
  | denyOrErrorCategory (category : ErrorCategory)
  deriving Repr, DecidableEq

/-- The expectation that an entry spells. -/
def ExpectationEntry.expectation : ExpectationEntry → Expectation
  | .exactDecision o => .exactDecision o
  | .errorContains fs => .errorContains fs
  | .errorCategory c => .errorContains c.fragments
  | .decisionAndNoDenyReferences o => .decisionAndNoDenyReferences o
  | .notDecision o => .notDecision o
  | .denyOrErrorContains fs => .denyOrErrorContains fs
  | .denyOrErrorCategory c => .denyOrErrorContains c.fragments

/-- A case of a suite. -/
structure CaseEntry where
  name : Option String
  payload : Option String
  payloadInline : Option Json
  expect : Option ExpectationEntry
  channel : Option Channel
  deriving Repr

/-- A suite: a bundle, payloads that share the suite's expectation, and cases. -/
structure SuiteEntry where
  name : String
  bundle : String
  channel : Option Channel
  expect : Option ExpectationEntry
  payloads : List String
  cases : List CaseEntry
  deriving Repr

/-- A manifest: where bundles and payloads are, and the suites. -/
structure Manifest where
  bundleDir : Option String
  payloadDir : Option String
  suites : List SuiteEntry
  deriving Repr

namespace Manifest

/-- What reads a file of a name as text. -/
abbrev TextReader := String → Except FileError String

/-- The payload in a file. -/
def readPayload (read : TextReader) (path : String) : Except String Json :=
  match read path with
  | .error e => .error ("cannot read payload " ++ path ++ ": " ++ e.message)
  | .ok text =>
    match Json.parse text.toList with
    | .error e => .error ("payload " ++ path ++ " is not JSON: " ++ e.message)
    | .ok payload => .ok payload

/-- The id of a case of a suite. -/
def scenarioId (suite case : String) : String := suite ++ "::" ++ case

/-- The scenario of one payload of a suite. -/
def payloadScenario (read : TextReader) (payloadDir bundle : String) (s : SuiteEntry)
    (payload : String) : Except String Scenario := do
  let some expect := s.expect
    | .error ("suite '" ++ s.name ++ "' lists payloads but has no suite-level expect")
  let json ← readPayload read (Path.join payloadDir payload)
  return ⟨scenarioId s.name (Path.stem payload), bundle, json, expect.expectation, s.channel⟩

/-- The name and the payload of a case. -/
def casePayload (read : TextReader) (payloadDir : String) (s : SuiteEntry) (index : Nat)
    (c : CaseEntry) : Except String (String × Json) :=
  match c.payload, c.payloadInline with
  | some file, none => do
    let json ← readPayload read (Path.join payloadDir file)
    return (c.name.getD (Path.stem file), json)
  | none, some json => .ok (c.name.getD ("inline-" ++ toString index), json)
  | _, _ => .error ("case " ++ toString index ++ " of suite '" ++ s.name ++
      "' needs exactly one of payload or payload_inline")

/-- The scenario of one case of a suite. -/
def caseScenario (read : TextReader) (payloadDir bundle : String) (s : SuiteEntry) (index : Nat)
    (c : CaseEntry) : Except String Scenario := do
  let some expect := c.expect.or s.expect
    | .error ("case " ++ toString index ++ " of suite '" ++ s.name ++ "' has no expect")
  let (name, json) ← casePayload read payloadDir s index c
  return ⟨scenarioId s.name name, bundle, json, expect.expectation, c.channel.or s.channel⟩

/-- The scenarios of the cases from an index on. -/
def caseScenarios (read : TextReader) (payloadDir bundle : String) (s : SuiteEntry) :
    Nat → List CaseEntry → Except String (List Scenario)
  | _, [] => .ok []
  | index, c :: rest => do
    let first ← caseScenario read payloadDir bundle s index c
    return first :: (← caseScenarios read payloadDir bundle s (index + 1) rest)

/-- The scenarios of a suite: one for each payload, then one for each case. -/
def suiteScenarios (read : TextReader) (bundleDir payloadDir : String) (s : SuiteEntry) :
    Except String (List Scenario) := do
  if s.payloads.isEmpty && s.cases.isEmpty then
    .error ("suite '" ++ s.name ++ "' has neither cases nor payloads")
  else
    let bundle := Path.join bundleDir s.bundle
    let ofPayloads ← s.payloads.mapM (payloadScenario read payloadDir bundle s)
    let ofCases ← caseScenarios read payloadDir bundle s 0 s.cases
    return ofPayloads ++ ofCases

/-- A directory below a base; the base itself if none is given. -/
def dirBelow (base : String) (dir : Option String) : String :=
  match dir with
  | none => base
  | some d => Path.join base d

/-- The scenarios of a manifest whose relative paths start at `base`, suite by suite, or the first
thing that is wrong. -/
def expand (read : TextReader) (base : String) (m : Manifest) : Except String (List Scenario) := do
  let perSuite ← m.suites.mapM
    (suiteScenarios read (dirBelow base m.bundleDir) (dirBelow base m.payloadDir))
  return perSuite.flatten

end Manifest

/-- The registry of a manifest. What is wrong with it is told as a fault of the file at `path`. -/
def Registry.ofManifest (read : Manifest.TextReader) (base path : String) (m : Manifest) :
    Except Failure Registry :=
  match m.expand read base with
  | .error reason => .error (.config path reason)
  | .ok scenarios =>
    match Registry.ofScenarios scenarios with
    | .error (.config _ reason) => .error (.config path reason)
    | .error f => .error f
    | .ok r => .ok r

end PolicyTrial
