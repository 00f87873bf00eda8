import PolicyTrial.Assessment
import PolicyTrial.Scenario

/-!
# Verdicts

* `Verdict`: the outcome of one scenario, with everything that a reader needs to see why.
* `Verdict.ofResponse`: the verdict on a response.
-/

namespace PolicyTrial

/-- The outcome of one scenario. -/
structure Verdict where
  scenarioId : String
  passed : Bool
  channel : Channel
  expectation : Expectation
  failure : Option FailureKind
  observed : Observed
  explanation : Option String
  categories : List ErrorCategory
  status : Option Status
  stdout : String
  stderr : String
  elapsed : Duration
  deriving Repr

namespace Verdict

/-- The verdict on a response to a scenario over a channel. -/
def ofResponse (s : Scenario) (channel : Channel) (response : Response) (elapsed : Duration) :
    Verdict :=
  let assessment := evaluate s.expectation response
  let answer := response.answer?
  { scenarioId := s.id
    passed := assessment.passed
    channel
    expectation := s.expectation
    failure := assessment.failure
    observed := assessment.observed
    explanation := assessment.explanation
    categories := assessment.categories
    status := answer.map (·.status)
    stdout := (answer.map (·.stdoutText)).getD ""
    stderr := (answer.map (·.stderrText)).getD ""
    elapsed }

/-- The verdict as a JSON value. -/
def toJson (v : Verdict) : Json :=
  .object [("scenario_id", .string v.scenarioId), ("passed", .bool v.passed),
    ("channel", v.channel.toJson), ("expectation", v.expectation.toJson),
    ("failure", .ofOption FailureKind.toJson v.failure), ("observed", v.observed.toJson),
    ("explanation", .ofOption .string v.explanation),
    ("categories", .array (v.categories.map ErrorCategory.toJson)),
    ("status", .ofOption Status.toJson v.status), ("stdout", .string v.stdout),
    ("stderr", .string v.stderr), ("elapsed", .ofNat v.elapsed.recordedMillis)]

end Verdict

end PolicyTrial
