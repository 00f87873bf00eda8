import PolicyTrial.Expectation

/-!
# Scenarios

A scenario is one question to the engine, with what is expected of the answer.

* `Scenario`: bundle, payload, expectation, and the channel if one is asked for.
* `Scenario.resolveChannel`: the channel that is used.
-/

namespace PolicyTrial

/-- One question to the engine. -/
structure Scenario where
  /-- The name of the suite, two colons, and the name of the case. -/
  id : String
  bundle : String
  payload : Json
  expectation : Expectation
  /-- The channel that the manifest asks for. -/
  channel : Option Channel
  deriving Repr

namespace Scenario

/-- The channel of the manifest, else the one the expectation prefers, else the default. -/
def resolveChannel (s : Scenario) (default : Channel) : Channel :=
  (s.channel.or s.expectation.preferredChannel).getD default

/-- The scenario as a JSON value. -/
def toJson (s : Scenario) : Json :=
  .object [("id", .string s.id), ("bundle", .string s.bundle), ("payload", s.payload),
    ("expectation", s.expectation.toJson), ("channel", .ofOption Channel.toJson s.channel)]

end Scenario

end PolicyTrial
