import PolicyTrial.Json.Basic
import PolicyTrial.Text.LetterCase

/-!
# Diagnostics and error categories

An engine's diagnostics are free text, so a kind of error is known by the fragments that the text
holds. Fragments are looked up in lower case, and all of them have to be there.

* `matchFragments`: which fragments a text holds.
* `ErrorCategory.classify`: the categories whose fragments are all there.
* `combined`: the diagnostics of a run, what it wrote to the error stream first.
-/

namespace PolicyTrial

namespace Text

/-- Whether a text occurs in another one. -/
def occursIn (needle : List Char) : List Char → Bool
  | [] => needle.isEmpty
  | c :: rest => needle.isPrefixOf (c :: rest) || occursIn needle rest

end Text

/-- Whether a fragment occurs in a text that is in lower case already. -/
def holdsFragment (lowered : List Char) (fragment : String) : Bool :=
  Text.occursIn (Text.lowercase fragment.toList) lowered

/-- One expected fragment and whether it is there. -/
structure FragmentCheck where
  fragment : String
  present : Bool
  deriving Repr, DecidableEq

/-- The checks of all expected fragments, in order. -/
structure FragmentReport where
  checks : List FragmentCheck
  deriving Repr, DecidableEq

namespace FragmentReport

/-- Whether every fragment is there. -/
def passed (r : FragmentReport) : Bool := r.checks.all (·.present)

/-- The fragments that are not there, in order. -/
def missing (r : FragmentReport) : List String :=
  (r.checks.filter (!·.present)).map (·.fragment)

/-- Fragments between single quotes, with commas. -/
def listed (fragments : List String) : String :=
  ", ".intercalate (fragments.map fun f => "'" ++ f ++ "'")

/-- What is wrong with the text, if a fragment is missing. -/
def explain (r : FragmentReport) : Option String :=
  if r.missing.isEmpty then none
  else some ("expected error fragment(s) not found in engine output: " ++ listed r.missing)

end FragmentReport

/-- Every fragment checked against a text, without regard to letter case. -/
def matchFragments (text : String) (fragments : List String) : FragmentReport :=
  let lowered := Text.lowercase text.toList
  ⟨fragments.map fun f => ⟨f, holdsFragment lowered f⟩⟩

/-- The kinds of error that an engine reports. -/
inductive ErrorCategory
  /-- The bundle is not well-formed. -/
  | malformedSyntax
  /-- A rule does not compile. -/
  | ruleCompilation
  /-- A reference to a library or policy leads nowhere. -/
  | unresolvedReference
  /-- Libraries depend on each other in a circle. -/
  | referenceCycle
  /-- The bundle does not exist. -/
  | missingBundle
  deriving Repr, DecidableEq

namespace ErrorCategory

/-- All categories, in the order in which they are reported. -/
def all : List ErrorCategory :=
  [.malformedSyntax, .ruleCompilation, .unresolvedReference, .referenceCycle, .missingBundle]

/-- The name of a category. -/
def name : ErrorCategory → String
  | .malformedSyntax => "malformed_syntax"
  | .ruleCompilation => "rule_compilation"
  | .unresolvedReference => "unresolved_reference"
  | .referenceCycle => "reference_cycle"
  | .missingBundle => "missing_bundle"

/-- The fragments that every diagnostic of a category holds. -/
def fragments : ErrorCategory → List String
  | .malformedSyntax => ["yaml", "expected ':'"]
  | .ruleCompilation => ["rego compilation failed"]
  | .unresolvedReference => ["reference", "not found"]
  | .referenceCycle => ["cycle"]
  | .missingBundle => ["no such file or directory"]

/-- The categories whose fragments a text holds, in order. -/
def classify (text : String) : List ErrorCategory :=
  let lowered := Text.lowercase text.toList
  all.filter fun c => c.fragments.all (holdsFragment lowered)

/-- The category as a JSON value. -/
def toJson (c : ErrorCategory) : Json := .string c.name

end ErrorCategory

/-- The diagnostics of a run: the error stream, a new line, and the output. -/
def combined (stderr stdout : String) : String := stderr ++ "\n" ++ stdout

end PolicyTrial
