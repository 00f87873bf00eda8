import PolicyTrial.Manifest
import PolicyTrial.Text.Quoted
import PolicyTrial.Yaml.Decoder

/-!
# Reading manifests

* `Manifest.decoder`: the decoder for a manifest. Unknown, repeated and missing fields are refused.
* `Registry.ofManifestText`: the registry of a manifest's text.
* `Registry.load`: the registry of a manifest's file.
-/

namespace PolicyTrial

open Yaml (Decoder DecodeError)

/-- What is said of a text that spells no outcome. -/
def Outcome.refusal (token : String) : String :=
  "unrecognized decision " ++ Text.quoted token ++ ", expected GRANT/ALLOW/PERMIT or DENY/REJECT"

/-- The outcome that a text spells, in any recognized way. -/
def Outcome.ofToken (token : String) : Except String Outcome :=
  match (Recognition.ofToken (some token)).outcome? with
  | some o => .ok o
  | none => .error (Outcome.refusal token)

namespace Manifest

/-- An outcome in any recognized spelling. -/
def outcome : Decoder Outcome := Decoder.text.refine fun s =>
  match Outcome.ofToken s with
  | .ok o => .ok o
  | .error reason => .error (.refused reason)

/-- A list of texts. -/
def texts : Decoder (List String) := Decoder.list Decoder.text

/-- The name of a category. -/
def category : Decoder ErrorCategory :=
  Decoder.plainName (ErrorCategory.all.map fun c => (c.name, c))

/-- The name of a channel. -/
def channel : Decoder Channel := Decoder.plainName (Channel.all.map fun c => (c.name, c))

/-- The expectation behind a name. -/
def expectationCase : String → Option (Decoder ExpectationEntry)
  | "exact_decision" => some (outcome.map .exactDecision)
  | "error_contains" => some (texts.map .errorContains)
  | "error_category" => some (category.map .errorCategory)
  | "decision_and_no_deny_references" => some (outcome.map .decisionAndNoDenyReferences)
  | "not_decision" => some (outcome.map .notDecision)
  | "deny_or_error_contains" => some (texts.map .denyOrErrorContains)
  | "deny_or_error_category" => some (category.map .denyOrErrorCategory)
  | _ => none

/-- An expectation, written as a mapping with one key. -/
def expectation : Decoder ExpectationEntry := Decoder.oneOf expectationCase

/-- The fields of a case that have been read. -/
structure CaseDraft where
  name : Option (Option String) := none
  payload : Option (Option String) := none
  payloadInline : Option (Option Json) := none
  expect : Option (Option ExpectationEntry) := none
  channel : Option (Option Channel) := none

/-- A field of a case. -/
def caseField (key : String) (d : CaseDraft) : Decoder CaseDraft :=
  if key = "name" then
    .once d.name (.optional .text) fun v => { d with name := some v }
  else if key = "payload" then
    .once d.payload (.optional .text) fun v => { d with payload := some v }
  else if key = "payload_inline" then
    .once d.payloadInline (.optional .json) fun v => { d with payloadInline := some v }
  else if key = "expect" then
    .once d.expect (.optional expectation) fun v => { d with expect := some v }
  else if key = "channel" then
    .once d.channel (.optional channel) fun v => { d with channel := some v }
  else .fail .unreadable

/-- A case. -/
def case : Decoder CaseEntry := (Decoder.record caseField {}).map fun d =>
  ⟨d.name.join, d.payload.join, d.payloadInline.join, d.expect.join, d.channel.join⟩

/-- The fields of a suite that have been read. -/
structure SuiteDraft where
  name : Option String := none
  bundle : Option String := none
  channel : Option (Option Channel) := none
  expect : Option (Option ExpectationEntry) := none
  payloads : Option (List String) := none
  cases : Option (List CaseEntry) := none

/-- A field of a suite. -/
def suiteField (key : String) (d : SuiteDraft) : Decoder SuiteDraft :=
  if key = "name" then .once d.name .text fun v => { d with name := some v }
  else if key = "bundle" then .once d.bundle .text fun v => { d with bundle := some v }
  else if key = "channel" then
    .once d.channel (.optional channel) fun v => { d with channel := some v }
  else if key = "expect" then
    .once d.expect (.optional expectation) fun v => { d with expect := some v }
  else if key = "payloads" then .once d.payloads texts fun v => { d with payloads := some v }
  else if key = "cases" then .once d.cases (.list case) fun v => { d with cases := some v }
  else .fail .unreadable

/-- A suite; it needs a name and a bundle. -/
def suite : Decoder SuiteEntry := (Decoder.record suiteField {}).refine fun d =>
  match d.name, d.bundle with
  | some name, some bundle =>
    .ok ⟨name, bundle, d.channel.join, d.expect.join, d.payloads.getD [], d.cases.getD []⟩
  | _, _ => .error .unreadable

/-- The fields of a manifest that have been read. -/
structure Draft where
  bundleDir : Option (Option String) := none
  payloadDir : Option (Option String) := none
  suites : Option (List SuiteEntry) := none

/-- A field of a manifest. -/
def field (key : String) (d : Draft) : Decoder Draft :=
  if key = "bundle_dir" then
    .once d.bundleDir (.optional .text) fun v => { d with bundleDir := some v }
  else if key = "payload_dir" then
    .once d.payloadDir (.optional .text) fun v => { d with payloadDir := some v }
  else if key = "suites" then .once d.suites (.list suite) fun v => { d with suites := some v }
  else .fail .unreadable

/-- A manifest; it needs suites. -/
def decoder : Decoder Manifest := (Decoder.record field {}).refine fun d =>
  match d.suites with
  | some suites => .ok ⟨d.bundleDir.join, d.payloadDir.join, suites⟩
  | none => .error .unreadable

end Manifest

namespace Registry

/-- The registry of a manifest's text. Relative paths start at `base`, and what is wrong is told as
a fault of the file at `path`. -/
def ofManifestText (read : Manifest.TextReader) (base path content : String) :
    Except Failure Registry :=
  match Yaml.decode Manifest.decoder content with
  | .error e => .error (.config path e.message)
  | .ok m => Registry.ofManifest read base path m

/-- The registry of a manifest's file. Relative paths start at its directory. -/
def load (t : FileTree) (path : String) : Except Failure Registry :=
  match t.readText path with
  | .error e => .error (.config path ("cannot read manifest: " ++ e.message))
  | .ok content => ofManifestText t.readText ((Path.parent? path).getD ".") path content

end Registry

end PolicyTrial
