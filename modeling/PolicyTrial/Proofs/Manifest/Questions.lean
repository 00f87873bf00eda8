import PolicyTrial.Proofs.Files.Names
import PolicyTrial.Proofs.Manifest.Expansion

/-!
# What a manifest asks

A manifest asks questions: each suite asks its payloads, then its cases. What a question asks for
and what may be wrong with it is said here one question at a time, and without the functions that
make scenarios of them.

* `ErrorCategory.StandsFor`, `ExpectationEntry.Spells`: what the entries of a manifest mean.
* `SuiteEntry.Question.HasId`: the id of a question, which has the name of its suite and its own.
* `Manifest.Yields`: the scenario of a question, with its id, its paths, and what it has from its
  suite.
* `Manifest.QuestionDefect`: why a question has no scenario. `scenarioOf_eq_ok_iff` and
  `scenarioOf_eq_error_iff` say that a question gives the one or the other.
-/

namespace PolicyTrial

/-! ### Entries -/

/-- The fragments that a category stands for. -/
inductive ErrorCategory.StandsFor : ErrorCategory → List String → Prop
  | malformedSyntax : StandsFor .malformedSyntax ["yaml", "expected ':'"]
  | ruleCompilation : StandsFor .ruleCompilation ["rego compilation failed"]
  | unresolvedReference : StandsFor .unresolvedReference ["reference", "not found"]
  | referenceCycle : StandsFor .referenceCycle ["cycle"]
  | missingBundle : StandsFor .missingBundle ["no such file or directory"]

theorem ErrorCategory.standsFor_iff {c : ErrorCategory} {fs : List String} :
    c.StandsFor fs ↔ c.fragments = fs := by
  constructor
  · intro h
    cases h <;> rfl
  · rintro rfl
    cases c <;> constructor

/-- The expectation that an entry spells. A category is replaced by its fragments. -/
inductive ExpectationEntry.Spells : ExpectationEntry → Expectation → Prop
  | exactDecision (o : Outcome) : Spells (.exactDecision o) (.exactDecision o)
  | errorContains (fs : List String) : Spells (.errorContains fs) (.errorContains fs)
  | errorCategory {c : ErrorCategory} {fs : List String} (h : c.StandsFor fs) :
    Spells (.errorCategory c) (.errorContains fs)
  | decisionAndNoDenyReferences (o : Outcome) :
    Spells (.decisionAndNoDenyReferences o) (.decisionAndNoDenyReferences o)
  | notDecision (o : Outcome) : Spells (.notDecision o) (.notDecision o)
  | denyOrErrorContains (fs : List String) :
    Spells (.denyOrErrorContains fs) (.denyOrErrorContains fs)
  | denyOrErrorCategory {c : ErrorCategory} {fs : List String} (h : c.StandsFor fs) :
    Spells (.denyOrErrorCategory c) (.denyOrErrorContains fs)

theorem ExpectationEntry.spells_iff {entry : ExpectationEntry} {x : Expectation} :
    entry.Spells x ↔ entry.expectation = x := by
  constructor
  · intro h
    cases h with
    | errorCategory h | denyOrErrorCategory h =>
      obtain rfl := ErrorCategory.standsFor_iff.mp h
      rfl
    | exactDecision | errorContains | decisionAndNoDenyReferences | notDecision
      | denyOrErrorContains => rfl
  · rintro rfl
    cases entry with
    | errorCategory c => exact .errorCategory (ErrorCategory.standsFor_iff.mpr rfl)
    | denyOrErrorCategory c => exact .denyOrErrorCategory (ErrorCategory.standsFor_iff.mpr rfl)
    | exactDecision | errorContains | decisionAndNoDenyReferences | notDecision
      | denyOrErrorContains => constructor

/-! ### Questions -/

namespace SuiteEntry

/-- What a suite asks: one of its payloads, or the case at an index. -/
inductive Question
  | payload (file : String)
  | case (index : Nat) (c : CaseEntry)

/-- What a suite asks, in order. -/
def questions (suite : SuiteEntry) : List Question :=
  suite.payloads.map .payload ++ suite.cases.zipIdx.map fun p => .case p.2 p.1

/-- The payload files that a suite names. -/
def files (suite : SuiteEntry) : List String :=
  suite.payloads ++ suite.cases.filterMap (·.payload)

namespace Question

/-- The name of a question within its suite: a case may have a name of its own, a file gives its
stem, and a payload that is written out is known by the index of its case. -/
inductive IsNamed : Question → String → Prop
  | payload {file stem : String} (h : Path.HasStem file stem) : IsNamed (.payload file) stem
  | own {index : Nat} {c : CaseEntry} {name : String} (h : c.name = some name) :
    IsNamed (.case index c) name
  | file {index : Nat} {c : CaseEntry} {file stem : String} (h : c.name = none)
      (h_file : c.payload = some file) (h_stem : Path.HasStem file stem) :
    IsNamed (.case index c) stem
  | inline {index : Nat} {c : CaseEntry} (h : c.name = none) (h_file : c.payload = none) :
    IsNamed (.case index c) ("inline-" ++ toString index)

/-- The id of a question. -/
def HasId (suite : SuiteEntry) (q : Question) (id : String) : Prop :=
  ∃ name, q.IsNamed name ∧ id = suite.name ++ "::" ++ name

/-- What is expected of the answer; a case may have an expectation of its own. -/
def expect (suite : SuiteEntry) : Question → Option ExpectationEntry
  | .payload _ => suite.expect
  | .case _ c => c.expect.or suite.expect

/-- The channel that is asked for; a case may ask for one of its own. -/
def channel (suite : SuiteEntry) : Question → Option Channel
  | .payload _ => suite.channel
  | .case _ c => c.channel.or suite.channel

/-- The payload file that is named. -/
def file? : Question → Option String
  | .payload file => some file
  | .case _ c => c.payload

/-- The payload that is written out. -/
def inline? : Question → Option Json
  | .payload _ => none
  | .case _ c => c.payloadInline

/-- The name that is given to a question. -/
def name : Question → String
  | .payload file => Path.stem file
  | .case index c => Manifest.caseName index c

theorem isNamed_iff {q : Question} {name : String} : q.IsNamed name ↔ q.name = name := by
  constructor
  · intro h
    cases h with
    | payload h => exact Path.hasStem_iff.mp h
    | own h => rw [Question.name, Manifest.caseName, h]
    | file h h_file h_stem =>
      rw [Question.name, Manifest.caseName, h, h_file]
      exact Path.hasStem_iff.mp h_stem
    | inline h h_file => rw [Question.name, Manifest.caseName, h, h_file]
  · rintro rfl
    cases q with
    | payload file => exact .payload (Path.hasStem_iff.mpr rfl)
    | case index c =>
      rw [Question.name, Manifest.caseName]
      cases h_name : c.name with
      | some name => exact .own h_name
      | none =>
        cases h_file : c.payload with
        | some file => exact .file h_name h_file (Path.hasStem_iff.mpr rfl)
        | none => exact .inline h_name h_file

theorem hasId_iff {suite : SuiteEntry} {q : Question} {id : String} :
    q.HasId suite id ↔ Manifest.scenarioId suite.name q.name = id := by
  simp only [HasId, isNamed_iff, exists_eq_left']
  exact eq_comm

end Question

end SuiteEntry

namespace Manifest

open SuiteEntry (Question)

/-- What a manifest asks, suite by suite. -/
def questions (m : Manifest) : List (SuiteEntry × Question) :=
  m.suites.flatMap fun suite => suite.questions.map (suite, ·)

/-- The path of a suite's bundle. -/
def IsBundle (base : String) (m : Manifest) (suite : SuiteEntry) (path : String) : Prop :=
  Path.IsPath base (m.bundleDir.toList ++ [suite.bundle]) path

/-- The path of a payload file. -/
def IsPayload (base : String) (m : Manifest) (file path : String) : Prop :=
  Path.IsPath base (m.payloadDir.toList ++ [file]) path

/-- A file can be read and has the text of a payload. -/
def HoldsPayload (read : TextReader) (path : String) (payload : Json) : Prop :=
  ∃ text, read path = .ok text ∧ Json.parse text.toList = .ok payload

/-- The file of a payload holds it. -/
def Provides (read : TextReader) (base : String) (m : Manifest) (file : String) (payload : Json) :
    Prop :=
  ∃ path, m.IsPayload base file path ∧ HoldsPayload read path payload

/-- The payload of a question: it is written out, or the file that is named holds it, but never
both. -/
def HasPayload (read : TextReader) (base : String) (m : Manifest) (q : Question) (payload : Json) :
    Prop :=
  (∃ file, q.file? = some file ∧ q.inline? = none ∧ m.Provides read base file payload) ∨
  q.file? = none ∧ q.inline? = some payload

/-- A scenario is what a question of a suite asks for. -/
structure Yields (read : TextReader) (base : String) (m : Manifest) (suite : SuiteEntry)
    (q : Question) (s : Scenario) : Prop where
  id : q.HasId suite s.id
  bundle : m.IsBundle base suite s.bundle
  payload : m.HasPayload read base q s.payload
  expectation : ∃ entry, q.expect suite = some entry ∧ entry.Spells s.expectation
  channel : s.channel = q.channel suite

/-! ### What may be wrong with a question -/

/-- What is wrong with a payload file. -/
inductive FileDefect (read : TextReader) (path : String) : String → Prop
  | unreadable {e : FileError} (h : read path = .error e) :
    FileDefect read path ("cannot read payload " ++ path ++ ": " ++ e.message)
  | notJson {text : String} {e : Json.SyntaxError} (h : read path = .ok text)
      (h_parse : Json.parse text.toList = .error e) :
    FileDefect read path ("payload " ++ path ++ " is not JSON: " ++ e.message)

/-- Why a question has no payload: a case has both sources or none, or its file has a defect. -/
inductive PayloadDefect (read : TextReader) (base : String) (m : Manifest) (suite : SuiteEntry) :
    Question → String → Prop
  | source {index : Nat} {c : CaseEntry} (h : c.payload.isSome = c.payloadInline.isSome) :
    PayloadDefect read base m suite (.case index c) ("case " ++ toString index ++ " of suite '" ++
      suite.name ++ "' needs exactly one of payload or payload_inline")
  | file {q : Question} {file path reason : String} (h : q.file? = some file)
      (h_inline : q.inline? = none) (h_path : m.IsPayload base file path)
      (h_file : FileDefect read path reason) : PayloadDefect read base m suite q reason

/-- What is wrong with a question. Its payload matters only if something is expected of it. -/
inductive QuestionDefect (read : TextReader) (base : String) (m : Manifest) (suite : SuiteEntry) :
    Question → String → Prop
  | shared {file : String} (h : suite.expect = none) :
    QuestionDefect read base m suite (.payload file)
      ("suite '" ++ suite.name ++ "' lists payloads but has no suite-level expect")
  | expect {index : Nat} {c : CaseEntry} (h : c.expect.or suite.expect = none) :
    QuestionDefect read base m suite (.case index c)
      ("case " ++ toString index ++ " of suite '" ++ suite.name ++ "' has no expect")
  | payload {q : Question} {entry : ExpectationEntry} {reason : String}
      (h : q.expect suite = some entry) (h_payload : m.PayloadDefect read base suite q reason) :
    QuestionDefect read base m suite q reason

variable {read : TextReader} {base : String} {m : Manifest} {suite : SuiteEntry} {q : Question}

/-! ### Paths -/

theorem foldl_join (base : String) (dir : Option String) (p : String) :
    (dir.toList ++ [p]).foldl Path.join base = Path.join (dirBelow base dir) p := by
  cases dir with
  | none | some d => rfl

/-- The path that a payload is read from. -/
def payloadPath (m : Manifest) (base file : String) : String :=
  Path.join (dirBelow base m.payloadDir) file

theorem isBundle_iff {path : String} :
    m.IsBundle base suite path ↔ Path.join (dirBelow base m.bundleDir) suite.bundle = path := by
  rw [IsBundle, Path.isPath_iff, foldl_join]

theorem isPayload_iff {file path : String} :
    m.IsPayload base file path ↔ m.payloadPath base file = path := by
  rw [IsPayload, Path.isPath_iff, foldl_join, payloadPath]

theorem provides_iff {file : String} {payload : Json} :
    m.Provides read base file payload ↔ HoldsPayload read (m.payloadPath base file) payload := by
  simp only [Provides, isPayload_iff, exists_eq_left']

/-! ### Payloads -/

theorem readPayload_eq_ok_iff {path : String} {payload : Json} :
    readPayload read path = .ok payload ↔ HoldsPayload read path payload := by
  unfold HoldsPayload
  rw [readPayload]
  cases read path with
  | error e =>
    refine iff_of_false nofun ?_
    rintro ⟨_, h, -⟩
    cases h
  | ok text =>
    dsimp only
    constructor
    · intro h
      split at h
      · cases h
      · next h_parse =>
        cases h
        exact ⟨text, rfl, h_parse⟩
    · rintro ⟨_, h, h_parse⟩
      cases h
      rw [h_parse]

theorem readPayload_eq_error_iff {path reason : String} :
    readPayload read path = .error reason ↔ FileDefect read path reason := by
  constructor
  · intro h
    rw [readPayload] at h
    split at h
    · next h_read =>
      cases h
      exact .unreadable h_read
    · next text h_read =>
      split at h
      · next h_parse =>
        cases h
        exact .notJson h_read h_parse
      · cases h
  · intro h
    rw [readPayload]
    cases h with
    | unreadable h => rw [h]
    | notJson h h_parse =>
      rw [h]
      dsimp only
      rw [h_parse]

/-- The payload of a question, or what is wrong with it. -/
def payloadOf (read : TextReader) (base : String) (m : Manifest) (suite : SuiteEntry) :
    Question → Except String Json
  | .payload file => readPayload read (m.payloadPath base file)
  | .case index c =>
    (casePayload read (dirBelow base m.payloadDir) suite index c).map (·.2)

theorem payloadOf_of_file {file : String} (h : q.file? = some file) (h_inline : q.inline? = none) :
    m.payloadOf read base suite q = readPayload read (m.payloadPath base file) := by
  cases q with
  | payload file' =>
    cases h
    rfl
  | case index c =>
    have h_file : c.payload = some file := h
    have h_none : c.payloadInline = none := h_inline
    rw [payloadOf, casePayload, h_file, h_none]
    dsimp only
    rw [payloadPath]
    cases readPayload read (Path.join (dirBelow base m.payloadDir) file) with
    | error _ | ok _ => rfl

theorem payloadOf_of_inline {payload : Json} (h : q.file? = none)
    (h_inline : q.inline? = some payload) : m.payloadOf read base suite q = .ok payload := by
  cases q with
  | payload file => cases h
  | case index c =>
    have h_none : c.payload = none := h
    have h_some : c.payloadInline = some payload := h_inline
    rw [payloadOf, casePayload, h_none, h_some]
    rfl

/-- Only a case can have both sources or none. -/
theorem payloadOf_of_sources (h : q.file?.isSome = q.inline?.isSome) :
    ∃ index c, q = .case index c ∧
      m.payloadOf read base suite q = .error ("case " ++ toString index ++ " of suite '" ++
        suite.name ++ "' needs exactly one of payload or payload_inline") := by
  cases q with
  | payload file => cases h
  | case index c =>
    have h_sources : c.payload.isSome = c.payloadInline.isSome := h
    refine ⟨index, c, rfl, ?_⟩
    rw [payloadOf, casePayload]
    split
    · next h_file h_inline =>
      rw [h_file, h_inline] at h_sources
      cases h_sources
    · next h_file h_inline =>
      rw [h_file, h_inline] at h_sources
      cases h_sources
    · rfl

theorem sources_cases (q : Question) :
    (∃ file, q.file? = some file ∧ q.inline? = none) ∨
    (∃ payload, q.file? = none ∧ q.inline? = some payload) ∨
    q.file?.isSome = q.inline?.isSome := by
  cases q.file? with
  | none =>
    cases q.inline? with
    | none => exact .inr (.inr rfl)
    | some payload => exact .inr (.inl ⟨payload, rfl, rfl⟩)
  | some file =>
    cases q.inline? with
    | none => exact .inl ⟨file, rfl, rfl⟩
    | some _ => exact .inr (.inr rfl)

theorem hasPayload_of_file {file : String} {payload : Json} (h : q.file? = some file)
    (h_inline : q.inline? = none) :
    m.HasPayload read base q payload ↔ m.Provides read base file payload := by
  constructor
  · rintro (⟨_, h_file, -, h_provides⟩ | ⟨h_none, -⟩)
    · cases h.symm.trans h_file
      exact h_provides
    · cases h.symm.trans h_none
  · exact fun h_provides => .inl ⟨file, h, h_inline, h_provides⟩

theorem not_hasPayload_of_sources {payload : Json} (h : q.file?.isSome = q.inline?.isSome) :
    ¬ m.HasPayload read base q payload := by
  rintro (⟨_, h_file, h_inline, -⟩ | ⟨h_file, h_inline⟩)
  · rw [h_file, h_inline] at h
    cases h
  · rw [h_file, h_inline] at h
    cases h

theorem payloadOf_eq_ok_iff {payload : Json} :
    m.payloadOf read base suite q = .ok payload ↔ m.HasPayload read base q payload := by
  rcases sources_cases q with ⟨file, h_file, h_inline⟩ | ⟨payload', h_file, h_inline⟩ | h_sources
  · rw [payloadOf_of_file h_file h_inline, readPayload_eq_ok_iff,
      hasPayload_of_file h_file h_inline, provides_iff]
  · rw [payloadOf_of_inline h_file h_inline]
    constructor
    · intro h
      cases h
      exact .inr ⟨h_file, h_inline⟩
    · rintro (⟨_, h, -⟩ | ⟨-, h⟩)
      · cases h_file.symm.trans h
      · cases h_inline.symm.trans h
        rfl
  · obtain ⟨_, _, -, h_error⟩ := @payloadOf_of_sources read base m suite q h_sources
    refine iff_of_false ?_ (not_hasPayload_of_sources h_sources)
    rw [h_error]
    exact nofun

theorem payloadOf_eq_error_iff {reason : String} :
    m.payloadOf read base suite q = .error reason ↔ m.PayloadDefect read base suite q reason := by
  constructor
  · intro h
    rcases sources_cases q with ⟨file, h_file, h_inline⟩ | ⟨payload, h_file, h_inline⟩ | h_sources
    · rw [payloadOf_of_file h_file h_inline] at h
      exact .file h_file h_inline (isPayload_iff.mpr rfl) (readPayload_eq_error_iff.mp h)
    · rw [payloadOf_of_inline h_file h_inline] at h
      cases h
    · obtain ⟨index, c, h_case, h_error⟩ :=
        @payloadOf_of_sources read base m suite q h_sources
      cases h_error.symm.trans h
      rw [h_case] at h_sources ⊢
      exact .source h_sources
  · intro h
    cases h with
    | @source index c h =>
      obtain ⟨_, _, h_case, h_error⟩ := payloadOf_of_sources (q := .case index c) h
      cases h_case
      exact h_error
    | file h h_inline h_path h_file =>
      rw [payloadOf_of_file h h_inline, isPayload_iff.mp h_path]
      exact readPayload_eq_error_iff.mpr h_file

/-! ### Questions -/

/-- The scenario of a question, or what is wrong with it. -/
def scenarioOf (read : TextReader) (base : String) (m : Manifest) (suite : SuiteEntry) :
    Question → Except String Scenario
  | .payload file => payloadScenario read (dirBelow base m.payloadDir)
      (Path.join (dirBelow base m.bundleDir) suite.bundle) suite file
  | .case index c => caseScenario read (dirBelow base m.payloadDir)
      (Path.join (dirBelow base m.bundleDir) suite.bundle) suite index c

theorem scenarioOf_of_expect {entry : ExpectationEntry} (h : q.expect suite = some entry) :
    m.scenarioOf read base suite q = (m.payloadOf read base suite q).map fun payload =>
      ⟨scenarioId suite.name q.name, Path.join (dirBelow base m.bundleDir) suite.bundle, payload,
        entry.expectation, q.channel suite⟩ := by
  cases q with
  | payload file =>
    have h_entry : suite.expect = some entry := h
    rw [scenarioOf, payloadScenario, h_entry]
    rfl
  | case index c =>
    have h_entry : c.expect.or suite.expect = some entry := h
    rw [scenarioOf, caseScenario, h_entry, payloadOf]
    dsimp only
    cases h_payload : casePayload read (dirBelow base m.payloadDir) suite index c with
    | error reason => rfl
    | ok named =>
      obtain ⟨name, payload⟩ := named
      rw [casePayload_ok h_payload]
      rfl

theorem scenarioOf_eq_error_iff {reason : String} :
    m.scenarioOf read base suite q = .error reason ↔
      m.QuestionDefect read base suite q reason := by
  constructor
  · intro h
    cases h_expect : q.expect suite with
    | none =>
      cases q with
      | payload file =>
        have h_none : suite.expect = none := h_expect
        rw [scenarioOf, payloadScenario, h_none] at h
        cases h
        exact .shared h_none
      | case index c =>
        have h_none : c.expect.or suite.expect = none := h_expect
        rw [scenarioOf, caseScenario, h_none] at h
        cases h
        exact .expect h_none
    | some entry =>
      rw [scenarioOf_of_expect h_expect, map_eq_error_iff, payloadOf_eq_error_iff] at h
      exact .payload h_expect h
  · intro h
    cases h with
    | shared h =>
      rw [scenarioOf, payloadScenario, h]
    | expect h =>
      rw [scenarioOf, caseScenario, h]
    | payload h h_payload =>
      rw [scenarioOf_of_expect h, map_eq_error_iff, payloadOf_eq_error_iff]
      exact h_payload

theorem scenarioOf_eq_ok_iff {s : Scenario} :
    m.scenarioOf read base suite q = .ok s ↔ m.Yields read base suite q s := by
  cases h_expect : q.expect suite with
  | none =>
    -- without an expectation there is no scenario, whatever the payload
    have h_error : ∃ reason, m.scenarioOf read base suite q = .error reason := by
      simp only [scenarioOf_eq_error_iff]
      cases q with
      | payload file => exact ⟨_, .shared h_expect⟩
      | case index c => exact ⟨_, .expect h_expect⟩
    obtain ⟨reason, h_error⟩ := h_error
    rw [h_error]
    refine iff_of_false nofun ?_
    rintro ⟨-, -, -, ⟨_, h, -⟩, -⟩
    cases h_expect.symm.trans h
  | some entry =>
    rw [scenarioOf_of_expect h_expect, map_eq_ok_iff]
    simp only [payloadOf_eq_ok_iff]
    constructor
    · rintro ⟨payload, h, rfl⟩
      exact ⟨Question.hasId_iff.mpr rfl, isBundle_iff.mpr rfl, h,
        ⟨entry, h_expect, ExpectationEntry.spells_iff.mpr rfl⟩, rfl⟩
    · rcases s with ⟨id, bundle, payload, expectation, channel⟩
      rintro ⟨h_id, h_bundle, h_payload, ⟨_, h_entry, h_spells⟩, rfl⟩
      cases h_expect.symm.trans h_entry
      rw [Question.hasId_iff] at h_id
      rw [isBundle_iff] at h_bundle
      rw [ExpectationEntry.spells_iff] at h_spells
      exact ⟨payload, h_payload, by rw [h_id, h_bundle, h_spells]⟩

end Manifest

end PolicyTrial
