import PolicyTrial.Decision
import PolicyTrial.Proofs.Fallible
import PolicyTrial.Proofs.Text.UpperCase

/-!
# Reading decision documents

A document has a decision if it is an object whose `decision` is a string that spells an outcome,
and if whatever is listed under `references` is an object of the same kind. Reading an output gives
this decision with all of its references, or it gives the first thing that is wrong, and there is
nothing in between (`ofOutput_reads`).

* `Decision.IsRead`: the decision of a document, said without looking at how it is read.
* `Decision.Defect`: what is wrong with an output. An output has one defect: what is wrong on top
  comes before the references, and one reference comes before the next. A shape that does not fit is
  reported with the whole output, and a token that does not fit with its place.

Only strings spell outcomes. A number is shown to be a token as well, but one that spells nothing
(`Recognition.ofToken_number`).
-/

namespace PolicyTrial

/-- The outcome that an object decides on: its `decision` is a string that spells it. -/
def Json.decided? : Json → Option Outcome
  | .object fields =>
    match fields.lookup "decision" with
    | some (.string token) => (Recognition.ofToken (some token)).outcome?
    | _ => none
  | _ => none

/-- The entries under `references`; an object without them has none. -/
def Json.ListsReferences (document : Json) (entries : List Json) : Prop :=
  document.field? "references" = some (.array entries) ∨
    document.field? "references" = none ∧ entries = []

namespace Decision

/-- A decision is what a document with these entries says. -/
structure IsRead (document : Json) (entries : List Json) (d : Decision) : Prop where
  outcome : document.decided? = some d.outcome
  lists : document.ListsReferences entries
  references : List.Forall₂ (fun entry r => entry.decided? = some r.outcome ∧ r.raw = entry)
    entries d.references

/-! ### What may be wrong -/

/-- The failure of a value that can be no token. -/
def notToken (output location kind : String) : Failure :=
  .malformedOutput (location ++ " must be a string token, got " ++ kind) output

/-- What is wrong with the value of a `decision` that spells no outcome. -/
inductive TokenDefect (output location : String) : Json → Failure → Prop
  | bool (b : Bool) : TokenDefect output location (.bool b) (notToken output location "a boolean")
  | array (items : List Json) :
    TokenDefect output location (.array items) (notToken output location "an array")
  | object (fields : List (String × Json)) :
    TokenDefect output location (.object fields) (notToken output location "an object")
  | null : TokenDefect output location .null (.unrecognizedToken "<empty>" location)
  | blank {s : String} (h : Text.trim s.toList = []) :
    TokenDefect output location (.string s) (.unrecognizedToken "<empty>" location)
  | unknown {s : String} (h : Text.trim s.toList ≠ [])
      (h_unknown : (Recognition.ofToken (some s)).outcome? = none) :
    TokenDefect output location (.string s)
      (.unrecognizedToken (Recognition.upperTrimmed s) location)
  | number (n : Json.Number) :
    TokenDefect output location (.number n)
      (.unrecognizedToken (Recognition.upperTrimmed (String.ofList n.text)) location)

/-- Where the token of an entry stands. -/
def entryLocation (index : Nat) : String := "references[" ++ toString index ++ "].decision"

/-- What is wrong with the entry at an index. -/
inductive EntryDefect (output : String) (index : Nat) (entry : Json) : Failure → Prop
  | missing (h : entry.field? "decision" = none) :
    EntryDefect output index entry (.malformedOutput
      (entryLocation index ++ " is missing or the entry is not an object") output)
  | token {token : Json} {f : Failure} (h : entry.field? "decision" = some token)
      (h_token : TokenDefect output (entryLocation index) token f) :
    EntryDefect output index entry f

/-- What is wrong with the references of a document: they are no list, or it is the first entry of
the list that has a defect. -/
inductive ReferencesDefect (output : String) (document : Json) : Failure → Prop
  | kind {value : Json} (h : document.field? "references" = some value)
      (h_kind : ∀ entries, value ≠ .array entries) :
    ReferencesDefect output document
      (.malformedOutput ("`references` must be an array, got " ++ value.kind) output)
  | entry {entries : List Json} {f : Failure}
      (h : document.field? "references" = some (.array entries))
      (h_first : FailsFirst (fun p : Json × Nat => ∃ o, p.1.decided? = some o)
        (fun p => EntryDefect output p.2 p.1) entries.zipIdx f) :
    ReferencesDefect output document f

/-- What is wrong with a document. Its references matter only if it decides on an outcome. -/
inductive DocumentDefect (output : String) (document : Json) : Failure → Prop
  | kind (h : ∀ fields, document ≠ .object fields) :
    DocumentDefect output document
      (.malformedOutput ("expected a JSON object, got " ++ document.kind) output)
  | missing {fields : List (String × Json)} (h : document = .object fields)
      (h_missing : document.field? "decision" = none) :
    DocumentDefect output document (.malformedOutput "missing `decision` field" output)
  | token {token : Json} {f : Failure} (h : document.field? "decision" = some token)
      (h_token : TokenDefect output "decision" token f) : DocumentDefect output document f
  | references {o : Outcome} {f : Failure} (h : document.decided? = some o)
      (h_references : ReferencesDefect output document f) : DocumentDefect output document f

/-- What is wrong with an output. -/
inductive Defect (output : String) : Failure → Prop
  | empty (h : Text.trim output.toList = []) :
    Defect output (.malformedOutput "output is empty" output)
  | notJson {e : Json.SyntaxError} (h : Text.trim output.toList ≠ [])
      (h_parse : Json.parse (Text.trim output.toList) = .error e) :
    Defect output (.malformedOutput ("output is not JSON (" ++ e.message ++ ")") output)
  | document {document : Json} {f : Failure} (h : Text.trim output.toList ≠ [])
      (h_parse : Json.parse (Text.trim output.toList) = .ok document)
      (h_document : DocumentDefect output document f) : Defect output f

/-! ### Tokens -/

variable {output location : String}

/-- What becomes of a token, by what it says. -/
def ofRecognition (location : String) : Recognition → Except Failure Outcome
  | .canonical o => .ok o
  | .unrecognized shown => .error (.unrecognizedToken shown location)
  | .empty => .error (.unrecognizedToken "<empty>" location)

theorem ofRecognition_eq_ok_iff {r : Recognition} {o : Outcome} :
    ofRecognition location r = .ok o ↔ r.outcome? = some o := by
  cases r with
  | canonical o' =>
    constructor
    · intro h
      cases h
      rfl
    · intro h
      cases h
      rfl
  | unrecognized _ | empty => exact iff_of_false nofun nofun

theorem outcomeAt_eq {token : Json} {r : Recognition} (h : tokenOf token = some r) :
    outcomeAt output location token = ofRecognition location r := by
  rw [outcomeAt, h]
  cases r with
  | canonical o | unrecognized shown | empty => rfl

theorem outcomeAt_string (s : String) :
    outcomeAt output location (.string s) =
      ofRecognition location (Recognition.ofToken (some s)) :=
  outcomeAt_eq rfl

theorem outcomeAt_number (n : Json.Number) :
    outcomeAt output location (.number n) =
      .error (.unrecognizedToken (Recognition.upperTrimmed (String.ofList n.text)) location) := by
  have h_token : tokenOf (.number n) =
      some (.unrecognized (Recognition.upperTrimmed (String.ofList n.text))) :=
    congrArg some (Recognition.ofToken_number n)
  rw [outcomeAt_eq h_token]
  rfl

/-- A value that does not decide has one defect. -/
theorem outcomeAt_eq_error_iff {token : Json} {f : Failure} :
    outcomeAt output location token = .error f ↔ TokenDefect output location token f := by
  constructor
  · intro h
    cases token with
    | null =>
      cases h
      exact .null
    | bool b =>
      cases h
      exact .bool b
    | array items =>
      cases h
      exact .array items
    | object fields =>
      cases h
      exact .object fields
    | number n =>
      rw [outcomeAt_number] at h
      cases h
      exact .number n
    | string s =>
      rw [outcomeAt_string] at h
      -- a string is blank, it spells an outcome, or it is kept in upper case
      by_cases h_blank : Text.trim s.toList = []
      · rw [Recognition.ofToken_eq_empty_iff.mpr h_blank] at h
        cases h
        exact .blank h_blank
      · cases h_token : Recognition.ofToken (some s) with
        | canonical o =>
          rw [h_token] at h
          cases h
        | empty => exact absurd (Recognition.ofToken_eq_empty_iff.mp h_token) h_blank
        | unrecognized shown =>
          have h_unknown : (Recognition.ofToken (some s)).outcome? = none := by
            rw [h_token]
            rfl
          rw [Recognition.ofToken_eq_unrecognized h_blank h_unknown] at h
          cases h
          exact .unknown h_blank h_unknown
  · intro h
    cases h with
    | null | bool | array | object => rfl
    | number n => exact outcomeAt_number n
    | blank h =>
      rw [outcomeAt_string, Recognition.ofToken_eq_empty_iff.mpr h]
      rfl
    | unknown h h_unknown =>
      rw [outcomeAt_string, Recognition.ofToken_eq_unrecognized h h_unknown]
      rfl

/-! ### Objects that decide -/

theorem decided?_eq_some_iff (output location : String) {document : Json} {o : Outcome} :
    document.decided? = some o ↔
      ∃ token, document.field? "decision" = some token ∧
        outcomeAt output location token = .ok o := by
  cases document with
  | object fields =>
    rw [Json.decided?, Json.field?]
    cases fields.lookup "decision" with
    | none =>
      constructor
      · intro h
        cases h
      · rintro ⟨_, h, -⟩
        cases h
    | some token =>
      have h_token : (∃ token', some token = some token' ∧
          outcomeAt output location token' = .ok o) ↔ outcomeAt output location token = .ok o := by
        constructor
        · rintro ⟨_, h_eq, h⟩
          cases h_eq
          exact h
        · exact fun h => ⟨token, rfl, h⟩
      rw [h_token]
      cases token with
      | string s => rw [outcomeAt_string, ofRecognition_eq_ok_iff]
      | number n =>
        rw [outcomeAt_number]
        constructor
        · intro h
          cases h
        · intro h
          cases h
      | null | bool _ | array _ | object _ =>
        constructor
        · intro h
          cases h
        · intro h
          cases h
  | null | bool _ | number _ | string _ | array _ =>
    constructor
    · intro h
      cases h
    · rintro ⟨_, h, -⟩
      cases h

theorem decided?_of_field {document token : Json} (h : document.field? "decision" = some token)
    {o : Outcome} : document.decided? = some o ↔ outcomeAt output location token = .ok o := by
  rw [decided?_eq_some_iff output location, h]
  constructor
  · rintro ⟨_, h_eq, h_ok⟩
    cases h_eq
    exact h_ok
  · exact fun h_ok => ⟨token, rfl, h_ok⟩

variable {index : Nat} {entry : Json}

theorem referenceAt_eq_ok_iff {r : ReferenceDecision} :
    referenceAt output index entry = .ok r ↔
      entry.decided? = some r.outcome ∧ r.raw = entry := by
  rw [referenceAt, decided?_eq_some_iff output (entryLocation index)]
  cases entry.field? "decision" with
  | none =>
    refine iff_of_false nofun ?_
    rintro ⟨⟨_, h, -⟩, -⟩
    cases h
  | some token =>
    rw [map_eq_ok_iff]
    constructor
    · rintro ⟨o, h, rfl⟩
      exact ⟨⟨token, rfl, h⟩, rfl⟩
    · rintro ⟨⟨_, h_eq, h⟩, h_raw⟩
      cases h_eq
      exact ⟨r.outcome, h, by rw [← h_raw]⟩

theorem referenceAt_eq_error_iff {f : Failure} :
    referenceAt output index entry = .error f ↔ EntryDefect output index entry f := by
  rw [referenceAt]
  cases h_field : entry.field? "decision" with
  | none =>
    constructor
    · intro h
      cases h
      exact .missing h_field
    · intro h
      cases h with
      | missing => rfl
      | token h =>
        rw [h_field] at h
        cases h
  | some token =>
    rw [map_eq_error_iff, outcomeAt_eq_error_iff]
    constructor
    · exact fun h => .token h_field h
    · intro h
      cases h with
      | missing h =>
        rw [h_field] at h
        cases h
      | token h h_token =>
        rw [h_field] at h
        cases h
        exact h_token

/-! ### The list of references -/

theorem referencesFrom_eq (output : String) (start : Nat) (entries : List Json) :
    referencesFrom output start entries =
      (entries.zipIdx start).mapM fun p => referenceAt output p.2 p.1 := by
  induction entries generalizing start with
  | nil => rfl
  | cons entry rest ih =>
    rw [referencesFrom, List.zipIdx_cons, List.mapM_cons, ih]

theorem referencesFrom_eq_ok_iff {start : Nat} {entries : List Json}
    {rs : List ReferenceDecision} :
    referencesFrom output start entries = .ok rs ↔
      List.Forall₂ (fun entry r => entry.decided? = some r.outcome ∧ r.raw = entry)
        entries rs := by
  rw [referencesFrom_eq, mapM_eq_ok_iff]
  simp only [referenceAt_eq_ok_iff]
  -- where an entry stands does not matter
  conv_rhs => rw [← List.zipIdx_map_fst start entries, List.forall₂_map_left_iff]

theorem referencesFrom_eq_error_iff {entries : List Json} {f : Failure} :
    referencesFrom output 0 entries = .error f ↔
      FailsFirst (fun p : Json × Nat => ∃ o, p.1.decided? = some o)
        (fun p => EntryDefect output p.2 p.1) entries.zipIdx f := by
  have h_fine : ∀ p : Json × Nat,
      (∃ r, referenceAt output p.2 p.1 = .ok r) ↔ ∃ o, p.1.decided? = some o := by
    intro p
    simp only [referenceAt_eq_ok_iff]
    constructor
    · rintro ⟨r, h, -⟩
      exact ⟨r.outcome, h⟩
    · rintro ⟨o, h⟩
      exact ⟨⟨o, p.1⟩, h, rfl⟩
  rw [referencesFrom_eq, mapM_eq_error_iff]
  simp only [h_fine, referenceAt_eq_error_iff]

theorem referencesOf_eq_ok_iff {document : Json} {rs : List ReferenceDecision} :
    referencesOf output document = .ok rs ↔ ∃ entries, document.ListsReferences entries ∧
      List.Forall₂ (fun entry r => entry.decided? = some r.outcome ∧ r.raw = entry)
        entries rs := by
  rw [referencesOf]
  unfold Json.ListsReferences
  cases document.field? "references" with
  | none =>
    constructor
    · intro h
      cases h
      exact ⟨[], .inr ⟨rfl, rfl⟩, .nil⟩
    · rintro ⟨entries, h | ⟨-, rfl⟩, h_rs⟩
      · cases h
      · cases h_rs
        rfl
  | some value =>
    cases value with
    | array entries =>
      dsimp only
      rw [referencesFrom_eq_ok_iff]
      constructor
      · exact fun h => ⟨entries, .inl rfl, h⟩
      · rintro ⟨_, h | ⟨h, -⟩, h_rs⟩
        · cases h
          exact h_rs
        · cases h
    | null | bool _ | number _ | string _ | object _ =>
      refine iff_of_false nofun ?_
      rintro ⟨_, h | ⟨h, -⟩, -⟩
      · cases h
      · cases h

theorem referencesOf_eq_error_iff {document : Json} {f : Failure} :
    referencesOf output document = .error f ↔ ReferencesDefect output document f := by
  rw [referencesOf]
  constructor
  · intro h
    split at h
    · cases h
    · next entries h_field => exact .entry h_field (referencesFrom_eq_error_iff.mp h)
    · next value h_kind h_field =>
      cases h
      exact .kind h_field h_kind
  · intro h
    cases h with
    | kind h h_kind =>
      rw [h]
      split
      · next h_none => cases h_none
      · next entries h_some =>
        cases h_some
        exact absurd rfl (h_kind entries)
      · next h_some =>
        cases h_some
        rfl
    | entry h h_first =>
      rw [h]
      exact referencesFrom_eq_error_iff.mpr h_first

/-! ### Documents -/

theorem ofDocument_of_field {fields : List (String × Json)} {token : Json}
    (h : (Json.object fields).field? "decision" = some token) :
    ofDocument output (.object fields) = do
      let outcome ← outcomeAt output "decision" token
      let references ← referencesOf output (.object fields)
      return ⟨outcome, references⟩ := by
  rw [ofDocument, h]

theorem ofDocument_eq_ok_iff {document : Json} {d : Decision} :
    ofDocument output document = .ok d ↔ ∃ entries, d.IsRead document entries := by
  constructor
  · intro h
    cases document with
    | object fields =>
      cases h_field : (Json.object fields).field? "decision" with
      | none =>
        rw [ofDocument, h_field] at h
        cases h
      | some token =>
        rw [ofDocument_of_field h_field] at h
        obtain ⟨o, h_outcome, h⟩ := exists_of_bind_eq_ok h
        obtain ⟨rs, h_references, h⟩ := exists_of_bind_eq_ok h
        cases h
        obtain ⟨entries, h_lists, h_rs⟩ := referencesOf_eq_ok_iff.mp h_references
        exact ⟨entries, (decided?_of_field h_field).mpr h_outcome, h_lists, h_rs⟩
    | null | bool _ | number _ | string _ | array _ => cases h
  · rintro ⟨entries, h_outcome, h_lists, h_rs⟩
    obtain ⟨token, h_field, h_token⟩ := (decided?_eq_some_iff output "decision").mp h_outcome
    cases document with
    | object fields =>
      rw [ofDocument_of_field h_field, h_token,
        referencesOf_eq_ok_iff.mpr ⟨entries, h_lists, h_rs⟩]
      rfl
    | null | bool _ | number _ | string _ | array _ => cases h_field

theorem ofDocument_eq_error_iff {document : Json} {f : Failure} :
    ofDocument output document = .error f ↔ DocumentDefect output document f := by
  constructor
  · intro h
    cases document with
    | object fields =>
      cases h_field : (Json.object fields).field? "decision" with
      | none =>
        rw [ofDocument, h_field] at h
        cases h
        exact .missing rfl h_field
      | some token =>
        rw [ofDocument_of_field h_field] at h
        rcases bind_eq_error_iff.mp h with h_token | ⟨o, h_outcome, h⟩
        · exact .token h_field (outcomeAt_eq_error_iff.mp h_token)
        · -- the last step gives back what was read and cannot fail
          rcases bind_eq_error_iff.mp h with h_references | ⟨_, _, h⟩
          · exact .references ((decided?_of_field h_field).mpr h_outcome)
              (referencesOf_eq_error_iff.mp h_references)
          · cases h
    | null | bool _ | number _ | string _ | array _ =>
      cases h
      exact .kind nofun
  · intro h
    have h_object : ∀ token, document.field? "decision" = some token →
        ∃ fields, document = .object fields := by
      intro token h_field
      cases document with
      | object fields => exact ⟨fields, rfl⟩
      | null | bool _ | number _ | string _ | array _ => cases h_field
    cases h with
    | kind h =>
      cases document with
      | object fields => exact absurd rfl (h fields)
      | null | bool _ | number _ | string _ | array _ => rfl
    | missing h h_missing =>
      rw [h] at h_missing ⊢
      rw [ofDocument, h_missing]
    | token h_field h_token =>
      obtain ⟨fields, rfl⟩ := h_object _ h_field
      rw [ofDocument_of_field h_field, outcomeAt_eq_error_iff.mpr h_token]
      rfl
    | references h h_references =>
      obtain ⟨token, h_field, h_token⟩ := (decided?_eq_some_iff output "decision").mp h
      obtain ⟨fields, rfl⟩ := h_object _ h_field
      rw [ofDocument_of_field h_field, h_token, referencesOf_eq_error_iff.mpr h_references]
      rfl

/-! ### Outputs -/

/-- The references that deny are those whose entries do, in order. -/
theorem IsRead.raw_denials {document : Json} {entries : List Json} {d : Decision}
    (h : d.IsRead document entries) :
    d.denials.map (·.raw) = entries.filter (·.decided? == some .deny) := by
  obtain ⟨-, -, h_references⟩ := h
  rw [denials]
  generalize d.references = rs at h_references
  induction h_references with
  | nil => rfl
  | @cons entry r entries rs h_entry _ ih =>
    rw [List.filter_cons, List.filter_cons, h_entry.1]
    cases r.outcome with
    | grant => exact ih
    | deny => exact congrArg₂ List.cons h_entry.2 ih

variable {d : Decision} {f : Failure}

theorem ofText_of_blank (h : Text.trim output.toList = []) :
    ofText output = .error (.malformedOutput "output is empty" output) := by
  rw [ofText, h]
  rfl

theorem ofText_of_not_blank (h : Text.trim output.toList ≠ []) :
    ofText output =
      match Json.parse (Text.trim output.toList) with
      | .error e => .error (.malformedOutput ("output is not JSON (" ++ e.message ++ ")") output)
      | .ok document => ofDocument output document := by
  rw [ofText]
  exact if_neg (by rwa [List.isEmpty_iff])

theorem ofText_eq_ok_iff :
    ofText output = .ok d ↔ Text.trim output.toList ≠ [] ∧
      ∃ document entries, Json.parse (Text.trim output.toList) = .ok document ∧
        d.IsRead document entries := by
  by_cases h_blank : Text.trim output.toList = []
  · rw [ofText_of_blank h_blank]
    exact iff_of_false nofun fun h => h.1 h_blank
  · rw [ofText_of_not_blank h_blank]
    cases Json.parse (Text.trim output.toList) with
    | error e =>
      refine iff_of_false nofun ?_
      rintro ⟨-, _, _, h, -⟩
      cases h
    | ok document =>
      dsimp only
      rw [ofDocument_eq_ok_iff]
      constructor
      · rintro ⟨entries, h⟩
        exact ⟨h_blank, document, entries, rfl, h⟩
      · rintro ⟨-, _, entries, h_parse, h⟩
        cases h_parse
        exact ⟨entries, h⟩

theorem ofText_eq_error_iff : ofText output = .error f ↔ Defect output f := by
  by_cases h_blank : Text.trim output.toList = []
  · rw [ofText_of_blank h_blank]
    constructor
    · intro h
      cases h
      exact .empty h_blank
    · intro h
      cases h with
      | empty => rfl
      | notJson h | document h => exact absurd h_blank h
  · rw [ofText_of_not_blank h_blank]
    cases h_parse : Json.parse (Text.trim output.toList) with
    | error e =>
      constructor
      · intro h
        cases h
        exact .notJson h_blank h_parse
      · intro h
        cases h with
        | empty h => exact absurd h h_blank
        | notJson _ h =>
          cases h_parse.symm.trans h
          rfl
        | document _ h => cases h_parse.symm.trans h
    | ok document =>
      dsimp only
      rw [ofDocument_eq_error_iff]
      constructor
      · exact fun h => .document h_blank h_parse h
      · intro h
        cases h with
        | empty h => exact absurd h h_blank
        | notJson _ h => cases h_parse.symm.trans h
        | document _ h h_document =>
          cases h_parse.symm.trans h
          exact h_document

/-- **Reading an output fails closed.** An output is read exactly if it is a document with a
decision in which every reference has one too; the references are then the entries, one for one,
and those that deny are the entries that do. Of any other output the failure is its first defect. -/
theorem ofOutput_reads (output : Bytes) :
    let text := Text.trim output.lossyText.toList
    (∀ d, ofOutput output = .ok d ↔ text ≠ [] ∧ ∃ document entries,
      Json.parse text = .ok document ∧ d.IsRead document entries ∧
        d.denials.map (·.raw) = entries.filter (·.decided? == some .deny)) ∧
    ∀ f, ofOutput output = .error f ↔ Defect output.lossyText f := by
  intro text
  refine ⟨fun d => ?_, fun f => ofText_eq_error_iff⟩
  rw [ofOutput, ofText_eq_ok_iff]
  constructor
  · rintro ⟨h_blank, document, entries, h_parse, h_read⟩
    exact ⟨h_blank, document, entries, h_parse, h_read, h_read.raw_denials⟩
  · rintro ⟨h_blank, document, entries, h_parse, h_read, -⟩
    exact ⟨h_blank, document, entries, h_parse, h_read⟩

end Decision

end PolicyTrial
