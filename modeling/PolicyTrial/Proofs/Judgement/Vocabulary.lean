import PolicyTrial.Proofs.Judgement.Document
import PolicyTrial.Proofs.Judgement.Evaluation
import PolicyTrial.Proofs.Manifest.Spelling

/-!
# The vocabulary of outcomes

Manifests and engines spell outcomes alike: a text is trimmed, put in upper case and looked up. Here
is said which texts that takes to an outcome, without a word about upper case.

* `Outcome.IsSpelledBy`: the texts that spell an outcome, letter by letter.
* `Recognition.ofToken_text`: what is shown of a token says the same as the token.
* `vocabulary_exact`: a token spells what it is recognized as, a manifest takes exactly the tokens
  that spell an outcome, and an exact decision is met by exactly the engines that spell the same.
-/

namespace PolicyTrial

namespace Outcome

/-- The words for an outcome. -/
def words : Outcome → List String
  | .grant => ["ALLOW", "PERMIT", "GRANT"]
  | .deny => ["DENY", "REJECT"]

/-- A text spells an outcome: it is as long as one of the words for it and stands for the word
letter by letter. -/
def IsSpelledBy (o : Outcome) (s : List Char) : Prop :=
  ∃ word ∈ o.words, List.Forall₂ Text.StandsFor s word.toList

theorem lookup_spellings_iff {upper : String} {o : Outcome} :
    spellings.lookup upper = some o ↔ upper ∈ o.words := by
  constructor
  · intro h
    obtain ⟨before, after, h_split, -⟩ := List.lookup_eq_some_iff.mp h
    have h_mem : (upper, o) ∈ spellings := by
      rw [h_split]
      exact List.mem_append_right _ List.mem_cons_self
    have h_all : ∀ p ∈ spellings, p.1 ∈ p.2.words := by decide
    exact h_all _ h_mem
  · have h_all : ∀ o : Outcome, ∀ word ∈ o.words, spellings.lookup word = some o := by
      rintro (_ | _) <;> decide
    exact h_all o upper

theorem isSpelledBy_iff {o : Outcome} {s : List Char} :
    o.IsSpelledBy s ↔ String.ofList (Text.uppercase s) ∈ o.words := by
  have h_plain : ∀ word ∈ o.words, word.toList ⊆ Text.plainCapitals := by
    cases o <;> decide +kernel
  constructor
  · rintro ⟨word, h_word, h_stands⟩
    rw [(Text.uppercase_eq_iff (h_plain word h_word) s).mpr h_stands, String.ofList_toList]
    exact h_word
  · intro h
    refine ⟨_, h, (Text.uppercase_eq_iff (h_plain _ h) s).mp ?_⟩
    rw [String.toList_ofList]

end Outcome

namespace Recognition

/-! ### What is recognized -/

theorem ofUpper_eq_canonical_iff {upper : String} {o : Outcome} :
    ofUpper upper = .canonical o ↔ upper ∈ o.words := by
  rw [← Outcome.lookup_spellings_iff, ofUpper]
  split
  · next h =>
    have h_none : Outcome.spellings.lookup "" = none := by decide
    simp only [h, h_none, reduceCtorEq]
  · cases Outcome.spellings.lookup upper with
    | some o' => simp only [canonical.injEq, Option.some.injEq]
    | none => simp only [reduceCtorEq]

/-- A token is recognized as the outcome that it spells between its blanks. -/
theorem ofToken_eq_canonical_iff {token : String} {o : Outcome} :
    ofToken (some token) = .canonical o ↔ o.IsSpelledBy (Text.trim token.toList) := by
  rw [Outcome.isSpelledBy_iff]
  exact ofUpper_eq_canonical_iff

/-- Any other token that is not blank is kept, trimmed and in upper case. -/
theorem ofToken_eq_unrecognized_iff {token shown : String} :
    ofToken (some token) = .unrecognized shown ↔
      Text.trim token.toList ≠ [] ∧ (∀ o : Outcome, ¬ o.IsSpelledBy (Text.trim token.toList)) ∧
        shown = upperTrimmed token := by
  constructor
  · intro h
    have h_blank : Text.trim token.toList ≠ [] := fun h_blank => by
      rw [ofToken_eq_empty_iff.mpr h_blank] at h
      cases h
    have h_none : (ofToken (some token)).outcome? = none := by
      rw [h]
      rfl
    refine ⟨h_blank, fun o h_spelled => ?_, ?_⟩
    · rw [ofToken_eq_canonical_iff.mpr h_spelled] at h
      cases h
    · rw [ofToken_eq_unrecognized h_blank h_none] at h
      exact (unrecognized.inj h).symm
  · rintro ⟨h_blank, h_other, rfl⟩
    refine ofToken_eq_unrecognized h_blank (Option.eq_none_iff_forall_ne_some.mpr fun o h => ?_)
    exact h_other o (ofToken_eq_canonical_iff.mp (outcome?_eq_some_iff.mp h))

/-! ### What is shown of it -/

/-- A token that is trimmed and in upper case stays what it is. -/
theorem upperTrimmed_upperTrimmed (token : String) :
    upperTrimmed (upperTrimmed token) = upperTrimmed token := by
  have h_bare : Text.Bare (Text.uppercase (Text.trim token.toList)) :=
    (Text.bare_trim token.toList).uppercase
  rw [upperTrimmed, upperTrimmed, String.toList_ofList, h_bare.trim_eq, Text.uppercase_uppercase]

/-- **Recognition is settled at once.** What is shown of a token, or of none, says the same as the
token, whatever its upper case form and its blanks are. -/
theorem ofToken_text (token : Option String) :
    ofToken (some (ofToken token).text) = ofToken token := by
  have h_empty : ofToken (some "") = .empty := by decide
  cases token with
  | none => exact h_empty
  | some token =>
    cases h : ofToken (some token) with
    | empty => exact h_empty
    | canonical o => cases o <;> decide +kernel
    | unrecognized shown =>
      rw [text, ← h, ofToken, ofToken, (ofToken_eq_unrecognized_iff.mp h).2.2,
        upperTrimmed_upperTrimmed]

end Recognition

/-! ### What an engine says -/

/-- An exact decision is met by a successful answer that says nothing but a token if the token
spells it. -/
theorem passed_exactDecision_iff {r : Response} {a : Answer} (hr : r.Carries a)
    (hs : a.success = true) {token : String}
    (h_parse : Json.parse (Text.trim a.stdoutText.toList) =
      .ok (.object [("decision", .string token)])) (o : Outcome) :
    (evaluate (.exactDecision o) r).passed = true ↔
      Recognition.ofToken (some token) = .canonical o := by
  have h_decided : (Json.object [("decision", .string token)]).decided? =
      (Recognition.ofToken (some token)).outcome? := rfl
  rw [← Recognition.outcome?_eq_some_iff, ← h_decided]
  cases hd : Decision.ofText a.stdoutText with
  | ok d =>
    rw [evaluate_of_decision _ hr hs hd, (assessDecision_judges _ d).passed_iff]
    obtain ⟨-, document, entries, h_document, h_read⟩ := Decision.ofText_eq_ok_iff.mp hd
    cases h_parse.symm.trans h_document
    rw [h_read.outcome, Option.some.injEq]
    rfl
  | error f =>
    rw [evaluate_of_undecided _ hr hs hd]
    refine iff_of_false Bool.false_ne_true fun h_outcome => ?_
    have h_blank : Text.trim a.stdoutText.toList ≠ [] := by
      intro h
      rw [h] at h_parse
      cases h_parse
    have h_read : Decision.IsRead (.object [("decision", .string token)]) [] ⟨o, []⟩ :=
      ⟨h_outcome, .inr ⟨rfl, rfl⟩, .nil⟩
    cases hd.symm.trans (Decision.ofText_eq_ok_iff.mpr ⟨h_blank, _, _, h_parse, h_read⟩)

/-! ### One vocabulary -/

open Yaml (Decoder Document)

/-- Where a text is read, an outcome is read exactly if the text spells it, and anything else is
refused. -/
theorem Manifest.outcome_of_text {doc : Document} {p q : Yaml.Place} {token : String}
    (h_text : Decoder.text doc p = .ok (token, q)) :
    (∀ o q', outcome doc p = .ok (o, q') ↔
      Recognition.ofToken (some token) = .canonical o ∧ q' = q) ∧
    ((∀ o, Recognition.ofToken (some token) ≠ .canonical o) →
      outcome doc p = .error (.refused (Outcome.refusal token))) := by
  rw [outcome_follows doc p token q h_text]
  constructor
  · intro o q'
    rw [← Outcome.decoded_eq_ok_iff]
    cases Outcome.decoded token with
    | error e => exact iff_of_false nofun nofun
    | ok o' => simp only [Except.map, Except.ok.injEq, Prod.mk.injEq, eq_comm]
  · intro h
    rw [Outcome.decoded_eq_error h]
    rfl

/-- Where an exact decision is read, it is of the outcome that its text spells. -/
theorem Manifest.expectation_eq_ok_iff {doc : Document} {p q : Yaml.Place} {token : String}
    (h_text : Decoder.textAt "exact_decision" doc p = .ok (token, q)) (entry : ExpectationEntry) :
    expectation doc p = .ok (entry, q) ↔
      ∃ o, Recognition.ofToken (some token) = .canonical o ∧ entry = .exactDecision o := by
  rw [expectation_follows doc p token q h_text]
  simp only [← Outcome.decoded_eq_ok_iff]
  cases Outcome.decoded token with
  | error e => exact iff_of_false nofun nofun
  | ok o =>
    simp only [Except.map, Except.ok.injEq, Prod.mk.injEq, and_true, exists_eq_left', eq_comm]

/-- **The vocabulary of outcomes.** Without the blanks around it, a token is empty, spells one of
the words for an outcome letter by letter, or is kept in upper case. A manifest takes it for an
outcome exactly if it spells one, and then for that one. And where a manifest asks for exactly this
decision, a successful engine whose document has no more than a decision meets it exactly if both
spell the same outcome. -/
theorem vocabulary_exact (x : String) :
    (Recognition.ofToken (some x) = .empty ↔ Text.trim x.toList = []) ∧
    (∀ o, Recognition.ofToken (some x) = .canonical o ↔ o.IsSpelledBy (Text.trim x.toList)) ∧
    (∀ shown, Recognition.ofToken (some x) = .unrecognized shown ↔
      Text.trim x.toList ≠ [] ∧ (∀ o : Outcome, ¬ o.IsSpelledBy (Text.trim x.toList)) ∧
        shown = String.ofList (Text.uppercase (Text.trim x.toList))) ∧
    (∀ (doc : Document) (p q : Yaml.Place), Decoder.text doc p = .ok (x, q) →
      (∀ o q', Manifest.outcome doc p = .ok (o, q') ↔
        Recognition.ofToken (some x) = .canonical o ∧ q' = q) ∧
      ((∀ o, Recognition.ofToken (some x) ≠ .canonical o) →
        Manifest.outcome doc p = .error (.refused (Outcome.refusal x)))) ∧
    ∀ (doc : Document) (p q : Yaml.Place), Decoder.textAt "exact_decision" doc p = .ok (x, q) →
      ∀ (y : String) (r : Response) (a : Answer), r.Carries a → a.success = true →
        Json.parse (Text.trim a.stdoutText.toList) = .ok (.object [("decision", .string y)]) →
        ((∃ entry, Manifest.expectation doc p = .ok (entry, q) ∧
            (evaluate entry.expectation r).passed = true) ↔
          ∃ o, Recognition.ofToken (some x) = .canonical o ∧
            Recognition.ofToken (some y) = .canonical o) := by
  refine ⟨Recognition.ofToken_eq_empty_iff, fun o => Recognition.ofToken_eq_canonical_iff,
    fun shown => Recognition.ofToken_eq_unrecognized_iff,
    fun doc p q h_text => Manifest.outcome_of_text h_text, ?_⟩
  intro doc p q h_text y r a hr hs h_parse
  simp only [Manifest.expectation_eq_ok_iff h_text]
  constructor
  · rintro ⟨entry, ⟨o, h_asked, rfl⟩, h_passed⟩
    exact ⟨o, h_asked, (passed_exactDecision_iff hr hs h_parse o).mp h_passed⟩
  · rintro ⟨o, h_asked, h_said⟩
    exact ⟨.exactDecision o, ⟨o, h_asked, rfl⟩,
      (passed_exactDecision_iff hr hs h_parse o).mpr h_said⟩

/-- A manifest asks for the decision with a dotless i, and the engine answers with another word for
the same outcome, between blanks. -/
theorem vocabulary_exact_dotless :
    let doc := Document.ofText "exact_decision: permıt".toList
    let value : Yaml.Place := ⟨doc.nodes.drop 2, 0, Yaml.nestingLimit⟩
    let a : Answer :=
      ⟨.exit (some 0), Bytes.ofString "\x7b\"decision\": \" Grant\u2003\"\x7d", [], ⟨0⟩⟩
    Recognition.ofToken (some "permıt") = .canonical .grant ∧
    (∃ q, Manifest.outcome doc value = .ok (.grant, q)) ∧
    ∃ entry q, Manifest.expectation doc ⟨doc.nodes, 0, Yaml.nestingLimit⟩ = .ok (entry, q) ∧
      (evaluate entry.expectation (.ok a)).passed = true := by
  intro doc value a
  have h_nodes : doc.nodes = [.mappingStart none, .scalar none "exact_decision".toList .plain,
      .scalar none "permıt".toList .plain, .mappingEnd] := by
    decide +kernel
  have h_value : Decoder.text doc value =
      .ok ("permıt", ⟨[.mappingEnd], 0, Yaml.nestingLimit⟩) := by
    rw [show value = ⟨doc.nodes.drop 2, 0, Yaml.nestingLimit⟩ from rfl, h_nodes]
    rfl
  have h_entry : Decoder.textAt "exact_decision" doc ⟨doc.nodes, 0, Yaml.nestingLimit⟩ =
      .ok ("permıt", ⟨[], 0, Yaml.nestingLimit⟩) := by
    rw [h_nodes]
    rfl
  have h_parse : Json.parse (Text.trim a.stdoutText.toList) =
      .ok (.object [("decision", .string " Grant\u2003")]) := by
    have h_text : Text.trim a.stdoutText.toList =
        "\x7b\"decision\": \" Grant\u2003\"\x7d".toList := by
      decide +kernel
    rw [h_text]
    rfl
  obtain ⟨-, h_spelled, -, h_outcome, h_passed⟩ := vocabulary_exact "permıt"
  have h_grant : Recognition.ofToken (some "permıt") = .canonical .grant :=
    (h_spelled .grant).mpr ⟨"PERMIT", by decide, by decide +kernel⟩
  refine ⟨h_grant, ⟨_, ((h_outcome doc value _ h_value).1 .grant _).mpr ⟨h_grant, rfl⟩⟩, ?_⟩
  obtain ⟨entry, h_entry, h_met⟩ :=
    (h_passed doc _ _ h_entry " Grant\u2003" (.ok a) a (.answered a) rfl h_parse).mpr
      ⟨.grant, h_grant, by decide +kernel⟩
  exact ⟨entry, _, h_entry, h_met⟩

end PolicyTrial
