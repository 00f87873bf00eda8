import PolicyTrial.Manifest.Decode
import PolicyTrial.Proofs.Text.UpperCase

/-!
# Outcomes as manifests spell them

An outcome in a manifest is a text that spells it, in whatever way the text is written, and an
expectation is a mapping with one key. Both are read by decoders that first read texts and then make
something of them, or refuse.

* `Decoder.Follows`: a decoder makes something of each value that another one reads. An alias and a
  level of nesting keep this (`Follows.following`, `Follows.nested`), so it holds of a mapping with
  one key if it holds of the value (`oneOf_follows`).
* `Manifest.outcome_follows`, `Manifest.expectation_follows`: what becomes of a text where an
  outcome, and where the outcome of an exact decision, is read.
-/

namespace PolicyTrial.Yaml.Decoder

variable {α β : Type} {d : Decoder α} {d' : Decoder β} {f : α → Except DecodeError β}

/-- A decoder makes of each value that another one reads what `f` makes of it, and goes on where
that one does. -/
def Follows (d' : Decoder β) (d : Decoder α) (f : α → Except DecodeError β) : Prop :=
  ∀ doc p a q, d doc p = .ok (a, q) → d' doc p = (f a).map (·, q)

theorem refine_follows (d : Decoder α) (f : α → Except DecodeError β) :
    (d.refine f).Follows d f := by
  intro doc p a q h
  rw [refine, h]

theorem map_refine {γ : Type} (d : Decoder α) (f : α → Except DecodeError β) (g : β → γ) :
    (d.refine f).map g = d.refine fun a => (f a).map g := by
  funext doc p
  rw [map, refine, refine, refine]
  cases d doc p with
  | error e => rfl
  | ok r =>
    dsimp only
    cases f r.1 with
    | error e | ok b => rfl

/-- An alias stands for the value at its anchor. -/
theorem Follows.following (hd : d'.Follows d f) : (following d').Follows (following d) f := by
  intro doc p a q h
  unfold Decoder.following at h ⊢
  split at h
  · next id rest _ =>
    split at h
    · cases h
    · next h_jumps =>
      rw [if_neg h_jumps]
      split at h
      · cases h
      · next nodes _ =>
        split at h
        · cases h
        · next b r h_read =>
          cases h
          rw [hd _ _ _ _ h_read]
          cases f a with
          | error e | ok b => rfl
  · exact hd doc p a q h

theorem Follows.nested (hd : d'.Follows d f) : (nested d').Follows (nested d) f := by
  intro doc p a q h
  unfold Decoder.nested at h ⊢
  split at h
  · cases h
  · next h_depth =>
    rw [if_neg h_depth]
    cases h_read : d doc { p with depth := p.depth - 1 } with
    | error e =>
      rw [h_read] at h
      cases h
    | ok r =>
      rw [h_read] at h
      cases h
      rw [hd _ _ _ _ h_read]
      cases f r.1 with
      | error e | ok b => rfl

/-- A mapping with a key as its only one, and a text for its value. -/
def textAt (key : String) : Decoder String := oneOf fun k => if k = key then some text else none

/-- A mapping with one key is read as its case reads the value. -/
theorem oneOf_follows {cases : String → Option (Decoder β)} {key : String}
    {f : String → Except DecodeError β} (h_case : cases key = some (text.refine f)) :
    (oneOf cases).Follows (textAt key) f := by
  unfold textAt oneOf
  refine Follows.following ?_
  intro doc p x q h
  dsimp only at h ⊢
  split at h
  · split at h
    · cases h
    · next h_tag =>
      rw [if_neg h_tag]
      refine Follows.nested ?_ doc (Place.behind p) x q h
      intro doc p x q h
      dsimp only at h ⊢
      split at h
      · cases h
      · split at h
        · cases h
        · next k p₁ h_key =>
          split at h
          · cases h
          · next d h_text =>
            split at h_text
            · next h_eq =>
              cases h_text
              rw [h_eq, h_case]
              dsimp only
              split at h
              · cases h
              · next y p₂ h_value =>
                rw [refine_follows text f doc p₁ y p₂ h_value]
                split at h
                · next h_end =>
                  obtain ⟨rfl, rfl⟩ := Prod.mk.inj (Except.ok.inj h)
                  cases h_made : f y with
                  | error e => rfl
                  | ok b =>
                    dsimp only [Except.map]
                    rw [h_end]
                · cases h
            · cases h_text
  · cases h

end PolicyTrial.Yaml.Decoder

namespace PolicyTrial

open Yaml (Decoder DecodeError)

/-- What a decoder makes of a text that should spell an outcome. -/
def Outcome.decoded (token : String) : Except DecodeError Outcome :=
  match (Recognition.ofToken (some token)).outcome? with
  | some o => .ok o
  | none => .error (.refused (Outcome.refusal token))

theorem Outcome.decoded_eq_ok_iff {token : String} {o : Outcome} :
    decoded token = .ok o ↔ Recognition.ofToken (some token) = .canonical o := by
  rw [decoded, ← Recognition.outcome?_eq_some_iff]
  cases (Recognition.ofToken (some token)).outcome? with
  | some o' => simp only [Except.ok.injEq, Option.some.injEq]
  | none => simp only [reduceCtorEq]

/-- A text that spells no outcome is refused, and told. -/
theorem Outcome.decoded_eq_error {token : String}
    (h : ∀ o, Recognition.ofToken (some token) ≠ .canonical o) :
    decoded token = .error (.refused (refusal token)) := by
  rw [decoded]
  cases h_token : Recognition.ofToken (some token) with
  | canonical o => exact absurd h_token (h o)
  | unrecognized shown | empty => rfl

namespace Manifest

theorem outcome_eq_refine : outcome = Decoder.text.refine Outcome.decoded := by
  refine congrArg Decoder.text.refine (funext fun token => ?_)
  rw [Outcome.ofToken, Outcome.decoded]
  cases (Recognition.ofToken (some token)).outcome? with
  | some o | none => rfl

theorem outcome_follows : outcome.Follows Decoder.text Outcome.decoded := by
  rw [outcome_eq_refine]
  exact Decoder.refine_follows _ _

theorem expectation_follows :
    expectation.Follows (Decoder.textAt "exact_decision") fun token =>
      (Outcome.decoded token).map .exactDecision := by
  refine Decoder.oneOf_follows ?_
  rw [expectationCase, outcome_eq_refine, Decoder.map_refine]

end Manifest

end PolicyTrial
