import PolicyTrial.Proofs.Run.Certainty

/-!
# All possible runs

`Possible σ` is the monad of computations of which it is only known what they may come to, and in
which state of `σ` they may leave what they run on. An executor in this monad stands for every way
in which a run may go: whichever reply the engine gives, whichever trial ends first.

`Possible.within` is certainty there: whatever a computation comes to satisfies the condition, and
it comes to something. States may be restricted to those that satisfy an invariant, which then has
to be kept.
-/

namespace PolicyTrial

/-- What may come of a computation on a state, with the state after it. -/
def Possible (σ α : Type) : Type := σ → α → σ → Prop

namespace Possible

variable {σ : Type}

instance : Monad (Possible σ) where
  pure a := fun s a' s' => a' = a ∧ s' = s
  bind f g := fun s b s'' => ∃ a s', f s a s' ∧ g a s' b s''

/-- On every state that satisfies the invariant a computation comes to something, and whatever it
comes to, the condition holds of it and the invariant of the state after it. -/
def within (invariant : σ → Prop) : Assurance (Possible σ) where
  Always f P := ∀ s, invariant s →
    (∃ a s', f s a s') ∧ ∀ a s', f s a s' → invariant s' ∧ P a
  pure ha s hs := by
    refine ⟨⟨_, s, rfl, rfl⟩, ?_⟩
    rintro _ _ ⟨rfl, rfl⟩
    exact ⟨hs, ha⟩
  mono hf hP s hs := by
    obtain ⟨h_some, h_all⟩ := hf s hs
    exact ⟨h_some, fun a s' h => ⟨(h_all a s' h).1, hP a (h_all a s' h).2⟩⟩
  bind hf hg s hs := by
    obtain ⟨⟨a, s', h⟩, h_all⟩ := hf s hs
    constructor
    · obtain ⟨hs', ha⟩ := h_all a s' h
      obtain ⟨⟨b, s'', h'⟩, -⟩ := hg a ha s' hs'
      exact ⟨b, s'', a, s', h, h'⟩
    · rintro b s'' ⟨a, s', h, h'⟩
      obtain ⟨hs', ha⟩ := h_all a s' h
      exact (hg a ha s' hs').2 b s'' h'

/-- Certainty on all states. -/
def everywhere : Assurance (Possible σ) := within fun _ => True

theorem always_everywhere_iff {α : Type} {f : Possible σ α} {P : α → Prop} :
    everywhere.Always f P ↔ ∀ s, (∃ a s', f s a s') ∧ ∀ a s', f s a s' → P a :=
  forall_congr' fun s => by simp

end Possible

/-! ### Executors that leave nothing open -/

/-- Certainty of computations on a state of which it is known what they come to. -/
def Assurance.ofState {σ : Type} : Assurance (StateM σ) where
  Always f P := ∀ s, P (f s).1
  pure ha _ := ha
  mono hf hP s := hP _ (hf s)
  bind hf hg s := hg _ (hf s) _

/-- An executor that leaves nothing open, as one of all possible runs: there is only one. -/
def Executor.relational {σ : Type} (x : Executor (StateM σ)) : Executor (Possible σ) where
  alone p := fun s a s' => x.alone p s = (a, s')
  several n tasks := fun s rs s' => x.several n tasks s = (rs, s')
  onFiles f := fun s a s' => x.onFiles f s = (a, s')

theorem Executor.Fair.relational {σ : Type} {x : Executor (StateM σ)} (h : x.Fair .ofState) :
    x.relational.Fair Possible.everywhere := by
  have h_everywhere : ∀ {α : Type} {f : StateM σ α} {P : α → Prop}, Assurance.ofState.Always f P →
      Possible.everywhere.Always (fun s a s' => f s = (a, s')) P := by
    intro α f P hf
    refine Possible.always_everywhere_iff.mpr fun s => ⟨⟨_, _, rfl⟩, fun a s' h_eq => ?_⟩
    have h_fst := hf s
    rwa [h_eq] at h_fst
  exact ⟨fun p => h_everywhere (h.alone p),
    fun n tasks hn => h_everywhere (h.several n tasks hn), fun f => h_everywhere (h.onFiles f)⟩

end PolicyTrial
