import PolicyTrial.Host.Action

/-!
# Procedures

A procedure says what to do on a host, one action at a time, each depending on the replies before
it. It is a tree with finitely many actions on every path, so whoever answers its actions comes to
its end.

* `Procedure`: a procedure, and the monad of procedures.
* `Procedure.Ends`: the results that some replies lead to.
* `Procedure.runWith`: the procedure with its actions answered in a monad.
* `Procedure.Closer`: one procedure out of several gets one action further; this cannot go on
  forever.
-/

namespace PolicyTrial

/-- What to do on a host, one action at a time. -/
inductive Procedure (α : Type)
  | done (a : α)
  | ask (e : Action) (k : e.Reply → Procedure α)

namespace Procedure

variable {α β γ : Type}

/-- One procedure after another. -/
def bind : Procedure α → (α → Procedure β) → Procedure β
  | done a, f => f a
  | ask e k, f => ask e fun r => (k r).bind f

instance : Monad Procedure where
  pure := done
  bind := bind

@[simp] theorem pure_eq_done (a : α) : (pure a : Procedure α) = done a := rfl

@[simp] theorem done_bind (a : α) (f : α → Procedure β) : (done a >>= f) = f a := rfl

@[simp] theorem ask_bind (e : Action) (k : e.Reply → Procedure α) (f : α → Procedure β) :
    (ask e k >>= f) = ask e fun r => k r >>= f := rfl

@[simp] theorem bind_done (p : Procedure α) : (p >>= done) = p := by
  induction p with
  | done => rfl
  | ask e k ih => rw [ask_bind]; exact congrArg _ (funext ih)

theorem bind_assoc (p : Procedure α) (f : α → Procedure β) (g : β → Procedure γ) :
    (p >>= f >>= g) = (p >>= fun a => f a >>= g) := by
  induction p with
  | done => rfl
  | ask e k ih => simp only [ask_bind]; exact congrArg _ (funext ih)

instance : LawfulMonad Procedure := LawfulMonad.mk' _ bind_done (fun _ _ => rfl) bind_assoc

/-- A single action. -/
def perform (e : Action) : Procedure e.Reply := ask e done

/-- The results that some replies lead to. -/
inductive Ends : Procedure α → α → Prop
  | done (a : α) : Ends (done a) a
  | ask (e : Action) (k : e.Reply → Procedure α) (r : e.Reply) (a : α) (h : Ends (k r) a) :
    Ends (ask e k) a

/-- A procedure with its actions answered in a monad. -/
def runWith {m : Type → Type} [Monad m] (answer : (e : Action) → m e.Reply) : Procedure α → m α
  | done a => pure a
  | ask e k => do (k (← answer e)).runWith answer

/-! ### Several procedures side by side -/

/-- A procedure that is reached from another one by one reply. -/
inductive Next : Procedure α → Procedure α → Prop
  | reply (e : Action) (k : e.Reply → Procedure α) (r : e.Reply) : Next (k r) (ask e k)

theorem acc_next (p : Procedure α) : Acc Next p := by
  induction p with
  | done a => exact ⟨_, fun q h => by cases h⟩
  | ask e k ih => exact ⟨_, fun q h => by cases h with | reply _ _ r => exact ih r⟩

/-- Out of several procedures one gets one action further, or leaves. -/
inductive Closer : List (Procedure α) → List (Procedure α) → Prop
  | step (before after : List (Procedure α)) (p q : Procedure α) (h : Next q p) :
    Closer (before ++ q :: after) (before ++ p :: after)
  | leave (before after : List (Procedure α)) (p : Procedure α) :
    Closer (before ++ after) (before ++ p :: after)

theorem closer_cons_iff {p : Procedure α} {ps ps' : List (Procedure α)} :
    Closer ps' (p :: ps) ↔
      (∃ q, Next q p ∧ ps' = q :: ps) ∨ ps' = ps ∨ ∃ rest, Closer rest ps ∧ ps' = p :: rest := by
  constructor
  · intro h
    generalize hl : p :: ps = l at h
    cases h with
    | step before after p' q hq =>
      cases before with
      | nil => cases hl; exact .inl ⟨q, hq, rfl⟩
      | cons b before => cases hl; exact .inr (.inr ⟨_, .step before after p' q hq, rfl⟩)
    | leave before after p' =>
      cases before with
      | nil => cases hl; exact .inr (.inl rfl)
      | cons b before => cases hl; exact .inr (.inr ⟨_, .leave before after p', rfl⟩)
  · rintro (⟨q, hq, rfl⟩ | rfl | ⟨rest, h, rfl⟩)
    · exact .step [] ps p q hq
    · exact .leave [] ps' p
    · cases h with
      | step before after p' q hq => exact .step (p :: before) after p' q hq
      | leave before after p' => exact .leave (p :: before) after p'

theorem acc_closer_cons {p : Procedure α} (hp : Acc Next p) {ps : List (Procedure α)}
    (hps : Acc Closer ps) : Acc Closer (p :: ps) := by
  induction hp generalizing ps with
  | intro p _ ihp =>
    induction hps with
    | intro ps hacc ihps =>
      refine ⟨_, fun l hl => ?_⟩
      rcases closer_cons_iff.1 hl with ⟨q, hq, rfl⟩ | rfl | ⟨rest, h, rfl⟩
      · exact ihp q hq ⟨_, hacc⟩
      · exact ⟨_, hacc⟩
      · exact ihps rest h

/-- Several procedures cannot go on forever. -/
theorem wellFounded_closer : WellFounded (Closer (α := α)) :=
  ⟨fun ps => by
    induction ps with
    | nil => exact ⟨_, fun l h => by
        generalize hn : [] = n at h
        cases h <;> simp at hn⟩
    | cons p ps ih => exact acc_closer_cons (acc_next p) ih⟩

end Procedure

end PolicyTrial
