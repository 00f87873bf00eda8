import PolicyTrial.Host.Procedure

/-!
# What a procedure can count on

A procedure sees its host only through the replies to its actions, so all that it can count on is
said action by action. A `Contract` says which actions a procedure may perform after a given past,
and which replies may come. `Contract.Ensures` folds this over the tree of a procedure: each of its
actions is one that it may perform, and whatever replies may come, it ends as wanted.

The past is kept, since what an action may do depends on what was done before: a port that was taken
is there to be given back, and an answer is one of the server that was launched.

Every procedure in the development is a `do` block, so its `Ensures` is taken apart with
`ensures_bind` and `ensures_perform_bind`. `Contract.Reaches` speaks of one run instead of all of
them: it names the events between two points of a procedure. What a procedure never does is not in
its past either (`Ensures.filter_eq`).
-/

namespace PolicyTrial

/-- An action with its reply. -/
structure Event where
  action : Action
  reply : action.Reply

/-- What a procedure has done so far; the last event comes first. -/
abbrev Past := List Event

/-- What a procedure owes to its host, and what it can count on. -/
structure Contract where
  /-- The actions that a procedure may perform. -/
  Permits : Past → Action → Prop
  /-- The replies that may come. -/
  Promises : Past → (e : Action) → e.Reply → Prop

namespace Contract

variable {α β : Type} {c : Contract} {past : Past} {Q R : Past → α → Prop}

/-- Under a contract a procedure performs only permitted actions, and it ends as wanted whatever
replies come. -/
def Ensures (c : Contract) : Past → Procedure α → (Past → α → Prop) → Prop
  | past, .done a, Q => Q past a
  | past, .ask e k, Q =>
    c.Permits past e ∧ ∀ r, c.Promises past e r → Ensures c (⟨e, r⟩ :: past) (k r) Q

theorem ensures_bind {p : Procedure α} {f : α → Procedure β} {Q : Past → β → Prop} :
    c.Ensures past (p >>= f) Q ↔ c.Ensures past p fun past' a => c.Ensures past' (f a) Q := by
  induction p generalizing past with
  | done a => exact Iff.rfl
  | ask e k ih => exact and_congr_right' (forall₂_congr fun r _ => ih r)

/-- An action, and what follows on the reply to it. -/
theorem ensures_perform_bind {e : Action} {f : e.Reply → Procedure α} :
    c.Ensures past (Procedure.perform e >>= f) Q ↔
      c.Permits past e ∧
        ∀ r, c.Promises past e r → c.Ensures (⟨e, r⟩ :: past) (f r) Q :=
  ensures_bind

theorem ensures_map {p : Procedure α} {f : α → β} {Q : Past → β → Prop} :
    c.Ensures past (f <$> p) Q ↔ c.Ensures past p fun past' a => Q past' (f a) := by
  rw [map_eq_pure_bind, ensures_bind]
  exact Iff.rfl

theorem Ensures.mono {p : Procedure α} (h : c.Ensures past p Q)
    (hQ : ∀ past' a, Q past' a → R past' a) : c.Ensures past p R := by
  induction p generalizing past with
  | done a => exact hQ past a h
  | ask e k ih => exact ⟨h.1, fun r hr => ih r (h.2 r hr)⟩

/-- What is ensured in two ways is ensured at once. -/
theorem Ensures.and {p : Procedure α} (h : c.Ensures past p Q) (h' : c.Ensures past p R) :
    c.Ensures past p fun past' a => Q past' a ∧ R past' a := by
  induction p generalizing past with
  | done a => exact ⟨h, h'⟩
  | ask e k ih => exact ⟨h.1, fun r hr => ih r (h.2 r hr) (h'.2 r hr)⟩

/-- The first part of a procedure, and then the second whatever the first came to. -/
theorem Ensures.bind {p : Procedure α} {f : α → Procedure β} {Q' : Past → β → Prop}
    (h : c.Ensures past p Q) (hf : ∀ past' a, Q past' a → c.Ensures past' (f a) Q') :
    c.Ensures past (p >>= f) Q' :=
  ensures_bind.mpr (h.mono hf)

/-! ### Single runs -/

/-- A run of a procedure on replies that may come: behind a past it leads to this past and this
end. -/
def Reaches (c : Contract) : Past → Procedure α → Past → α → Prop
  | past, .done a, past', a' => past' = past ∧ a' = a
  | past, .ask e k, past', a' =>
    ∃ r, c.Promises past e r ∧ Reaches c (⟨e, r⟩ :: past) (k r) past' a'

theorem reaches_bind {p : Procedure α} {f : α → Procedure β} {past'' : Past} {b : β} :
    c.Reaches past (p >>= f) past'' b ↔
      ∃ past' a, c.Reaches past p past' a ∧ c.Reaches past' (f a) past'' b := by
  induction p generalizing past with
  | done a =>
    constructor
    · exact fun h => ⟨past, a, ⟨rfl, rfl⟩, h⟩
    · rintro ⟨_, _, ⟨rfl, rfl⟩, h⟩
      exact h
  | ask e k ih =>
    constructor
    · rintro ⟨r, hr, h⟩
      obtain ⟨past', a, h_first, h_rest⟩ := (ih r).mp h
      exact ⟨past', a, ⟨r, hr, h_first⟩, h_rest⟩
    · rintro ⟨past', a, ⟨r, hr, h_first⟩, h_rest⟩
      exact ⟨r, hr, (ih r).mpr ⟨past', a, h_first, h_rest⟩⟩

/-- An action, and the run that follows on one reply to it. -/
theorem reaches_perform_bind {e : Action} {f : e.Reply → Procedure α} {past' : Past} {a : α} :
    c.Reaches past (Procedure.perform e >>= f) past' a ↔
      ∃ r, c.Promises past e r ∧ c.Reaches (⟨e, r⟩ :: past) (f r) past' a :=
  Iff.rfl

theorem reaches_map {p : Procedure α} {f : α → β} {past' : Past} {b : β} :
    c.Reaches past (f <$> p) past' b ↔ ∃ a, c.Reaches past p past' a ∧ b = f a := by
  rw [map_eq_pure_bind, reaches_bind]
  constructor
  · rintro ⟨past'', a, h, rfl, rfl⟩
    exact ⟨a, h, rfl⟩
  · rintro ⟨a, h, rfl⟩
    exact ⟨past', a, h, rfl, rfl⟩

/-- What has been done stays done. -/
theorem Reaches.isSuffix {p : Procedure α} {past' : Past} {a : α} (h : c.Reaches past p past' a) :
    past <:+ past' := by
  induction p generalizing past with
  | done _ => exact h.1 ▸ List.suffix_rfl
  | ask e k ih =>
    obtain ⟨r, -, h_rest⟩ := h
    exact (List.suffix_cons _ past).trans (ih r h_rest)

/-- Where some reply may always come, a procedure has a run. -/
theorem exists_reaches (h_reply : ∀ past e, ∃ r, c.Promises past e r) (p : Procedure α) :
    ∃ past' a, c.Reaches past p past' a := by
  induction p generalizing past with
  | done a => exact ⟨past, a, rfl, rfl⟩
  | ask e k ih =>
    obtain ⟨r, hr⟩ := h_reply past e
    obtain ⟨past', a, h⟩ : ∃ past' a, c.Reaches (⟨e, r⟩ :: past) (k r) past' a := ih r
    exact ⟨past', a, r, hr, h⟩

/-- What is ensured holds at the end of each run. -/
theorem Ensures.of_reaches {p : Procedure α} {past' : Past} {a : α} (h : c.Ensures past p Q)
    (h_run : c.Reaches past p past' a) : Q past' a := by
  induction p generalizing past with
  | done _ =>
    obtain ⟨rfl, rfl⟩ := h_run
    exact h
  | ask e k ih =>
    obtain ⟨r, hr, h_rest⟩ := h_run
    exact ih r (h.2 r hr) h_rest

/-! ### Any action, any reply -/

/-- The contract that permits everything and promises nothing. -/
def anything : Contract := ⟨fun _ _ => True, fun _ _ _ => True⟩

/-- Without any promise a procedure ensures what holds of all its ends. -/
theorem ensures_anything_iff (past : Past) {p : Procedure α} {P : α → Prop} :
    anything.Ensures past p (fun _ a => P a) ↔ ∀ a, p.Ends a → P a := by
  induction p generalizing past with
  | done a =>
    refine ⟨fun h a' ha => ?_, fun h => h a (.done a)⟩
    cases ha
    exact h
  | ask e k ih =>
    constructor
    · intro h a ha
      cases ha with
      | ask _ _ r _ ha => exact (ih r _).mp (h.2 r trivial) a ha
    · exact fun h => ⟨trivial, fun r _ => (ih r _).mpr fun a ha => h a (.ask e k r a ha)⟩

theorem ensures_anything (p : Procedure α) : anything.Ensures past p fun _ _ => True :=
  (ensures_anything_iff past).mpr fun _ _ => trivial

/-! ### Actions that are left out -/

/-- The contract that leaves out some actions and promises nothing. -/
def without (P : Action → Bool) : Contract := ⟨fun _ e => P e = false, fun _ _ _ => True⟩

/-- What a procedure leaves out does not get into its past. -/
theorem Ensures.filter_eq {P : Action → Bool} {p : Procedure α} {past' : Past} {a : α}
    (h : (without P).Ensures past p Q) (h_run : anything.Reaches past p past' a) :
    past'.filter (P ·.action) = past.filter (P ·.action) := by
  induction p generalizing past with
  | done _ =>
    obtain ⟨rfl, rfl⟩ := h_run
    rfl
  | ask e k ih =>
    obtain ⟨r, -, h_rest⟩ := h_run
    have h_out : P e = false := h.1
    rw [ih r (h.2 r trivial) h_rest, List.filter_cons_of_neg (by rw [h_out]; exact nofun)]

end Contract

end PolicyTrial
