import PolicyTrial.Proofs.Fallible
import PolicyTrial.Proofs.Host.Interleaving

/-!
# Procedures side by side, with a log

What a procedure does is in its past, and when it leaves, its past goes with it. `World.logging` is
the executor that writes all of it into one log, whoever does it, and lets the same happen otherwise
(`run_iff_exists_log`).

* `Past.Interleave`: a log that is made of some pasts, each in its order, and of nothing else.
* Each of several procedures comes to an end of its own, and the log is made of what they did
  (`several_logging`). A procedure that is alone writes its past into the log (`alone_logging`).
-/

namespace PolicyTrial

open Contract (anything)

/-- The pool of ports, and the log of all that was done; the last event comes first. -/
structure Logged where
  pool : PortPool
  log : Past

/-- One of the first `n` procedures performs an action, which gets into the log, or leaves and makes
room for another. -/
inductive Floor.LogStep {α : Type} (w : World) (n : Nat) : Floor α × Past → Floor α × Past → Prop
  | act {pool pool' : PortPool} {before after : List (Task α)} {ended : List (Nat × α)}
      {number : Nat} {past log : Past} {e : Action} {k : e.Reply → Procedure α} {r : e.Reply}
      (h_front : before.length < n) (h : w.Answers pool past e r pool') :
      LogStep w n (⟨pool, before ++ ⟨number, past, .ask e k⟩ :: after, ended⟩, log)
        (⟨pool', before ++ ⟨number, ⟨e, r⟩ :: past, k r⟩ :: after, ended⟩, ⟨e, r⟩ :: log)
  | leave {pool : PortPool} {before after : List (Task α)} {ended : List (Nat × α)}
      {number : Nat} {past log : Past} {a : α} (h_front : before.length < n) :
      LogStep w n (⟨pool, before ++ ⟨number, past, .done a⟩ :: after, ended⟩, log)
        (⟨pool, before ++ after, ended ++ [(number, a)]⟩, log)

/-- The executor that lets procedures proceed in any order in which they can and logs what they
do. -/
def World.logging (w : World) : Executor (Possible Logged) where
  alone p := fun s a s' => Relation.ReflTransGen (Floor.LogStep w 1)
    (⟨s.pool, [⟨0, [], p⟩], []⟩, s.log) (⟨s'.pool, [], [(0, a)]⟩, s'.log)
  several n tasks := fun s results s' => Relation.ReflTransGen (Floor.LogStep w n)
    (⟨s.pool, tasks.map fun t => ⟨t.1, [], t.2⟩, []⟩, s.log) (⟨s'.pool, [], results⟩, s'.log)
  onFiles f := fun s a s' => (∃ files, (f.run files).1 = a) ∧ s' = s

variable {α : Type} {w : World} {n : Nat} {f f' : Floor α} {log : Past}

/-! ### Nothing but a log -/

theorem Floor.Step.exists_log (h : Step w n f f') (log : Past) :
    ∃ log', LogStep w n (f, log) (f', log') := by
  cases h with
  | act h_front h => exact ⟨_, .act h_front h⟩
  | leave h_front => exact ⟨log, .leave h_front⟩

theorem Floor.LogStep.step {s s' : Floor α × Past} (h : LogStep w n s s') :
    Step w n s.1 s'.1 := by
  cases h with
  | act h_front h => exact .act h_front h
  | leave h_front => exact .leave h_front

/-- The runs with a log are those without one. -/
theorem Floor.run_iff_exists_log (log : Past) :
    Relation.ReflTransGen (Step w n) f f' ↔
      ∃ log', Relation.ReflTransGen (LogStep w n) (f, log) (f', log') := by
  constructor
  · intro h
    induction h with
    | refl => exact ⟨log, .refl⟩
    | tail _ h_step ih =>
      obtain ⟨log₁, h_run⟩ := ih
      obtain ⟨log₂, h_next⟩ := h_step.exists_log log₁
      exact ⟨log₂, h_run.tail h_next⟩
  · rintro ⟨log', h⟩
    exact h.lift Prod.fst fun _ _ => LogStep.step

/-! ### The first procedure -/

/-- The first procedure performs its next action. -/
theorem Floor.LogStep.act_first {pool pool' : PortPool} {number : Nat} {past : Past} {e : Action}
    {k : e.Reply → Procedure α} {after : List (Task α)} {ended : List (Nat × α)} (r : e.Reply)
    (h : w.Answers pool past e r pool') :
    LogStep w 1 (⟨pool, ⟨number, past, .ask e k⟩ :: after, ended⟩, log)
      (⟨pool', ⟨number, ⟨e, r⟩ :: past, k r⟩ :: after, ended⟩, ⟨e, r⟩ :: log) :=
  @LogStep.act _ _ _ _ _ [] after ended _ _ _ _ _ _ Nat.one_pos h

/-- The first procedure leaves. -/
theorem Floor.LogStep.leave_first (pool : PortPool) {number : Nat} {past : Past} {a : α}
    {after : List (Task α)} {ended : List (Nat × α)} :
    LogStep w 1 (⟨pool, ⟨number, past, .done a⟩ :: after, ended⟩, log)
      (⟨pool, after, ended ++ [(number, a)]⟩, log) :=
  @LogStep.leave _ _ _ _ [] after ended _ _ _ _ Nat.one_pos

/-! ### Many pasts in one log -/

/-- A log that is made of some pasts and nothing else. What was done first in the log was done first
in one of the pasts, and the rest of the log is made of what is left of them. -/
inductive Past.Interleave : List Past → Past → Prop
  | nil : Interleave [] []
  | leave {front back : List Past} {log : Past} (h : Interleave (front ++ back) log) :
    Interleave (front ++ [] :: back) log
  | act {front back : List Past} {past log : Past} (event : Event)
      (h : Interleave (front ++ past :: back) log) :
    Interleave (front ++ (past ++ [event]) :: back) (log ++ [event])

theorem Past.Interleave.eq_nil {log : Past} (h : Interleave [] log) : log = [] := by
  generalize h_none : ([] : List Past) = pasts at h
  cases h with
  | nil => rfl
  | leave | act =>
    exact absurd h_none.symm (List.append_ne_nil_of_right_ne_nil _ (List.cons_ne_nil _ _))

/-- The log of a single past is this past. -/
theorem Past.Interleave.eq_of_single {past log : Past} (h : Interleave [past] log) :
    log = past := by
  generalize h_single : [past] = pasts at h
  induction h generalizing past with
  | nil => cases h_single
  | @leave front back log h ih =>
    rcases List.append_eq_singleton_iff.mp h_single.symm with ⟨rfl, h_only⟩ | ⟨-, h_none⟩
    · cases h_only
      exact h.eq_nil
    · cases h_none
  | @act front back past' log event h ih =>
    rcases List.append_eq_singleton_iff.mp h_single.symm with ⟨rfl, h_only⟩ | ⟨-, h_none⟩
    · cases h_only
      rw [ih rfl]
    · cases h_none

/-! ### Who has come to an end -/

/-- A numbered procedure that has come to its end, with all that it did. -/
structure Finished (α : Type) where
  number : Nat
  past : Past
  result : α

/-- The number of a finished procedure with its result. -/
def Finished.numbered (e : Finished α) : Nat × α := (e.number, e.result)

/-- A task comes to an end; what it does until then comes behind its past. -/
def Task.Finishes (t : Task α) (e : Finished α) : Prop :=
  e.number = t.number ∧ anything.Reaches t.past t.rest (e.past ++ t.past) e.result

/-- Each procedure comes to an end of its own, and the log is made of what all of them did. -/
theorem Floor.LogStep.finish {s s' : Floor α × Past}
    (h : Relation.ReflTransGen (LogStep w n) s s') (h_end : s'.1.tasks = []) :
    ∃ log ends results, s'.2 = log ++ s.2 ∧ s'.1.ended = s.1.ended ++ results ∧
      List.Forall₂ Task.Finishes s.1.tasks ends ∧ results.Perm (ends.map (·.numbered)) ∧
      Past.Interleave (ends.map (·.past)) log := by
  induction h using Relation.ReflTransGen.head_induction_on with
  | refl =>
    rw [h_end]
    exact ⟨[], [], [], rfl, (List.append_nil _).symm, .nil, .nil, .nil⟩
  | head h_step h_run ih =>
    obtain ⟨log, ends, results, h_log, h_ended, h_finish, h_results, h_interleave⟩ := ih
    cases h_step with
    | @act _ _ before after _ number past _ e k r =>
      obtain ⟨front, _, h_front, h_rest, rfl⟩ := forall₂_append_left_iff.mp h_finish
      cases h_rest with
      | @cons _ own _ back h_own h_back =>
        -- whoever acts has done one thing more by its end, and this comes first
        let longer : Finished α := ⟨own.number, own.past ++ [⟨e, r⟩], own.result⟩
        have h_longer : Task.Finishes ⟨number, past, .ask e k⟩ longer := by
          refine ⟨h_own.1, r, trivial, ?_⟩
          rw [List.append_assoc]
          exact h_own.2
        refine ⟨log ++ [⟨e, r⟩], front ++ longer :: back, results, ?_, h_ended,
          List.rel_append h_front (.cons h_longer h_back), ?_, ?_⟩
        · rw [h_log, List.append_assoc]
          rfl
        · rw [List.map_append] at h_results ⊢
          exact h_results
        · rw [List.map_append] at h_interleave ⊢
          exact .act ⟨e, r⟩ h_interleave
    | @leave _ before after _ number past _ a =>
      obtain ⟨front, back, h_front, h_back, rfl⟩ := forall₂_append_left_iff.mp h_finish
      have h_own : Task.Finishes ⟨number, past, .done a⟩ ⟨number, [], a⟩ := ⟨rfl, rfl, rfl⟩
      refine ⟨log, front ++ ⟨number, [], a⟩ :: back, (number, a) :: results, h_log, ?_,
        List.rel_append h_front (.cons h_own h_back), ?_, ?_⟩
      · rw [h_ended, List.append_assoc]
        rfl
      · rw [List.map_append] at h_results ⊢
        exact (h_results.cons (number, a)).trans List.perm_middle.symm
      · rw [List.map_append] at h_interleave ⊢
        exact .leave h_interleave

/-- A numbered procedure has come to this end. -/
def Finished.IsOf (e : Finished α) (p : Nat × Procedure α) : Prop :=
  e.number = p.1 ∧ anything.Reaches [] p.2 e.past e.result

namespace World

/-- Each of several procedures comes to an end of its own. What comes of them are their results in
some order, and the log is made of what they did and nothing else. -/
theorem several_logging {tasks : List (Nat × Procedure α)} {s s' : Logged}
    {results : List (Nat × α)} (h : w.logging.several n tasks s results s') :
    ∃ (log : Past) (ends : List (Finished α)), s'.log = log ++ s.log ∧
      List.Forall₂ (fun p e => e.IsOf p) tasks ends ∧
      results.Perm (ends.map (·.numbered)) ∧ Past.Interleave (ends.map (·.past)) log := by
  obtain ⟨log, ends, results', h_log, h_ended, h_finish, h_results, h_interleave⟩ :=
    Floor.LogStep.finish h rfl
  have h_same : results = results' := h_ended
  subst h_same
  refine ⟨log, ends, h_log, ?_, h_results, h_interleave⟩
  -- at first nobody has done anything
  refine (List.forall₂_map_left_iff.mp h_finish).imp fun p e h_own => ⟨h_own.1, ?_⟩
  have h_past : anything.Reaches [] p.2 (e.past ++ []) e.result := h_own.2
  rwa [List.append_nil] at h_past

/-- The log of a procedure that is alone grows by its past. -/
theorem alone_logging {p : Procedure α} {s s' : Logged} {a : α} (h : w.logging.alone p s a s') :
    ∃ past, anything.Reaches [] p past a ∧ s'.log = past ++ s.log := by
  have h_several : w.logging.several 1 [(0, p)] s [(0, a)] s' := h
  obtain ⟨log, _, h_log, h_ends, h_results, h_interleave⟩ := several_logging h_several
  cases h_ends with
  | @cons _ own _ _ h_own h_none =>
    cases h_none
    obtain ⟨number, past, result⟩ := own
    cases List.singleton_perm_singleton.mp h_results
    exact ⟨past, h_own.2, by rw [h_log, h_interleave.eq_of_single]⟩

end World

end PolicyTrial
