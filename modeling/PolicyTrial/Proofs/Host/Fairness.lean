import PolicyTrial.Host.Workers
import PolicyTrial.Proofs.Run.Possible

/-!
# The host is a fair executor

A host that carries out several procedures lets one of its workers move at a time, so each step
either brings one procedure closer to an end of its own or lets one leave with its number and its
result. Nothing is lost on the way: what has ended and what is still under way always stand for the
same procedures (`Host.shareOut_tallies`).
-/

namespace PolicyTrial

variable {α : Type}

/-- Whoever answers the actions of a procedure, it comes to one of its ends. -/
theorem Procedure.ends_runWith {σ : Type} (answer : (e : Action) → StateM σ e.Reply)
    (p : Procedure α) (s : σ) : p.Ends (p.runWith answer s).1 := by
  induction p generalizing s with
  | done a => exact .done a
  | ask e k ih => exact .ask e k _ _ (ih (answer e s).1 (answer e s).2)

namespace Worker

/-- The numbered procedures of some workers. -/
def tasks (ws : List (Worker α)) : List (Nat × Procedure α) :=
  ws.map fun w => (w.number, w.rest)

@[simp] theorem tasks_startNext (moment n : Nat) (ws : List (Worker α)) :
    tasks (startNext moment n ws) = tasks ws := by
  induction ws generalizing n with
  | nil => cases n <;> rfl
  | cons w ws ih =>
    cases n with
    | zero => rfl
    | succ n => exact congrArg (_ :: ·) (ih n)

variable {ws : List (Worker α)} {results : List (Nat × α)}

/-- The chosen one leaves with its result. -/
theorem Chosen.tallies_leave (c : Chosen ws) {a : α} (h_rest : c.worker.rest = .done a)
    (h : Tallies Procedure.Ends (tasks (c.before ++ c.after)) results) :
    Tallies Procedure.Ends (tasks ws) ((c.worker.number, a) :: results) := by
  refine (h.cons (Procedure.Ends.done a)).regroup ?_
  obtain ⟨before, w, after, rfl⟩ := c
  rw [← h_rest]
  exact List.perm_middle.map fun w : Worker α => (w.number, w.rest)

/-- An end behind the reply is an end of the chosen one, and nothing has changed for the others. -/
theorem Chosen.tallies_step (c : Chosen ws) {e : Action} {k : e.Reply → Procedure α}
    (h_rest : c.worker.rest = .ask e k) (reply : e.Reply) (time : Nat)
    (h : Tallies Procedure.Ends
      (tasks (c.before ++ { c.worker with time, rest := k reply } :: c.after)) results) :
    Tallies Procedure.Ends (tasks ws) results := by
  refine h.imp ?_
  obtain ⟨before, w, after, rfl⟩ := c
  rw [tasks, tasks, List.forall₂_map_left_iff, List.forall₂_map_right_iff]
  have h_same : ∀ ws : List (Worker α), List.Forall₂ (fun w w' => w'.number = w.number ∧
      ∀ a, w.rest.Ends a → w'.rest.Ends a) ws ws :=
    fun ws => List.forall₂_same.mpr fun _ _ => ⟨rfl, fun _ ha => ha⟩
  refine List.rel_append (h_same before) (.cons ⟨rfl, fun a ha => ?_⟩ (h_same after))
  rw [h_rest]
  exact .ask e k reply a ha

end Worker

namespace Host

/-- The results behind those that were there already are results of the workers' procedures. -/
theorem shareOut_tallies (jobs latest : Nat) (ended : List (Nat × α)) (ws : List (Worker α))
    (h : Host) : ∃ results, (shareOut jobs latest ended ws h).1 = ended ++ results ∧
      Tallies Procedure.Ends (Worker.tasks ws) results := by
  fun_induction shareOut jobs latest ended ws h with
  | case1 latest ended h => exact ⟨[], (List.append_nil _).symm, .nil⟩
  | case2 latest ended h w ws c a h_rest ih =>
    obtain ⟨results, h_eq, h_tallies⟩ := ih
    rw [Worker.tasks_startNext] at h_tallies
    refine ⟨(c.worker.number, a) :: results, ?_, c.tallies_leave h_rest h_tallies⟩
    rw [h_eq, List.append_assoc]
    rfl
  | case3 latest ended h w ws c e k h_rest reply h' h_perform ih =>
    obtain ⟨results, h_eq, h_tallies⟩ := ih
    exact ⟨results, h_eq, c.tallies_step h_rest reply h'.now h_tallies⟩

/-- **The host is fair**: a procedure alone comes to one of its ends, and several procedures come to
theirs one by one. -/
theorem executor_fair : executor.Fair .ofState where
  alone p h := p.ends_runWith answer h
  several n tasks _ h := by
    obtain ⟨results, h_eq, h_tallies⟩ :=
      shareOut_tallies n h.now [] (tasks.map fun t => ⟨t.1, h.now, t.2⟩) h
    have h_tasks : Worker.tasks (tasks.map fun t => ⟨t.1, h.now, t.2⟩) = tasks := by
      rw [Worker.tasks, List.map_map]
      exact List.map_id _
    rw [h_tasks] at h_tallies
    show Tallies Procedure.Ends tasks
      (shareOut n h.now [] (tasks.map fun t => ⟨t.1, h.now, t.2⟩) h).1
    rwa [h_eq]
  onFiles _ _ := trivial

end Host

end PolicyTrial
