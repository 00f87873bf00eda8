import Mathlib.Logic.Relation
import PolicyTrial.Proofs.Host.Lease
import PolicyTrial.Proofs.Run.Possible
import PolicyTrial.Proofs.ValidSettings

/-!
# Procedures side by side

Several procedures share one pool of ports. So many of them are under way at a time, those in front,
and at each step any one of these performs one action or leaves with its result; which one is left
open, and so is all that the world answers. Only a permit has to be waited for. This is the executor
`World.executor`.

Let each procedure keep to the order in which ports are taken and given back, so that it may count
on `World.lending`. `Floor.Sound` is what every step keeps:

* the permits that are left and those that are out are as many as there are ports;
* the free ports and those that are out are all ports, each once;
* a procedure that is not under way has neither;
* what has ended and what is under way stand for all that was to be done.

Permits bound ports from above, so whoever has a permit finds a port (`Sound.exists_free`) and the
promise of the contract is kept. There is no deadlock either: when no permit is left, then someone
under way has it and can move (`Sound.exists_step`). As procedures are finite, all of them come to
their ends (`World.several_always`).
-/

namespace PolicyTrial

/-- A numbered procedure with what it has done so far. -/
structure Task (α : Type) where
  number : Nat
  past : Past
  rest : Procedure α

/-- Procedures on their way, the pool that they share, and the results of those that have ended. -/
structure Floor (α : Type) where
  pool : PortPool
  tasks : List (Task α)
  ended : List (Nat × α)

/-- What a world with a pool of ports answers. There is no answer as long as a permit has to be
waited for. -/
inductive World.Answers (w : World) (pool : PortPool) (past : Past) :
    (e : Action) → e.Reply → PortPool → Prop
  | takePermit {pool' : PortPool} (h : pool.acquire? = some pool') :
      Answers w pool past .takePermit true pool'
  | popPort {port : Nat} {pool' : PortPool} (h : pool.pop? = some (port, pool')) :
      Answers w pool past .popPort (some port) pool'
  | exhausted (h : pool.pop? = none) : Answers w pool past .popPort none pool
  | pushPort (port : Nat) : Answers w pool past (.pushPort port) () (pool.push port)
  | releasePermit : Answers w pool past .releasePermit () pool.release
  | other {e : Action} {r : e.Reply} (he : e.onPorts = false) (h : w.Replies past e r) :
      Answers w pool past e r pool

/-- One of the first `n` procedures performs an action, or leaves and makes room for another. -/
inductive Floor.Step {α : Type} (w : World) (n : Nat) : Floor α → Floor α → Prop
  | act {pool pool' : PortPool} {before after : List (Task α)} {ended : List (Nat × α)}
      {number : Nat} {past : Past} {e : Action} {k : e.Reply → Procedure α} {r : e.Reply}
      (h_front : before.length < n) (h : w.Answers pool past e r pool') :
      Step w n ⟨pool, before ++ ⟨number, past, .ask e k⟩ :: after, ended⟩
        ⟨pool', before ++ ⟨number, ⟨e, r⟩ :: past, k r⟩ :: after, ended⟩
  | leave {pool : PortPool} {before after : List (Task α)} {ended : List (Nat × α)}
      {number : Nat} {past : Past} {a : α} (h_front : before.length < n) :
      Step w n ⟨pool, before ++ ⟨number, past, .done a⟩ :: after, ended⟩
        ⟨pool, before ++ after, ended ++ [(number, a)]⟩

/-- The executor that lets procedures proceed in any order in which they can, in a world with a pool
of ports. Work on files does not touch the pool. -/
def World.executor (w : World) : Executor (Possible PortPool) where
  alone p := fun pool a pool' =>
    Relation.ReflTransGen (Floor.Step w 1) ⟨pool, [⟨0, [], p⟩], []⟩ ⟨pool', [], [(0, a)]⟩
  several n tasks := fun pool results pool' =>
    Relation.ReflTransGen (Floor.Step w n)
      ⟨pool, tasks.map fun t => ⟨t.1, [], t.2⟩, []⟩ ⟨pool', [], results⟩
  onFiles f := fun pool a pool' => (∃ files, (f.run files).1 = a) ∧ pool' = pool

variable {α γ : Type} {w : World} {n : Nat} {ports : List Nat} {Q : γ → α → Prop}
  {items : List (Nat × γ)}

/-! ### The invariant -/

/-- A task stands for a numbered item if it can still come to a result for it, and has then given
back whatever it took. -/
def Task.IsFor (w : World) (Q : γ → α → Prop) (p : Nat × γ) (t : Task α) : Prop :=
  t.number = p.1 ∧ w.lending.Ensures t.past t.rest fun past a => past.lease = .idle ∧ Q p.2 a

/-- What holds of a floor at all times. -/
structure Floor.Sound (w : World) (n : Nat) (ports : List Nat) (Q : γ → α → Prop)
    (items : List (Nat × γ)) (f : Floor α) : Prop where
  permits : f.pool.permits + f.tasks.countP (·.past.lease.hasPermit) = ports.length
  ports : (f.pool.free ++ f.tasks.flatMap (·.past.lease.ports)).Perm ports
  waiting : ∀ t ∈ f.tasks.drop n, t.past.lease = .idle
  results : ∃ live done, (live ++ done).Perm items ∧ List.Forall₂ (Task.IsFor w Q) live f.tasks ∧
    Tallies Q done f.ended

/-- No more ports are out than permits. -/
theorem Task.length_ports_le (tasks : List (Task α)) :
    (tasks.flatMap (·.past.lease.ports)).length ≤ tasks.countP (·.past.lease.hasPermit) := by
  induction tasks with
  | nil => exact Nat.le_refl _
  | cons t rest ih =>
    rw [List.flatMap_cons, List.length_append, List.countP_cons]
    have h_one := t.past.lease.length_ports_le
    omega

/-- Who has done nothing yet has no port. -/
theorem Task.flatMap_ports_of_new {tasks : List (Task α)} (h_new : ∀ t ∈ tasks, t.past = []) :
    tasks.flatMap (·.past.lease.ports) = [] := by
  rw [List.flatMap_eq_nil_iff]
  intro t ht
  rw [h_new t ht]
  rfl

/-- What is not under way does not depend on the task in front that has its turn. -/
theorem Task.drop_middle {before after : List (Task α)} {t : Task α} (h_front : before.length < n) :
    (before ++ t :: after).drop n = after.drop (n - before.length - 1) := by
  obtain ⟨d, hd⟩ : ∃ d, n - before.length = d + 1 := ⟨n - before.length - 1, by omega⟩
  rw [List.drop_append, List.drop_eq_nil_of_le (Nat.le_of_lt h_front), List.nil_append, hd,
    List.drop_succ_cons, Nat.add_sub_cancel]

/-- Ports that change hands in the midst of others. -/
theorem Lease.perm_middle {free free' out out' front back : List Nat}
    (h : (free' ++ out').Perm (free ++ out)) :
    (free' ++ (front ++ (out' ++ back))).Perm (free ++ (front ++ (out ++ back))) := by
  have h_first : ∀ l l' : List Nat,
      (l ++ (front ++ (l' ++ back))).Perm (l ++ l' ++ (front ++ back)) := by
    intro l l'
    rw [List.append_assoc]
    exact (List.perm_append_comm_assoc front l' back).append_left l
  exact (h_first free' out').trans ((h.append_right _).trans (h_first free out).symm)

/-- An answer only lets ports change hands, as long as none is given back that is not held. -/
theorem World.Answers.ports_perm {pool pool' : PortPool} {past : Past} {e : Action} {r : e.Reply}
    (h : w.Answers pool past e r pool') (he : past.lease.Conserves e) :
    (pool'.free ++ (Past.lease (⟨e, r⟩ :: past)).ports).Perm (pool.free ++ past.lease.ports) := by
  cases h with
  | @takePermit pool' h =>
    have h_none : past.lease.ports = [] := he
    obtain ⟨permits, free⟩ := pool
    cases permits with
    | zero => cases h
    | succ permits =>
      cases h
      rw [h_none]
      exact .refl _
  | @popPort port pool' h =>
    have h_none : past.lease.ports = [] := he
    obtain ⟨permits, free⟩ := pool
    cases free with
    | nil => cases h
    | cons port free =>
      cases h
      rw [h_none]
      show (free ++ [port]).Perm ((port :: free) ++ [])
      rw [List.append_nil]
      exact List.perm_append_singleton port free
  | exhausted h => exact .refl _
  | pushPort port =>
    have h_holding : past.lease = .holding port := he
    rw [h_holding]
    show ((port :: pool.free) ++ []).Perm (pool.free ++ [port])
    rw [List.append_nil]
    exact (List.perm_append_singleton port pool.free).symm
  | releasePermit =>
    have h_none : past.lease.ports = [] := he
    rw [h_none]
    exact .refl _
  | other h_other h => rw [World.lease_cons h_other r]

/-- What one answer does to the pool and to whoever gets it: it keeps the promise of the contract,
and permits only change hands. -/
theorem World.Answers.spec {pool pool' : PortPool} {past : Past} {e : Action} {r : e.Reply}
    (h : w.Answers pool past e r pool') (h_admits : past.lease.Admits e)
    (h_free : past.lease = .permitted → pool.free ≠ []) :
    let lease' := Past.lease (⟨e, r⟩ :: past)
    w.LendingReplies past e r ∧
      pool'.permits + (if lease'.hasPermit then 1 else 0) =
        pool.permits + (if past.lease.hasPermit then 1 else 0) := by
  intro lease'
  cases h with
  | @takePermit pool' h =>
    have h_idle : past.lease = .idle := h_admits
    obtain ⟨permits, free⟩ := pool
    cases permits with
    | zero => cases h
    | succ permits =>
      cases h
      exact ⟨rfl, by rw [h_idle]; rfl⟩
  | @popPort port pool' h =>
    have h_permitted : past.lease = .permitted := h_admits
    obtain ⟨permits, free⟩ := pool
    cases free with
    | nil => cases h
    | cons port free =>
      cases h
      exact ⟨rfl, by rw [h_permitted]; rfl⟩
  | exhausted h =>
    have h_permitted : past.lease = .permitted := h_admits
    refine absurd ?_ (h_free h_permitted)
    rw [PortPool.pop?] at h
    cases h_pool : pool.free with
    | nil => rfl
    | cons port free => rw [h_pool] at h; cases h
  | pushPort port =>
    have h_holding : past.lease = .holding port := h_admits
    exact ⟨trivial, by rw [h_holding]; rfl⟩
  | releasePermit =>
    have h_returned : past.lease = .returned := h_admits
    exact ⟨trivial, by rw [h_returned]; rfl⟩
  | other he h =>
    have h_same : lease' = past.lease := World.lease_cons he r
    exact ⟨(World.lendingReplies_iff he).mpr h, by rw [h_same]⟩

/-- Everything is answered, except that a permit may have to be waited for. -/
theorem World.exists_answer (w : World) (pool : PortPool) (past : Past) (e : Action)
    (h_permit : e = .takePermit → 0 < pool.permits) :
    ∃ r pool', w.Answers pool past e r pool' := by
  cases he : e.onPorts with
  | false =>
    obtain ⟨r, hr⟩ := w.responds past e
    exact ⟨r, pool, .other he hr⟩
  | true =>
    cases e with
    | takePermit =>
      obtain ⟨permits, h_permits⟩ := Nat.exists_eq_add_of_lt (h_permit rfl)
      have h_some : pool.acquire? = some { pool with permits := permits } := by
        rw [PortPool.acquire?, h_permits, Nat.zero_add]
      exact ⟨_, _, .takePermit h_some⟩
    | popPort =>
      cases h_pop : pool.pop? with
      | none => exact ⟨_, _, .exhausted h_pop⟩
      | some found => exact ⟨_, _, .popPort h_pop⟩
    | pushPort port => exact ⟨_, _, .pushPort port⟩
    | releasePermit => exact ⟨_, _, .releasePermit⟩
    | _ => cases he

namespace Floor.Sound

variable {pool : PortPool} {before after : List (Task α)} {t : Task α} {ended : List (Nat × α)}

/-- Whoever has a permit and no port yet finds one. -/
theorem exists_free (h : Sound w n ports Q items ⟨pool, before ++ t :: after, ended⟩)
    (h_permitted : t.past.lease = .permitted) : pool.free ≠ [] := by
  intro h_free
  have h_ports := h.ports.length_eq
  have h_permits := h.permits
  have h_before := Task.length_ports_le before
  have h_after := Task.length_ports_le after
  rw [h_free, List.nil_append, List.flatMap_append, List.flatMap_cons, List.length_append,
    List.length_append, h_permitted] at h_ports
  rw [List.countP_append, List.countP_cons, h_permitted] at h_permits
  -- the task has one of the permits and none of the ports
  have h_one : (if Lease.permitted.hasPermit = true then 1 else 0) = 1 := rfl
  have h_none : Lease.permitted.ports.length = 0 := rfl
  omega

/-- The items of those in front of a task, its own, and those of the ones behind it. -/
theorem exists_item (h : Sound w n ports Q items ⟨pool, before ++ t :: after, ended⟩) :
    ∃ live p live' done, (live ++ p :: live' ++ done).Perm items ∧
      List.Forall₂ (Task.IsFor w Q) live before ∧ Task.IsFor w Q p t ∧
      List.Forall₂ (Task.IsFor w Q) live' after ∧ Tallies Q done ended := by
  obtain ⟨live, done, h_perm, h_live, h_done⟩ := h.results
  have h_before := List.forall₂_take_append live before (t :: after) h_live
  have h_rest := List.forall₂_drop_append live before (t :: after) h_live
  rw [← List.take_append_drop before.length live] at h_perm
  generalize live.drop before.length = rest at h_rest h_perm
  cases h_rest with
  | cons h_task h_after => exact ⟨_, _, _, done, h_perm, h_before, h_task, h_after, h_done⟩

/-- Every step keeps the invariant. -/
theorem step {f f' : Floor α} (h : f.Sound w n ports Q items) (h_step : Step w n f f') :
    f'.Sound w n ports Q items := by
  cases h_step with
  | @act pool pool' before after ended number past e k r h_front h_answer =>
    obtain ⟨live, p, live', done, h_perm, h_before, h_task, h_after, h_done⟩ := h.exists_item
    -- what the pool loses the task gains, and the other way round
    have h_admits : past.lease.Admits e := h_task.2.1
    obtain ⟨h_reply, h_permits⟩ := h_answer.spec h_admits h.exists_free
    refine ⟨?_, ?_, ?_, live ++ p :: live', done, h_perm, ?_, h_done⟩
    · have h_total := h.permits
      simp only [List.countP_append, List.countP_cons] at h_total ⊢
      omega
    · refine List.Perm.trans ?_ h.ports
      rw [List.flatMap_append, List.flatMap_cons, List.flatMap_append, List.flatMap_cons]
      exact Lease.perm_middle (h_answer.ports_perm h_admits.conserves)
    · have h_waiting := h.waiting
      rw [Task.drop_middle h_front] at h_waiting ⊢
      exact h_waiting
    · exact List.rel_append h_before (.cons ⟨h_task.1, h_task.2.2 r h_reply⟩ h_after)
  | @leave pool before after ended number past a h_front =>
    obtain ⟨live, p, live', done, h_perm, h_before, h_task, h_after, h_done⟩ := h.exists_item
    -- the task leaves with nothing, and its item goes from those to come to those that are done
    obtain ⟨h_number, h_idle, h_result⟩ : number = p.1 ∧ past.lease = .idle ∧ Q p.2 a := h_task
    subst h_number
    refine ⟨?_, ?_, ?_, live ++ live', done ++ [p], ?_, List.rel_append h_before h_after,
      h_done.append (Tallies.nil.cons h_result)⟩
    · have h_total := h.permits
      rw [List.countP_append, List.countP_cons, h_idle] at h_total
      rw [List.countP_append]
      exact h_total
    · have h_all := h.ports
      rw [List.flatMap_append, List.flatMap_cons, h_idle] at h_all
      rw [List.flatMap_append]
      exact h_all
    · have h_waiting := h.waiting
      rw [Task.drop_middle h_front] at h_waiting
      rw [List.drop_append, List.drop_eq_nil_of_le (Nat.le_of_lt h_front), List.nil_append]
      exact fun t ht => h_waiting t (List.drop_subset_drop_left _ (Nat.sub_le _ 1) ht)
    · refine List.Perm.trans ?_ h_perm
      rw [List.append_assoc, List.append_assoc]
      refine List.Perm.append_left live ?_
      rw [List.cons_append, ← List.append_assoc]
      exact List.perm_append_singleton p _

/-! ### Nobody waits forever -/

/-- A procedure under way can move, unless it waits for a permit and there is none. -/
theorem exists_step_at (h : Sound w n ports Q items ⟨pool, before ++ t :: after, ended⟩)
    (h_front : before.length < n) (h_permit : t.past.lease = .idle → 0 < pool.permits) :
    ∃ f', Step w n ⟨pool, before ++ t :: after, ended⟩ f' := by
  obtain ⟨live, p, live', done, -, -, h_task, -, -⟩ := h.exists_item
  obtain ⟨number, past, rest⟩ := t
  cases rest with
  | done a => exact ⟨_, .leave h_front⟩
  | ask e k =>
    have h_admits : past.lease.Admits e := h_task.2.1
    obtain ⟨r, pool', h_answer⟩ := w.exists_answer pool past e fun he => h_permit (he ▸ h_admits)
    exact ⟨_, .act h_front h_answer⟩

/-- As long as there are procedures, one of them can move. -/
theorem exists_step {f : Floor α} (h : f.Sound w n ports Q items) (h_tasks : f.tasks ≠ [])
    (hn : 0 < n) (h_ports : 0 < ports.length) : ∃ f', Step w n f f' := by
  obtain ⟨pool, tasks, ended⟩ := f
  rcases Nat.eq_zero_or_pos pool.permits with h_zero | h_pos
  · -- all permits are out, and whoever has one is under way
    have h_out : 0 < tasks.countP (·.past.lease.hasPermit) := by
      have h_permits : pool.permits + tasks.countP (·.past.lease.hasPermit) = ports.length :=
        h.permits
      omega
    obtain ⟨t, ht, h_has⟩ := List.countP_pos_iff.mp h_out
    obtain ⟨before, after, rfl⟩ := List.append_of_mem ht
    have h_busy : t.past.lease ≠ .idle := by
      intro h_idle
      rw [h_idle] at h_has
      cases h_has
    refine h.exists_step_at ?_ fun h_idle => absurd h_idle h_busy
    refine Nat.lt_of_not_le fun h_behind => h_busy (h.waiting t ?_)
    rw [List.drop_append_of_le_length h_behind]
    exact List.mem_append_right _ List.mem_cons_self
  · cases tasks with
    | nil => exact absurd rfl h_tasks
    | cons t rest =>
      have h_first : Sound w n ports Q items ⟨pool, [] ++ t :: rest, ended⟩ := h
      exact h_first.exists_step_at hn fun _ => h_pos

end Floor.Sound

/-- A step brings the procedures closer to their ends. -/
theorem Floor.Step.closer {f f' : Floor α} (h : Step w n f f') :
    Procedure.Closer (f'.tasks.map (·.rest)) (f.tasks.map (·.rest)) := by
  cases h with
  | @act pool pool' before after ended number past e k r =>
    rw [List.map_append, List.map_append]
    exact .step _ _ _ _ (.reply e k r)
  | leave =>
    rw [List.map_append, List.map_append]
    exact .leave _ _ _

/-- All procedures come to their ends. -/
theorem Floor.Sound.exists_end {f : Floor α} (h : f.Sound w n ports Q items) (hn : 0 < n)
    (h_ports : 0 < ports.length) : ∃ f', Relation.ReflTransGen (Step w n) f f' ∧ f'.tasks = [] := by
  -- the induction is on what is left of the procedures, since replies make it less and less
  generalize h_rests : f.tasks.map (·.rest) = rests
  induction rests using Procedure.wellFounded_closer.induction generalizing f with
  | _ rests ih =>
    subst h_rests
    by_cases h_tasks : f.tasks = []
    · exact ⟨f, .refl, h_tasks⟩
    · obtain ⟨f', h_step⟩ := h.exists_step h_tasks hn h_ports
      obtain ⟨f'', h_run, h_end⟩ := ih _ h_step.closer (h.step h_step) rfl
      exact ⟨f'', .head h_step h_run, h_end⟩

theorem Floor.Sound.run {f f' : Floor α} (h : f.Sound w n ports Q items)
    (h_run : Relation.ReflTransGen (Step w n) f f') : f'.Sound w n ports Q items := by
  induction h_run with
  | refl => exact h
  | tail _ h_step ih => exact ih.step h_step

/-! ### What the executor is certain of -/

/-- A pool has all of its ports, and nothing is out. -/
structure PortPool.Holds (ports : List Nat) (pool : PortPool) : Prop where
  permits : pool.permits = ports.length
  free : pool.free.Perm ports

/-- Before anything is under way, nothing is out. -/
theorem Floor.Sound.initial {pool : PortPool} (h_pool : pool.Holds ports) {tasks : List (Task α)}
    (h_new : ∀ t ∈ tasks, t.past = []) (h_tasks : List.Forall₂ (Task.IsFor w Q) items tasks) :
    Floor.Sound w n ports Q items ⟨pool, tasks, []⟩ := by
  have h_permits : tasks.countP (·.past.lease.hasPermit) = 0 := by
    rw [List.countP_eq_zero]
    intro t ht
    rw [h_new t ht]
    exact Bool.false_ne_true
  have h_ports := Task.flatMap_ports_of_new h_new
  refine ⟨?_, ?_, fun t ht => ?_, items, [], by rw [List.append_nil], h_tasks, .nil⟩
  · rw [h_permits]
    exact h_pool.permits
  · rw [h_ports, List.append_nil]
    exact h_pool.free
  · rw [h_new t (List.mem_of_mem_drop ht)]
    rfl

/-- When all have ended, everything is back, and there is a result for each item. -/
theorem Floor.Sound.final {pool : PortPool} {ended : List (Nat × α)}
    (h : Floor.Sound w n ports Q items ⟨pool, [], ended⟩) :
    pool.Holds ports ∧ Tallies Q items ended := by
  obtain ⟨live, done, h_perm, h_live, h_done⟩ := h.results
  refine ⟨⟨h.permits, ?_⟩, h_done.regroup ?_⟩
  · have h_free := h.ports
    rwa [List.flatMap_nil, List.append_nil] at h_free
  · cases h_live
    exact h_perm.symm

namespace World

/-- **Procedures side by side.** Let each of some procedures keep to the order of ports and end as
wanted wherever a port is lent to it. Then in whatever order they proceed, all of them end so, each
once, and the pool has all of its ports again. -/
theorem several_always (hn : 0 < n) (h_ports : 0 < ports.length) {tasks : List (Nat × Procedure α)}
    (h : List.Forall₂ (fun p t => Task.IsFor w Q p ⟨t.1, [], t.2⟩) items tasks) :
    (Possible.within (PortPool.Holds ports)).Always (w.executor.several n tasks)
      (Tallies Q items) := by
  intro pool h_pool
  have h_sound : Floor.Sound w n ports Q items
      ⟨pool, tasks.map fun t => ⟨t.1, [], t.2⟩, []⟩ := by
    refine .initial h_pool (fun t ht => ?_) (List.forall₂_map_right_iff.mpr h)
    obtain ⟨_, _, rfl⟩ := List.mem_map.mp ht
    rfl
  constructor
  · obtain ⟨⟨pool', tasks', ended⟩, h_run, h_end⟩ := h_sound.exists_end hn h_ports
    subst h_end
    exact ⟨ended, pool', h_run⟩
  · exact fun ended pool' h_run => (h_sound.run h_run).final

/-- A procedure alone is one of one. -/
theorem alone_always (h_ports : 0 < ports.length) {p : Procedure α} {P : α → Prop}
    (h : w.lending.Ensures [] p fun past a => past.lease = .idle ∧ P a) :
    (Possible.within (PortPool.Holds ports)).Always (w.executor.alone p) P := by
  intro pool h_pool
  have h_task : List.Forall₂ (fun (p : Nat × Unit) t =>
      Task.IsFor w (fun _ => P) p ⟨t.1, [], t.2⟩) [(0, ())] [(0, p)] := .cons ⟨rfl, h⟩ .nil
  -- all steps of the procedure are steps of a floor with this one task
  obtain ⟨⟨results, pool', h_run⟩, h_all⟩ := several_always Nat.one_pos h_ports h_task pool h_pool
  constructor
  · obtain ⟨a, rfl, -⟩ := (h_all results pool' h_run).2.singleton
    exact ⟨a, pool', h_run⟩
  · intro a pool' h_run
    obtain ⟨h_pool', h_tallies⟩ := h_all [(0, a)] pool' h_run
    obtain ⟨a', h_eq, ha⟩ := h_tallies.singleton
    cases h_eq
    exact ⟨h_pool', ha⟩

end World

/-- A new pool has a permit for each of its ports. -/
theorem Settings.holds_ports (s : Settings) : s.ports.Holds s.ports.free := ⟨rfl, .refl _⟩

end PolicyTrial
