import Mathlib.Data.List.Flatten
import PolicyTrial.Proofs.Host.Interleaving
import PolicyTrial.Proofs.Host.Serving
import PolicyTrial.Proofs.Run.Passage

/-!
# Servers of procedures side by side

Several procedures share a pool of ports, and they launch servers. A `Scene` shows them at one
moment, together with the servers that run by then, whoever launched them. Each step is that of one
procedure out of those under way, as it is without an eye on servers (`World.several_covers`). A
procedure that crashes comes to an end without a result. It stays where it is, so a scene with one
in it has no end; but the others may still go on for a while.

Let all procedures keep to the order of `hosting`. Then each step keeps a scene sound
(`Scene.Sound.step`):

* The free ports and those that are out are all ports, each once.
* Only what some procedure has launched and not torn down runs, and no more often.
* Each procedure has its servers on ports of its own.

So the ports of the servers that run are apart as long as those of the procedures are. A pool keeps
the ports on loan apart (`World.several_keepsApart`), and a procedure that is alone has nobody to
share with (`World.alone_keepsApart`).
-/

namespace PolicyTrial

/-- The pool of ports, and the servers that run. -/
structure Site where
  pool : PortPool
  servers : List LiveServer

/-- Procedures on their way, and the results of those that have ended. A procedure that has crashed
has no result. -/
structure Scene (α : Type) where
  site : Site
  tasks : List (Task (Option α))
  ended : List (Nat × α)

/-- One of the first `n` procedures performs an action, or leaves with its result and makes room for
another. -/
inductive Scene.Step {α : Type} (w : World) (n : Nat) : Scene α → Scene α → Prop
  | act {pool pool' : PortPool} {servers : List LiveServer} {before after : List (Task (Option α))}
      {ended : List (Nat × α)} {number : Nat} {past : Past} {e : Action}
      {k : e.Reply → Procedure (Option α)} {r : e.Reply}
      (h_front : before.length < n) (h : w.Answers pool past e r pool') :
      Step w n ⟨⟨pool, servers⟩, before ++ ⟨number, past, .ask e k⟩ :: after, ended⟩
        ⟨⟨pool', LiveServer.after servers e r⟩,
          before ++ ⟨number, ⟨e, r⟩ :: past, k r⟩ :: after, ended⟩
  | leave {site : Site} {before after : List (Task (Option α))} {ended : List (Nat × α)}
      {number : Nat} {past : Past} {a : α} (h_front : before.length < n) :
      Step w n ⟨site, before ++ ⟨number, past, .done (some a)⟩ :: after, ended⟩
        ⟨site, before ++ after, ended ++ [(number, a)]⟩

/-- A numbered procedure begins on one of its courses. -/
def Task.Begins {α : Type} (course : Procedure α → Procedure (Option α) → Prop)
    (item : Nat × Procedure α) (t : Task (Option α)) : Prop :=
  t.number = item.1 ∧ t.past = [] ∧ course item.2 t.rest

/-- The executor that lets procedures proceed in any order in which they can, each on any of its
courses, and that shows the servers on the way. A procedure that is alone has one course only. -/
def World.watched (w : World) (course : {α : Type} → Procedure α → Procedure (Option α) → Prop) :
    Executor (Passage Site) where
  alone p :=
    { passes := fun site site' => ∃ tasks ended, Relation.ReflTransGen (Scene.Step w 1)
        ⟨site, [⟨0, [], some <$> p⟩], []⟩ ⟨site', tasks, ended⟩
      ends := fun site a site' => Relation.ReflTransGen (Scene.Step w 1)
        ⟨site, [⟨0, [], some <$> p⟩], []⟩ ⟨site', [], [(0, a)]⟩ }
  several n items :=
    { passes := fun site site' => ∃ tasks tasks' ended,
        List.Forall₂ (Task.Begins course) items tasks ∧
        Relation.ReflTransGen (Scene.Step w n) ⟨site, tasks, []⟩ ⟨site', tasks', ended⟩
      ends := fun site results site' => ∃ tasks, List.Forall₂ (Task.Begins course) items tasks ∧
        Relation.ReflTransGen (Scene.Step w n) ⟨site, tasks, []⟩ ⟨site', [], results⟩ }
  onFiles f :=
    { passes := fun site site' => site' = site
      ends := fun site a site' => (∃ files, (f.run files).1 = a) ∧ site' = site }

variable {α : Type} {w : World} {n : Nat} {places : Lease → List Nat} {ports : List Nat}

/-- Whatever begins is a course of one of the items. -/
theorem Task.exists_item {course : Procedure α → Procedure (Option α) → Prop}
    {items : List (Nat × Procedure α)} {tasks : List (Task (Option α))}
    (h : List.Forall₂ (Begins course) items tasks) {t : Task (Option α)} (ht : t ∈ tasks) :
    ∃ item ∈ items, Begins course item t := by
  induction h with
  | nil => exact absurd ht List.not_mem_nil
  | @cons item t' items tasks h_begins _ ih =>
    rcases List.mem_cons.mp ht with rfl | ht
    · exact ⟨item, List.mem_cons_self, h_begins⟩
    · obtain ⟨item', h_item, h_begins'⟩ := ih ht
      exact ⟨item', List.mem_cons_of_mem item h_item, h_begins'⟩

/-! ### Runs without an eye on servers -/

/-- A floor as a scene with some servers that run, where no procedure crashes. -/
def Floor.scene (servers : List LiveServer) (f : Floor α) : Scene α :=
  ⟨⟨f.pool, servers⟩, f.tasks.map fun t => ⟨t.number, t.past, some <$> t.rest⟩, f.ended⟩

/-- A step is a step whether servers are watched or not. -/
theorem Floor.Step.scene {f f' : Floor α} (h : Floor.Step w n f f') (servers : List LiveServer) :
    ∃ servers', Scene.Step w n (f.scene servers) (f'.scene servers') := by
  cases h with
  | @act pool pool' before after ended number past e k r h_front h_answer =>
    refine ⟨LiveServer.after servers e r, ?_⟩
    rw [Floor.scene, Floor.scene, List.map_append, List.map_append]
    exact .act (by rwa [List.length_map]) h_answer
  | @leave pool before after ended number past a h_front =>
    refine ⟨servers, ?_⟩
    rw [Floor.scene, Floor.scene, List.map_append, List.map_append]
    exact .leave (by rwa [List.length_map])

theorem Floor.run_scene {f f' : Floor α} (h : Relation.ReflTransGen (Floor.Step w n) f f')
    (servers : List LiveServer) :
    ∃ servers', Relation.ReflTransGen (Scene.Step w n) (f.scene servers) (f'.scene servers') := by
  induction h with
  | refl => exact ⟨servers, .refl⟩
  | tail _ h_step ih =>
    obtain ⟨servers₁, h_run⟩ := ih
    obtain ⟨servers₂, h_next⟩ := h_step.scene servers₁
    exact ⟨servers₂, h_run.tail h_next⟩

/-- Whatever a computation on a pool may come to, another one on a site may come to as well. -/
def Passage.Covers (g : Passage Site α) (f : Possible PortPool α) : Prop :=
  ∀ pool a pool' servers, f pool a pool' → ∃ servers', g.ends ⟨pool, servers⟩ a ⟨pool', servers'⟩

namespace Passage.Covers

theorem pure (a : α) : Covers (Pure.pure a) (Pure.pure a) := by
  rintro pool _ _ servers ⟨rfl, rfl⟩
  exact ⟨servers, rfl, rfl⟩

theorem bind {β : Type} {g : Passage Site α} {f : Possible PortPool α} {g' : α → Passage Site β}
    {f' : α → Possible PortPool β} (h : g.Covers f) (h' : ∀ a, (g' a).Covers (f' a)) :
    (g >>= g').Covers (f >>= f') := by
  rintro pool b pool'' servers ⟨a, pool', h_first, h_rest⟩
  obtain ⟨servers', h_first'⟩ := h pool a pool' servers h_first
  obtain ⟨servers'', h_rest'⟩ := h' a pool' b pool'' servers' h_rest
  exact ⟨servers'', a, ⟨pool', servers'⟩, h_first', h_rest'⟩

end Passage.Covers

namespace World

variable (w : World) {course : {α : Type} → Procedure α → Procedure (Option α) → Prop}

theorem alone_covers (p : Procedure α) : ((w.watched course).alone p).Covers (w.executor.alone p) :=
  fun _ _ _ servers h => Floor.run_scene h servers

/-- Procedures that may be gone through come to whatever they come to when nobody watches. -/
theorem several_covers (h_whole : ∀ {α : Type} (p : Procedure α), course p (some <$> p)) (n : Nat)
    (items : List (Nat × Procedure α)) :
    ((w.watched course).several n items).Covers (w.executor.several n items) := by
  intro pool results pool' servers h
  obtain ⟨servers', h_run⟩ := Floor.run_scene h servers
  rw [Floor.scene, Floor.scene, List.map_map] at h_run
  refine ⟨servers', _, ?_, h_run⟩
  rw [List.forall₂_map_right_iff]
  exact List.forall₂_same.mpr fun item _ => ⟨rfl, rfl, h_whole item.2⟩

theorem onFiles_covers (f : StateM FileTree α) :
    ((w.watched course).onFiles f).Covers (w.executor.onFiles f) := by
  rintro pool a _ servers ⟨h_files, rfl⟩
  exact ⟨servers, h_files, rfl⟩

end World

/-! ### The invariant -/

/-- A task has its servers on ports of its own, keeps to the order, and leaves nothing behind. -/
structure Task.IsHosted (places : Lease → List Nat) (t : Task (Option α)) : Prop where
  servers : (t.past.servers.map (·.port)).Sublist (places t.past.lease)
  rest : (hosting places).Ensures t.past t.rest fun past _ => past.IsClear

/-- What holds of a scene at all times. -/
structure Scene.Sound (places : Lease → List Nat) (ports : List Nat) (s : Scene α) : Prop where
  ports : (s.site.pool.free ++ s.tasks.flatMap (·.past.lease.ports)).Perm ports
  servers : s.site.servers.Subperm (s.tasks.flatMap (·.past.servers))
  hosted : ∀ t ∈ s.tasks, t.IsHosted places

/-- The end of a process is its end wherever it is listed. -/
theorem LiveServer.filter_subperm {servers front own back : List LiveServer}
    (h : servers.Subperm (front ++ (own ++ back))) (p : LiveServer → Bool) :
    (servers.filter p).Subperm (front ++ (own.filter p ++ back)) := by
  have h_filter := h.filter p
  rw [List.filter_append, List.filter_append] at h_filter
  refine h_filter.trans (List.Sublist.subperm ?_)
  exact List.filter_sublist.append ((List.Sublist.refl _).append List.filter_sublist)

/-- What runs is what the procedures have launched, also after an action of one of them. -/
theorem LiveServer.after_subperm {servers front own back : List LiveServer}
    (h : servers.Subperm (front ++ (own ++ back))) (e : Action) (r : e.Reply) :
    (LiveServer.after servers e r).Subperm (front ++ (LiveServer.after own e r ++ back)) := by
  cases e with
  | launch command port =>
    cases r with
    | none => exact h
    | some process =>
      show (⟨process, port⟩ :: servers).Subperm (front ++ (⟨process, port⟩ :: (own ++ back)))
      exact ((List.subperm_cons _).mpr h).trans List.perm_middle.symm.subperm
  | awaitExit process limit =>
    cases r with
    | exited => exact filter_subperm h _
    | failed | elapsed => exact h
  | kill process => exact filter_subperm h _
  | _ => exact h

namespace Scene.Sound

/-- Every step keeps the invariant. -/
theorem step {s s' : Scene α} (h : s.Sound places ports) (h_step : Step w n s s') :
    s'.Sound places ports := by
  cases h_step with
  | @act pool pool' servers before after ended number past e k r h_front h_answer =>
    have h_task := h.hosted _ (List.mem_append_right before List.mem_cons_self)
    obtain ⟨h_permits, h_rest⟩ := h_task.rest
    refine ⟨?_, ?_, fun t ht => ?_⟩
    · -- what the pool loses the task gains, and the other way round
      refine List.Perm.trans ?_ h.ports
      rw [List.flatMap_append, List.flatMap_cons, List.flatMap_append, List.flatMap_cons]
      exact Lease.perm_middle (h_answer.ports_perm (conserves_of_hosting h_permits))
    · have h_servers := h.servers
      rw [List.flatMap_append, List.flatMap_cons] at h_servers ⊢
      exact LiveServer.after_subperm h_servers e r
    · have h_new : Task.IsHosted places ⟨number, ⟨e, r⟩ :: past, k r⟩ :=
        ⟨ports_sublist_places h_permits r h_task.servers, h_rest r trivial⟩
      rcases List.mem_append.mp ht with ht | ht
      · exact h.hosted t (List.mem_append_left _ ht)
      · rcases List.mem_cons.mp ht with rfl | ht
        · exact h_new
        · exact h.hosted t (List.mem_append_right before (List.mem_cons_of_mem _ ht))
  | @leave site before after ended number past a h_front =>
    -- the task leaves with nothing
    have h_clear : past.IsClear :=
      (h.hosted _ (List.mem_append_right before List.mem_cons_self)).rest
    refine ⟨?_, ?_, fun t ht => h.hosted t ?_⟩
    · have h_ports := h.ports
      rw [List.flatMap_append, List.flatMap_cons, h_clear.ports] at h_ports
      rw [List.flatMap_append]
      exact h_ports
    · have h_servers := h.servers
      rw [List.flatMap_append, List.flatMap_cons, h_clear.servers] at h_servers
      rw [List.flatMap_append]
      exact h_servers
    · rcases List.mem_append.mp ht with ht | ht
      · exact List.mem_append_left _ ht
      · exact List.mem_append_right before (List.mem_cons_of_mem _ ht)

theorem run {s s' : Scene α} (h : s.Sound places ports)
    (h_run : Relation.ReflTransGen (Step w n) s s') : s'.Sound places ports := by
  induction h_run with
  | refl => exact h
  | tail _ h_step ih => exact ih.step h_step

/-- What runs is on ports of the procedures. -/
theorem servers_places {s : Scene α} (h : s.Sound places ports) :
    (s.site.servers.map (·.port)).Subperm (s.tasks.flatMap fun t => places t.past.lease) := by
  obtain ⟨running, h_perm, h_sublist⟩ := h.servers
  have h_launched : (s.site.servers.map (·.port)).Subperm
      ((s.tasks.flatMap (·.past.servers)).map (·.port)) :=
    ⟨running.map (·.port), h_perm.map _, h_sublist.map _⟩
  refine h_launched.trans (List.Sublist.subperm ?_)
  rw [List.map_flatMap]
  exact List.Sublist.flatMap_right _ fun t ht => (h.hosted t ht).servers

end Scene.Sound

/-! ### Servers apart -/

namespace Site

/-- No two servers run on one port, and each runs on one of these ports. -/
structure KeepsApart (ports : List Nat) (site : Site) : Prop where
  nodup : (site.servers.map (·.port)).Nodup
  mem : ∀ server ∈ site.servers, server.port ∈ ports

/-- Nothing runs, and all ports are free. -/
structure IsIdle (ports : List Nat) (site : Site) : Prop where
  free : site.pool.free.Perm ports
  servers : site.servers = []

variable {site : Site}

theorem KeepsApart.of_subperm {ports' : List Nat}
    (h : (site.servers.map (·.port)).Subperm ports') (h_nodup : ports'.Nodup)
    (h_subset : ports' ⊆ ports) : site.KeepsApart ports := by
  constructor
  · obtain ⟨running, h_perm, h_sublist⟩ := h
    exact h_perm.nodup_iff.mp (h_sublist.nodup h_nodup)
  · intro server h_server
    exact h_subset (h.subset (List.mem_map_of_mem h_server))

/-- Where nothing runs there is nothing to be kept apart. -/
theorem IsIdle.keepsApart (h : site.IsIdle ports) : site.KeepsApart ports := by
  constructor
  · rw [h.servers]
    exact List.nodup_nil
  · rw [h.servers]
    exact fun server h_server => absurd h_server List.not_mem_nil

/-- Certainty that servers are kept apart on the way, and that none is left behind. -/
def orderly (ports : List Nat) : Assurance (Passage Site) :=
  Passage.throughout (IsIdle ports) (KeepsApart ports) fun _ => IsIdle.keepsApart

end Site

namespace Scene.Sound

/-- A scene is sound before anything is under way. -/
theorem initial {site : Site} (h_site : site.IsIdle ports) {tasks : List (Task (Option α))}
    (h_new : ∀ t ∈ tasks, t.past = [] ∧
      (hosting places).Ensures [] t.rest fun past _ => past.IsClear) :
    Sound places ports ⟨site, tasks, []⟩ := by
  have h_ports := Task.flatMap_ports_of_new fun t ht => (h_new t ht).1
  refine ⟨?_, ?_, fun t ht => ?_⟩
  · rw [h_ports, List.append_nil]
    exact h_site.free
  · rw [h_site.servers]
    exact List.nil_subperm
  · obtain ⟨h_past, h_rest⟩ := h_new t ht
    constructor
    · rw [h_past]
      exact List.nil_sublist _
    · rw [h_past]
      exact h_rest

/-- When all have left, nothing runs and all ports are free. -/
theorem final {site : Site} {ended : List (Nat × α)} (h : Sound places ports ⟨site, [], ended⟩) :
    site.IsIdle ports := by
  have h_ports := h.ports
  rw [List.flatMap_nil, List.append_nil] at h_ports
  exact ⟨h_ports, List.subperm_nil.mp h.servers⟩

/-- Servers on ports on loan are apart, since the ports are. -/
theorem keepsApart_of_lease {s : Scene α} (h : s.Sound Lease.ports ports) (h_nodup : ports.Nodup) :
    s.site.KeepsApart ports := by
  have h_all : (s.site.pool.free ++ s.tasks.flatMap (·.past.lease.ports)).Nodup :=
    h.ports.nodup_iff.mpr h_nodup
  refine .of_subperm h.servers_places h_all.of_append_right ?_
  exact fun port h_port => h.ports.subset (List.mem_append_right _ h_port)

/-- A single procedure with a port that is agreed upon has at most one server. -/
theorem keepsApart_of_fixed {s : Scene α} {port : Nat} (h : s.Sound (fun _ => [port]) ports)
    (h_one : s.tasks.length ≤ 1) (h_port : port ∈ ports) : s.site.KeepsApart ports := by
  have h_places : (s.tasks.flatMap fun _ => [port]).Sublist [port] := by
    match s.tasks, h_one with
    | [], _ => exact List.nil_sublist _
    | [_], _ => exact .refl _
  refine .of_subperm (h.servers_places.trans h_places.subperm) (List.nodup_singleton port) ?_
  intro port' h_port'
  rwa [List.mem_singleton.mp h_port']

end Scene.Sound

/-- Nobody joins a scene. -/
theorem Scene.length_tasks_le {s s' : Scene α} (h : Relation.ReflTransGen (Step w n) s s') :
    s'.tasks.length ≤ s.tasks.length := by
  induction h with
  | refl => exact Nat.le_refl _
  | tail _ h_step ih =>
    refine Nat.le_trans ?_ ih
    cases h_step with
    | act => simp only [List.length_append, List.length_cons, Nat.le_refl]
    | leave =>
      rw [List.length_append, List.length_append, List.length_cons]
      omega

/-! ### What the executor is certain of -/

namespace World

variable {course : {α : Type} → Procedure α → Procedure (Option α) → Prop}

/-- **Procedures with a port on loan each.** However they proceed, no two of their servers are on
one port, and in the end none is left. -/
theorem several_keepsApart (h_nodup : ports.Nodup) {items : List (Nat × Procedure α)}
    (h_courses : ∀ item ∈ items, ∀ rest, course item.2 rest →
      (hosting Lease.ports).Ensures [] rest fun past _ => past.IsClear) :
    (Site.orderly ports).Always ((w.watched course).several n items) fun _ => True := by
  intro site h_site
  have h_initial : ∀ tasks, List.Forall₂ (Task.Begins course) items tasks →
      Scene.Sound Lease.ports ports ⟨site, tasks, []⟩ := by
    intro tasks h_begin
    refine .initial h_site fun t ht => ?_
    obtain ⟨item, h_item, -, h_past, h_course⟩ := Task.exists_item h_begin ht
    exact ⟨h_past, h_courses item h_item t.rest h_course⟩
  constructor
  · rintro site' ⟨tasks, tasks', ended, h_begin, h_run⟩
    exact ((h_initial tasks h_begin).run h_run).keepsApart_of_lease h_nodup
  · rintro results site' ⟨tasks, h_begin, h_run⟩
    exact ⟨((h_initial tasks h_begin).run h_run).final, trivial⟩

/-- **A procedure that is alone** has its server on the port that is agreed upon, and in the end it
has none. -/
theorem alone_keepsApart {port : Nat} (h_port : port ∈ ports) {p : Procedure α}
    (hp : (hosting fun _ => [port]).Ensures [] p fun past _ => past.IsClear) :
    (Site.orderly ports).Always ((w.watched course).alone p) fun _ => True := by
  intro site h_site
  have h_initial : Scene.Sound (fun _ => [port]) ports ⟨site, [⟨0, [], some <$> p⟩], []⟩ := by
    refine .initial h_site fun t ht => ?_
    rw [List.mem_singleton.mp ht]
    exact ⟨rfl, Contract.ensures_map.mpr hp⟩
  constructor
  · rintro site' ⟨tasks, ended, h_run⟩
    exact (h_initial.run h_run).keepsApart_of_fixed (Scene.length_tasks_le h_run) h_port
  · intro a site' h_run
    exact ⟨(h_initial.run h_run).final, trivial⟩

end World

end PolicyTrial
