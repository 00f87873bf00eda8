import PolicyTrial.Host.Basic
import PolicyTrial.Host.Procedure
import PolicyTrial.Run.Verdicts

/-!
# Workers

Several procedures share a host. So many of them are under way at a time; the others wait in line.
The one whose clock is behind moves next, unless it waits for a permit that nobody has given back
yet.

* `Worker`: a procedure under way, with its own time.
* `Host.share`: the host carries out procedures, several at a time.
* `Host.executor`: the host as an executor.
-/

namespace PolicyTrial

/-- A procedure under way, or waiting to be. -/
structure Worker (α : Type) where
  number : Nat
  /-- How far its clock has come. -/
  time : Nat
  rest : Procedure α

namespace Worker

variable {α : Type}

/-- Whether a worker can move: it cannot take a permit that is not there. -/
def canMove (h : Host) (w : Worker α) : Bool :=
  match w.rest with
  | .ask .takePermit _ => 0 < h.pool.permits
  | _ => true

/-- A worker that starts at some moment at the earliest. -/
def notBefore (moment : Nat) (w : Worker α) : Worker α := { w with time := max w.time moment }

/-- One worker out of several. -/
structure Chosen (ws : List (Worker α)) where
  before : List (Worker α)
  worker : Worker α
  after : List (Worker α)
  eq : ws = before ++ worker :: after

/-- The choice behind one more worker. -/
def Chosen.behind (w : Worker α) {ws : List (Worker α)} (c : Chosen ws) : Chosen (w :: ws) :=
  ⟨w :: c.before, c.worker, c.after, congrArg (w :: ·) c.eq⟩

/-- The worker that moves next, out of the first so many; nothing if none of them can. -/
def next (h : Host) : Nat → (ws : List (Worker α)) → Option (Chosen ws)
  | 0, _ | _, [] => none
  | n + 1, w :: ws =>
    let others := (next h n ws).map (Chosen.behind w)
    if w.canMove h then
      match others with
      -- Of two workers at one moment, the one in front moves.
      | some c => if c.worker.time < w.time then some c else some ⟨[], w, ws, rfl⟩
      | none => some ⟨[], w, ws, rfl⟩
    else others

/-- The rests of some workers, in the order in which their procedures get closer to their ends. -/
structure Rests (α : Type) where
  procedures : List (Procedure α)

instance : WellFoundedRelation (Rests α) where
  rel a b := Procedure.Closer a.procedures b.procedures
  wf := InvImage.wf Rests.procedures Procedure.wellFounded_closer

/-- The rests of some workers. -/
def rests (ws : List (Worker α)) : Rests α := ⟨ws.map (·.rest)⟩

/-- The worker that gets its turn when another one leaves starts at that moment. -/
def startNext (moment : Nat) : Nat → List (Worker α) → List (Worker α)
  | _, [] => []
  | 0, w :: ws => w.notBefore moment :: ws
  | n + 1, w :: ws => w :: startNext moment n ws

@[simp] theorem rests_startNext (moment n : Nat) (ws : List (Worker α)) :
    rests (startNext moment n ws) = rests ws := by
  induction ws generalizing n with
  | nil => cases n <;> rfl
  | cons w ws ih =>
    cases n with
    | zero => rfl
    | succ n => simpa [rests, startNext] using ih n

/-- The others are closer to their ends when the chosen one leaves. -/
theorem Chosen.closer_leave {ws : List (Worker α)} (c : Chosen ws) (moment n : Nat) :
    Procedure.Closer (rests (startNext moment n (c.before ++ c.after))).procedures
      (rests ws).procedures := by
  obtain ⟨before, w, after, rfl⟩ := c
  rw [rests_startNext]
  simpa [rests] using
    Procedure.Closer.leave (before.map (·.rest)) (after.map (·.rest)) w.rest

/-- All are closer to their ends when the chosen one has got a reply. -/
theorem Chosen.closer_step {ws : List (Worker α)} (c : Chosen ws) {e : Action}
    {k : e.Reply → Procedure α} (h : c.worker.rest = .ask e k) (reply : e.Reply) (time : Nat) :
    Procedure.Closer
      (rests (c.before ++ { c.worker with time, rest := k reply } :: c.after)).procedures
      (rests ws).procedures := by
  obtain ⟨before, w, after, rfl⟩ := c
  simpa [rests] using
    Procedure.Closer.step (before.map (·.rest)) (after.map (·.rest)) w.rest (k reply)
      (by rw [show w.rest = .ask e k from h]; exact .reply e k reply)

end Worker

namespace Host

variable {α : Type}

/-- Workers are carried out, so many of them at a time, behind those that have ended, the last of
them at the moment `latest`. -/
def shareOut (jobs latest : Nat) (ended : List (Nat × α)) (ws : List (Worker α)) (h : Host) :
    List (Nat × α) × Host :=
  match ws with
  | [] => (ended, { h with now := latest })
  | w :: ws =>
    -- Should all of them wait for a permit, the first one asks and is refused.
    let c := (Worker.next h jobs (w :: ws)).getD ⟨[], w, ws, rfl⟩
    match _hr : c.worker.rest with
    | .done a =>
      shareOut jobs (max latest c.worker.time) (ended ++ [(c.worker.number, a)])
        (Worker.startNext c.worker.time (jobs - 1) (c.before ++ c.after)) h
    | .ask e k =>
      let (reply, h) := perform e { h with now := c.worker.time }
      shareOut jobs latest ended
        (c.before ++ { c.worker with time := h.now, rest := k reply } :: c.after) h
termination_by Worker.rests ws
decreasing_by
  · exact c.closer_leave _ _
  · exact c.closer_step _hr _ _

/-- The host carries out numbered procedures, so many of them at a time. Its clock is then where the
last one has ended. -/
def share (jobs : Nat) (tasks : List (Nat × Procedure α)) : StateM Host (List (Nat × α)) := fun h =>
  shareOut jobs h.now [] (tasks.map fun (n, p) => ⟨n, h.now, p⟩) h

/-- The host as an executor. -/
def executor : Executor (StateM Host) where
  alone := Procedure.runWith answer
  several := share
  onFiles work := fun h =>
    let (a, files) := work.run h.files
    (a, { h with files })

end Host

end PolicyTrial
