import PolicyTrial.Proofs.Engine.Trials

/-!
# A world for every engine

Whatever an engine does, there is a world that it governs (`Engine.governs_world`): time stands
still, a server that gets ready is found ready by the first probe, one that exits has exited before
it, and every process ends when it is asked to. Which bundle a command is for can be read off its
arguments.
-/

namespace PolicyTrial

/-- Where the bundle leads that stands at a place among the arguments of a command. -/
def Command.placeAt (c : Command) (i : Nat) : BundlePlace :=
  Path.rankedParts (c.arguments.getD i "")

namespace Engine

/-- What comes of starting the server that was launched last. -/
def startupAt (E : Engine) (past : Past) : Startup :=
  match past.served with
  | some command => E.startup (command.placeAt 2)
  | none => .notLaunched

/-- How an engine answers if nothing else takes time. -/
def reply (E : Engine) (past : Past) : (e : Action) → e.Reply
  | .clock => ⟨0⟩
  | .run command input _ _ => E.invoked (command.placeAt 3) (input.getD [])
  | .launch command _ =>
    match E.startup (command.placeAt 2) with
    | .notLaunched => none
    | _ => some (0 : ProcessId)
  | .poll _ =>
    match E.startupAt past with
    | .exited code _ => some code
    | _ => none
  | .settle .. => ()
  | .captured _ =>
    match E.startupAt past with
    | .exited _ stderr => stderr
    | _ => []
  | .get .. =>
    match E.startupAt past with
    | .ready => .answered 200
    | _ => .failed
  | .post _ payload _ _ =>
    match past.served with
    | some command => E.answer (command.placeAt 2) payload
    | none => .failed
  | .pause _ => ()
  | .terminate _ => ()
  | .awaitExit .. => .exited
  | .kill _ => true
  | .takePermit => true
  | .popPort => none
  | .pushPort _ => ()
  | .releasePermit => ()

/-- The world in which this is so. -/
def world (E : Engine) : World where
  Replies past e r := r = E.reply past e
  responds past e := ⟨E.reply past e, rfl⟩

variable (E : Engine) {past : Past} {s : ServerSettings} {bundle : String} {port : Nat}

theorem startupAt_of_served (past : Past)
    (h_served : past.served = some (s.command bundle port)) :
    E.startupAt past = E.startup (Path.rankedParts bundle) := by
  rw [startupAt, h_served]
  rfl

theorem reply_launch (h : E.startup (Path.rankedParts bundle) ≠ .notLaunched) :
    E.reply past (.launch (s.command bundle port) port) = some (0 : ProcessId) := by
  show (match E.startup (Path.rankedParts bundle) with
    | .notLaunched => none
    | _ => some (0 : ProcessId)) = some 0
  cases h_startup : E.startup (Path.rankedParts bundle) with
  | notLaunched => exact absurd h_startup h
  | exited code stderr => rfl
  | silent | ready => rfl

/-- The first probe decides, unless the server is silent: then none does. -/
theorem probe_ensures (left : Nat) (h_served : past.served = some (s.command bundle port))
    (h_launched : E.startup (Path.rankedParts bundle) ≠ .notLaunched)
    (h_left : left = 0 → E.startup (Path.rankedParts bundle) = .silent) :
    E.world.lending.Ensures past (Readiness.probe s (s.client port 0) left) fun _ r =>
      r = (E.startup (Path.rankedParts bundle)).result s port := by
  induction left generalizing past with
  | zero =>
    rw [h_left rfl]
    exact rfl
  | succ left ih =>
    unfold Readiness.probe
    refine Contract.ensures_perform_bind.mpr ⟨trivial, fun exited h_exited => ?_⟩
    replace h_exited : exited = E.reply past (.poll 0) := h_exited
    rw [reply, E.startupAt_of_served past h_served] at h_exited
    -- no later event of the probe launches anything
    cases h_startup : E.startup (Path.rankedParts bundle) with
    | notLaunched => exact absurd h_startup h_launched
    | exited code stderr =>
      rw [h_startup] at h_exited
      subst h_exited
      refine Contract.ensures_perform_bind.mpr ⟨trivial, fun settled _ => ?_⟩
      refine Contract.ensures_perform_bind.mpr ⟨trivial, fun captured h_captured => ?_⟩
      let settling : Past := ⟨.settle 0 s.probeTimeout, settled⟩ :: ⟨.poll 0, some code⟩ :: past
      replace h_captured : captured = E.reply settling (.captured 0) := h_captured
      rw [reply, E.startupAt_of_served settling h_served, h_startup] at h_captured
      subst h_captured
      exact rfl
    | silent =>
      rw [h_startup] at h_exited
      subst h_exited
      rw [Client.health_bind]
      refine Contract.ensures_perform_bind.mpr ⟨trivial, fun health h_health => ?_⟩
      replace h_health : health = E.reply (⟨.poll 0, none⟩ :: past) (.get _ _) := h_health
      rw [reply, E.startupAt_of_served (⟨.poll 0, none⟩ :: past) h_served, h_startup] at h_health
      subst h_health
      refine Contract.ensures_perform_bind.mpr ⟨trivial, fun paused _ => ?_⟩
      rw [← h_startup]
      exact ih h_served fun _ => h_startup
    | ready =>
      rw [h_startup] at h_exited
      subst h_exited
      rw [Client.health_bind]
      refine Contract.ensures_perform_bind.mpr ⟨trivial, fun health h_health => ?_⟩
      replace h_health : health = E.reply (⟨.poll 0, none⟩ :: past) (.get _ _) := h_health
      rw [reply, E.startupAt_of_served (⟨.poll 0, none⟩ :: past) h_served, h_startup] at h_health
      subst h_health
      exact rfl

/-- A server starts as the engine lets servers for its bundle start. -/
theorem start_ensures (s : ServerSettings) (bundle : String) (port : Nat) :
    E.world.lending.Ensures past (Server.start s bundle port) fun _ r =>
      r.map (fun _ => ()) = (E.startup (Path.rankedParts bundle)).result s port := by
  unfold Server.start
  refine Contract.ensures_perform_bind.mpr ⟨trivial, fun process? h_process => ?_⟩
  replace h_process : process? = E.reply past (.launch (s.command bundle port) port) := h_process
  by_cases h_launched : E.startup (Path.rankedParts bundle) = .notLaunched
  · have h_none : E.reply past (.launch (s.command bundle port) port) = none := by
      show (match E.startup (Path.rankedParts bundle) with
        | .notLaunched => none
        | _ => some (0 : ProcessId)) = none
      rw [h_launched]
    rw [h_process, h_none, h_launched]
    exact rfl
  · rw [h_process, E.reply_launch h_launched]
    have h_attempts : Readiness.attempts s ≠ 0 := by
      unfold Readiness.attempts
      omega
    refine (E.probe_ensures (Readiness.attempts s) rfl h_launched
      fun h => absurd h h_attempts).bind fun past' readiness h_readiness => ?_
    cases readiness with
    | ok _ => exact h_readiness
    | error f => exact (Server.isQuiet_abandon _).ensures.bind fun _ _ _ => h_readiness

end Engine

end PolicyTrial
