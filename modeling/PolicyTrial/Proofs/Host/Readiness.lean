import PolicyTrial.Proofs.Host.Lifecycle

/-!
# What decides whether a server gets ready

In each attempt a starting server shows a `Readiness.Sight`: whether its process has exited, and
what a probe comes to. A sight decides if it is an exit or the status 200, and of the two the exit
is looked at first. `Readiness.Decided` says what the first decisive sight comes to, and after how
many probes; if none decides in time, all probes are made.

`Readiness.showing` is the contract of a host that shows given sights, one after each probe that was
made. Under it `Readiness.probe_decided` follows the loop: the attempts behind it have shown nothing
decisive, and each of them has made one probe.

What makes a server ready is told without any contract by `Readiness.probe_ready`: the last look at
its process saw no exit, the probe after it was answered with 200, and no exit was seen before.

`Server.first_sight_decides` puts both together.
-/

namespace PolicyTrial

open Contract (anything)

variable {past past' : Past}

/-- Whether the health is asked for at an address. -/
def Action.isProbe (url : String) : Action → Bool
  | .get target _ => target == url
  | _ => false

/-- How many times the health was asked for at an address. -/
def Past.probes (url : String) (past : Past) : Nat := past.countP (·.action.isProbe url)

theorem Past.probes_get (url : String) (limit : Duration) (ending : GetEnd) (past : Past) :
    Past.probes url (⟨.get url limit, ending⟩ :: past) = past.probes url + 1 :=
  List.countP_cons_of_pos (beq_self_eq_true url)

/-- Whether a process was seen to have exited. -/
def Event.isExit : Event → Bool
  | ⟨.poll _, some _⟩ => true
  | _ => false

/-- The looks at processes that saw them exited; the last comes first. -/
def Past.exits (past : Past) : Past := past.filter Event.isExit

namespace Readiness

/-! ### Sights -/

/-- What an attempt has to see of a starting server. -/
structure Sight where
  /-- Whether the process has exited, with its code unless a signal ended it. -/
  exit : Option (Option Int)
  /-- What the process has left on its error stream. -/
  stderr : Bytes
  /-- What a probe comes to. -/
  health : GetEnd
  deriving Repr, DecidableEq

/-- An exit decides, and the status 200; nothing else does. -/
def Sight.IsDecisive (x : Sight) : Prop := x.exit ≠ none ∨ x.health = .answered 200

instance (x : Sight) : Decidable x.IsDecisive := inferInstanceAs (Decidable (_ ∨ _))

theorem Sight.isDecisive_of_exit {x : Sight} {code : Option Int} (h : x.exit = some code) :
    x.IsDecisive := .inl (h ▸ Option.some_ne_none code)

/-- Of so many attempts, which count from zero, none has shown anything decisive. -/
def Undecided (sights : Nat → Sight) (n : Nat) : Prop := ∀ i < n, ¬ (sights i).IsDecisive

variable {sights : Nat → Sight}

theorem undecided_zero (sights : Nat → Sight) : Undecided sights 0 :=
  fun _ hi => absurd hi (Nat.not_lt_zero _)

theorem Undecided.succ {n : Nat} (h : Undecided sights n) (h_next : ¬ (sights n).IsDecisive) :
    Undecided sights (n + 1) := by
  intro i hi
  rcases Nat.lt_succ_iff_lt_or_eq.mp hi with hi | rfl
  · exact h i hi
  · exact h_next

/-- Only one sight is the first that decides. -/
theorem Undecided.eq {i j : Nat} (hi : Undecided sights i) (h_i : (sights i).IsDecisive)
    (hj : Undecided sights j) (h_j : (sights j).IsDecisive) : i = j := by
  rcases Nat.lt_trichotomy i j with h_lt | h_eq | h_lt
  · exact absurd h_i (hj i h_lt)
  · exact h_eq
  · exact absurd h_j (hi j h_lt)

/-- What the sights come to, and after how many probes, if `a` stands for a server that is ready. At
least one attempt is made. -/
inductive Decided {α : Type} (s : ServerSettings) (baseUrl : String) (sights : Nat → Sight)
    (a : α) : Except Failure α → Nat → Prop
  /-- The first that decides is an exit: that attempt makes no probe. -/
  | exited {i : Nat} {code : Option Int} (hi : i < max s.probeAttempts 1)
      (h_first : Undecided sights i) (h_exit : (sights i).exit = some code) :
      Decided s baseUrl sights a
        (.error (.serverNotStarted baseUrl
          ("process exited with " ++ codeText code ++ " before becoming ready\n" ++
            (sights i).stderr.lossyText) false)) i
  /-- The first that decides is the status 200 of a process that has not exited. -/
  | ready {i : Nat} (hi : i < max s.probeAttempts 1) (h_first : Undecided sights i)
      (h_running : (sights i).exit = none) (h_health : (sights i).health = .answered 200) :
      Decided s baseUrl sights a (.ok a) (i + 1)
  /-- Nothing decides in time. -/
  | exhausted (h_none : Undecided sights (max s.probeAttempts 1)) :
      Decided s baseUrl sights a
        (.error (.serverNotStarted baseUrl
          ("no healthy probe after " ++ toString (max s.probeAttempts 1) ++ " attempts at " ++
            s.probeInterval.text ++ " intervals") true)) (max s.probeAttempts 1)

namespace Decided

variable {α β : Type} {s : ServerSettings} {baseUrl : String} {a : α}

theorem map (f : α → β) {r : Except Failure α} {n : Nat} (h : Decided s baseUrl sights a r n) :
    Decided s baseUrl sights (f a) (r.map f) n := by
  cases h with
  | exited hi h_first h_exit => exact .exited hi h_first h_exit
  | ready hi h_first h_running h_health => exact .ready hi h_first h_running h_health
  | exhausted h_none => exact .exhausted h_none

/-- The sights come to one thing only. -/
theorem unique {r r' : Except Failure α} {n n' : Nat} (h : Decided s baseUrl sights a r n)
    (h' : Decided s baseUrl sights a r' n') : r' = r ∧ n' = n := by
  -- the first sight that decides is the same both times, and there is none if all are exhausted
  cases h with
  | exited hi h_first h_exit =>
    have h_decisive := Sight.isDecisive_of_exit h_exit
    cases h' with
    | exited _ h_first' h_exit' =>
      obtain rfl := h_first.eq h_decisive h_first' (Sight.isDecisive_of_exit h_exit')
      obtain rfl := Option.some.inj (h_exit.symm.trans h_exit')
      exact ⟨rfl, rfl⟩
    | ready _ h_first' h_running h_health =>
      obtain rfl := h_first.eq h_decisive h_first' (.inr h_health)
      cases h_exit.symm.trans h_running
    | exhausted h_none => exact absurd h_decisive (h_none _ hi)
  | ready hi h_first h_running h_health =>
    cases h' with
    | exited _ h_first' h_exit =>
      obtain rfl := h_first'.eq (Sight.isDecisive_of_exit h_exit) h_first (.inr h_health)
      cases h_exit.symm.trans h_running
    | ready _ h_first' _ h_health' =>
      obtain rfl := h_first.eq (.inr h_health) h_first' (.inr h_health')
      exact ⟨rfl, rfl⟩
    | exhausted h_none => exact absurd (.inr h_health) (h_none _ hi)
  | exhausted h_none =>
    cases h' with
    | exited hi _ h_exit => exact absurd (Sight.isDecisive_of_exit h_exit) (h_none _ hi)
    | ready hi _ _ h_health => exact absurd (.inr h_health) (h_none _ hi)
    | exhausted _ => exact ⟨rfl, rfl⟩

end Decided

/-! ### A host that shows given sights -/

/-- A host that launches a process and shows the given sights of it: each probe at the address
brings the next one. So many probes were made there before. -/
def showing (url : String) (process : ProcessId) (sights : Nat → Sight) (before : Nat) :
    Contract where
  Permits _ _ := True
  Promises past
    | .launch .., launched => launched = some process
    -- the attempt is told by the probes that were made since
    | .poll _, exit => exit = (sights (past.probes url - before)).exit
    | .captured _, stderr => stderr = (sights (past.probes url - before)).stderr
    | .get .., health => health = (sights (past.probes url - before)).health
    | _, _ => True

/-- Such a host has a reply to everything. -/
theorem exists_reply (url : String) (process : ProcessId) (sights : Nat → Sight) (before : Nat)
    (past : Past) (e : Action) : ∃ r, (showing url process sights before).Promises past e r := by
  cases e with
  | launch | poll | captured | get => exact ⟨_, rfl⟩
  | run => exact ⟨.lost, trivial⟩
  | post | awaitExit => exact ⟨.failed, trivial⟩
  | _ => exact ⟨default, trivial⟩

/-- The loop comes to what the sights come to. By induction on the attempts that are left: those
behind have shown nothing decisive, and each has made one probe. -/
theorem probe_decided (s : ServerSettings) (client : Client) (process : ProcessId) (past : Past)
    {before done left : Nat} (h_attempts : done + left = max s.probeAttempts 1) (h_undecided :
    Undecided sights done) (h_probes : past.probes (client.baseUrl ++ "/health") = before + done) :
    (showing (client.baseUrl ++ "/health") process sights before).Ensures past
      (probe s client left) fun past' r =>
        ∃ n, Decided s client.baseUrl sights () r n ∧
          past'.probes (client.baseUrl ++ "/health") = before + n := by
  induction left generalizing past done with
  | zero =>
    -- every attempt is behind
    obtain rfl : done = max s.probeAttempts 1 := h_attempts
    exact ⟨_, .exhausted h_undecided, h_probes⟩
  | succ left ih =>
    -- what is shown now is the sight of this attempt, be it the exit, the error stream or the probe
    have h_shown : past.probes (client.baseUrl ++ "/health") - before = done := by
      rw [h_probes, Nat.add_sub_cancel_left]
    have h_left : done < max s.probeAttempts 1 := by omega
    unfold probe
    refine Contract.ensures_perform_bind.mpr ⟨trivial, fun exit? h_exit => ?_⟩
    replace h_exit : exit? = (sights done).exit := h_shown ▸ h_exit
    cases exit? with
    | some code =>
      refine Contract.ensures_perform_bind.mpr ⟨trivial, fun _ _ => ?_⟩
      refine Contract.ensures_perform_bind.mpr ⟨trivial, fun stderr h_stderr => ?_⟩
      replace h_stderr : stderr = (sights done).stderr := h_shown ▸ h_stderr
      subst h_stderr
      exact ⟨done, .exited h_left h_undecided h_exit.symm, h_probes⟩
    | none =>
      rw [Client.health_bind]
      refine Contract.ensures_perform_bind.mpr ⟨trivial, fun health h_health => ?_⟩
      replace h_health : health = (sights done).health := h_shown ▸ h_health
      have h_probed : Past.probes (client.baseUrl ++ "/health")
          (⟨.get (client.baseUrl ++ "/health") s.probeTimeout, health⟩ ::
            ⟨.poll client.process, none⟩ :: past) = before + (done + 1) := by
        rw [Past.probes_get, ← Nat.add_assoc, ← h_probes]
        rfl
      split
      · next h_status =>
        have h_good : health = .answered 200 := Client.healthStatus_eq_ok_iff.mp h_status
        have h_seen : (sights done).health = .answered 200 := h_health.symm.trans h_good
        exact ⟨done + 1, .ready h_left h_undecided h_exit.symm h_seen, h_probed⟩
      · next h_status =>
        -- any other end of the probe decides nothing, and the next attempt is one probe later
        have h_next : ¬ (sights done).IsDecisive := by
          rintro (h | h)
          · exact h h_exit.symm
          · exact h_status (Client.healthStatus_eq_ok_iff.mpr (h_health.trans h))
        refine Contract.ensures_perform_bind.mpr ⟨trivial, fun _ _ => ?_⟩
        exact ih _ (by omega) (h_undecided.succ h_next) h_probed

/-! ### What makes a server ready -/

/-- The last that was seen of a server is that its process had not exited and that it answered a
probe with 200; since the start no exit was seen. -/
def SawReady (s : ServerSettings) (baseUrl : String) (process : ProcessId) (start past : Past) :
    Prop :=
  ∃ earlier, past = ⟨.get (baseUrl ++ "/health") s.probeTimeout, .answered 200⟩ ::
    ⟨.poll process, none⟩ :: earlier ∧ Past.exits earlier = start.exits

/-- Whatever the host replies, the loop finds a server ready only if it has just seen it so. -/
theorem probe_ready (s : ServerSettings) (client : Client) (left : Nat) (past start : Past)
    (h_exits : past.exits = start.exits) :
    anything.Ensures past (probe s client left) fun past' r =>
      r = .ok () → SawReady s client.baseUrl client.process start past' := by
  induction left generalizing past with
  | zero =>
    intro h
    cases h
  | succ left ih =>
    unfold probe
    refine Contract.ensures_perform_bind.mpr ⟨trivial, fun exit? _ => ?_⟩
    cases exit? with
    | some code =>
      refine Contract.ensures_perform_bind.mpr ⟨trivial, fun _ _ => ?_⟩
      refine Contract.ensures_perform_bind.mpr ⟨trivial, fun stderr _ => ?_⟩
      intro h
      cases h
    | none =>
      rw [Client.health_bind]
      refine Contract.ensures_perform_bind.mpr ⟨trivial, fun health _ => ?_⟩
      split
      · next h_status =>
        obtain rfl : health = .answered 200 := Client.healthStatus_eq_ok_iff.mp h_status
        -- the two events in front are this look at the process and this probe
        exact fun _ => ⟨past, rfl, h_exits⟩
      · exact Contract.ensures_perform_bind.mpr ⟨trivial, fun _ _ => ih _ h_exits⟩

end Readiness

namespace Server

open Readiness (Sight Decided showing SawReady)

variable {s : ServerSettings} {bundle : String} {port : Nat} {sights : Nat → Sight}
  {process : ProcessId}

/-- A server that is launched where given sights are shown comes to what they come to. -/
theorem start_decided (s : ServerSettings) (bundle : String) (port : Nat) (sights : Nat → Sight)
    (process : ProcessId) (past : Past) :
    (showing (s.baseUrl port ++ "/health") process sights
        (past.probes (s.baseUrl port ++ "/health"))).Ensures past (start s bundle port)
      fun past' r => ∃ n,
        Decided s (s.baseUrl port) sights (launched (s.client port process) s.gracePeriod).readied
          r n ∧
        past'.probes (s.baseUrl port ++ "/health") =
          past.probes (s.baseUrl port ++ "/health") + n := by
  unfold start
  refine Contract.ensures_perform_bind.mpr ⟨trivial, fun launched? h_launched => ?_⟩
  obtain rfl : launched? = some process := h_launched
  have h_await := Readiness.probe_decided s (s.client port process) process
    (⟨.launch (s.command bundle port) port, some process⟩ :: past) (Nat.zero_add _)
    (Readiness.undecided_zero sights) rfl
  refine Contract.ensures_bind.mpr (h_await.mono fun past₁ r h => ?_)
  obtain ⟨n, h_decided, h_probes⟩ := h
  have h_server := h_decided.map fun _ => (launched (s.client port process) s.gracePeriod).readied
  cases r with
  | ok _ => exact ⟨n, h_server, h_probes⟩
  | error f =>
    -- killing the process makes no probe
    refine Contract.ensures_perform_bind.mpr ⟨trivial, fun collected _ => ?_⟩
    cases collected with
    | true | false => exact ⟨n, h_server, h_probes⟩

/-- A server that was started is ready, and it was just seen to be. -/
theorem Starts.sawReady {server : Server} (h : Starts s bundle port past past' (.ok server)) :
    server.state = .ready ∧
      ∃ process, server.owned = some process ∧ SawReady s (s.baseUrl port) process past past' := by
  cases h with
  | @ready process _ h_await =>
    have h_every := Readiness.probe_ready s (s.client port process) (Readiness.attempts s)
      (⟨.launch (s.command bundle port) port, some process⟩ :: past) past rfl
    exact ⟨rfl, process, rfl, h_every.of_reaches h_await rfl⟩

/-- **The first decisive sight decides whether a server gets ready.** Let a host launch a process
and show some sights of it, one after each probe. The sights come to something. Every run of the
start then ends with that, after just as many probes as it takes, and there is such a run.

Whatever a host replies, a server that was started is ready; the last probe of it was answered with
200 while its process was not seen to have exited, then or since the start. -/
theorem first_sight_decides (s : ServerSettings) (bundle : String) (port : Nat)
    (sights : Nat → Sight) (process : ProcessId) (past : Past) :
    let url := s.baseUrl port ++ "/health"
    let shown := showing url process sights (past.probes url)
    let ready := (launched (s.client port process) s.gracePeriod).readied
    (∃ r n, Decided s (s.baseUrl port) sights ready r n) ∧
    (∀ r n, Decided s (s.baseUrl port) sights ready r n →
      (∃ past', shown.Reaches past (start s bundle port) past' r) ∧
      ∀ past' r', shown.Reaches past (start s bundle port) past' r' →
        r' = r ∧ past'.probes url = past.probes url + n) ∧
    ∀ past' server, anything.Reaches past (start s bundle port) past' (.ok server) →
      server.state = .ready ∧
        ∃ process, server.owned = some process ∧
          SawReady s (s.baseUrl port) process past past' := by
  intro url shown ready
  have h_every := start_decided s bundle port sights process past
  -- some run there is, and it tells what the sights come to
  obtain ⟨past₁, r₁, h_run⟩ : ∃ past' r, shown.Reaches past (start s bundle port) past' r :=
    Contract.exists_reaches (Readiness.exists_reply url process sights _) _
  obtain ⟨n₁, h_decided, -⟩ := h_every.of_reaches h_run
  refine ⟨⟨r₁, n₁, h_decided⟩, fun r n h => ⟨⟨past₁, ?_⟩, fun past' r' h_run' => ?_⟩,
    fun past' server h => (start_reaches_iff.mp h).sawReady⟩
  · obtain ⟨rfl, -⟩ := h.unique h_decided
    exact h_run
  · obtain ⟨n', h_decided', h_probes⟩ := h_every.of_reaches h_run'
    obtain ⟨rfl, rfl⟩ := h.unique h_decided'
    exact ⟨rfl, h_probes⟩

/-- A server whose first probe is answered with 503, and whose process has exited before the
second. -/
theorem first_sight_decides_exit :
    let s := { ({} : Settings).server "mpe" with probeAttempts := 3 }
    let sights := fun i =>
      if i = 0 then (⟨none, [], .answered 503⟩ : Sight)
      else ⟨some (some 1), Bytes.ofString "rego compilation failed", .answered 200⟩
    let shown := showing "http://127.0.0.1:9090/health" 7 sights 0
    let failure := Failure.serverNotStarted "http://127.0.0.1:9090"
      "process exited with Some(1) before becoming ready\nrego compilation failed" false
    (∃ past', shown.Reaches [] (start s "bundle.yml" 9090) past' (.error failure)) ∧
      ∀ past' r, shown.Reaches [] (start s "bundle.yml" 9090) past' r →
        r = .error failure ∧ past'.probes "http://127.0.0.1:9090/health" = 1 := by
  intro s sights shown failure
  obtain ⟨-, h, -⟩ := first_sight_decides s "bundle.yml" 9090 sights 7 []
  have h_first : Readiness.Undecided sights 1 :=
    (Readiness.undecided_zero sights).succ (by decide)
  exact h _ 1 (.exited (by decide) h_first rfl)

end Server

end PolicyTrial
