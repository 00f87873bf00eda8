import PolicyTrial.Proofs.Host.Contract
import PolicyTrial.Proofs.Run.Places
import PolicyTrial.Run.Session

/-!
# Turns on a shared server

A trial in isolation and a turn on a shared server differ in where the response comes from. Around
it they do the same: they look at the clock before and after, and the verdict is on the response and
nothing else (`timed_ensures`).

What is ensured of the turns on a shared server follows from what is ensured of one turn, as long as
the server stays as it was started. What that means is left open: it is a condition on the client
and the past, which the start establishes and every request keeps. A server that did not start or
was not seen to be stateless gives no verdicts, so nothing is to be shown of it.
-/

namespace PolicyTrial.Bench

variable {c : Contract} {b : Bench} {past : Past} {Q : Scenario → Verdict → Prop}

/-! ### A verdict on a response -/

/-- A verdict on the response that a body of work comes to, with the time that it took. The work is
told when it starts. -/
def timed (s : Scenario) (channel : Channel) (body : Duration → Procedure Response) :
    Procedure Verdict := do
  let start ← Procedure.perform .clock
  let response ← body start
  let finish ← Procedure.perform .clock
  return Verdict.ofResponse s channel response (finish - start)

theorem trial_cli_eq (b : Bench) (s : Scenario) : b.trial s .cli = timed s .cli (b.invoke s) := rfl

theorem trial_server_eq (b : Bench) (s : Scenario) :
    b.trial s .server = timed s .server (b.serve s) := rfl

theorem turn_eq (b : Bench) (client : Client) (s : Scenario) :
    b.turn client s = timed s .server (b.request s client) := rfl

/-- What is ensured of the response, with the events that frame it. -/
theorem timed_ensures {s : Scenario} {channel : Channel} {body : Duration → Procedure Response}
    {R : Duration → Past → Response → Prop} (h_clock : ∀ past, c.Permits past .clock)
    (h : ∀ start, c.Ensures (⟨.clock, start⟩ :: past) (body start) (R start)) :
    c.Ensures past (timed s channel body) fun past' v =>
      ∃ start finish past'' response, past' = ⟨.clock, finish⟩ :: past'' ∧
        R start past'' response ∧ v = .ofResponse s channel response (finish - start) := by
  unfold timed
  refine Contract.ensures_perform_bind.mpr ⟨h_clock past, fun start _ => ?_⟩
  refine (h start).bind fun past'' response h_response => ?_
  refine Contract.ensures_perform_bind.mpr ⟨h_clock past'', fun finish _ => ?_⟩
  exact ⟨start, finish, past'', response, rfl, h_response, rfl⟩

/-- A run of such work is a run of the body, between two looks at the clock. -/
theorem timed_reaches {s : Scenario} {channel : Channel} {body : Duration → Procedure Response}
    {past' : Past} {v : Verdict} (h : c.Reaches past (timed s channel body) past' v) :
    ∃ start finish past'' response, c.Promises past .clock start ∧
      c.Reaches (⟨.clock, start⟩ :: past) (body start) past'' response ∧
      past' = ⟨.clock, finish⟩ :: past'' ∧
      v = .ofResponse s channel response (finish - start) := by
  unfold timed at h
  obtain ⟨start, h_start, h⟩ := Contract.reaches_perform_bind.mp h
  obtain ⟨past'', response, h_body, h⟩ := Contract.reaches_bind.mp h
  obtain ⟨finish, -, rfl, rfl⟩ := Contract.reaches_perform_bind.mp h
  exact ⟨start, finish, past'', response, h_start, h_body, rfl, rfl⟩

/-- Whatever the work meets with, the verdict is on its response. -/
theorem eq_ofResponse_of_timed_ends {s : Scenario} {channel : Channel}
    {body : Duration → Procedure Response} {v : Verdict} (h : (timed s channel body).Ends v) :
    ∃ response elapsed, v = .ofResponse s channel response elapsed := by
  have h_timed : Contract.anything.Ensures [] (timed s channel body) fun _ v =>
      ∃ response elapsed, v = .ofResponse s channel response elapsed := by
    refine (timed_ensures (fun _ => trivial) fun start =>
      Contract.ensures_anything (body start)).mono ?_
    rintro _ v ⟨start, finish, _, response, -, -, hv⟩
    exact ⟨response, finish - start, hv⟩
  exact (Contract.ensures_anything_iff []).mp h_timed v h

/-! ### Turns and sessions -/

/-- One turn after another: if each keeps a condition on the past, then there is a verdict for each
scenario. -/
theorem turns_ensures {client : Client} {kept : Past → Prop} (scenarios : List Placed)
    (h_turn : ∀ p ∈ scenarios, ∀ past, kept past →
      c.Ensures past (b.turn client p.2) fun past' v => kept past' ∧ Q p.2 v)
    (h_kept : kept past) :
    c.Ensures past (b.turns client scenarios) fun past' vs =>
      kept past' ∧ Tallies Q scenarios vs := by
  induction scenarios generalizing past with
  | nil => exact ⟨h_kept, .nil⟩
  | cons p rest ih =>
    rw [List.forall_mem_cons] at h_turn
    unfold turns
    refine (h_turn.1 past h_kept).bind fun past' v hv => ?_
    exact (ih h_turn.2 hv.1).bind fun past'' vs hvs => ⟨hvs.1, hvs.2.cons hv.2⟩

/-- A shared server gives verdicts for all scenarios of its group or none at all. What holds as long
as it is there is `kept`, and what holds when it is over is `finished`. -/
theorem session_ensures (kept : Client → Past → Prop) (finished : Past → Prop) (bundle : String)
    (scenarios : List Placed) (h_finished : finished past)
    (h_start : c.Ensures past (Server.start b.server bundle b.settings.port) fun past' r =>
      (∀ server, r = .ok server → kept server.client past') ∧ (∀ f, r = .error f → finished past'))
    (h_check : ∀ client payload past, kept client past →
      c.Ensures past (client.isStateless payload) fun past' _ => kept client past')
    (h_turn : ∀ client, ∀ p ∈ scenarios, ∀ past, kept client past →
      c.Ensures past (b.turn client p.2) fun past' v => kept client past' ∧ Q p.2 v)
    (h_shutdown : ∀ server past, kept (server : Server).client past →
      c.Ensures past server.shutdown fun past' _ => finished past') :
    c.Ensures past (b.session bundle scenarios) fun past' vs? =>
      finished past' ∧ ∀ vs, vs? = some vs → Tallies Q scenarios vs := by
  cases scenarios with
  | nil => exact ⟨h_finished, fun vs h => by cases h; exact .nil⟩
  | cons p rest =>
    unfold session
    refine h_start.bind fun past' started h_started => ?_
    cases started with
    | error f => exact ⟨h_started.2 f rfl, fun vs h => by cases h⟩
    | ok server =>
      refine (h_check _ _ past' (h_started.1 server rfl)).bind fun past' stateless h_kept => ?_
      cases stateless with
      | true =>
        refine (turns_ensures (p :: rest) (h_turn server.client) h_kept).bind
          fun past' verdicts hv => ?_
        refine (h_shutdown server past' hv.1).bind fun past'' _ h_end => ?_
        exact ⟨h_end, fun vs h => by cases h; exact hv.2⟩
      | false =>
        refine (h_shutdown server past' h_kept).bind fun past'' _ h_end => ?_
        exact ⟨h_end, fun vs h => by cases h⟩

end PolicyTrial.Bench
