import PolicyTrial.Proofs.Engine.Canonical
import PolicyTrial.Proofs.Engine.PortText
import PolicyTrial.Proofs.Host.Interleaving
import PolicyTrial.Registry

/-!
# Sharing servers makes no difference

Servers may live for one scenario or for all scenarios of a bundle. With an engine that answers by
bundle and payload the two scopes come to the same verdicts, apart from the time that was taken and
the ports in URLs (`session_refines_function`).

It is enough to say of either scope which verdicts are certain: those that the engine gives,
scenario by scenario (`Engine.Governs.yields`). This holds of trials in isolation, of the turns on a
shared server, and of the trials that take their place if the shared server does not start or is not
seen to be stateless, so none of these cases has to be compared with another. Any two verdicts that
the engine gives for one scenario are the same but for a port.
-/

namespace PolicyTrial

namespace Engine

variable {E : Engine} {b : Bench} {w : World}

/-- In a world that an engine governs, a run is certain of the verdicts that the engine gives. -/
theorem Governs.yields (hE : E.Governs b w) {build : Build} (hb : b.settings.IsValid build) :
    b.Yields (Possible.within (PortPool.Holds b.settings.ports.free))
      w.executor fun s v => E.Gives b s (s.resolveChannel b.settings.channel) v := by
  constructor
  · intro tasks h_channel
    refine World.several_always hb.jobs hb.ports_pos ?_
    rw [List.forall₂_map_left_iff, List.forall₂_map_right_iff]
    refine List.forall₂_same.mpr fun t ht => ⟨rfl, ?_⟩
    refine (hE.trial_ensures t.channel rfl).mono fun past v h => ⟨h.1, ?_⟩
    have h_gives : E.Gives b t.scenario t.channel v := h.2
    -- the channel of the task is the one that the scenario resolves to
    rwa [h_channel t ht] at h_gives
  · intro bundle scenarios h_shares
    have h_place : ∀ p ∈ scenarios, Path.rankedParts p.2.bundle = Path.rankedParts bundle :=
      fun p hp => Path.compare_eq_iff.mp (h_shares p hp).2
    have h_session := hE.session_ensures bundle scenarios h_place (rfl : Past.lease [] = .idle)
    refine World.alone_always hb.ports_pos
      (h_session.mono fun past' vs? h => ⟨h.1, fun vs h_vs => ?_⟩)
    refine (h.2 vs h_vs).imp (List.forall₂_same.mpr fun p hp => ⟨rfl, fun v hv => ?_⟩)
    rwa [(h_shares p hp).1]

/-- A run in such a world comes to a report, and only to one with verdicts that the engine gives. -/
theorem Governs.record (hE : E.Governs b w) {build : Build} (hb : b.settings.IsValid build)
    (runId : String) (begins : Instant) (scenarios : List Scenario) :
    (∃ report pool, b.record w.executor runId begins scenarios b.settings.ports report pool) ∧
    ∀ report pool, b.record w.executor runId begins scenarios b.settings.ports report pool →
      List.Forall₂ (fun s v => E.Gives b s (s.resolveChannel b.settings.channel) v) scenarios
        report.verdicts := by
  let A := Possible.within (PortPool.Holds b.settings.ports.free)
  have h_clock : A.Always (w.executor.alone (Procedure.perform .clock)) fun _ => True :=
    World.alone_always hb.ports_pos ⟨trivial, fun _ _ => ⟨rfl, trivial⟩⟩
  have h_files : ∀ {α : Type} (f : StateM FileTree α),
      A.Always (w.executor.onFiles f) fun _ => True := by
    intro α f pool h_pool
    refine ⟨⟨_, pool, ⟨.empty, rfl⟩, rfl⟩, ?_⟩
    rintro a pool' ⟨-, rfl⟩
    exact ⟨h_pool, trivial⟩
  obtain ⟨h_some, h_all⟩ :=
    (hE.yields hb).record h_clock h_files runId begins scenarios b.settings.ports
      b.settings.holds_ports
  refine ⟨h_some, fun report pool h => ?_⟩
  obtain ⟨-, ends, verdicts, rfl, h_verdicts⟩ := h_all report pool h
  exact h_verdicts

end Engine

end PolicyTrial
