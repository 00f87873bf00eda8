import PolicyTrial.Proofs.Host.Contract
import PolicyTrial.Run.Trial

/-!
# Ports on loan

A port is taken and given back in two steps each, and the steps have to come in this order: permit,
port, port back, permit back. `Past.lease` reads off the past where in this order a procedure is,
and `Lease.Admits` says which actions it may perform there. It does not matter what else it does.

A procedure that keeps to the order gets what it asks for: that is the contract `World.lending`. A
permit is granted and a port is found, and everything else is answered by the world around. The
contract does not say which port. That the pool keeps it for procedures side by side is another
matter; here it is what `leased` counts on (`leased_ensures`).
-/

namespace PolicyTrial

/-- Where a procedure is in taking a port and giving it back. -/
inductive Lease
  | idle
  /-- It has a permit and no port yet. -/
  | permitted
  | holding (port : Nat)
  /-- It has given its port back and still has its permit. -/
  | returned
  deriving DecidableEq

namespace Lease

/-- Whether a permit is out. -/
def hasPermit : Lease → Bool
  | .idle => false
  | _ => true

/-- The ports that are out: one at most. -/
def ports : Lease → List Nat
  | .holding port => [port]
  | _ => []

theorem length_ports_le (l : Lease) : l.ports.length ≤ if l.hasPermit then 1 else 0 := by
  cases l with
  | holding port => exact Nat.le_refl 1
  | idle | permitted | returned => exact Nat.zero_le _

/-- Where a procedure is after an action and the reply to it. -/
def after : Lease → (e : Action) → e.Reply → Lease
  | l, .takePermit, granted => if granted then .permitted else l
  | l, .popPort, port? => (port?.map .holding).getD l
  | _, .pushPort _, _ => .returned
  | _, .releasePermit, _ => .idle
  | l, _, _ => l

/-- The actions that keep to the order. What has nothing to do with ports may come at any time. -/
def Admits : Lease → Action → Prop
  | l, .takePermit => l = .idle
  | l, .popPort => l = .permitted
  | l, .pushPort port => l = .holding port
  | l, .releasePermit => l = .returned
  | _, _ => True

/-- The actions by which no port gets lost: whoever has one only gives it back, and nobody gives
back another one. -/
def Conserves : Lease → Action → Prop
  | l, .takePermit | l, .popPort | l, .releasePermit => l.ports = []
  | l, .pushPort port => l = .holding port
  | _, _ => True

theorem Admits.conserves {l : Lease} {e : Action} (h : l.Admits e) : l.Conserves e := by
  cases e with
  | takePermit | popPort | releasePermit => exact congrArg ports h
  | pushPort port => exact h
  | _ => exact trivial

end Lease

/-- Where a procedure is after what it has done. -/
def Past.lease : Past → Lease
  | [] => .idle
  | event :: past => (Past.lease past).after event.action event.reply

/-- Whether an action has to do with ports. -/
def Action.onPorts : Action → Bool
  | .takePermit | .popPort | .pushPort _ | .releasePermit => true
  | _ => false

/-- What surrounds a procedure and answers its actions, some way or other. What it answers may
depend on all that the procedure has done. -/
structure World where
  Replies : Past → (e : Action) → e.Reply → Prop
  responds : ∀ past e, ∃ r, Replies past e r

namespace World

variable {w : World} {past : Past}

/-- The promises that a world makes together with a pool of ports. -/
def LendingReplies (w : World) (past : Past) : (e : Action) → e.Reply → Prop
  | .takePermit, granted => granted = true
  | .popPort, port? => port?.isSome = true
  | .pushPort _, _ => True
  | .releasePermit, _ => True
  | e, r => w.Replies past e r

/-- A procedure that takes and gives back ports in order finds one whenever it asks. -/
def lending (w : World) : Contract where
  Permits past e := past.lease.Admits e
  Promises := w.LendingReplies

theorem lendingReplies_iff {e : Action} (he : e.onPorts = false) {r : e.Reply} :
    w.LendingReplies past e r ↔ w.Replies past e r := by
  cases e <;> first | exact Iff.rfl | cases he

/-- Whatever is asked, it is answered. -/
theorem exists_lending (w : World) (past : Past) (e : Action) :
    ∃ r, w.lending.Promises past e r := by
  cases he : e.onPorts with
  | false =>
    obtain ⟨r, hr⟩ := w.responds past e
    exact ⟨r, (lendingReplies_iff he).mpr hr⟩
  | true =>
    cases e with
    | takePermit => exact ⟨true, rfl⟩
    | popPort => exact ⟨some 0, rfl⟩
    | pushPort _ | releasePermit => exact ⟨(), trivial⟩
    | _ => cases he

theorem lease_cons {e : Action} (he : e.onPorts = false) (r : e.Reply) :
    Past.lease (⟨e, r⟩ :: past) = past.lease := by
  cases e <;> first | rfl | cases he

theorem admits_of_not_onPorts {e : Action} (he : e.onPorts = false) (l : Lease) : l.Admits e := by
  cases e <;> first | exact trivial | cases he

/-- A body of work gets a port of its own. The work may do anything but give the port back itself;
then the port is back in the end. -/
theorem leased_ensures {κ β : Type} {body : Nat → Procedure (Ending κ β)} {R : Ending κ β → Prop}
    (h_idle : past.lease = .idle)
    (h_body : ∀ port past', past'.lease = .holding port →
      w.lending.Ensures past' (body port) fun past'' ending =>
        past''.lease = .holding port ∧ R ending) :
    w.lending.Ensures past (leased body) fun past' ending => past'.lease = .idle ∧ R ending := by
  unfold leased
  refine Contract.ensures_perform_bind.mpr ⟨h_idle, ?_⟩
  rintro granted (rfl : granted = true)
  refine Contract.ensures_perform_bind.mpr ⟨rfl, fun port? h_some => ?_⟩
  obtain ⟨port, rfl⟩ := Option.isSome_iff_exists.mp h_some
  refine (h_body port _ rfl).bind fun past' ending h_ending => ?_
  refine Contract.ensures_perform_bind.mpr ⟨h_ending.1, fun _ _ => ?_⟩
  exact Contract.ensures_perform_bind.mpr ⟨rfl, fun _ _ => ⟨rfl, h_ending.2⟩⟩

/-- A run of a body of work with a port of its own is a run of the body on that port, between the
taking and the giving back. -/
theorem leased_reaches {κ β : Type} {body : Nat → Procedure (Ending κ β)} {past' : Past}
    {ending : Ending κ β} (h : w.lending.Reaches past (leased body) past' ending) :
    ∃ port past'', w.lending.Reaches (⟨.popPort, some port⟩ :: ⟨.takePermit, true⟩ :: past)
        (body port) past'' ending ∧
      past' = ⟨.releasePermit, ()⟩ :: ⟨.pushPort port, ()⟩ :: past'' := by
  unfold leased at h
  obtain ⟨granted, rfl : granted = true, h⟩ := Contract.reaches_perform_bind.mp h
  obtain ⟨port?, h_some, h⟩ := Contract.reaches_perform_bind.mp h
  obtain ⟨port, rfl⟩ := Option.isSome_iff_exists.mp h_some
  obtain ⟨past'', ending', h_body, h⟩ := Contract.reaches_bind.mp h
  obtain ⟨_, -, h⟩ := Contract.reaches_perform_bind.mp h
  obtain ⟨_, -, rfl, rfl⟩ := Contract.reaches_perform_bind.mp h
  exact ⟨port, past'', h_body, rfl⟩

end World

end PolicyTrial
