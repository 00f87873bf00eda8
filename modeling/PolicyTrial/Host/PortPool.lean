import PolicyTrial.Settings

/-!
# The ports of servers that run at a time

A port is taken in two steps, a permit first and then the port, and given back in two steps, the
port first. There is one permit for each port, so whoever holds a permit finds a port.

* `PortPool`: the permits that are left, and the free ports.
* `PortPool.ofRange`: the pool of some consecutive ports.
* `PortPool.acquire?`, `PortPool.pop?`, `PortPool.push`, `PortPool.release`: the steps.
-/

namespace PolicyTrial

/-- The permits that are left, and the free ports; the next one to be taken comes first. -/
structure PortPool where
  permits : Nat
  free : List Nat
  deriving Repr, DecidableEq

namespace PortPool

/-- The pool of so many ports from `first` on. Of each sum there is what a word holds of it, and
what is no port is left out. A build with checks makes no pool in which a sum is too large, since it
has not got past the check of the settings then. -/
def ofRange (first : Port) (size : Word) : PortPool :=
  let ports := ((List.range' first size).map (· % twoTo 64)).filter (· < twoTo 16)
  ⟨ports.length, ports⟩

/-- A permit is taken, if there is one. -/
def acquire? (p : PortPool) : Option PortPool :=
  match p.permits with
  | 0 => none
  | n + 1 => some { p with permits := n }

/-- A port is taken, if there is one. -/
def pop? (p : PortPool) : Option (Nat × PortPool) :=
  match p.free with
  | [] => none
  | port :: rest => some (port, { p with free := rest })

/-- A port is given back; it is the next one to be taken. -/
def push (port : Nat) (p : PortPool) : PortPool := { p with free := port :: p.free }

/-- A permit is given back. -/
def release (p : PortPool) : PortPool := { p with permits := p.permits + 1 }

end PortPool

/-- The ports of the servers that run at a time, one for each job. -/
def Settings.ports (s : Settings) : PortPool := PortPool.ofRange s.port s.jobs

end PolicyTrial
