/-!
# Powers of two and ten

* `twoTo`, `tenTo`: the powers of two and ten.
-/

namespace PolicyTrial

/-- A power of two. -/
def twoTo (n : Nat) : Nat := Nat.pow 2 n

/-- A power of ten. -/
def tenTo (n : Nat) : Nat := Nat.pow 10 n

theorem twoTo_pos (n : Nat) : 0 < twoTo n := Nat.pow_pos (by decide)

end PolicyTrial
