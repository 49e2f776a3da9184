/-!
# Powers of two and ten

The powers that binary and decimal numbers are scaled by, as natural numbers.
-/

namespace AcceptorHost

namespace Power

/-- The power of two. -/
def two (n : Nat) : Nat := Nat.pow 2 n

/-- The power of ten. -/
def ten (n : Nat) : Nat := Nat.pow 10 n

theorem two_succ
    (n : Nat) :
    two (n + 1) = two n * 2 := rfl

theorem two_pos
    (n : Nat) :
    0 < two n := by
  induction n with
  | zero =>
      exact Nat.one_pos
  | succ n ih =>
      rw [two_succ]
      exact Nat.mul_pos ih Nat.two_pos

end Power

end AcceptorHost
