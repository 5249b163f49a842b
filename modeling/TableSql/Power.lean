/-!
# Powers

Powers of two and of ten of natural numbers.
-/

namespace TableSql

/-- Two multiplied by itself. -/
def twoTo (exponent : Nat) : Nat := Nat.pow 2 exponent

/-- Ten multiplied by itself. -/
def tenTo (exponent : Nat) : Nat := Nat.pow 10 exponent

theorem twoTo_add (m n : Nat) : twoTo (m + n) = twoTo m * twoTo n := Nat.pow_add 2 m n

theorem twoTo_succ (n : Nat) : twoTo (n + 1) = 2 * twoTo n := by
  rw [twoTo_add, Nat.mul_comm]
  rfl

theorem twoTo_pos (n : Nat) : 0 < twoTo n := Nat.two_pow_pos n

end TableSql
