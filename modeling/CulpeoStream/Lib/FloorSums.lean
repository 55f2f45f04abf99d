import Mathlib.Algebra.BigOperators.Group.List.Basic
import Mathlib.Algebra.GroupWithZero.Nat

/-!
# Sums of quotients

A total that is counted in pieces, each divided by the same number and rounded down, loses
the remainders of the pieces.  Two ways of cutting one total into pieces agree exactly if
they lose as much (`quotients_eq_iff`).
-/

namespace FloorSums

/-- The sum of the quotients of some pieces. -/
def quotients (b : ℕ) (pieces : List ℕ) : ℕ := (pieces.map (· / b)).sum

/-- The sum of their remainders. -/
def remainders (b : ℕ) (pieces : List ℕ) : ℕ := (pieces.map (· % b)).sum

variable {b : ℕ}

@[simp] theorem quotients_cons (x : ℕ) (xs : List ℕ) :
    quotients b (x :: xs) = x / b + quotients b xs := by
  rw [quotients, quotients, List.map_cons, List.sum_cons]

@[simp] theorem remainders_cons (x : ℕ) (xs : List ℕ) :
    remainders b (x :: xs) = x % b + remainders b xs := by
  rw [remainders, remainders, List.map_cons, List.sum_cons]

/-- Nothing but the remainders is lost. -/
theorem quotients_add_remainders (xs : List ℕ) :
    b * quotients b xs + remainders b xs = xs.sum := by
  induction xs with
  | nil => rfl
  | cons x xs ih =>
      have hx := Nat.div_add_mod x b
      rw [quotients_cons, remainders_cons, List.sum_cons, Nat.mul_add]
      omega

/-- **Two ways of cutting one total.** -/
theorem quotients_eq_iff (hb : 0 < b) {xs ys : List ℕ} (h : xs.sum = ys.sum) :
    quotients b xs = quotients b ys ↔ remainders b xs = remainders b ys := by
  have hxs := @quotients_add_remainders b xs
  have hys := @quotients_add_remainders b ys
  constructor
  · intro hquotients
    rw [hquotients] at hxs
    omega
  · intro hremainders
    exact Nat.eq_of_mul_eq_mul_left hb (by omega)

/-- The quotients of some pieces are at most the quotient of the total. -/
theorem quotients_le (hb : 0 < b) (xs : List ℕ) : quotients b xs ≤ xs.sum / b := by
  have hxs := @quotients_add_remainders b xs
  rw [Nat.le_div_iff_mul_le hb, Nat.mul_comm]
  omega

/-- Pieces of one count nothing, unless they are divided by one. -/
theorem quotients_replicate_one (hb : 1 < b) (n : ℕ) :
    quotients b (List.replicate n 1) = 0 := by
  induction n with
  | zero => rfl
  | succ n ih => rw [List.replicate_succ, quotients_cons, ih, Nat.div_eq_of_lt hb]

end FloorSums
