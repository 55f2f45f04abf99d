import Mathlib.Algebra.Group.Nat.Defs
import Mathlib.Data.Nat.Size

/-!
# Integers as binary64 numbers

A `number` that holds an integer holds a double, whose significand has 53 bits.  `round` is
the rounding to nearest, ties to even, of a natural number, and `roundInt` that of an
integer; both are exact on the numbers with few significant bits (`round_eq_self_iff`), and
in particular below `2^53`.  From `overflow` on a number is rounded to infinity.
-/

namespace Binary64

/-- The number of low bits that a significand of 53 bits cannot hold. -/
def excess (n : ℕ) : ℕ := n.size - 53

/-- The significand of the nearest double, in units of `2 ^ excess n`. -/
def significand (n : ℕ) : ℕ :=
  let quotient := n / 2 ^ excess n
  let remainder := n % 2 ^ excess n
  if 2 ^ excess n < 2 * remainder ∨ 2 * remainder = 2 ^ excess n ∧ quotient % 2 = 1 then
    quotient + 1
  else quotient

def round (n : ℕ) : ℕ := significand n * 2 ^ excess n

def roundInt (n : ℤ) : ℤ := if n < 0 then -(round n.natAbs : ℤ) else round n.natAbs

/-- The least number that is rounded to infinity, `2 ^ 1024 - 2 ^ 970`. -/
def overflow : ℕ := (2 ^ 54 - 1) * 2 ^ 970

theorem le_overflow : 2 ^ 53 ≤ overflow := by
  have hscale : ∀ k, 0 < (2 ^ 54 - 1) * 2 ^ k ∧ 2 ^ 53 ≤ (2 ^ 54 - 1) * 2 ^ k := by
    intro k
    have hpos := Nat.two_pow_pos k
    omega
  exact (hscale 970).2

/-- The low bits that a significand cannot hold are zero. -/
def Representable (n : ℕ) : Prop := 2 ^ excess n ∣ n

instance (n : ℕ) : Decidable (Representable n) := inferInstanceAs (Decidable (_ ∣ _))

theorem round_eq_self_iff {n : ℕ} : round n = n ↔ Representable n := by
  constructor
  · intro h
    exact ⟨significand n, by rw [Nat.mul_comm]; exact h.symm⟩
  · intro h
    have hpos : 0 < 2 ^ excess n := Nat.two_pow_pos _
    have hzero : n % 2 ^ excess n = 0 := Nat.mod_eq_zero_of_dvd h
    have hquotient : significand n = n / 2 ^ excess n := by
      unfold significand
      simp only [hzero]
      rw [if_neg (by omega)]
    rw [round, hquotient, Nat.div_mul_cancel h]

theorem representable_of_lt {n : ℕ} (h : n < 2 ^ 53) : Representable n := by
  have hsize := Nat.size_le.mpr h
  have hexcess : excess n = 0 := by
    unfold excess
    omega
  rw [Representable, hexcess, pow_zero]
  exact ⟨n, (Nat.one_mul n).symm⟩

theorem roundInt_natCast (n : ℕ) : roundInt n = round n := by
  rw [roundInt, if_neg (by omega), Int.natAbs_natCast]

/-- Safe integers are exact. -/
theorem roundInt_of_lt {n : ℕ} (h : n < 2 ^ 53) : roundInt n = n := by
  rw [roundInt_natCast, round_eq_self_iff.mpr (representable_of_lt h)]

end Binary64
