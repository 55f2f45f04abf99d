import Mathlib.Data.Nat.Digits.Defs
import Mathlib.Data.Nat.Digits.Lemmas

/-!
# Decimal numerals

The decimal numeral of a natural number, most significant digit first, and the
left-to-right accumulation that reads a digit string.  `value_digits` says that
reading inverts writing.
-/

namespace Decimal

/-- The decimal numeral of `n`, most significant digit first. -/
def digits (n : ℕ) : List ℕ :=
  if n = 0 then [0] else (Nat.digits 10 n).reverse

/-- The value read from a digit string, one digit at a time. -/
def value (ds : List ℕ) : ℕ :=
  ds.foldl (fun acc d => acc * 10 + d) 0

theorem value_eq_ofDigits (ds : List ℕ) : value ds = Nat.ofDigits 10 ds.reverse := by
  have hfold : ∀ (ds : List ℕ) (acc : ℕ), ds.foldl (fun acc d => acc * 10 + d) acc =
      acc * 10 ^ ds.length + Nat.ofDigits 10 ds.reverse := by
    intro ds
    induction ds with
    | nil => intro acc; simp
    | cons d ds ih =>
        intro acc
        rw [List.foldl_cons, ih, List.reverse_cons, Nat.ofDigits_append, Nat.ofDigits_singleton,
          List.length_reverse, List.length_cons, pow_succ]
        ring
  rw [value, hfold]
  omega

theorem digits_ne_nil (n : ℕ) : digits n ≠ [] := by
  rw [digits]
  split
  · simp
  · rename_i hn
    simpa using Nat.digits_ne_nil_iff_ne_zero.mpr hn

theorem digits_lt_ten {n d : ℕ} (h : d ∈ digits n) : d < 10 := by
  rw [digits] at h
  split at h
  · rw [List.mem_singleton] at h
    omega
  · exact Nat.digits_lt_base (by norm_num) (List.mem_reverse.mp h)

/-- Reading a numeral gives back the number. -/
theorem value_digits (n : ℕ) : value (digits n) = n := by
  rw [value_eq_ofDigits, digits]
  split
  · simp_all
  · rw [List.reverse_reverse, Nat.ofDigits_digits]

/-- A numeral of more than one digit does not start with a zero. -/
theorem head_digits_ne_zero {n d : ℕ} {ds : List ℕ} (h : digits n = d :: ds) (hds : ds ≠ []) :
    d ≠ 0 := by
  rw [digits] at h
  split at h
  · cases h
    exact absurd rfl hds
  · rename_i hn
    have hlast := Nat.getLast_digit_ne_zero 10 hn
    have hrev : (Nat.digits 10 n).getLast (Nat.digits_ne_nil_iff_ne_zero.mpr hn) = d := by
      rw [← List.head_reverse (by simpa using Nat.digits_ne_nil_iff_ne_zero.mpr hn)]
      simp [h]
    rwa [hrev] at hlast

/-- **Writing what was read.**  A digit string is the numeral of its value when it does not
start with a zero, or is one digit. -/
theorem digits_value {d : ℕ} {ds : List ℕ} (hten : ∀ e ∈ d :: ds, e < 10)
    (hzero : d = 0 → ds = []) : digits (value (d :: ds)) = d :: ds := by
  by_cases hd : d = 0
  · rw [hd, hzero hd]
    rfl
  · have hne : ((d :: ds).reverse : List ℕ) ≠ [] := by simp
    have hdigits : Nat.digits 10 (value (d :: ds)) = (d :: ds).reverse := by
      rw [value_eq_ofDigits]
      refine Nat.digits_ofDigits 10 (by norm_num) _ (fun e he => ?_) fun hne => ?_
      · exact hten e (List.mem_reverse.mp he)
      · rw [List.getLast_reverse]
        exact hd
    have hvalue : value (d :: ds) ≠ 0 := by
      intro hvalue
      rw [hvalue, Nat.digits_zero] at hdigits
      exact hne hdigits.symm
    rw [digits, if_neg hvalue, hdigits, List.reverse_reverse]

end Decimal
