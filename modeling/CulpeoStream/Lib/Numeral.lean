import CulpeoStream.Lib.Decimal
import CulpeoStream.Lib.Utf16

/-!
# Decimal numerals in UTF-16

What `ToString` and `String` write for an integer, which is read back digit by digit
(`natValue_decimal`), and the syntax that a strict reader accepts, `Canonical`.
-/

namespace Numeral

open Utf16

def isDigit (c : UInt16) : Bool := unit '0' ≤ c && c ≤ unit '9'

/-- The digit a code unit stands for. -/
def digitValue (c : UInt16) : ℕ := (c - unit '0').toNat

/-- The number a string of digits stands for. -/
def natValue (digits : Text) : ℕ := Decimal.value (digits.map digitValue)

def decimal (n : ℕ) : Text := (Decimal.digits n).map fun d => (48 + d).toUInt16

def decimalInt (n : ℤ) : Text :=
  if n < 0 then unit '-' :: decimal n.natAbs else decimal n.natAbs

/-- One digit, or a digit other than zero followed by digits. -/
structure Canonical (t : Text) : Prop where
  ne_nil : t ≠ []
  digits : ∀ c ∈ t, isDigit c = true
  head : t.head? = some (unit '0') → t.length = 1

theorem digitChar {d : ℕ} (h : d < 10) :
    isDigit (48 + d).toUInt16 = true ∧ digitValue (48 + d).toUInt16 = d := by
  interval_cases d <;> decide

theorem isDigit_iff (c : UInt16) : isDigit c = true ↔ 48 ≤ c.toNat ∧ c.toNat ≤ 57 := by
  have hzero : (unit '0').toNat = 48 := by decide
  have hnine : (unit '9').toNat = 57 := by decide
  simp [isDigit, UInt16.le_iff_toNat_le, hzero, hnine]

theorem digitValue_of_isDigit {c : UInt16} (h : isDigit c = true) :
    digitValue c < 10 ∧ c = (48 + digitValue c).toUInt16 := by
  rw [isDigit_iff] at h
  have hzero : (unit '0').toNat = 48 := by decide
  have hvalue : digitValue c = c.toNat - 48 := by
    rw [digitValue, UInt16.toNat_sub_of_le _ _ (by rw [UInt16.le_iff_toNat_le, hzero]; omega),
      hzero]
  have hback : 48 + digitValue c = c.toNat := by omega
  refine ⟨by omega, ?_⟩
  rw [hback]
  simp

theorem isDigit_of_mem_decimal {n : ℕ} {c : UInt16} (h : c ∈ decimal n) : isDigit c = true := by
  obtain ⟨d, hd, rfl⟩ := List.mem_map.mp h
  exact (digitChar (Decimal.digits_lt_ten hd)).1

theorem decimal_ne_nil (n : ℕ) : decimal n ≠ [] := by
  simp [decimal, Decimal.digits_ne_nil]

theorem natValue_decimal (n : ℕ) : natValue (decimal n) = n := by
  have hdigits : (decimal n).map digitValue = Decimal.digits n := by
    rw [decimal, List.map_map]
    conv_rhs => rw [← List.map_id (Decimal.digits n)]
    exact List.map_congr_left fun d hd => (digitChar (Decimal.digits_lt_ten hd)).2
  rw [natValue, hdigits, Decimal.value_digits]

theorem decimal_injective : Function.Injective decimal := by
  intro m n h
  rw [← natValue_decimal m, h, natValue_decimal]

theorem length_decimal_le {n k : ℕ} (hk : 0 < k) (h : n < 10 ^ k) : (decimal n).length ≤ k := by
  rw [decimal, List.length_map, Decimal.digits]
  split
  · rw [List.length_singleton]
    omega
  · rw [List.length_reverse, Nat.digits_length_le_iff (by norm_num)]
    exact h

/-- An integer is written with digits, after a sign or not. -/
theorem mem_decimalInt {n : ℤ} {c : UInt16} (h : c ∈ decimalInt n) :
    c = unit '-' ∨ isDigit c = true := by
  unfold decimalInt at h
  split at h
  · obtain rfl | hc := List.mem_cons.mp h
    · exact .inl rfl
    · exact .inr (isDigit_of_mem_decimal hc)
  · exact .inr (isDigit_of_mem_decimal h)

theorem length_decimalInt_le {n : ℤ} {k : ℕ} (hk : 0 < k) (h : n.natAbs < 10 ^ k) :
    (decimalInt n).length ≤ k + 1 := by
  have hlen := length_decimal_le hk h
  unfold decimalInt
  split
  · rw [List.length_cons]
    omega
  · omega

theorem decimalInt_ne_nil (n : ℤ) : decimalInt n ≠ [] := by
  unfold decimalInt
  split
  · simp
  · exact decimal_ne_nil _

theorem canonical_decimal (n : ℕ) : Canonical (decimal n) where
  ne_nil := decimal_ne_nil n
  digits := fun _ hc => isDigit_of_mem_decimal hc
  head := by
    intro hhead
    cases hds : Decimal.digits n with
    | nil => exact absurd hds (Decimal.digits_ne_nil n)
    | cons d ds =>
        by_contra hlen
        rw [decimal, hds, List.length_map] at hlen
        have hd : d ≠ 0 := by
          refine Decimal.head_digits_ne_zero hds ?_
          rintro rfl
          exact hlen rfl
        rw [decimal, hds, List.map_cons, List.head?_cons, Option.some.injEq] at hhead
        have hlt : d < 10 := Decimal.digits_lt_ten (by rw [hds]; exact List.mem_cons_self)
        interval_cases d
        · exact hd rfl
        all_goals exact absurd hhead (by decide)

/-- **The canonical numerals** are those that are written. -/
theorem canonical_iff {t : Text} : Canonical t ↔ decimal (natValue t) = t := by
  constructor
  · rintro ⟨hne, hdigits, hhead⟩
    obtain ⟨c, rest, rfl⟩ := List.exists_cons_of_ne_nil hne
    have hvalue : Decimal.digits (natValue (c :: rest)) = (c :: rest).map digitValue := by
      refine Decimal.digits_value (fun e he => ?_) fun hzero => ?_
      · rw [← List.map_cons] at he
        obtain ⟨u, hu, rfl⟩ := List.mem_map.mp he
        exact (digitValue_of_isDigit (hdigits u hu)).1
      · obtain ⟨-, hc⟩ := digitValue_of_isDigit (hdigits c (by simp))
        rw [hzero] at hc
        have hlen := hhead (by rw [hc]; rfl)
        rw [List.length_cons, Nat.add_eq_right, List.length_eq_zero_iff] at hlen
        rw [hlen]
        rfl
    rw [decimal, hvalue, List.map_map]
    conv_rhs => rw [← List.map_id (c :: rest)]
    exact List.map_congr_left fun u hu => (digitValue_of_isDigit (hdigits u hu)).2.symm
  · intro h
    rw [← h]
    exact canonical_decimal _

end Numeral
