import CulpeoStream.Lib.Decimal
import CulpeoStream.Message.Chars

/-!
# Numbers as text

`std::to_string` for unsigned integers, and `std::from_chars` for `uint64_t` as
the standard describes it: the longest prefix of decimal digits, no sign, no
leading white space, and a result only when there is at least one digit and the
value fits.
-/

namespace CulpeoStream.Message

def isDigit (c : UInt8) : Bool := ch '0' ≤ c && c ≤ ch '9'

/-- The digit a character stands for. -/
def digitValue (c : UInt8) : ℕ := c.toNat - 48

/-- `std::to_string` of an unsigned integer. -/
def decimal (n : ℕ) : Bytes :=
  (Decimal.digits n).map fun d => UInt8.ofNat (48 + d)

/-- `std::to_string` of a signed integer. -/
def decimalInt (n : ℤ) : Bytes :=
  if n < 0 then ch '-' :: decimal n.natAbs else decimal n.natAbs

/-- `std::from_chars` into a `uint64_t`: the value and the number of characters
consumed, or none when it reports an error. -/
def fromCharsU64 (sv : Bytes) : Option (ℕ × ℕ) :=
  let ds := sv.takeWhile isDigit
  let result := Decimal.value (ds.map digitValue)
  if ds.isEmpty then none
  else if result < 2 ^ 64 then some (result, ds.length)
  else none

theorem digitChar {d : ℕ} (h : d < 10) :
    isDigit (UInt8.ofNat (48 + d)) = true ∧ digitValue (UInt8.ofNat (48 + d)) = d := by
  interval_cases d <;> decide

theorem isDigit_of_mem_decimal {n : ℕ} {c : UInt8} (h : c ∈ decimal n) : isDigit c = true := by
  obtain ⟨d, hd, rfl⟩ := List.mem_map.mp h
  exact (digitChar (Decimal.digits_lt_ten hd)).1

theorem decimal_ne_nil (n : ℕ) : decimal n ≠ [] := by
  simp [decimal, Decimal.digits_ne_nil]

theorem map_digitValue_decimal (n : ℕ) : (decimal n).map digitValue = Decimal.digits n := by
  rw [decimal, List.map_map]
  conv_rhs => rw [← List.map_id (Decimal.digits n)]
  exact List.map_congr_left fun d hd => (digitChar (Decimal.digits_lt_ten hd)).2

theorem digitValue_of_isDigit {c : UInt8} (h : isDigit c = true) :
    digitValue c < 10 ∧ UInt8.ofNat (48 + digitValue c) = c := by
  have hzero : (ch '0').toNat = 48 := by decide
  have hnine : (ch '9').toNat = 57 := by decide
  rw [isDigit, Bool.and_eq_true, decide_eq_true_eq, decide_eq_true_eq, UInt8.le_iff_toNat_le,
    UInt8.le_iff_toNat_le, hzero, hnine] at h
  have hback : 48 + digitValue c = c.toNat := by
    rw [digitValue]
    omega
  refine ⟨by omega, ?_⟩
  rw [hback, UInt8.ofNat_toNat]

/-- **Printing what was read.**  Digits are the numeral of the number they stand for when they
do not start with a zero, or there is only one. -/
theorem decimal_value {c : UInt8} {rest : Bytes} (hdigits : ∀ d ∈ c :: rest, isDigit d = true)
    (hzero : c = ch '0' → rest = []) :
    decimal (Decimal.value ((c :: rest).map digitValue)) = c :: rest := by
  have hvalue : Decimal.digits (Decimal.value ((c :: rest).map digitValue)) =
      (c :: rest).map digitValue := by
    refine Decimal.digits_value (fun d hd => ?_) fun hc => ?_
    · rw [← List.map_cons] at hd
      obtain ⟨e, he, rfl⟩ := List.mem_map.mp hd
      exact (digitValue_of_isDigit (hdigits e he)).1
    · have hchar := (digitValue_of_isDigit (hdigits c List.mem_cons_self)).2
      rw [hc] at hchar
      rw [hzero hchar.symm]
      rfl
  rw [decimal, hvalue, List.map_map]
  conv_rhs => rw [← List.map_id (c :: rest)]
  exact List.map_congr_left fun d hd => (digitValue_of_isDigit (hdigits d hd)).2

theorem decimal_injective : Function.Injective decimal := by
  intro m n h
  have hdigits := congrArg (List.map digitValue) h
  rw [map_digitValue_decimal, map_digitValue_decimal] at hdigits
  rw [← Decimal.value_digits m, hdigits, Decimal.value_digits]

/-- Reading back a printed number consumes all of it. -/
theorem fromCharsU64_decimal {n : ℕ} (h : n < 2 ^ 64) :
    fromCharsU64 (decimal n) = some (n, (decimal n).length) := by
  have hall : (decimal n).takeWhile isDigit = decimal n :=
    List.takeWhile_eq_self_iff.mpr fun c hc => isDigit_of_mem_decimal hc
  have hne : (decimal n).isEmpty = false := by simpa using decimal_ne_nil n
  simp only [fromCharsU64, hall, hne, map_digitValue_decimal, Decimal.value_digits,
    Bool.false_eq_true, if_false, if_pos h]

/-- A number that does not fit is an error. -/
theorem fromCharsU64_decimal_of_le {n : ℕ} (h : 2 ^ 64 ≤ n) : fromCharsU64 (decimal n) = none := by
  have hall : (decimal n).takeWhile isDigit = decimal n :=
    List.takeWhile_eq_self_iff.mpr fun c hc => isDigit_of_mem_decimal hc
  simp only [fromCharsU64, hall, map_digitValue_decimal, Decimal.value_digits,
    if_neg (Nat.not_lt.mpr h), ite_self]

/-- A printed number starts with a zero only when it is a single digit. -/
theorem decimal_head_ne_zero {n : ℕ} {c : UInt8} {rest : Bytes} (h : decimal n = c :: rest)
    (hrest : rest ≠ []) : c ≠ ch '0' := by
  cases hds : Decimal.digits n with
  | nil => exact absurd hds (Decimal.digits_ne_nil n)
  | cons d ds =>
      have hd : d < 10 := Decimal.digits_lt_ten (by rw [hds]; exact List.mem_cons_self)
      rw [decimal, hds, List.map_cons, List.cons.injEq] at h
      obtain ⟨rfl, rfl⟩ := h
      have hds' : ds ≠ [] := by simpa using hrest
      have hne := Decimal.head_digits_ne_zero hds hds'
      have hval := (digitChar hd).2
      intro hzero
      rw [hzero] at hval
      exact hne (hval.symm.trans (by decide))

/-- A printed number is a header value. -/
theorem validHeaderValue_decimal (n : ℕ) : validHeaderValue (decimal n) = true := by
  rw [validHeaderValue_iff]
  intro c hc
  have hdigit := isDigit_of_mem_decimal hc
  refine ⟨?_, ?_, ?_⟩ <;>
    · rintro rfl
      exact absurd hdigit (by decide)

end CulpeoStream.Message
