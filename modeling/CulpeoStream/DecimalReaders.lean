import CulpeoStream.Message.PcmFields
import CulpeoStream.Session.Helpers

/-!
# The decimal readers of the C++ libraries

`parse_u32` counts digit by digit behind a guard, `parse_u16` narrows what it reads, and the
`parse_uint64` of the session leaves the digits to `std::from_chars`.  All three read the
canonical numerals of their range, and nothing else (`decimalReaders_iff`).
-/

namespace CulpeoStream

open Message Session

/-- A canonical numeral: digits without a sign, and a zero in front only in `0` itself. -/
structure CanonicalNumeral (x : Bytes) (n : ℕ) : Prop extends IsNumeral x n where
  head : x.head? = some (ch '0') → x = [ch '0']

/-- **The canonical numerals** are those that are printed. -/
theorem canonicalNumeral_iff {x : Bytes} {n : ℕ} : CanonicalNumeral x n ↔ x = decimal n := by
  constructor
  · rintro ⟨⟨hne, hdigits, hvalue⟩, hhead⟩
    obtain ⟨c, rest, rfl⟩ := List.exists_cons_of_ne_nil hne
    rw [← hvalue]
    refine (decimal_value (fun d hd => isDigit_iff.mpr (hdigits d hd)) fun hc => ?_).symm
    exact (List.cons.inj (hhead (by rw [hc]; rfl))).2
  · rintro rfl
    refine ⟨isNumeral_decimal n, fun hhead => ?_⟩
    cases hx : decimal n with
    | nil => exact absurd hx (decimal_ne_nil n)
    | cons c rest =>
        rw [hx, List.head?_cons, Option.some.injEq] at hhead
        by_cases hrest : rest = []
        · rw [hhead, hrest]
        · exact absurd hhead (decimal_head_ne_zero hx hrest)

/-- What a reader accepts that inverts printing on the numbers of its width. -/
theorem reader_iff {ε β : Type} {read : Bytes → Except ε β} {toNat : β → ℕ} {bound : ℕ}
    (hread : ∀ x v, read x = .ok v ↔ x = decimal (toNat v)) (hbound : ∀ v, toNat v < bound)
    (hreach : ∀ n < bound, ∃ v, toNat v = n) (x : Bytes) (n : ℕ) :
    (∃ v, read x = .ok v ∧ toNat v = n) ↔ CanonicalNumeral x n ∧ n < bound := by
  rw [canonicalNumeral_iff]
  constructor
  · rintro ⟨v, hv, rfl⟩
    exact ⟨(hread x v).mp hv, hbound v⟩
  · rintro ⟨rfl, hn⟩
    obtain ⟨v, rfl⟩ := hreach n hn
    exact ⟨v, (hread _ v).mpr rfl, rfl⟩

/-- **The decimal readers** accept exactly the canonical numerals of their range, and read what
is printed. -/
theorem decimalReaders_iff :
    (∀ x n, (∃ v, parseU32 x = .ok v ∧ v.toNat = n) ↔ CanonicalNumeral x n ∧ n < 2 ^ 32) ∧
      (∀ x n, (∃ v, parseU16 x = .ok v ∧ v.toNat = n) ↔ CanonicalNumeral x n ∧ n < 2 ^ 16) ∧
      (∀ x n, (∃ v, parseUint64 x = .ok v ∧ v.toNat = n) ↔ CanonicalNumeral x n ∧ n < 2 ^ 64) ∧
      (∀ v : UInt32, parseU32 (decimal v.toNat) = .ok v) ∧
      (∀ v : UInt16, parseU16 (decimal v.toNat) = .ok v) ∧
      ∀ v : UInt64, parseUint64 (decimal v.toNat) = .ok v := by
  have hread32 := fun x v => @parseU32_iff x v
  have hread16 := fun x v => @parseU16_iff x v
  refine ⟨fun x n => reader_iff hread32 UInt32.toNat_lt (fun n hn => ?_) x n,
    fun x n => reader_iff hread16 UInt16.toNat_lt (fun n hn => ?_) x n,
    fun x n => reader_iff (fun x v => @parseUint64_ok_iff x v) UInt64.toNat_lt
      (fun n hn => ?_) x n,
    fun v => (hread32 _ v).mpr rfl, fun v => (hread16 _ v).mpr rfl, parseUint64_decimal⟩
  · exact ⟨UInt32.ofNat n, UInt32.toNat_ofNat_of_lt' hn⟩
  · exact ⟨UInt16.ofNat n, UInt16.toNat_ofNat_of_lt' hn⟩
  · exact ⟨UInt64.ofNat n, UInt64.toNat_ofNat_of_lt' hn⟩

end CulpeoStream
