import CulpeoStream.Dotnet.ContentType
import CulpeoStream.Message.Decoded

/-!
# Comparison without regard to case

Ordinal comparison maps both strings to upper case.  Of the mapping only what it does to ASCII
strings is used, and ASCII strings that it makes equal are those that are equal in lower case
(`equalsIgnoreCase_wide`).
-/

namespace CulpeoStream.Dotnet

open Message Utf16

/-- What ordinal comparison without regard to case makes of an ASCII string. -/
def UppersAscii (rt : Runtime) : Prop :=
  ∀ s : Text, (∀ u ∈ s, u.toNat < 0x80) → rt.toUpperOrdinal s = s.map upperAscii

theorem upperAscii_lowerAscii (u : UInt16) :
    upperAscii (lowerAscii u) = upperAscii u ∧ lowerAscii (upperAscii u) = lowerAscii u := by
  have hA : (unit 'A').toNat = 65 := by decide
  have hZ : (unit 'Z').toNat = 90 := by decide
  have ha : (unit 'a').toNat = 97 := by decide
  have hz : (unit 'z').toNat = 122 := by decide
  have h32 : (32 : UInt16).toNat = 32 := by decide
  have hu := u.toNat_lt
  simp only [upperAscii, lowerAscii, UInt16.le_iff_toNat_le, ← UInt16.toNat_inj]
  constructor
  · split_ifs <;> simp_all [UInt16.toNat_add, UInt16.toNat_sub] <;> omega
  · split_ifs <;> simp_all [UInt16.toNat_add, UInt16.toNat_sub] <;> omega

/-- Upper case and lower case tell the same strings apart. -/
theorem map_upperAscii_eq_iff (x y : Text) :
    x.map upperAscii = y.map upperAscii ↔ x.map lowerAscii = y.map lowerAscii := by
  have hlower : ∀ z : Text, (z.map upperAscii).map lowerAscii = z.map lowerAscii := by
    intro z
    rw [List.map_map]
    exact List.map_congr_left fun u _ => (upperAscii_lowerAscii u).2
  have hupper : ∀ z : Text, (z.map lowerAscii).map upperAscii = z.map upperAscii := by
    intro z
    rw [List.map_map]
    exact List.map_congr_left fun u _ => (upperAscii_lowerAscii u).1
  constructor
  · intro h
    rw [← hlower, h, hlower]
  · intro h
    rw [← hupper, h, hupper]

theorem equalsIgnoreCase_wide {rt : Runtime} (hrt : UppersAscii rt) {x y : Bytes}
    (hx : ∀ c ∈ x, c.toNat < 0x80) (hy : ∀ c ∈ y, c.toNat < 0x80) :
    equalsIgnoreCase rt (x.map UInt8.toUInt16) (y.map UInt8.toUInt16) = true ↔
      x.map toLowerAscii = y.map toLowerAscii := by
  have hascii : ∀ {z : Bytes}, (∀ c ∈ z, c.toNat < 0x80) →
      ∀ u ∈ z.map UInt8.toUInt16, u.toNat < 0x80 := by
    intro z hz u hu
    obtain ⟨c, hc, rfl⟩ := List.mem_map.mp hu
    rw [UInt8.toNat_toUInt16]
    exact hz c hc
  rw [equalsIgnoreCase, beq_iff_eq, hrt _ (hascii hx), hrt _ (hascii hy), map_upperAscii_eq_iff,
    map_lowerAscii_map, map_lowerAscii_map,
    (List.map_injective_iff.mpr toUInt16_injective).eq_iff]

end CulpeoStream.Dotnet
