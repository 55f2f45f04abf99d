import Mathlib.Data.List.DropRight

/-!
# UTF-16 strings

The strings of .NET and of JavaScript are sequences of 16-bit code units, with no
further condition: `Text`.  `utf16` gives the code units of a literal, and `trimBy`
removes what one of the two languages takes for white space from both ends.
-/

namespace Utf16

/-- The code units of a string. -/
abbrev Text := List UInt16

/-- The code units of a character: one, or a surrogate pair. -/
def units (c : Char) : Text :=
  if c.toNat < 0x10000 then [c.toNat.toUInt16]
  else
    [(0xD800 + (c.toNat - 0x10000) / 0x400).toUInt16,
      (0xDC00 + (c.toNat - 0x10000) % 0x400).toUInt16]

/-- The code units of a literal. -/
def utf16 (literal : String) : Text := literal.toList.flatMap units

/-- The code unit of an ASCII character. -/
def unit (c : Char) : UInt16 := c.toNat.toUInt16

/-- Remove white space from both ends. -/
def trimBy (isSpace : UInt16 → Bool) (s : Text) : Text :=
  (s.dropWhile isSpace).rdropWhile isSpace

/-- The letters `A` to `Z` in lower case, and every other code unit as it is. -/
def lowerAscii (c : UInt16) : UInt16 :=
  if unit 'A' ≤ c ∧ c ≤ unit 'Z' then c + 32 else c

/-- The letters `a` to `z` in upper case, and every other code unit as it is. -/
def upperAscii (c : UInt16) : UInt16 :=
  if unit 'a' ≤ c ∧ c ≤ unit 'z' then c - 32 else c

end Utf16
