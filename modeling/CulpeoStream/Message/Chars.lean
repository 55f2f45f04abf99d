import CulpeoStream.Lib.Strip

/-!
# Byte strings and character classes

A C++ `string_view` is read here as its list of bytes, `Bytes`; `ascii` turns
the ASCII literals of the source into such lists.  The character predicates of
`message.cpp` follow, under their own names.

The facts collected at the end are the ones the header codec rests on: no token
character is a separator, and trimming only ever removes `SP` and `HTAB`.
-/

namespace CulpeoStream.Message

/-- The bytes of a `string_view`, a `std::string` or a `span<const std::byte>`. -/
abbrev Bytes := List UInt8

/-- The bytes of an ASCII literal. -/
def ascii (text : String) : Bytes := text.toList.map Char.toUInt8

/-- The byte of an ASCII character literal. -/
def ch (c : Char) : UInt8 := c.toUInt8

def toLowerAscii (value : UInt8) : UInt8 :=
  if ch 'A' ≤ value ∧ value ≤ ch 'Z' then value - ch 'A' + ch 'a' else value

/-- `std::ranges::equal` up to `to_lower_ascii`. -/
def iequalsAscii (lhs rhs : Bytes) : Bool :=
  lhs.map toLowerAscii == rhs.map toLowerAscii

-- `0x27` is the apostrophe and `0x60` the backtick.
def isTokenChar (value : UInt8) : Bool :=
  (ch '0' ≤ value && value ≤ ch '9')
    || (ch 'A' ≤ value && value ≤ ch 'Z')
    || (ch 'a' ≤ value && value ≤ ch 'z')
    || value == ch '!' || value == ch '#' || value == ch '$' || value == ch '%'
    || value == ch '&' || value == 0x27 || value == ch '*' || value == ch '+'
    || value == ch '-' || value == ch '.' || value == ch '^' || value == ch '_'
    || value == 0x60 || value == ch '|' || value == ch '~'

/-- `SP` or `HTAB`, the only characters that `trim_ascii` removes. -/
def isBlank (value : UInt8) : Bool :=
  value == ch ' ' || value == ch '\t'

/-- The two loops of `trim_ascii`: the front first, then the back. -/
def trimAscii (value : Bytes) : Bytes :=
  (value.dropWhile isBlank).rdropWhile isBlank

def validHeaderName (value : Bytes) : Bool :=
  !value.isEmpty && value.all fun c => !(c == 0 || !isTokenChar c)

def validHeaderValue (value : Bytes) : Bool :=
  value.all fun c => !(c == ch '\r' || c == ch '\n' || c == 0)

/-! ### Names -/

theorem validHeaderName_iff {value : Bytes} :
    validHeaderName value = true ↔ value ≠ [] ∧ ∀ c ∈ value, isTokenChar c = true := by
  have hzero : isTokenChar 0 = false := by decide
  have hchar : ∀ c : UInt8, (!(c == 0 || !isTokenChar c)) = true ↔ isTokenChar c = true := by
    intro c
    by_cases hc : c = 0
    · subst hc
      simp [hzero]
    · simp [hc]
  simp only [validHeaderName, Bool.and_eq_true, List.all_eq_true, hchar]
  cases value <;> simp

/-- A character outside the token class does not occur in a valid name. -/
theorem notMem_of_validHeaderName {value : Bytes} {c : UInt8}
    (hvalid : validHeaderName value = true) (hc : isTokenChar c = false) : c ∉ value := by
  intro hmem
  have htoken := (validHeaderName_iff.mp hvalid).2 c hmem
  rw [hc] at htoken
  cases htoken

theorem isTokenChar_colon : isTokenChar (ch ':') = false := by decide

theorem isTokenChar_cr : isTokenChar (ch '\r') = false := by decide

/-! ### Values and trimming -/

theorem validHeaderValue_iff {value : Bytes} :
    validHeaderValue value = true ↔
      ∀ c ∈ value, c ≠ ch '\r' ∧ c ≠ ch '\n' ∧ c ≠ 0 := by
  simp [validHeaderValue, List.all_eq_true, and_assoc]

theorem isBlank_space : isBlank (ch ' ') = true := by decide

theorem isBlank_of_isTokenChar {c : UInt8} (h : isTokenChar c = true) : isBlank c = false := by
  rw [← Bool.not_eq_true, isBlank, Bool.or_eq_true, beq_iff_eq, beq_iff_eq]
  rintro (rfl | rfl) <;> cases h

/-- A value that neither starts nor ends with `SP` or `HTAB` is left alone. -/
theorem trimAscii_eq_self {value : Bytes}
    (hfront : ∀ c ∈ value.head?, isBlank c = false)
    (hback : ∀ c ∈ value.getLast?, isBlank c = false) : trimAscii value = value :=
  Strip.strip_eq_self hfront hback

/-- The blank that the encoder puts after the colon is trimmed away. -/
theorem trimAscii_cons_blank {c : UInt8} {value : Bytes} (h : isBlank c = true) :
    trimAscii (c :: value) = trimAscii value := by
  rw [trimAscii, List.dropWhile_cons_of_pos h, trimAscii]

theorem trimAscii_subset (value : Bytes) : trimAscii value ⊆ value :=
  Strip.strip_subset isBlank value

end CulpeoStream.Message
