import CulpeoStream.Lib.Utf8
import CulpeoStream.Message.RoundTrip

/-!
# Header lines written from strings

The C# and TypeScript serializers build the header lines as one string and encode it.  As
the separators are ASCII, the encoded string is the frame of the encoded names and values
(`encode_lines`), and an encoded value is clean and trimmed when the string is.
-/

namespace CulpeoStream.Message

open Utf16

/-- A header whose name and value are strings. -/
structure TextHeader where
  name : Text
  value : Text
  deriving DecidableEq, Repr

namespace TextHeader

def line (header : TextHeader) : Text :=
  header.name ++ utf16 ": " ++ header.value ++ utf16 "\r\n"

/-- The header in UTF-8. -/
def field (header : TextHeader) : HeaderField := ⟨Utf8.encode header.name, Utf8.encode header.value⟩

end TextHeader

theorem encode_line (header : TextHeader) (rest : Text) :
    Utf8.encode (header.line ++ rest) = headerText header.field ++ crlf ++ Utf8.encode rest := by
  have hline : header.line ++ rest = header.name ++ unit ':' :: ([] ++ unit ' ' ::
      (header.value ++ unit '\r' :: ([] ++ unit '\n' :: rest))) := by
    have hsep : utf16 ": " = [unit ':', unit ' '] := by decide
    have hend : utf16 "\r\n" = [unit '\r', unit '\n'] := by decide
    simp [TextHeader.line, hsep, hend]
  rw [hline, Utf8.encode_append_ascii (by decide), Utf8.encode_append_ascii (by decide),
    Utf8.encode_append_ascii (by decide), Utf8.encode_append_ascii (by decide)]
  have hcolon : (unit ':').toUInt8 = ch ':' := by decide
  have hspace : (unit ' ').toUInt8 = ch ' ' := by decide
  have hcr : (unit '\r').toUInt8 = ch '\r' := by decide
  have hlf : (unit '\n').toUInt8 = ch '\n' := by decide
  have hnil : Utf8.encode [] = [] := rfl
  have hsep : ascii ": " = [ch ':', ch ' '] := rfl
  simp [headerText, TextHeader.field, crlf, hcolon, hspace, hcr, hlf, hnil, hsep]

/-- **The encoded lines are the lines of the encoded headers.** -/
theorem encode_lines (headers : List TextHeader) (rest : Text) :
    Utf8.encode (headers.flatMap TextHeader.line ++ rest) =
      encodeHeaders (headers.map TextHeader.field) ++ Utf8.encode rest := by
  induction headers with
  | nil => rfl
  | cons header headers ih =>
      rw [List.flatMap_cons, List.append_assoc, encode_line, ih, List.map_cons]
      simp [encodeHeaders]

theorem encode_crlf_append (rest : Text) :
    Utf8.encode (utf16 "\r\n" ++ rest) = crlf ++ Utf8.encode rest := by
  rw [Utf8.encode_ascii_append (Utf8.ascii_of_all (by decide))]
  rfl

/-! ### Values -/

/-- The units that no header value may contain. -/
def isForbiddenUnit (u : UInt16) : Bool := u == unit '\r' || u == unit '\n' || u == 0

theorem validHeaderValue_encode {value : Text} (h : value.any isForbiddenUnit = false) :
    validHeaderValue (Utf8.encode value) = true := by
  rw [List.any_eq_false] at h
  rw [validHeaderValue_iff]
  intro c hc
  refine ⟨?_, ?_, ?_⟩ <;>
    · rintro rfl
      exact h _ (Utf8.mem_of_mem_encode (by decide) hc) (by decide)

section Trimmed

variable {value : Text} (hwf : Utf8.WellFormed value)
include hwf

theorem head_of_head_encode {b : UInt8} (hb : b.toNat < 0x80)
    (h : b ∈ (Utf8.encode value).head?) : b.toUInt16 ∈ value.head? := by
  obtain ⟨rest, hrest⟩ := List.exists_cons_of_ne_nil
    (show Utf8.encode value ≠ [] by rintro hnil; simp [hnil] at h)
  obtain ⟨tail, htail⟩ := hrest
  rw [htail, List.head?_cons, Option.mem_some_iff] at h
  subst h
  have hread : Utf8.decode ([] ++ rest :: tail) = Utf8.decode [] ++ rest.toUInt16 ::
      Utf8.decode tail := Utf8.decode_append_ascii hb [] tail
  rw [List.nil_append, ← htail, Utf8.decode_encode hwf] at hread
  rw [hread]
  rfl

theorem last_of_last_encode {b : UInt8} (hb : b.toNat < 0x80)
    (h : b ∈ (Utf8.encode value).getLast?) : b.toUInt16 ∈ value.getLast? := by
  obtain ⟨front, hfront⟩ := List.getLast?_eq_some_iff.mp h
  have hread : Utf8.decode (front ++ b :: []) = Utf8.decode front ++ b.toUInt16 ::
      Utf8.decode [] := Utf8.decode_append_ascii hb front []
  rw [← hfront, Utf8.decode_encode hwf] at hread
  rw [hread]
  simp [Utf8.decode, Utf8.decodeChars, Utf8.decodeFrom]

end Trimmed

/-- `SP` or `HTAB`. -/
def isBlankUnit (u : UInt16) : Bool := u == unit ' ' || u == unit '\t'

theorem isBlank_iff (b : UInt8) : isBlank b = true ↔ b.toNat = 32 ∨ b.toNat = 9 := by
  have hspace : ch ' ' = 32 := by decide
  have htab : ch '\t' = 9 := by decide
  simp [isBlank, hspace, htab, ← UInt8.toNat_inj]

theorem isBlankUnit_toUInt16 {b : UInt8} (h : isBlank b = true) :
    isBlankUnit b.toUInt16 = true := by
  rw [isBlank, Bool.or_eq_true, beq_iff_eq, beq_iff_eq] at h
  obtain rfl | rfl := h <;> decide

/-- A value without blanks at its ends is not trimmed. -/
theorem trimAscii_encode {value : Text} (hwf : Utf8.WellFormed value)
    (hfront : value.head?.any isBlankUnit = false)
    (hback : value.getLast?.any isBlankUnit = false) :
    trimAscii (Utf8.encode value) = Utf8.encode value := by
  apply trimAscii_eq_self
  · intro b hb
    by_contra hblank
    rw [Bool.not_eq_false] at hblank
    have hascii : b.toNat < 0x80 := by
      rw [isBlank_iff] at hblank
      omega
    rw [Option.mem_def.mp (head_of_head_encode hwf hascii hb), Option.any_some,
      isBlankUnit_toUInt16 hblank] at hfront
    cases hfront
  · intro b hb
    by_contra hblank
    rw [Bool.not_eq_false] at hblank
    have hascii : b.toNat < 0x80 := by
      rw [isBlank_iff] at hblank
      omega
    rw [Option.mem_def.mp (last_of_last_encode hwf hascii hb), Option.any_some,
      isBlankUnit_toUInt16 hblank] at hback
    cases hback

end CulpeoStream.Message
