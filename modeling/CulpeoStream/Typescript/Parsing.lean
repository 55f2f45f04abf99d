import CulpeoStream.Lib.Checks
import CulpeoStream.Message.Decoded
import CulpeoStream.Typescript.Message

/-!
# What `extractHeaders` accepts

Without a backend the headers are those of the lines of the decoded header block, read one
after the other (`extractHeaders_ok_iff`).  The lines of the text are the decoded lines of the
block (`linesOf_decode`), up to a byte order mark at the start of the first one.
-/

namespace CulpeoStream.Typescript

open Message Search Utf16

/-! ### The lines -/

/-- The text without a byte order mark at its start. -/
def dropBom : Text → Text
  | [] => []
  | u :: rest => if u = 0xFEFF then rest else u :: rest

theorem textDecode_eq (bytes : Bytes) : textDecode bytes = dropBom (Utf8.decode bytes) := by
  unfold textDecode dropBom
  cases Utf8.decode bytes <;> rfl

theorem linesOf_decode (block : Bytes) :
    linesOf (Utf8.decode block) = (headerLines block).map Utf8.decode := by
  by_cases hnil : block = []
  · subst hnil
    rfl
  · have htext : (Utf8.decode block).isEmpty = false := by
      simpa using Utf8.decode_ne_nil hnil
    have hcrlf : utf16 "\r\n" = crlfText := by decide
    rw [linesOf, headerLines, if_neg hnil, htext, hcrlf, ← splitOn_decode]
    rfl

/-! ### The boundary -/

theorem findHeaderBoundary_ok_iff {bytes : Bytes} {maxHeaderBlockSize : ℤ} {t : ℕ} :
    findHeaderBoundary bytes maxHeaderBlockSize = .ok t ↔
      IsFirst crlfcrlf bytes t ∧ (t : ℤ) ≤ maxHeaderBlockSize := by
  have hlen : crlfcrlf.length = 4 := rfl
  have hfind : find crlfcrlf (bytes.take (min (bytes.length : ℤ) (maxHeaderBlockSize + 4)).toNat) =
      some t ↔ IsFirst crlfcrlf bytes t ∧ (t : ℤ) ≤ maxHeaderBlockSize := by
    rw [find_take_eq_some_iff (by simp [crlfcrlf]), hlen]
    constructor
    · rintro ⟨hfirst, hend⟩
      exact ⟨hfirst, by omega⟩
    · rintro ⟨hfirst, hwithin⟩
      have hend := hfirst.add_length_le
      rw [hlen] at hend
      exact ⟨hfirst, by omega⟩
  rw [← hfind]
  unfold findHeaderBoundary
  dsimp only
  cases find crlfcrlf (bytes.take (min (bytes.length : ℤ) (maxHeaderBlockSize + 4)).toNat) with
  | some index => simp
  | none =>
      dsimp only
      unfold throwProtocolError
      by_cases hlong : maxHeaderBlockSize < bytes.length <;> simp [hlong]

/-- **What `extractHeaders` accepts.** -/
theorem extractHeaders_ok_iff {rt : Runtime} {bytes : Bytes} {limits : ParseLimits}
    {headers : Headers} {bodyOffset : ℕ} :
    extractHeaders rt bytes limits = .ok (headers, bodyOffset) ↔
      ∃ t, (IsFirst crlfcrlf bytes t ∧ (t : ℤ) ≤ limits.maxHeaderBlockSize) ∧
        ∃ state, (linesOf (textDecode (bytes.take t))).foldlM (parseHeaderLine rt limits) {} =
            .ok state ∧ state.headers = headers ∧ t + 4 = bodyOffset := by
  constructor
  · intro h
    obtain ⟨t, hboundary, h⟩ := Checks.exists_of_bind_ok h
    obtain ⟨read, hlines, h⟩ := Checks.exists_of_bind_ok h
    cases h
    refine ⟨t, findHeaderBoundary_ok_iff.mp hboundary, ?_⟩
    unfold parseHeaderLines at hlines
    revert hlines
    cases (linesOf (textDecode (bytes.take t))).foldlM (parseHeaderLine rt limits) {} with
    | error e =>
        intro hlines
        cases hlines
    | ok state =>
        intro hlines
        cases hlines
        exact ⟨state, rfl, rfl, rfl⟩
  · rintro ⟨t, hfirst, state, hfold, rfl, rfl⟩
    have hboundary := findHeaderBoundary_ok_iff.mpr hfirst
    have hlines : parseHeaderLines rt (textDecode (bytes.take t)) limits = .ok state.headers := by
      rw [parseHeaderLines, hfold]
      rfl
    unfold extractHeaders
    rw [hboundary]
    show (parseHeaderLines rt (textDecode (bytes.take t)) limits >>= fun headers =>
      pure (headers, t + 4)) = _
    rw [hlines]
    rfl

end CulpeoStream.Typescript
