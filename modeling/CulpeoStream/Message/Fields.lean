import CulpeoStream.Message.Decoded

/-!
# The fields of a header block

What the three parsers have in common: a line is cut at its first colon, and the value is
trimmed.  `blockFields` is that and nothing else; each parser checks the fields and chooses
among them in its own way.
-/

namespace CulpeoStream.Message

open Search Utf16

/-- A line, cut at its first colon. -/
def lineField (line : Bytes) : HeaderField :=
  match find [ch ':'] line with
  | none => ⟨line, []⟩
  | some colon => ⟨line.take colon, trimAscii (line.drop (colon + 1))⟩

/-- The fields of the lines of a block; empty lines have none. -/
def blockFields (block : Bytes) : List HeaderField :=
  ((headerLines block).filter (!·.isEmpty)).map lineField

theorem lineField_append {name raw : Bytes} (hname : ch ':' ∉ name) :
    lineField (name ++ ch ':' :: raw) = ⟨name, trimAscii raw⟩ := by
  have hdrop : (name ++ ch ':' :: raw).drop (name.length + 1) = raw := by
    rw [← List.drop_drop, List.drop_left]
    rfl
  rw [lineField, find_colon hname]
  simp only [List.take_left, hdrop]

/-- The first colon of a line. -/
theorem exists_of_find_colon {line : Bytes} {colon : ℕ} (h : find [ch ':'] line = some colon) :
    line = line.take colon ++ ch ':' :: line.drop (colon + 1) ∧ ch ':' ∉ line.take colon := by
  have hocc := find_eq_some_iff.mp h
  refine ⟨hocc.split, fun hmem => ?_⟩
  obtain ⟨name, raw, htake, hname⟩ := List.eq_append_cons_of_mem hmem
  have hline : line = name ++ ch ':' :: (raw ++ ch ':' :: line.drop (colon + 1)) := by
    conv_lhs => rw [hocc.split]
    simp [htake]
  have hfirst : find [ch ':'] (name ++ ch ':' :: (raw ++ ch ':' :: line.drop (colon + 1))) =
      some name.length := find_colon hname
  rw [← hline, h, Option.some.injEq] at hfirst
  have hlen := congrArg List.length htake
  rw [List.length_take, List.length_append, List.length_cons] at hlen
  omega

theorem lineField_of_find {line : Bytes} {colon : ℕ} (h : find [ch ':'] line = some colon) :
    lineField line = ⟨line.take colon, trimAscii (line.drop (colon + 1))⟩ := by
  rw [lineField, h]

theorem lineField_of_headerLine {limits : ParseLimits} {line : Bytes} {field : HeaderField}
    (h : HeaderLine limits line field) : lineField line = field := by
  obtain ⟨raw, hline, hvalue⟩ := h.split
  have hcolon : ch ':' ∉ field.name :=
    notMem_of_validHeaderName (validHeaderName_iff.mpr ⟨h.name_ne_nil, h.token⟩) isTokenChar_colon
  rw [hline, lineField_append hcolon, ← hvalue]

/-- The header lines of the grammar carry the fields of the block. -/
theorem Denotes.blockFields_eq {limits : ParseLimits} {frame : Bytes} {t : ℕ}
    {fields : List HeaderField} (h : Denotes limits frame t fields) :
    blockFields (frame.take t) = fields := by
  have hline : ∀ {line : Bytes} {field : HeaderField}, HeaderLine limits line field →
      line.isEmpty = false ∧ lineField line = field := by
    intro line field hfield
    obtain ⟨raw, hsplit, -⟩ := hfield.split
    exact ⟨by simp [hsplit], lineField_of_headerLine hfield⟩
  have hlines := h.lines
  unfold blockFields
  generalize headerLines (frame.take t) = lines at hlines ⊢
  clear h
  induction hlines with
  | nil => rfl
  | cons hfield _ ih =>
      obtain ⟨hne, hfield⟩ := hline hfield
      rw [List.filter_cons, hne]
      simp only [Bool.not_false, if_true, List.map_cons, hfield, ih]

/-- A header line of the grammar has a colon. -/
theorem Denotes.colon_mem {limits : ParseLimits} {frame : Bytes} {t : ℕ}
    {fields : List HeaderField} (h : Denotes limits frame t fields) :
    ∀ line ∈ headerLines (frame.take t), ch ':' ∈ line := by
  have hlines := h.lines
  generalize headerLines (frame.take t) = lines at hlines
  clear h
  induction hlines with
  | nil => exact fun line hline => (List.not_mem_nil hline).elim
  | cons hfield _ ih =>
      rintro line hline
      obtain rfl | hline := List.mem_cons.mp hline
      · obtain ⟨raw, hsplit, -⟩ := hfield.split
        rw [hsplit]
        simp
      · exact ih line hline

end CulpeoStream.Message
