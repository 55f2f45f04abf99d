import Mathlib.Data.List.Forall2
import CulpeoStream.Message.Headers

/-!
# The language `parse_headers` accepts

`Denotes limits frame t fields` is the grammar of a frame, stated without the
parser: the first `CRLFCRLF` stands at `t`, the bytes before it are header lines,
and `fields` are the names and trimmed values those lines carry.

`parseHeaders_ok_iff` identifies the hand-written scan with it.  The proof goes
through two list recursions that the `while` loop refines: `parseLines_eq_goLines`
turns the cursor loop into a walk over the split lines, and `goLines_ok_iff`
separates the syntax of the lines from the dispatch of their fields to the
reserved slots (`assignFields_ok_iff`).

A header block never ends with `CRLF`, because the terminator would then have
been found two bytes earlier (`not_crlf_suffix_of_isFirst`); this is why the two
exit conditions of the loop agree with splitting.
-/

namespace CulpeoStream.Message

open Search

/-- The lines of a header block: none when it is empty, else its pieces between
`CRLF`s. -/
def headerLines (block : Bytes) : List Bytes :=
  if block = [] then [] else splitOn crlf block

/-- `line` is a non-empty token, a colon, and a value that trims to
`field.value`, within the limit and free of `CR`, `LF` and `NUL`. -/
structure HeaderLine (limits : ParseLimits) (line : Bytes) (field : HeaderField) : Prop where
  split : ∃ raw, line = field.name ++ ch ':' :: raw ∧ field.value = trimAscii raw
  name_ne_nil : field.name ≠ []
  token : ∀ c ∈ field.name, isTokenChar c = true
  size : field.value.length ≤ limits.maxHeaderValueBytes
  clean : ∀ c ∈ field.value, c ≠ ch '\r' ∧ c ≠ ch '\n' ∧ c ≠ 0

/-- The fields that carry the reserved header `r`, up to ASCII case. -/
def fieldsOf (r : Reserved) (fields : List HeaderField) : List HeaderField :=
  fields.filter fun field => iequalsAscii field.name r.headerName

/-- The value of the reserved header `r`, when some field carries it. -/
def fieldValue (r : Reserved) (fields : List HeaderField) : Option Bytes :=
  (fieldsOf r fields).head?.map HeaderField.value

/-- The grammar of a frame: `fields` are the headers of `frame`, and its header
terminator stands at `t`. -/
structure Denotes (limits : ParseLimits) (frame : Bytes) (t : ℕ)
    (fields : List HeaderField) : Prop where
  terminator : IsFirst crlfcrlf frame t
  within : t ≤ limits.maxHeaderBlockBytes
  lines : List.Forall₂ (HeaderLine limits) (headerLines (frame.take t)) fields
  count : fields.length ≤ limits.maxHeaderCount
  unique : ∀ r, (fieldsOf r fields).length ≤ 1

/-! ### Reserved names -/

/-- No two reserved names agree up to ASCII case. -/
theorem headerName_injective {r q : Reserved}
    (h : r.headerName.map toLowerAscii = q.headerName.map toLowerAscii) : r = q := by
  revert h
  cases r <;> cases q <;> decide

theorem reservedOf_eq_some_iff {name : Bytes} {r : Reserved} :
    reservedOf name = some r ↔ iequalsAscii name r.headerName = true := by
  constructor
  · intro h
    simpa using List.find?_some h
  · intro h
    cases hres : reservedOf name with
    | none =>
        have hmem : r ∈ kReservedHeaderNames := by cases r <;> decide
        have hnot := List.find?_eq_none.mp hres r hmem
        exact absurd h hnot
    | some q =>
        have hq : iequalsAscii name q.headerName = true := by
          simpa using List.find?_some hres
        simp only [iequalsAscii, beq_iff_eq] at h hq
        rw [headerName_injective (hq.symm.trans h)]

/-! ### The reserved slots -/

/-- The fields of a frame, assigned to their slots one after the other. -/
def assignFields : List HeaderField → ParsedHeadersView → Except Error ParsedHeadersView
  | [], parsed => .ok parsed
  | field :: rest, parsed =>
      match setIfReserved field.name field.value parsed with
      | .error e => .error e
      | .ok parsed => assignFields rest parsed

/-- `parsed'` is `parsed` with the empty slots filled from `fields`. -/
structure FilledFrom (fields : List HeaderField) (parsed parsed' : ParsedHeadersView) :
    Prop where
  frameType : parsed'.frameType = parsed.frameType
  frame : parsed'.frame = parsed.frame
  headerBlock : parsed'.headerBlock = parsed.headerBlock
  body : parsed'.body = parsed.body
  slots : ∀ r, parsed'.slot r = (parsed.slot r).or (fieldValue r fields)

theorem ParsedHeadersView.ext_slots {p q : ParsedHeadersView}
    (htype : p.frameType = q.frameType) (hframe : p.frame = q.frame)
    (hblock : p.headerBlock = q.headerBlock) (hbody : p.body = q.body)
    (hslots : ∀ r, p.slot r = q.slot r) : p = q := by
  cases p
  cases q
  have h := fun r => hslots r
  simp only [ParsedHeadersView.mk.injEq]
  exact ⟨htype, hframe, hblock, hbody, h .event, h .contentType, h .authorization,
    h .sessionId, h .streamId, h .offset, h .timestamp, h .bufferWindow, h .reason, h .code⟩

theorem fieldsOf_cons (r : Reserved) (field : HeaderField) (rest : List HeaderField) :
    fieldsOf r (field :: rest) =
      if reservedOf field.name = some r then field :: fieldsOf r rest else fieldsOf r rest := by
  simp only [fieldsOf, List.filter_cons, reservedOf_eq_some_iff]

theorem fieldValue_cons (r : Reserved) (field : HeaderField) (rest : List HeaderField) :
    fieldValue r (field :: rest) =
      if reservedOf field.name = some r then some field.value else fieldValue r rest := by
  rw [fieldValue, fieldsOf_cons]
  split <;> rfl

/-- One field fills the slot of its name, if the slot is still empty. -/
theorem setIfReserved_ok_iff {name value : Bytes} {parsed parsed' : ParsedHeadersView} :
    setIfReserved name value parsed = .ok parsed' ↔
      (∀ r, reservedOf name = some r → parsed.slot r = none) ∧
        parsed' = (reservedOf name).elim parsed (parsed.setSlot value) := by
  rw [setIfReserved]
  cases reservedOf name with
  | none => simp [eq_comm]
  | some r =>
      cases hslot : parsed.slot r with
      | none => simp [hslot, eq_comm]
      | some v => simp [hslot]

/-- A successful assignment moves one occurrence from the fields to its slot. -/
theorem fieldsOf_cons_length {field : HeaderField} {rest : List HeaderField}
    {parsed mid : ParsedHeadersView}
    (hset : setIfReserved field.name field.value parsed = .ok mid) (r : Reserved) :
    (fieldsOf r (field :: rest)).length + (parsed.slot r).toList.length =
      (fieldsOf r rest).length + (mid.slot r).toList.length := by
  obtain ⟨hempty, rfl⟩ := setIfReserved_ok_iff.mp hset
  rw [fieldsOf_cons]
  cases hres : reservedOf field.name with
  | none => simp
  | some q =>
      by_cases hrq : r = q
      · subst hrq
        simp [hempty r hres]
      · simp [hrq, Ne.symm hrq]

theorem filledFrom_cons {field : HeaderField} {rest : List HeaderField}
    {parsed mid parsed' : ParsedHeadersView}
    (hset : setIfReserved field.name field.value parsed = .ok mid) :
    FilledFrom (field :: rest) parsed parsed' ↔ FilledFrom rest mid parsed' := by
  obtain ⟨hempty, rfl⟩ := setIfReserved_ok_iff.mp hset
  have hslots : ∀ r, (parsed.slot r).or (fieldValue r (field :: rest)) =
      (((reservedOf field.name).elim parsed (parsed.setSlot field.value)).slot r).or
        (fieldValue r rest) := by
    intro r
    rw [fieldValue_cons]
    cases hres : reservedOf field.name with
    | none => simp
    | some q =>
        by_cases hrq : r = q
        · subst hrq
          simp [hempty r hres]
        · simp [hrq, Ne.symm hrq]
  constructor
  · rintro ⟨h1, h2, h3, h4, h5⟩
    cases hres : reservedOf field.name <;> rw [hres] at hslots <;>
      exact ⟨by simpa using h1, by simpa using h2, by simpa using h3, by simpa using h4,
        fun r => (h5 r).trans (hslots r)⟩
  · rintro ⟨h1, h2, h3, h4, h5⟩
    cases hres : reservedOf field.name <;> rw [hres] at hslots h1 h2 h3 h4 h5 <;>
      exact ⟨by simpa using h1, by simpa using h2, by simpa using h3, by simpa using h4,
        fun r => (h5 r).trans (hslots r).symm⟩

/-- **Duplicate detection.**  Assigning the fields succeeds exactly when no
reserved name is carried twice, counting the slots that were already full. -/
theorem assignFields_ok_iff {fields : List HeaderField} {parsed parsed' : ParsedHeadersView} :
    assignFields fields parsed = .ok parsed' ↔
      (∀ r, (fieldsOf r fields).length + (parsed.slot r).toList.length ≤ 1) ∧
        FilledFrom fields parsed parsed' := by
  induction fields generalizing parsed with
  | nil =>
      constructor
      · intro h
        cases h
        refine ⟨fun r => ?_, rfl, rfl, rfl, rfl, fun r => by simp [fieldValue, fieldsOf]⟩
        cases parsed'.slot r <;> simp [fieldsOf]
      · rintro ⟨-, hfill⟩
        refine congrArg Except.ok (ParsedHeadersView.ext_slots hfill.frameType.symm
          hfill.frame.symm hfill.headerBlock.symm hfill.body.symm fun r => ?_)
        simp [hfill.slots r, fieldValue, fieldsOf]
  | cons field rest ih =>
      rw [assignFields]
      cases hset : setIfReserved field.name field.value parsed with
      | ok mid =>
          simp only [fieldsOf_cons_length hset, filledFrom_cons hset]
          exact ih
      | error e =>
          -- The slot of this name was full, so the name is carried twice.
          simp only [reduceCtorEq, false_iff]
          rintro ⟨hcount, -⟩
          rw [setIfReserved] at hset
          cases hres : reservedOf field.name with
          | none => simp [hres] at hset
          | some q =>
              have hq := hcount q
              cases hslot : parsed.slot q with
              | none => simp [hres, hslot] at hset
              | some v => simp [fieldsOf_cons, hres, hslot] at hq

/-! ### One header line -/

/-- A line up to its first colon. -/
theorem find_colon {name raw : Bytes} (hname : ch ':' ∉ name) :
    find [ch ':'] (name ++ ch ':' :: raw) = some name.length := by
  have hself : find [ch ':'] (ch ':' :: raw) = some 0 := find_self_append
  rw [find_append_of_head_notMem hname, hself]
  simp

theorem parseLine_ok_iff {limits : ParseLimits} {line : Bytes}
    {parsed parsed' : ParsedHeadersView} :
    parseLine limits line parsed = .ok parsed' ↔
      ∃ field, HeaderLine limits line field ∧
        setIfReserved field.name field.value parsed = .ok parsed' := by
  constructor
  · -- Every check that `parse_line` passes is one clause of the grammar.
    intro h
    unfold parseLine at h
    split at h
    · cases h
    · cases hfind : find [ch ':'] line with
      | none => simp [hfind] at h
      | some t =>
          simp only [hfind, Bool.not_eq_true', Bool.or_eq_true, decide_eq_true_eq] at h
          split at h
          · cases h
          · rename_i hname
            split at h
            · cases h
            · rename_i hvalue
              rw [Bool.not_eq_false] at hname
              rw [not_or, Nat.not_lt, Bool.not_eq_false] at hvalue
              obtain ⟨hne, htoken⟩ := validHeaderName_iff.mp hname
              have hsplit := (find_eq_some_iff.mp hfind).split
              exact ⟨⟨line.take t, trimAscii (line.drop (t + 1))⟩,
                ⟨⟨line.drop (t + 1), by simpa using hsplit, rfl⟩, hne, htoken, hvalue.1,
                  validHeaderValue_iff.mp hvalue.2⟩, h⟩
  · -- A token has no colon, so the first colon of the line is the one behind the name.
    rintro ⟨⟨name, value⟩, ⟨⟨raw, hline, hraw⟩, hne, htoken, hsize, hclean⟩, hset⟩
    simp only at hline hraw hne htoken hsize hclean hset
    subst hline hraw
    have hname : validHeaderName name = true := validHeaderName_iff.mpr ⟨hne, htoken⟩
    have hvalue : validHeaderValue (trimAscii raw) = true := validHeaderValue_iff.mpr hclean
    have hfind : find [ch ':'] (name ++ ch ':' :: raw) = some name.length :=
      find_colon (notMem_of_validHeaderName hname isTokenChar_colon)
    have hnil : (name ++ ch ':' :: raw).isEmpty = false := by simp
    have hdrop : (name ++ ch ':' :: raw).drop (name.length + 1) = raw := by
      rw [← List.drop_drop, List.drop_left, List.drop_succ_cons, List.drop_zero]
    simp only [parseLine, hnil, hfind, List.take_left, hdrop, hname, hvalue, hset]
    simp [hsize]

/-! ### The line loop -/

/-- The line loop as a walk over the list of lines. -/
def goLines (limits : ParseLimits) :
    List Bytes → ℕ → ParsedHeadersView → Except Error ParsedHeadersView
  | [], _, parsed => .ok parsed
  | line :: rest, headerCount, parsed =>
      if limits.maxHeaderCount ≤ headerCount then .error .headerBlockTooLarge
      else
        match parseLine limits line parsed with
        | .error e => .error e
        | .ok parsed => goLines limits rest (headerCount + 1) parsed

theorem headerLines_of_find_none {block : Bytes} (hne : block ≠ [])
    (h : find crlf block = none) : headerLines block = [block] := by
  rw [headerLines, if_neg hne, splitOn_of_find_none h]

theorem headerLines_of_find_some {block : Bytes} {t : ℕ} (h : find crlf block = some t)
    (hrest : block.drop (t + 2) ≠ []) :
    headerLines block = block.take t :: headerLines (block.drop (t + 2)) := by
  have hne : block ≠ [] := by
    rintro rfl
    simp at hrest
  rw [headerLines, if_neg hne, splitOn_of_find_some (by simp [crlf]) h, headerLines]
  exact congrArg _ (if_neg hrest).symm

/-- **The line at the cursor** of a block that does not end with a line separator: it is the
first of the lines from there, and the others begin two bytes behind it. -/
theorem headerLines_at_cursor {block : Bytes} {lineStart lineEnd : ℕ}
    (hstart : lineStart < block.length) (hend : ¬ crlf <:+ block.drop lineStart)
    (hlineEnd : lineEnd = ((find crlf (block.drop lineStart)).map (· + lineStart)).getD
      block.length) :
    lineStart ≤ lineEnd ∧ lineEnd ≤ block.length ∧ ¬ crlf <:+ block.drop (lineEnd + 2) ∧
      headerLines (block.drop lineStart) =
        (block.drop lineStart).take (lineEnd - lineStart) ::
          headerLines (block.drop (lineEnd + 2)) := by
  have hne : block.drop lineStart ≠ [] := by
    rw [ne_eq, List.drop_eq_nil_iff]
    omega
  cases hfind : find crlf (block.drop lineStart) with
  | none =>
      -- The last line: the next cursor lies behind the block.
      rw [hfind, Option.map_none, Option.getD_none] at hlineEnd
      subst hlineEnd
      have hpast : block.drop (block.length + 2) = [] := List.drop_eq_nil_of_le (by omega)
      have hline : (block.drop lineStart).take (block.length - lineStart) =
          block.drop lineStart := List.take_of_length_le (by rw [List.length_drop])
      refine ⟨by omega, le_rfl, by simp [hpast, crlf], ?_⟩
      rw [headerLines_of_find_none hne hfind, hline, hpast, headerLines, if_pos rfl]
  | some t =>
      rw [hfind, Option.map_some, Option.getD_some] at hlineEnd
      subst hlineEnd
      have hocc := find_eq_some_iff.mp hfind
      have hlen := hocc.add_length_le
      rw [List.length_drop] at hlen
      have hcrlf : crlf.length = 2 := rfl
      have hrest : (block.drop lineStart).drop (t + 2) ≠ [] := by
        intro hnil
        apply hend
        have hsplit := hocc.split
        rw [hcrlf, hnil, List.append_nil] at hsplit
        exact ⟨_, hsplit.symm⟩
      have hnext : block.drop (t + lineStart + 2) = (block.drop lineStart).drop (t + 2) := by
        rw [List.drop_drop]
        congr 1
        omega
      refine ⟨by omega, by omega, ?_, ?_⟩
      · rw [hnext]
        exact fun hsuf => hend (hsuf.trans (List.drop_suffix _ _))
      · rw [headerLines_of_find_some hfind hrest, hnext, Nat.add_sub_cancel]

/-- **The cursor loop reads the split lines**, as long as the block does not end
with a line separator. -/
theorem parseLines_eq_goLines (limits : ParseLimits) (block : Bytes) :
    ∀ (fuel lineStart headerCount : ℕ) (parsed : ParsedHeadersView),
      block.length ≤ fuel + lineStart → ¬ crlf <:+ block.drop lineStart →
      parseLines limits block fuel lineStart headerCount parsed =
        goLines limits (headerLines (block.drop lineStart)) headerCount parsed := by
  intro fuel
  induction fuel with
  | zero =>
      intro lineStart headerCount parsed hfuel _
      have hnil : block.drop lineStart = [] := List.drop_eq_nil_of_le (by omega)
      rw [hnil, parseLines, headerLines, if_pos rfl, goLines]
  | succ fuel ih =>
      intro lineStart headerCount parsed hfuel hend
      by_cases hstart : lineStart < block.length
      · obtain ⟨hle, -, hnext, hlines⟩ := headerLines_at_cursor hstart hend rfl
        have hmatch : ∀ {f g : ParsedHeadersView → Except Error ParsedHeadersView},
            (∀ next, f next = g next) → ∀ read : Except Error ParsedHeadersView,
            (match read with
              | .error e => Except.error e
              | .ok next => f next) =
            match read with
              | .error e => Except.error e
              | .ok next => g next := by
          intro f g hfg read
          cases read with
          | error e => rfl
          | ok next => exact hfg next
        rw [parseLines, if_pos hstart, hlines, goLines]
        refine if_congr Iff.rfl rfl (hmatch (fun next => ?_) _)
        exact ih _ _ _ (show block.length ≤ fuel + (_ + 2) by omega) hnext
      · have hnil : block.drop lineStart = [] := List.drop_eq_nil_of_le (by omega)
        rw [hnil, parseLines, if_neg hstart, headerLines, if_pos rfl, goLines]

/-- The walk succeeds exactly when the lines are header lines, not too many, and
their fields can be assigned. -/
theorem goLines_ok_iff {limits : ParseLimits} {lines : List Bytes} {headerCount : ℕ}
    {parsed parsed' : ParsedHeadersView} (hcount : headerCount ≤ limits.maxHeaderCount) :
    goLines limits lines headerCount parsed = .ok parsed' ↔
      ∃ fields, List.Forall₂ (HeaderLine limits) lines fields ∧
        fields.length + headerCount ≤ limits.maxHeaderCount ∧
          assignFields fields parsed = .ok parsed' := by
  induction lines generalizing headerCount parsed with
  | nil =>
      simp only [goLines, List.forall₂_nil_left_iff, exists_eq_left, List.length_nil,
        Nat.zero_add, hcount, assignFields, true_and]
  | cons line rest ih =>
      rw [goLines]
      by_cases hfull : limits.maxHeaderCount ≤ headerCount
      · -- The limit is met before the line is looked at.
        rw [if_pos hfull]
        simp only [reduceCtorEq, false_iff]
        rintro ⟨_, hlines, hlen, -⟩
        cases hlines
        rw [List.length_cons] at hlen
        omega
      · rw [if_neg hfull]
        constructor
        · intro h
          cases hline : parseLine limits line parsed with
          | error e => simp [hline] at h
          | ok mid =>
              rw [hline] at h
              obtain ⟨field, hfield, hset⟩ := parseLine_ok_iff.mp hline
              obtain ⟨fields, hlines, hlen, hassign⟩ := (ih (by omega)).mp h
              refine ⟨field :: fields, .cons hfield hlines, ?_, ?_⟩
              · rw [List.length_cons]
                omega
              · rw [assignFields, hset]
                exact hassign
        · rintro ⟨_, hlines, hlen, hassign⟩
          cases hlines with
          | cons hfield hlines =>
              rename_i field fields
              rw [List.length_cons] at hlen
              cases hset : setIfReserved field.name field.value parsed with
              | error e => simp [assignFields, hset] at hassign
              | ok mid =>
                  rw [assignFields, hset] at hassign
                  rw [parseLine_ok_iff.mpr ⟨field, hfield, hset⟩]
                  exact (ih (by omega)).mpr ⟨fields, hlines, by omega, hassign⟩

/-! ### The terminator -/

/-- The bytes before the first terminator do not end with a line separator. -/
theorem not_crlf_suffix_of_isFirst {frame : Bytes} {t : ℕ} (h : IsFirst crlfcrlf frame t) :
    ¬ crlf <:+ frame.take t := by
  rintro ⟨l, hl⟩
  have hlen : l.length + 2 = t := by
    have hsum := congrArg List.length hl
    rw [List.length_append, List.length_take, Nat.min_eq_left h.2.1] at hsum
    exact hsum
  apply h.2.2 l.length (by omega)
  have hsplit := h.split
  rw [← hl] at hsplit
  rw [hsplit, List.append_assoc, List.drop_left]
  exact ⟨crlf ++ frame.drop (t + 4), rfl⟩

/-- The search of `parse_headers`, cut off behind the configured limit. -/
theorem find_terminator_iff {frame : Bytes} {limits : ParseLimits} {t : ℕ}
    (hwrap : limits.maxHeaderBlockBytes + 4 < 2 ^ 64) :
    find crlfcrlf (frame.take
        (if frame.length < (limits.maxHeaderBlockBytes + 4) % 2 ^ 64 then frame.length
          else (limits.maxHeaderBlockBytes + 4) % 2 ^ 64)) = some t ↔
      IsFirst crlfcrlf frame t ∧ t ≤ limits.maxHeaderBlockBytes := by
  have hlen : crlfcrlf.length = 4 := rfl
  rw [find_take_eq_some_iff (by simp [crlfcrlf]), Nat.mod_eq_of_lt hwrap, hlen]
  constructor
  · rintro ⟨hfirst, hend⟩
    refine ⟨hfirst, ?_⟩
    split at hend <;> omega
  · rintro ⟨hfirst, hwithin⟩
    refine ⟨hfirst, ?_⟩
    have hend := hfirst.add_length_le
    rw [hlen] at hend
    split <;> omega

/-! ### The parser and its grammar -/

/-- **`parse_headers` is the grammar.**  The scan returns `parsed` exactly when
the frame denotes some fields and `parsed` is their view of the frame. -/
theorem parseHeaders_ok_iff {frameType : FrameType} {frame : Bytes} {limits : ParseLimits}
    {parsed : ParsedHeadersView} (hwrap : limits.maxHeaderBlockBytes + 4 < 2 ^ 64) :
    parseHeaders frameType frame limits = .ok parsed ↔
      ∃ t fields, Denotes limits frame t fields ∧
        FilledFrom fields
          { frameType, frame, headerBlock := frame.take t, body := frame.drop (t + 4) }
          parsed := by
  have hempty : ∀ (block body : Bytes) (r : Reserved),
      (ParsedHeadersView.slot { frameType, frame, headerBlock := block, body } r) = none := by
    intro block body r
    cases r <;> rfl
  -- From the indices of the loop to the lines.
  have hlines : ∀ {t}, IsFirst crlfcrlf frame t → ∀ parsed,
      parseLines limits (frame.take t) (frame.take t).length 0 0 parsed =
        goLines limits (headerLines (frame.take t)) 0 parsed := by
    intro t hfirst parsed
    rw [parseLines_eq_goLines limits _ _ _ _ _ (by omega)
      (by simpa using not_crlf_suffix_of_isFirst hfirst), List.drop_zero]
  constructor
  · intro h
    unfold parseHeaders at h
    cases hfind : find crlfcrlf (frame.take
        (if frame.length < (limits.maxHeaderBlockBytes + 4) % 2 ^ 64 then frame.length
          else (limits.maxHeaderBlockBytes + 4) % 2 ^ 64)) with
    | none =>
        simp only [hfind] at h
        split at h <;> cases h
    | some t =>
        obtain ⟨hfirst, hwithin⟩ := (find_terminator_iff hwrap).mp hfind
        simp only [hfind, if_neg (Nat.not_lt.mpr hwithin), hlines hfirst] at h
        obtain ⟨fields, hforall, hcount, hassign⟩ := (goLines_ok_iff (Nat.zero_le _)).mp h
        obtain ⟨hunique, hfill⟩ := assignFields_ok_iff.mp hassign
        refine ⟨t, fields, ⟨hfirst, hwithin, hforall, hcount, fun r => ?_⟩, hfill⟩
        simpa [hempty] using hunique r
  · rintro ⟨t, fields, hden, hfill⟩
    have hfind := (find_terminator_iff hwrap).mpr ⟨hden.terminator, hden.within⟩
    unfold parseHeaders
    simp only [hfind, if_neg (Nat.not_lt.mpr hden.within), hlines hden.terminator]
    refine (goLines_ok_iff (Nat.zero_le _)).mpr ⟨fields, hden.lines, hden.count,
      assignFields_ok_iff.mpr ⟨fun r => ?_, hfill⟩⟩
    simpa [hempty] using hden.unique r

/-- The view of a frame whose reserved slots are filled from `fields`. -/
def filledView (fields : List HeaderField) (frameType : FrameType)
    (frame headerBlock body : Bytes) : ParsedHeadersView where
  frameType := frameType
  frame := frame
  headerBlock := headerBlock
  body := body
  event := fieldValue .event fields
  contentType := fieldValue .contentType fields
  authorization := fieldValue .authorization fields
  sessionId := fieldValue .sessionId fields
  streamId := fieldValue .streamId fields
  offset := fieldValue .offset fields
  timestamp := fieldValue .timestamp fields
  bufferWindow := fieldValue .bufferWindow fields
  reason := fieldValue .reason fields
  code := fieldValue .code fields

theorem slot_filledView {fields : List HeaderField} {frameType : FrameType}
    {frame headerBlock body : Bytes} (r : Reserved) :
    (filledView fields frameType frame headerBlock body).slot r = fieldValue r fields := by
  cases r <;> rfl

theorem filledFrom_filledView {fields : List HeaderField} {frameType : FrameType}
    {frame headerBlock body : Bytes} :
    FilledFrom fields { frameType, frame, headerBlock, body }
      (filledView fields frameType frame headerBlock body) :=
  ⟨rfl, rfl, rfl, rfl, fun r => by cases r <;> rfl⟩

/-- **`parse_headers` accepts exactly its grammar**, for either frame type and for
every limit whose search bound does not wrap; what it returns is the header block,
the body behind the terminator, and for each reserved header the trimmed value of
the line that carries it. -/
theorem parseHeaders_accepts_iff_denotes (frameType : FrameType) (frame : Bytes)
    (limits : ParseLimits) (hwrap : limits.maxHeaderBlockBytes + 4 < 2 ^ 64) :
    ((∃ parsed, parseHeaders frameType frame limits = .ok parsed) ↔
      ∃ t fields, Denotes limits frame t fields) ∧
    ∀ parsed, parseHeaders frameType frame limits = .ok parsed →
      ∃ t fields, Denotes limits frame t fields ∧
        parsed.headerBlock = frame.take t ∧ parsed.body = frame.drop (t + 4) ∧
          ∀ r, parsed.slot r = fieldValue r fields := by
  refine ⟨⟨?_, ?_⟩, ?_⟩
  · rintro ⟨parsed, h⟩
    obtain ⟨t, fields, hden, -⟩ := (parseHeaders_ok_iff hwrap).mp h
    exact ⟨t, fields, hden⟩
  · rintro ⟨t, fields, hden⟩
    exact ⟨_, (parseHeaders_ok_iff hwrap).mpr ⟨t, fields, hden, filledFrom_filledView⟩⟩
  · intro parsed h
    obtain ⟨t, fields, hden, hfill⟩ := (parseHeaders_ok_iff hwrap).mp h
    refine ⟨t, fields, hden, hfill.headerBlock, hfill.body, fun r => ?_⟩
    rw [hfill.slots r]
    cases r <;> rfl

/-- A ping frame with a stray blank line in its body is in the language. -/
theorem denotes_ping_frame :
    ∃ t fields, Denotes {} (ascii "EVENT: culpeo.ping \r\nX-Trace:7\r\n\r\n\r\n\r\n") t fields :=
  (parseHeaders_accepts_iff_denotes .control _ {} (by decide)).1.mp
    (by exact ⟨_, rfl⟩)

/-! ### Values of a parsed frame -/

/-- Every slot that is filled holds a value that fits into a header. -/
def SlotsValid (parsed : ParsedHeadersView) : Prop :=
  ∀ r value, parsed.slot r = some value → validHeaderValue value = true

theorem slotsValid_parseLine {limits : ParseLimits} {line : Bytes}
    {parsed parsed' : ParsedHeadersView} (hvalid : SlotsValid parsed)
    (h : parseLine limits line parsed = .ok parsed') : SlotsValid parsed' := by
  obtain ⟨field, hfield, hset⟩ := parseLine_ok_iff.mp h
  obtain ⟨-, rfl⟩ := setIfReserved_ok_iff.mp hset
  cases hname : reservedOf field.name with
  | none => exact hvalid
  | some q =>
      intro r value hslot
      rw [Option.elim_some, ParsedHeadersView.slot_setSlot] at hslot
      split at hslot
      · cases hslot
        exact validHeaderValue_iff.mpr hfield.clean
      · exact hvalid r value hslot

theorem slotsValid_parseLines {limits : ParseLimits} {block : Bytes} :
    ∀ {fuel lineStart headerCount : ℕ} {parsed parsed' : ParsedHeadersView},
      SlotsValid parsed → parseLines limits block fuel lineStart headerCount parsed = .ok parsed' →
      SlotsValid parsed' := by
  intro fuel
  induction fuel with
  | zero =>
      intro lineStart headerCount parsed parsed' hvalid h
      cases h
      exact hvalid
  | succ fuel ih =>
      intro lineStart headerCount parsed parsed' hvalid h
      rw [parseLines] at h
      split at h
      · split at h
        · cases h
        · simp only at h
          split at h
          · cases h
          · exact ih (slotsValid_parseLine hvalid ‹_›) h
      · cases h
        exact hvalid

/-- **Values read from a frame can be written back**, whatever the limits. -/
theorem parseHeaders_slot_valid {frameType : FrameType} {frame : Bytes} {limits : ParseLimits}
    {parsed : ParsedHeadersView} (h : parseHeaders frameType frame limits = .ok parsed)
    (r : Reserved) {value : Bytes} (hslot : parsed.slot r = some value) :
    validHeaderValue value = true := by
  rw [parseHeaders] at h
  simp only at h
  split at h
  · split at h <;> cases h
  · split at h
    · cases h
    · refine slotsValid_parseLines ?_ h r value hslot
      intro q v hq
      cases q <;> cases hq

end CulpeoStream.Message
