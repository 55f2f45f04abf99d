import CulpeoStream.Dotnet.Headers

/-!
# How `ParseAsync` fails

Everything that the parser refuses itself is a `FormatException`, and so is a number that is no
number.  `long.Parse` and `int.Parse` throw an `OverflowException` for a number that is out of
range, which nobody catches.  `Accepted` says which header lines are read, and
`parseAsync_fails_once_iff` that the parser keeps to the one exception exactly when no header
line that it comes to has such a number.
-/

namespace CulpeoStream.Dotnet

open Message Search Utf16

/-! ### Numbers -/

/-- The range of the number that a header is read as: from `-bound` to below `bound`. -/
def numberBound : Reserved → Option ℤ
  | .offset | .timestamp => some (2 ^ 63)
  | .bufferWindow => some (2 ^ 31)
  | _ => none

/-- If the header is a number, the text is one in its range. -/
def InRange (r : Reserved) (decoded : Text) : Prop :=
  ∀ bound ∈ numberBound r, ∃ n, integerOf decoded = some n ∧ -bound ≤ n ∧ n < bound

/-- The header is a number, and the text is one beyond its range. -/
def OutOfRange (r : Reserved) (decoded : Text) : Prop :=
  ∃ bound ∈ numberBound r, ∃ n, integerOf decoded = some n ∧ ¬ (-bound ≤ n ∧ n < bound)

theorem parseInteger_ok_iff {bound n : ℤ} {type decoded : Text} :
    parseInteger bound type decoded = .ok n ↔
      integerOf decoded = some n ∧ -bound ≤ n ∧ n < bound := by
  rw [parseInteger]
  cases integerOf decoded with
  | none => simp
  | some n' =>
      dsimp only
      split
      · rename_i range
        simp only [Except.ok.injEq, Option.some.injEq]
        constructor
        · rintro rfl
          exact ⟨rfl, range⟩
        · exact And.left
      · rename_i range
        refine iff_of_false (fun h => by cases h) ?_
        rintro ⟨⟨⟩, range'⟩
        exact range range'

theorem parseInteger_overflow_iff {bound : ℤ} {type decoded : Text} :
    (∃ message, parseInteger bound type decoded = .error (.overflow message)) ↔
      ∃ n, integerOf decoded = some n ∧ ¬ (-bound ≤ n ∧ n < bound) := by
  rw [parseInteger]
  cases integerOf decoded with
  | none => simp
  | some n =>
      dsimp only
      split
      · rename_i range
        simp [range]
      · rename_i range
        simp only [Except.error.injEq, ParseExn.overflow.injEq, exists_eq', Option.some.injEq,
          exists_eq_left', true_iff]
        exact range

theorem map_overflow_iff {α β : Type} {x : Except ParseExn α} {f : α → β} {message : Text} :
    x.map f = .error (.overflow message) ↔ x = .error (.overflow message) := by
  cases x <;> simp [Except.map]

theorem exists_map_ok_iff {α β : Type} {x : Except ParseExn α} {f : α → β} :
    (∃ b, x.map f = .ok b) ↔ ∃ a, x = .ok a := by
  cases x <;> simp [Except.map]

/-- **Setting a header** fails for a number that is none or is out of range, and in the second
case differently. -/
theorem assignHeader_spec (message : CulpeoMessage) (r : Reserved) (decoded : Text) :
    ((∃ message', assignHeader message r decoded = .ok message') ↔ InRange r decoded) ∧
      ((∃ text, assignHeader message r decoded = .error (.overflow text)) ↔
        OutOfRange r decoded) := by
  cases r
  case offset | timestamp =>
    simp only [assignHeader, parseLong, exists_map_ok_iff, map_overflow_iff, parseInteger_ok_iff,
      parseInteger_overflow_iff, InRange, OutOfRange, numberBound, Option.mem_def,
      Option.some.injEq, forall_eq', exists_eq_left', and_self]
  case bufferWindow =>
    simp only [assignHeader, parseInt, exists_map_ok_iff, map_overflow_iff, parseInteger_ok_iff,
      parseInteger_overflow_iff, InRange, OutOfRange, numberBound, Option.mem_def,
      Option.some.injEq, forall_eq', exists_eq_left', and_self]
  all_goals simp [assignHeader, InRange, OutOfRange, numberBound]

/-! ### One line -/

/-- What is checked of a line before its header is looked for. -/
structure FieldOk (limits : ParseLimits) (line : Bytes) : Prop where
  colon : ch ':' ∈ line
  named : (lineField line).name ≠ []
  nameLength : (lineField line).name.length ≤ limits.maxHeaderNameLength
  valueLength : (lineField line).value.length ≤ limits.maxHeaderValueLength
  cleanName : validHeaderValue (lineField line).name = true
  cleanValue : validHeaderValue (lineField line).value = true

theorem validate_ok_iff {span : Bytes} {fieldKind : Text} :
    validateNoForbiddenBytes span fieldKind = .ok () ↔ validHeaderValue span = true := by
  refine ⟨validHeaderValue_of_validate, fun clean => ?_⟩
  have none : span.find? isForbidden = none := by
    rw [List.find?_eq_none]
    intro c hc
    obtain ⟨hcr, hlf, hnul⟩ := validHeaderValue_iff.mp clean c hc
    simp [isForbidden, hcr, hlf, hnul]
  rw [validateNoForbiddenBytes, none]

theorem validate_error {span : Bytes} {fieldKind : Text} (h : ¬ validHeaderValue span = true) :
    ∃ message, validateNoForbiddenBytes span fieldKind = .error (.format message) := by
  cases found : span.find? isForbidden with
  | none =>
      have ok : validateNoForbiddenBytes span fieldKind = .ok () := by
        rw [validateNoForbiddenBytes, found]
      exact absurd (validate_ok_iff.mp ok) h
  | some b =>
      rw [validateNoForbiddenBytes, found]
      exact ⟨_, rfl⟩

/-- **A line that is checked with success** is counted, and its header is set. -/
theorem parseLine_of_fieldOk {limits : ParseLimits} {line : Bytes} (ok : FieldOk limits line)
    {state : ParseState} (room : state.headerCount < limits.maxHeaderCount) :
    parseLine limits line state =
      match reservedOf (lineField line).name with
      | none => .ok { state with headerCount := state.headerCount + 1 }
      | some header =>
          if header ∈ state.seenHeaders then
            .error (.format (utf16 "Duplicate reserved header: " ++ memberName header
              ++ utf16 "."))
          else
            (assignHeader state.message header (Utf8.decode (lineField line).value)).map
              fun message => ⟨message, header :: state.seenHeaders, state.headerCount + 1⟩ := by
  obtain ⟨name, raw, rfl, hname⟩ := List.eq_append_cons_of_mem ok.colon
  obtain ⟨-, named, nameLength, valueLength, cleanName, cleanValue⟩ := ok
  rw [lineField_append hname] at named nameLength valueLength cleanName cleanValue ⊢
  obtain ⟨k, hk⟩ : ∃ k, name.length = k + 1 :=
    Nat.exists_eq_succ_of_ne_zero (mt List.length_eq_zero_iff.mp named)
  have found : find [ch ':'] (name ++ ch ':' :: raw) = some (k + 1) := by
    rw [find_colon hname, hk]
  have take : (name ++ ch ':' :: raw).take (k + 1) = name := by
    rw [← hk, List.take_left]
  have drop : (name ++ ch ':' :: raw).drop (k + 1 + 1) = raw := by
    rw [← hk, ← List.drop_drop, List.drop_left, List.drop_succ_cons, List.drop_zero]
  unfold parseLine
  rw [if_neg (by simp)]
  dsimp only
  rw [if_neg (by omega), found]
  simp only [take, drop]
  rw [if_neg (by simpa using nameLength), if_neg (by simpa using valueLength)]
  rw [validate_ok_iff.mpr cleanName, validate_ok_iff.mpr cleanValue, tryMapHeader_eq]
  cases reservedOf name with
  | none => rfl
  | some header =>
      by_cases seen : header ∈ state.seenHeaders
      · simp only [if_pos seen]
        rfl
      · simp only [if_neg seen]
        cases assignHeader state.message header (Utf8.decode (trimAscii raw)) <;> rfl

/-- Every other line is refused. -/
theorem parseLine_of_not_fieldOk {limits : ParseLimits} {line : Bytes} (nonempty : line ≠ [])
    {state : ParseState}
    (h : ¬ (FieldOk limits line ∧ state.headerCount < limits.maxHeaderCount)) :
    ∃ message, parseLine limits line state = .error (.format message) := by
  unfold parseLine
  rw [if_neg (by simpa using nonempty)]
  dsimp only
  split
  · exact ⟨_, rfl⟩
  · rename_i count
    split
    · exact ⟨_, rfl⟩
    · exact ⟨_, rfl⟩
    · rename_i colon first found
      have field := lineField_of_find found
      split
      · exact ⟨_, rfl⟩
      · rename_i nameLength
        split
        · exact ⟨_, rfl⟩
        · rename_i valueLength
          by_cases cleanName : validHeaderValue (line.take colon) = true
          · by_cases cleanValue : validHeaderValue (trimAscii (line.drop (colon + 1))) = true
            · refine absurd ⟨⟨?_, ?_, ?_, ?_, ?_, ?_⟩, by omega⟩ h
              · rw [(exists_of_find_colon found).1]
                simp
              · rw [field]
                intro empty
                have zero : colon = 0 := by
                  have hocc := find_eq_some_iff.mp found
                  have length := congrArg List.length empty
                  have within := hocc.add_length_le
                  simp only [List.length_take, List.length_nil,
                    List.length_singleton] at length within
                  omega
                exact first zero
              · rw [field]
                exact not_lt.mp nameLength
              · rw [field]
                exact not_lt.mp valueLength
              · rw [field]
                exact cleanName
              · rw [field]
                exact cleanValue
            · obtain ⟨message, error⟩ :=
                @validate_error (trimAscii (line.drop (colon + 1))) (utf16 "value") cleanValue
              rw [validate_ok_iff.mpr cleanName, error]
              exact ⟨message, rfl⟩
          · obtain ⟨message, error⟩ :=
              @validate_error (line.take colon) (utf16 "name") cleanName
            rw [error]
            exact ⟨message, rfl⟩

section Line

variable {limits : ParseLimits} {line : Bytes} {state : ParseState}

theorem exists_parseLine_ok_iff (nonempty : line ≠ []) :
    (∃ state', parseLine limits line state = .ok state') ↔
      FieldOk limits line ∧ state.headerCount < limits.maxHeaderCount ∧
        ∀ r ∈ reservedOf (lineField line).name, r ∉ state.seenHeaders ∧
          InRange r (Utf8.decode (lineField line).value) := by
  by_cases checked : FieldOk limits line ∧ state.headerCount < limits.maxHeaderCount
  · rw [parseLine_of_fieldOk checked.1 checked.2]
    cases reservedOf (lineField line).name with
    | none => simp [checked.1, checked.2]
    | some r =>
        by_cases seen : r ∈ state.seenHeaders
        · simp [seen]
        · simp only [if_false, exists_map_ok_iff, (assignHeader_spec _ _ _).1, checked.1,
            checked.2, true_and, Option.mem_def, Option.some.injEq, forall_eq', seen,
            not_false_eq_true]
  · obtain ⟨message, error⟩ := parseLine_of_not_fieldOk nonempty checked
    rw [error]
    refine iff_of_false Checks.not_exists_error_ok ?_
    rintro ⟨ok, room, -⟩
    exact checked ⟨ok, room⟩

theorem parseLine_overflow_iff (nonempty : line ≠ []) :
    (∃ text, parseLine limits line state = .error (.overflow text)) ↔
      FieldOk limits line ∧ state.headerCount < limits.maxHeaderCount ∧
        ∃ r ∈ reservedOf (lineField line).name, r ∉ state.seenHeaders ∧
          OutOfRange r (Utf8.decode (lineField line).value) := by
  by_cases checked : FieldOk limits line ∧ state.headerCount < limits.maxHeaderCount
  · rw [parseLine_of_fieldOk checked.1 checked.2]
    cases reservedOf (lineField line).name with
    | none => simp
    | some r =>
        by_cases seen : r ∈ state.seenHeaders
        · simp [seen]
        · simp only [if_false, map_overflow_iff, (assignHeader_spec _ _ _).2, checked.1,
            checked.2, true_and, Option.mem_def, Option.some.injEq, exists_eq_left', seen,
            not_false_eq_true]
  · obtain ⟨message, error⟩ := parseLine_of_not_fieldOk nonempty checked
    rw [error]
    refine iff_of_false nofun ?_
    rintro ⟨ok, room, -⟩
    exact checked ⟨ok, room⟩

/-- What a line leaves behind for the next one. -/
theorem parseLine_state {state' : ParseState} (nonempty : line ≠ [])
    (h : parseLine limits line state = .ok state') :
    state'.headerCount = state.headerCount + 1 ∧
      state'.seenHeaders = (reservedOf (lineField line).name).toList ++ state.seenHeaders := by
  obtain ⟨ok, room, -⟩ := (exists_parseLine_ok_iff nonempty).mp ⟨state', h⟩
  rw [parseLine_of_fieldOk ok room] at h
  cases hname : reservedOf (lineField line).name with
  | none =>
      rw [hname] at h
      cases h
      exact ⟨rfl, rfl⟩
  | some r =>
      rw [hname] at h
      dsimp only at h
      split at h
      · cases h
      · obtain ⟨message, -, rfl⟩ := Checks.map_ok_iff.mp h
        exact ⟨rfl, rfl⟩

end Line

/-! ### All lines -/

/-- The headers that the lines name, in order. -/
def usedHeaders (lines : List Bytes) : List Reserved :=
  lines.filterMap fun line => reservedOf (lineField line).name

/-- **The lines that are read**: not too many, each of them checked with success, no two with
the same header, and every number in its range. -/
structure Accepted (limits : ParseLimits) (lines : List Bytes) : Prop where
  count : lines.length ≤ limits.maxHeaderCount
  each : ∀ line ∈ lines, FieldOk limits line
  distinct : (usedHeaders lines).Nodup
  numbers : ∀ line ∈ lines, ∀ r ∈ reservedOf (lineField line).name,
    InRange r (Utf8.decode (lineField line).value)

theorem accepted_nil (limits : ParseLimits) : Accepted limits [] where
  count := Nat.zero_le _
  each := fun _ hmem => by cases hmem
  distinct := List.nodup_nil
  numbers := fun _ hmem => by cases hmem

theorem usedHeaders_concat (lines : List Bytes) (line : Bytes) :
    usedHeaders (lines ++ [line]) =
      usedHeaders lines ++ (reservedOf (lineField line).name).toList := by
  rw [usedHeaders, List.filterMap_append, usedHeaders]
  cases h : reservedOf (lineField line).name <;> simp [h]

/-- One more line. -/
theorem accepted_concat {limits : ParseLimits} {lines : List Bytes} {line : Bytes} :
    Accepted limits (lines ++ [line]) ↔ Accepted limits lines ∧ FieldOk limits line ∧
      lines.length < limits.maxHeaderCount ∧
        ∀ r ∈ reservedOf (lineField line).name, r ∉ usedHeaders lines ∧
          InRange r (Utf8.decode (lineField line).value) := by
  have fresh : (usedHeaders (lines ++ [line])).Nodup ↔ (usedHeaders lines).Nodup ∧
      ∀ r ∈ reservedOf (lineField line).name, r ∉ usedHeaders lines := by
    rw [usedHeaders_concat]
    cases reservedOf (lineField line).name with
    | none => simp
    | some r =>
        rw [Option.toList_some, List.nodup_append_comm, List.singleton_append, List.nodup_cons,
          and_comm]
        simp
  constructor
  · rintro ⟨count, each, distinct, numbers⟩
    rw [List.length_append, List.length_singleton] at count
    rw [List.forall_mem_append, List.forall_mem_singleton] at each numbers
    obtain ⟨distinct, unused⟩ := fresh.mp distinct
    exact ⟨⟨by omega, each.1, distinct, numbers.1⟩, each.2, by omega, fun r hr =>
      ⟨unused r hr, numbers.2 r hr⟩⟩
  · rintro ⟨⟨count, each, distinct, numbers⟩, ok, room, last⟩
    refine ⟨by rw [List.length_append, List.length_singleton]; omega, ?_,
      fresh.mpr ⟨distinct, fun r hr => (last r hr).1⟩, ?_⟩
    · rw [List.forall_mem_append, List.forall_mem_singleton]
      exact ⟨each, ok⟩
    · rw [List.forall_mem_append, List.forall_mem_singleton]
      exact ⟨numbers, fun r hr => (last r hr).2⟩

/-- The loop over the lines, from the start. -/
def readLines (limits : ParseLimits) (message : CulpeoMessage) (lines : List Bytes) :
    Except ParseExn ParseState :=
  lines.foldlM (fun state line => parseLine limits line state) { message }

/-- **The loop reads the lines that are accepted**, counts them and notes their headers. -/
theorem readLines_ok_iff {limits : ParseLimits} {message : CulpeoMessage} {lines : List Bytes}
    (nonempty : ∀ line ∈ lines, line ≠ []) :
    ((∃ state, readLines limits message lines = .ok state) ↔ Accepted limits lines) ∧
      ∀ state, readLines limits message lines = .ok state →
        state.headerCount = lines.length ∧ state.seenHeaders = (usedHeaders lines).reverse := by
  induction lines using List.reverseRecOn with
  | nil =>
      refine ⟨iff_of_true ⟨_, rfl⟩ (accepted_nil limits), ?_⟩
      rintro _ ⟨⟩
      exact ⟨rfl, rfl⟩
  | append_singleton lines line ih =>
      rw [List.forall_mem_append, List.forall_mem_singleton] at nonempty
      obtain ⟨front, states⟩ := ih nonempty.1
      have split : readLines limits message (lines ++ [line]) =
          readLines limits message lines >>= fun state => parseLine limits line state := by
        rw [readLines, List.foldlM_append]
        refine bind_congr fun state => ?_
        rw [List.foldlM_cons]
        exact bind_pure _
      rw [split]
      constructor
      · rw [accepted_concat, ← front, Checks.exists_bind_ok_iff]
        constructor
        · rintro ⟨state, hstate, last⟩
          obtain ⟨count, seen⟩ := states state hstate
          rw [exists_parseLine_ok_iff nonempty.2, count, seen] at last
          simp only [List.mem_reverse] at last
          exact ⟨⟨state, hstate⟩, last⟩
        · rintro ⟨⟨state, hstate⟩, last⟩
          obtain ⟨count, seen⟩ := states state hstate
          refine ⟨state, hstate, ?_⟩
          rw [exists_parseLine_ok_iff nonempty.2, count, seen]
          simp only [List.mem_reverse]
          exact last
      · intro state' h
        obtain ⟨state, hstate, last⟩ := Checks.exists_of_bind_ok h
        obtain ⟨count, seen⟩ := states state hstate
        obtain ⟨count', seen'⟩ := parseLine_state nonempty.2 last
        rw [count', seen', count, seen, usedHeaders_concat, List.reverse_append,
          List.length_append]
        cases reservedOf (lineField line).name <;> exact ⟨rfl, rfl⟩

/-- Among the lines, behind lines that are read, there is one whose number is out of range. -/
def NumberTooLarge (limits : ParseLimits) (lines : List Bytes) : Prop :=
  ∃ before line after r, lines = before ++ line :: after ∧ Accepted limits before ∧
    before.length < limits.maxHeaderCount ∧ FieldOk limits line ∧
    reservedOf (lineField line).name = some r ∧ r ∉ usedHeaders before ∧
    OutOfRange r (Utf8.decode (lineField line).value)

theorem readLines_overflow_iff {limits : ParseLimits} {message : CulpeoMessage}
    {lines : List Bytes} (nonempty : ∀ line ∈ lines, line ≠ []) :
    (∃ text, readLines limits message lines = .error (.overflow text)) ↔
      NumberTooLarge limits lines := by
  simp only [readLines, Checks.foldlM_error_iff]
  constructor
  · rintro ⟨text, before, line, after, state, rfl, front, last⟩
    rw [List.forall_mem_append, List.forall_mem_cons] at nonempty
    obtain ⟨accepted, states⟩ := @readLines_ok_iff limits message before nonempty.1
    obtain ⟨count, seen⟩ := states state front
    obtain ⟨ok, room, r, hr, fresh, large⟩ :=
      (parseLine_overflow_iff nonempty.2.1).mp ⟨text, last⟩
    rw [count] at room
    rw [seen, List.mem_reverse] at fresh
    exact ⟨before, line, after, r, rfl, accepted.mp ⟨state, front⟩, room, ok, hr, fresh, large⟩
  · rintro ⟨before, line, after, r, rfl, accepted, room, ok, hr, fresh, large⟩
    rw [List.forall_mem_append, List.forall_mem_cons] at nonempty
    obtain ⟨iff, states⟩ := @readLines_ok_iff limits message before nonempty.1
    obtain ⟨state, front⟩ := iff.mpr accepted
    obtain ⟨count, seen⟩ := states state front
    obtain ⟨text, last⟩ := (@parseLine_overflow_iff limits line state nonempty.2.1).mpr
      ⟨ok, by rwa [count], r, hr, by rwa [seen, List.mem_reverse], large⟩
    exact ⟨text, before, line, after, state, rfl, front, last⟩

/-! ### `ParseAsync` -/

/-- The lines of a header block that are not empty. -/
def filledLines (block : Bytes) : List Bytes := (headerLines block).filter (!·.isEmpty)

theorem filledLines_ne_nil {block line : Bytes} (h : line ∈ filledLines block) : line ≠ [] := by
  simpa using (List.mem_filter.mp h).2

/-- Empty lines are passed over. -/
theorem foldlM_filledLines {limits : ParseLimits} {lines : List Bytes} :
    ∀ {state : ParseState}, lines.foldlM (fun state line => parseLine limits line state) state =
      (lines.filter (!·.isEmpty)).foldlM (fun state line => parseLine limits line state) state := by
  induction lines with
  | nil => intro state; rfl
  | cons line lines ih =>
      intro state
      cases line with
      | nil =>
          rw [List.foldlM_cons]
          exact ih
      | cons b line =>
          rw [List.filter_cons_of_pos (by simp), List.foldlM_cons, List.foldlM_cons]
          exact bind_congr fun state => ih

/-- **When an `OverflowException` escapes.** -/
theorem exists_overflow_iff {limits : ParseLimits} {frame : Bytes} {kind : CulpeoMessageKind} :
    (∃ text, parseAsync limits frame kind = .error (.overflow text)) ↔
      ∃ t, (IsFirst crlfcrlf frame t ∧ t ≤ limits.maxHeaderBlockSize) ∧
        NumberTooLarge limits (filledLines (frame.take t)) := by
  have lines : ∀ t, IsFirst crlfcrlf frame t ∧ t ≤ limits.maxHeaderBlockSize →
      ((∃ text, parseAsync limits frame kind = .error (.overflow text)) ↔
        NumberTooLarge limits (filledLines (frame.take t))) := by
    intro t hfirst
    rw [← @readLines_overflow_iff limits { kind, body := frame.drop (t + 4) } _
      fun line => filledLines_ne_nil]
    simp only [parseAsync_eq_foldlM kind hfirst, map_overflow_iff, readLines, filledLines,
      ← foldlM_filledLines]
  constructor
  · intro escapes
    by_cases hfirst : ∃ t, IsFirst crlfcrlf frame t ∧ t ≤ limits.maxHeaderBlockSize
    · obtain ⟨t, hfirst⟩ := hfirst
      exact ⟨t, hfirst, (lines t hfirst).mp escapes⟩
    · obtain ⟨message, herror⟩ := @parseAsync_eq_error limits frame kind hfirst
      obtain ⟨text, escapes⟩ := escapes
      rw [herror] at escapes
      cases escapes
  · rintro ⟨t, hfirst, large⟩
    exact (lines t hfirst).mpr large

/-- A call of `ParseAsync` returns a message, or throws a `FormatException`. -/
def FailsOnlyByFormat (frame : Bytes) (kind : CulpeoMessageKind) : Prop :=
  (∃ message, parseAsync {} frame kind = .ok message) ∨
    ∃ text, parseAsync {} frame kind = .error (.format text)

theorem failsOnlyByFormat_iff_not_overflow {frame : Bytes} {kind : CulpeoMessageKind} :
    FailsOnlyByFormat frame kind ↔
      ¬ ∃ text, parseAsync {} frame kind = .error (.overflow text) := by
  rw [FailsOnlyByFormat]
  cases parseAsync {} frame kind with
  | ok message => simp
  | error e => cases e <;> simp

/-- **`ParseAsync` throws nothing but a `FormatException` exactly when** the frame has no
terminator within the limit, or its header lines come to no number that is out of range. -/
theorem parseAsync_failsOnlyByFormat_iff (frame : Bytes) (kind : CulpeoMessageKind) :
    FailsOnlyByFormat frame kind ↔
      ∀ t, IsFirst crlfcrlf frame t → t ≤ 8192 →
        ¬ NumberTooLarge {} (filledLines (frame.take t)) := by
  rw [failsOnlyByFormat_iff_not_overflow, exists_overflow_iff]
  constructor
  · intro none t hfirst within large
    exact none ⟨t, ⟨hfirst, within⟩, large⟩
  · rintro each ⟨t, ⟨hfirst, within⟩, large⟩
    exact each t hfirst within large

/-- An `Offset` of 2^63. -/
theorem not_parseAsync_failsOnlyByFormat :
    ¬ FailsOnlyByFormat (ascii "Offset: 9223372036854775808\r\n\r\n") .media := by
  have escapes : parseAsync {} (ascii "Offset: 9223372036854775808\r\n\r\n") .media =
      .error (.overflow (utf16 "Value was either too large or too small for an Int64.")) := by
    decide
  rw [failsOnlyByFormat_iff_not_overflow, not_not]
  exact ⟨_, escapes⟩

end CulpeoStream.Dotnet
