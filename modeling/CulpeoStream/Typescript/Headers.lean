import CulpeoStream.Message.Fields
import CulpeoStream.Typescript.Parsing

/-!
# What the TypeScript parser reads from the header lines

Every line is a field of the text: its name is trimmed and set in lower case, its value is
trimmed.  The lines are accepted when there are not too many of them, each has a colon that
does not stand first, the fields keep the limits, and no reserved name comes twice
(`foldlM_parseHeaderLine_ok_iff`).  The fields of the text are those of the block, decoded
(`textFields_eq`).
-/

namespace CulpeoStream.Typescript

open Message Search Utf16

/-! ### One line -/

/-- A line, cut at its first colon. -/
def textField (rt : Runtime) (line : Text) : TextHeader :=
  match find [unit ':'] line with
  | none => ⟨rt.toLowerCase (trim line), []⟩
  | some separator =>
      ⟨rt.toLowerCase (trim (line.take separator)), trim (line.drop (separator + 1))⟩

/-- The limits and the forbidden characters. -/
structure Admissible (limits : ParseLimits) (field : TextHeader) : Prop where
  nameLength : (field.name.length : ℤ) ≤ limits.maxHeaderNameLength
  valueLength : (field.value.length : ℤ) ≤ limits.maxHeaderValueLength
  cleanName : hasForbidden field.name = false
  cleanValue : hasForbidden field.value = false

/-- There is a colon, and a name before it. -/
def HasName (line : Text) : Prop := ∃ separator, find [unit ':'] line = some (separator + 1)

/-- The variables of the loop behind a line. -/
def HeaderState.push (state : HeaderState) (field : TextHeader) : HeaderState where
  headers := Function.update state.headers field.name (some field.value)
  seenReservedHeaders :=
    if reservedHeaders.contains field.name then field.name :: state.seenReservedHeaders
    else state.seenReservedHeaders
  lineCount := state.lineCount + 1

/-- A reserved name that has been seen. -/
def HeaderState.Repeats (state : HeaderState) (field : TextHeader) : Prop :=
  reservedHeaders.contains field.name = true ∧ field.name ∈ state.seenReservedHeaders

theorem addHeader_ok_iff {limits : ParseLimits} {name value : Text} {state state' : HeaderState} :
    addHeader limits name value { state with lineCount := state.lineCount + 1 } = .ok state' ↔
      Admissible limits ⟨name, value⟩ ∧ ¬ state.Repeats ⟨name, value⟩ ∧
        state' = state.push ⟨name, value⟩ := by
  have hclean : (hasForbidden name || hasForbidden value) = true ↔
      ¬ (hasForbidden name = false ∧ hasForbidden value = false) := by
    rw [Bool.or_eq_true]
    cases hasForbidden name <;> cases hasForbidden value <;> simp
  unfold addHeader
  split
  · rename_i hname
    simp only [throwProtocolError, reduceCtorEq, false_iff]
    rintro ⟨hadm, -⟩
    exact absurd hadm.nameLength (not_le.mpr hname)
  · rename_i hname
    split
    · rename_i hvalue
      simp only [throwProtocolError, reduceCtorEq, false_iff]
      rintro ⟨hadm, -⟩
      exact absurd hadm.valueLength (not_le.mpr hvalue)
    · rename_i hvalue
      split
      · rename_i hforbidden
        simp only [throwProtocolError, reduceCtorEq, false_iff]
        rintro ⟨hadm, -⟩
        exact hclean.mp hforbidden ⟨hadm.cleanName, hadm.cleanValue⟩
      · rename_i hforbidden
        rw [hclean, not_not] at hforbidden
        have hadm : Admissible limits ⟨name, value⟩ :=
          ⟨not_lt.mp hname, not_lt.mp hvalue, hforbidden.1, hforbidden.2⟩
        simp only [HeaderState.Repeats, HeaderState.push, List.contains_iff_mem]
        by_cases hreserved : name ∈ reservedHeaders
        · by_cases hseen : name ∈ state.seenReservedHeaders
          · simp [hreserved, hseen]
          · simp [hreserved, hseen, hadm, eq_comm]
        · simp [hreserved, hadm, eq_comm]

theorem parseHeaderLine_ok_iff {rt : Runtime} {limits : ParseLimits} {line : Text}
    {state state' : HeaderState} :
    parseHeaderLine rt limits state line = .ok state' ↔
      ((state.lineCount + 1 : ℕ) : ℤ) ≤ limits.maxHeaderCount ∧ HasName line ∧
        Admissible limits (textField rt line) ∧ ¬ state.Repeats (textField rt line) ∧
        state' = state.push (textField rt line) := by
  unfold parseHeaderLine
  dsimp only
  split
  · rename_i hcount
    simp only [throwProtocolError, reduceCtorEq, false_iff]
    rintro ⟨hle, -⟩
    exact absurd hle (not_le.mpr hcount)
  · rename_i hcount
    have hle := not_lt.mp hcount
    split
    · rename_i hfind
      simp [HasName, hfind, throwProtocolError]
    · rename_i hfind
      simp [HasName, hfind, throwProtocolError]
    · rename_i separator hzero hfind
      have hname : HasName line := by
        cases separator with
        | zero => exact absurd rfl hzero
        | succ n => exact ⟨n, hfind⟩
      have hfield : textField rt line = ⟨rt.toLowerCase (trim (line.take separator)),
          trim (line.drop (separator + 1))⟩ := by rw [textField, hfind]
      rw [addHeader_ok_iff, hfield]
      constructor
      · rintro ⟨hadm, hnew, hstate⟩
        exact ⟨hle, hname, hadm, hnew, hstate⟩
      · rintro ⟨-, -, hadm, hnew, hstate⟩
        exact ⟨hadm, hnew, hstate⟩

/-! ### All lines -/

/-- The reserved names among those of some fields. -/
def reservedNames (fields : List TextHeader) : List Text :=
  (fields.map TextHeader.name).filter reservedHeaders.contains

theorem reservedNames_cons (field : TextHeader) (rest : List TextHeader) :
    reservedNames (field :: rest) =
      if reservedHeaders.contains field.name then field.name :: reservedNames rest
      else reservedNames rest := by
  rw [reservedNames, List.map_cons, List.filter_cons, reservedNames]

/-- What fields must satisfy: the checks of a loop over headers. -/
structure Admits (limits : ParseLimits) (state : HeaderState) (fields : List TextHeader) :
    Prop where
  count : fields ≠ [] → ((state.lineCount + fields.length : ℕ) : ℤ) ≤ limits.maxHeaderCount
  admissible : ∀ field ∈ fields, Admissible limits field
  distinct : (reservedNames fields).Nodup
  fresh : ∀ name ∈ reservedNames fields, name ∉ state.seenReservedHeaders

theorem Admits.nil {limits : ParseLimits} {state : HeaderState} : Admits limits state [] where
  count := fun h => absurd rfl h
  admissible := List.forall_mem_nil _
  distinct := List.nodup_nil
  fresh := List.forall_mem_nil _

theorem mem_push_seen {state : HeaderState} {field : TextHeader} {name : Text} :
    name ∉ (state.push field).seenReservedHeaders ↔
      ¬ (reservedHeaders.contains field.name = true ∧ name = field.name) ∧
        name ∉ state.seenReservedHeaders := by
  unfold HeaderState.push
  by_cases hreserved : reservedHeaders.contains field.name = true
  · rw [if_pos hreserved, List.mem_cons, not_or]
    simp only [hreserved, true_and]
  · rw [if_neg hreserved]
    simp only [hreserved, false_and, Bool.false_eq_true, not_false_eq_true, true_and]

theorem admits_cons_iff {limits : ParseLimits} {state : HeaderState} {field : TextHeader}
    {rest : List TextHeader} :
    Admits limits state (field :: rest) ↔
      (((state.lineCount + 1 : ℕ) : ℤ) ≤ limits.maxHeaderCount ∧ Admissible limits field ∧
        ¬ state.Repeats field) ∧
      Admits limits (state.push field) rest := by
  have hcount : (state.push field).lineCount = state.lineCount + 1 := rfl
  constructor
  · rintro ⟨hlen, hadm, hdistinct, hfresh⟩
    have hlen := hlen (List.cons_ne_nil _ _)
    obtain ⟨hfield, hrest⟩ := List.forall_mem_cons.mp hadm
    rw [List.length_cons] at hlen
    rw [reservedNames_cons] at hdistinct hfresh
    refine ⟨⟨by omega, hfield, ?_⟩, ⟨fun _ => ?_, hrest, ?_, ?_⟩⟩
    · rintro ⟨hreserved, hrepeat⟩
      rw [if_pos hreserved] at hfresh
      exact hfresh _ List.mem_cons_self hrepeat
    · rw [hcount]
      omega
    · split at hdistinct
      · exact (List.nodup_cons.mp hdistinct).2
      · exact hdistinct
    · intro name hname
      rw [mem_push_seen]
      split at hfresh
      · rename_i hreserved
        rw [if_pos hreserved] at hdistinct
        refine ⟨?_, hfresh name (List.mem_cons_of_mem _ hname)⟩
        rintro ⟨-, rfl⟩
        exact (List.nodup_cons.mp hdistinct).1 hname
      · rename_i hreserved
        exact ⟨fun h => hreserved h.1, hfresh name hname⟩
  · rintro ⟨⟨hle, hfield, hnew⟩, hlen, hadm, hdistinct, hfresh⟩
    refine ⟨fun _ => ?_, List.forall_mem_cons.mpr ⟨hfield, hadm⟩, ?_, ?_⟩
    · cases rest with
      | nil => simpa using hle
      | cons next rest =>
          have hlen := hlen (List.cons_ne_nil _ _)
          rw [hcount] at hlen
          simp only [List.length_cons] at hlen ⊢
          omega
    · rw [reservedNames_cons]
      split
      · rename_i hreserved
        refine List.nodup_cons.mpr ⟨fun hmem => ?_, hdistinct⟩
        exact (mem_push_seen.mp (hfresh _ hmem)).1 ⟨hreserved, rfl⟩
      · exact hdistinct
    · rw [reservedNames_cons]
      split
      · rename_i hreserved
        rintro name hmem hrepeat
        obtain rfl | hmem := List.mem_cons.mp hmem
        · exact hnew ⟨hreserved, hrepeat⟩
        · exact (mem_push_seen.mp (hfresh _ hmem)).2 hrepeat
      · exact fun name hmem => (mem_push_seen.mp (hfresh _ hmem)).2

/-- What the lines must satisfy: the checks of the loop, read off the fields. -/
structure Accepts (rt : Runtime) (limits : ParseLimits) (state : HeaderState)
    (lines : List Text) : Prop where
  count : lines ≠ [] → ((state.lineCount + lines.length : ℕ) : ℤ) ≤ limits.maxHeaderCount
  named : ∀ line ∈ lines, HasName line
  admissible : ∀ line ∈ lines, Admissible limits (textField rt line)
  distinct : (reservedNames (lines.map (textField rt))).Nodup
  fresh : ∀ name ∈ reservedNames (lines.map (textField rt)), name ∉ state.seenReservedHeaders

theorem accepts_iff {rt : Runtime} {limits : ParseLimits} {state : HeaderState}
    {lines : List Text} :
    Accepts rt limits state lines ↔
      (∀ line ∈ lines, HasName line) ∧ Admits limits state (lines.map (textField rt)) := by
  have hnil : lines.map (textField rt) ≠ [] ↔ lines ≠ [] := not_congr List.map_eq_nil_iff
  constructor
  · rintro ⟨hcount, hnamed, hadm, hdistinct, hfresh⟩
    exact ⟨hnamed, by rwa [hnil, List.length_map], List.forall_mem_map.mpr hadm, hdistinct, hfresh⟩
  · rintro ⟨hnamed, hcount, hadm, hdistinct, hfresh⟩
    rw [hnil, List.length_map] at hcount
    exact ⟨hcount, hnamed, List.forall_mem_map.mp hadm, hdistinct, hfresh⟩

theorem accepts_cons_iff {rt : Runtime} {limits : ParseLimits} {state : HeaderState} {line : Text}
    {rest : List Text} :
    Accepts rt limits state (line :: rest) ↔
      (((state.lineCount + 1 : ℕ) : ℤ) ≤ limits.maxHeaderCount ∧ HasName line ∧
        Admissible limits (textField rt line) ∧ ¬ state.Repeats (textField rt line)) ∧
      Accepts rt limits (state.push (textField rt line)) rest := by
  rw [accepts_iff, accepts_iff, List.map_cons, admits_cons_iff, List.forall_mem_cons]
  constructor
  · rintro ⟨⟨hname, hnamed⟩, ⟨hle, hadm, hnew⟩, hadmits⟩
    exact ⟨⟨hle, hname, hadm, hnew⟩, hnamed, hadmits⟩
  · rintro ⟨⟨hle, hname, hadm, hnew⟩, hnamed, hadmits⟩
    exact ⟨⟨hname, hnamed⟩, ⟨hle, hadm, hnew⟩, hadmits⟩

/-- **What the loop over the lines accepts**, and what it makes of them. -/
theorem foldlM_parseHeaderLine_ok_iff {rt : Runtime} {limits : ParseLimits} {lines : List Text} :
    ∀ {state state' : HeaderState},
      lines.foldlM (parseHeaderLine rt limits) state = .ok state' ↔
        Accepts rt limits state lines ∧
          state' = (lines.map (textField rt)).foldl HeaderState.push state := by
  induction lines with
  | nil =>
      intro state state'
      rw [List.foldlM_nil, List.map_nil, List.foldl_nil]
      refine ⟨?_, ?_⟩
      · rintro ⟨⟩
        exact ⟨accepts_iff.mpr ⟨List.forall_mem_nil _, .nil⟩, rfl⟩
      · rintro ⟨-, rfl⟩
        rfl
  | cons line rest ih =>
      intro state state'
      rw [List.foldlM_cons, accepts_cons_iff, List.map_cons, List.foldl_cons]
      constructor
      · intro h
        obtain ⟨mid, hline, hrest⟩ := Checks.exists_of_bind_ok h
        obtain ⟨hle, hname, hadm, hnew, rfl⟩ := parseHeaderLine_ok_iff.mp hline
        obtain ⟨haccepts, hstate⟩ := ih.mp hrest
        exact ⟨⟨⟨hle, hname, hadm, hnew⟩, haccepts⟩, hstate⟩
      · rintro ⟨⟨⟨hle, hname, hadm, hnew⟩, haccepts⟩, hstate⟩
        rw [parseHeaderLine_ok_iff.mpr ⟨hle, hname, hadm, hnew, rfl⟩]
        exact ih.mpr ⟨haccepts, hstate⟩

/-- The value of the last field with a name. -/
def lastValue (fields : List TextHeader) (name : Text) : Option Text :=
  (fields.filter (·.name = name)).getLast?.map TextHeader.value

theorem lastValue_cons (field : TextHeader) (rest : List TextHeader) (name : Text) :
    lastValue (field :: rest) name =
      (lastValue rest name).or (if field.name = name then some field.value else none) := by
  unfold lastValue
  rw [List.filter_cons]
  by_cases hname : field.name = name
  · rw [if_pos (by simpa using hname), if_pos hname, List.getLast?_cons]
    cases (rest.filter (·.name = name)).getLast? <;> rfl
  · rw [if_neg (by simpa using hname), if_neg hname, Option.or_none]

/-- The `Map` behind the loop. -/
theorem headers_foldl_push (fields : List TextHeader) (name : Text) :
    ∀ state : HeaderState, (fields.foldl HeaderState.push state).headers name =
      (lastValue fields name).or (state.headers name) := by
  induction fields with
  | nil => exact fun state => rfl
  | cons field rest ih =>
      intro state
      rw [List.foldl_cons, ih, lastValue_cons, Option.or_assoc]
      congr 1
      show Function.update state.headers field.name (some field.value) name = _
      by_cases hname : field.name = name
      · subst hname
        rw [if_pos rfl, Function.update_self]
        rfl
      · rw [if_neg hname, Function.update_of_ne (Ne.symm hname)]
        rfl

theorem headers_of_push (fields : List TextHeader) :
    (fields.foldl HeaderState.push {}).headers = lastValue fields := by
  funext name
  rw [headers_foldl_push]
  exact Option.or_none

/-! ### The fields of a block -/

/-- A field of a block, as it is read from the text. -/
def decodedField (rt : Runtime) (field : HeaderField) : TextHeader :=
  ⟨rt.toLowerCase (trim (Utf8.decode field.name)), trim (Utf8.decode field.value)⟩

theorem dropBom_suffix (s : Text) : dropBom s <:+ s := by
  cases s with
  | nil => exact List.suffix_rfl
  | cons u rest =>
      by_cases hu : u = 0xFEFF
      · rw [dropBom, if_pos hu]
        exact List.suffix_cons u rest
      · rw [dropBom, if_neg hu]

theorem trim_dropBom (s : Text) : trim (dropBom s) = trim s := by
  cases s with
  | nil => rfl
  | cons u rest =>
      by_cases hu : u = 0xFEFF
      · subst hu
        have hblank : ∀ u ∈ ([0xFEFF] : Text), isSpace u = true := by
          rintro u hu
          rw [List.mem_singleton.mp hu]
          decide
        exact (Strip.strip_append_left hblank rest).symm
      · rw [dropBom, if_neg hu]

/-- What the parsers of bytes trim is trimmed from the text as well. -/
theorem trim_decode_trimAscii (raw : Bytes) :
    trim (Utf8.decode (trimAscii raw)) = trim (Utf8.decode raw) :=
  (strip_decode (by decide) (by decide) raw).symm

theorem textField_decode (rt : Runtime) (line : Bytes) :
    textField rt (Utf8.decode line) = decodedField rt (lineField line) := by
  rcases find_colon_decode line with ⟨hline, htext⟩ | ⟨name, raw, rfl, hline, hdecode, htext⟩
  · rw [textField, htext, lineField, hline]
    rfl
  · have htake : (name ++ ch ':' :: raw).take name.length = name := List.take_left
    have hdrop : (name ++ ch ':' :: raw).drop (name.length + 1) = raw := by
      rw [← List.drop_drop, List.drop_left]
      rfl
    have htakeText : (Utf8.decode (name ++ ch ':' :: raw)).take (Utf8.decode name).length =
        Utf8.decode name := by rw [hdecode, List.take_left]
    have hdropText : (Utf8.decode (name ++ ch ':' :: raw)).drop ((Utf8.decode name).length + 1) =
        Utf8.decode raw := by
      rw [hdecode, ← List.drop_drop, List.drop_left]
      rfl
    rw [textField, htext, lineField, hline]
    simp only [htake, hdrop, htakeText, hdropText, decodedField, trim_decode_trimAscii]

theorem textField_dropBom (rt : Runtime) (line : Text) :
    textField rt (dropBom line) = textField rt line := by
  cases line with
  | nil => rfl
  | cons u rest =>
      by_cases hu : u = 0xFEFF
      · subst hu
        have hdrop : dropBom (0xFEFF :: rest) = rest := rfl
        have htrim : ∀ s : Text, trim (0xFEFF :: s) = trim s := fun s =>
          (trim_dropBom (0xFEFF :: s)).symm
        have hfind : find [unit ':'] (0xFEFF :: rest) = (find [unit ':'] rest).map (· + 1) :=
          find_append_of_head_notMem (l := [0xFEFF]) (by decide)
        rw [hdrop, textField, textField, hfind]
        cases find [unit ':'] rest with
        | none => simp only [Option.map_none, htrim]
        | some separator =>
            simp only [Option.map_some, List.take_succ_cons, htrim, List.drop_succ_cons]
      · rw [dropBom, if_neg hu]

/-! ### The byte order mark -/

/-- Without the byte order mark, the first line is without it. -/
theorem splitOn_dropBom {s : Text} (h : dropBom s ≠ []) :
    ∃ line rest, splitOn crlfText s = line :: rest ∧
      splitOn crlfText (dropBom s) = dropBom line :: rest := by
  have hne : crlfText ≠ [] := by decide
  cases s with
  | nil => exact absurd rfl h
  | cons u s =>
      by_cases hu : u = 0xFEFF
      · subst hu
        have hdrop : dropBom (0xFEFF :: s) = s := rfl
        have hfind : find crlfText (0xFEFF :: s) = (find crlfText s).map (· + 1) :=
          find_append_of_head_notMem (l := [0xFEFF]) (by decide)
        rw [hdrop]
        cases hsplit : find crlfText s with
        | none =>
            rw [hsplit] at hfind
            exact ⟨_, _, splitOn_of_find_none hfind, splitOn_of_find_none hsplit⟩
        | some t =>
            rw [hsplit] at hfind
            refine ⟨_, _, splitOn_of_find_some hne hfind, ?_⟩
            rw [splitOn_of_find_some hne hsplit]
            have hnext : t + 1 + crlfText.length = t + crlfText.length + 1 := by omega
            rw [hnext, List.take_succ_cons, List.drop_succ_cons]
            rfl
      · rw [dropBom, if_neg hu]
        cases hsplit : find crlfText (u :: s) with
        | none =>
            refine ⟨_, _, splitOn_of_find_none hsplit, ?_⟩
            rw [splitOn_of_find_none hsplit, dropBom, if_neg hu]
        | some t =>
            refine ⟨_, _, splitOn_of_find_some hne hsplit, ?_⟩
            rw [splitOn_of_find_some hne hsplit]
            cases t with
            | zero => rfl
            | succ t => rw [List.take_succ_cons, dropBom, if_neg hu]

/-- The block is a byte order mark, of which the text has nothing. -/
def BomOnly (block : Bytes) : Prop := Utf8.decode block = [0xFEFF]

/-- The lines of the text are those of the block, decoded, the first without a byte order
mark. -/
theorem linesOf_textDecode {block : Bytes} (h : ¬ BomOnly block) :
    (headerLines block = [] ∧ linesOf (textDecode block) = []) ∨
      ∃ line rest, headerLines block = line :: rest ∧
        linesOf (textDecode block) = dropBom (Utf8.decode line) :: rest.map Utf8.decode := by
  by_cases hblock : block = []
  · subst hblock
    exact .inl ⟨rfl, rfl⟩
  · right
    have hne : Utf8.decode block ≠ [] := Utf8.decode_ne_nil hblock
    have hnil : dropBom (Utf8.decode block) ≠ [] := by
      intro hnil
      obtain ⟨u, rest, hdecode⟩ := List.exists_cons_of_ne_nil hne
      rw [hdecode, dropBom] at hnil
      by_cases hu : u = 0xFEFF
      · rw [if_pos hu] at hnil
        subst hu hnil
        exact h hdecode
      · rw [if_neg hu] at hnil
        cases hnil
    have hcrlf : utf16 "\r\n" = crlfText := by decide
    obtain ⟨text, texts, hsplit, hsplit'⟩ := splitOn_dropBom hnil
    rw [splitOn_decode] at hsplit
    obtain ⟨line, rest, hlines, rfl, rfl⟩ := List.map_eq_cons_iff.mp hsplit
    refine ⟨line, rest, by rw [headerLines, if_neg hblock, hlines], ?_⟩
    rw [textDecode_eq, linesOf, if_neg (by simpa using hnil), hcrlf, hsplit']

/-- **The fields of the text are those of the block**, decoded. -/
theorem textFields_eq (rt : Runtime) {block : Bytes} (h : ¬ BomOnly block) :
    (linesOf (textDecode block)).map (textField rt) =
      ((headerLines block).map lineField).map (decodedField rt) := by
  rcases linesOf_textDecode h with ⟨hlines, htexts⟩ | ⟨line, rest, hlines, htexts⟩
  · rw [hlines, htexts]
    rfl
  · rw [hlines, htexts, List.map_cons, textField_dropBom, textField_decode, List.map_map,
      List.map_cons, List.map_cons, List.map_map]
    exact congrArg _ (List.map_congr_left fun line _ => textField_decode rt line)

/-- A byte order mark alone is a line without a colon. -/
theorem BomOnly.exists_line {block : Bytes} (h : BomOnly block) :
    ∃ line ∈ headerLines block, line ≠ [] ∧ ch ':' ∉ line := by
  have htext : (headerLines block).map Utf8.decode = [[0xFEFF]] := by
    rw [← linesOf_decode, h]
    decide
  obtain ⟨line, hline, hdecode⟩ := List.map_eq_singleton_iff.mp htext
  refine ⟨line, by rw [hline]; simp, ?_, ?_⟩
  · rintro rfl
    cases hdecode
  · intro hmem
    obtain ⟨name, raw, rfl⟩ := List.append_of_mem hmem
    have hcolon : unit ':' ∈ Utf8.decode (name ++ ch ':' :: raw) := by
      rw [Utf8.decode_append_ascii (by decide)]
      exact List.mem_append_right _ List.mem_cons_self
    rw [hdecode] at hcolon
    exact absurd hcolon (by decide)

/-! ### What is read -/

/-- The `Map` that is read from a block without a byte order mark alone. -/
structure Reads (rt : Runtime) (limits : ParseLimits) (block : Bytes) (headers : Headers) :
    Prop where
  colons : ∀ line ∈ headerLines block, ch ':' ∈ line
  admissible : ∀ field ∈ blockFields block, Admissible limits (decodedField rt field)
  distinct : (reservedNames ((blockFields block).map (decodedField rt))).Nodup
  values : ∀ name, headers name = lastValue ((blockFields block).map (decodedField rt)) name

namespace Reads

variable {rt : Runtime} {limits : ParseLimits} {block : Bytes} {headers : Headers}
  (h : Reads rt limits block headers)
include h

/-- No two fields have one reserved name. -/
theorem eq_of_name {f g : HeaderField} (hf : f ∈ blockFields block) (hg : g ∈ blockFields block)
    (hreserved : reservedHeaders.contains (decodedField rt f).name = true)
    (hname : (decodedField rt f).name = (decodedField rt g).name) : f = g := by
  have hdistinct := h.distinct
  rw [reservedNames, List.map_map, List.filter_map] at hdistinct
  refine List.inj_on_of_nodup_map hdistinct ?_ ?_ hname
  · exact List.mem_filter.mpr ⟨hf, hreserved⟩
  · refine List.mem_filter.mpr ⟨hg, ?_⟩
    rw [hname] at hreserved
    exact hreserved

/-- A value in the `Map` is that of a field. -/
theorem exists_field {name value : Text} (hvalue : headers name = some value) :
    ∃ f ∈ blockFields block, (decodedField rt f).name = name ∧
      (decodedField rt f).value = value := by
  rw [h.values, lastValue, Option.map_eq_some_iff] at hvalue
  obtain ⟨field, hlast, hvalue⟩ := hvalue
  obtain ⟨hmem, hname⟩ := List.mem_filter.mp (List.mem_of_getLast? hlast)
  obtain ⟨f, hf, rfl⟩ := List.mem_map.mp hmem
  exact ⟨f, hf, of_decide_eq_true hname, hvalue⟩

/-- A field with a reserved name has its value in the `Map`. -/
theorem value_of_mem {f : HeaderField} (hf : f ∈ blockFields block)
    (hreserved : reservedHeaders.contains (decodedField rt f).name = true) :
    headers (decodedField rt f).name = some (decodedField rt f).value := by
  cases hvalue : headers (decodedField rt f).name with
  | none =>
      rw [h.values, lastValue, Option.map_eq_none_iff, List.getLast?_eq_none_iff] at hvalue
      have hmem : decodedField rt f ∈ ((blockFields block).map (decodedField rt)).filter
          (·.name = (decodedField rt f).name) :=
        List.mem_filter.mpr ⟨List.mem_map_of_mem hf, by simp⟩
      rw [hvalue] at hmem
      cases hmem
  | some value =>
      obtain ⟨g, hg, hname, rfl⟩ := h.exists_field hvalue
      rw [h.eq_of_name hf hg hreserved hname.symm]

end Reads

theorem colon_of_hasName_dropBom {line : Bytes} (h : HasName (dropBom (Utf8.decode line))) :
    ch ':' ∈ line := by
  obtain ⟨separator, hfind⟩ := h
  have hocc := (find_eq_some_iff.mp hfind).split
  have hmem : unit ':' ∈ dropBom (Utf8.decode line) := by
    rw [hocc]
    simp
  exact Utf8.mem_of_mem_decode (by decide) ((dropBom_suffix _).subset hmem)

/-- **What an accepted frame says** without a backend: where its body begins, and the `Map` of
its headers. -/
theorem extractHeaders_reads {rt : Runtime} {bytes : Bytes} {limits : ParseLimits}
    {headers : Headers} {bodyOffset : ℕ}
    (h : extractHeaders rt bytes limits = .ok (headers, bodyOffset)) :
    ∃ t, IsFirst crlfcrlf bytes t ∧ bodyOffset = t + 4 ∧
      (Reads rt limits (bytes.take t) headers ∨
        BomOnly (bytes.take t) ∧ headers = fun _ => none) := by
  obtain ⟨t, ⟨hfirst, -⟩, state, hfold, hheaders, rfl⟩ := extractHeaders_ok_iff.mp h
  obtain ⟨haccepts, rfl⟩ := foldlM_parseHeaderLine_ok_iff.mp hfold
  refine ⟨t, hfirst, rfl, ?_⟩
  generalize bytes.take t = block at haccepts hheaders
  by_cases hbom : BomOnly block
  · right
    have hlines : linesOf (textDecode block) = [] := by
      rw [textDecode_eq, hbom]
      rfl
    rw [hlines] at hheaders
    exact ⟨hbom, hheaders.symm⟩
  · left
    have hfields := textFields_eq rt hbom
    have hcolons : ∀ line ∈ headerLines block, ch ':' ∈ line := by
      intro line hline
      rcases linesOf_textDecode hbom with ⟨hlines, -⟩ | ⟨first, rest, hlines, htexts⟩
      · rw [hlines] at hline
        cases hline
      · rw [hlines] at hline
        obtain rfl | hline := List.mem_cons.mp hline
        · exact colon_of_hasName_dropBom (haccepts.named _ (by rw [htexts]; simp))
        · obtain ⟨separator, hfind⟩ := haccepts.named (Utf8.decode line) (by
            rw [htexts]
            exact List.mem_cons_of_mem _ (List.mem_map_of_mem hline))
          rcases find_colon_decode line with ⟨-, hnone⟩ | ⟨name, raw, rfl, -⟩
          · rw [hfind] at hnone
            cases hnone
          · simp
    have hblock : blockFields block = (headerLines block).map lineField := by
      rw [blockFields, List.filter_eq_self.mpr]
      intro line hline
      cases line with
      | nil => cases hcolons _ hline
      | cons b line => rfl
    rw [← hblock] at hfields
    refine ⟨hcolons, fun field hfield => ?_, ?_, fun name => ?_⟩
    · obtain ⟨line, hline, hline'⟩ := List.mem_map.mp
        (hfields ▸ List.mem_map_of_mem (f := decodedField rt) hfield)
      rw [← hline']
      exact haccepts.admissible line hline
    · rw [← hfields]
      exact haccepts.distinct
    · rw [← hheaders, headers_foldl_push, hfields]
      cases lastValue ((blockFields block).map (decodedField rt)) name <;> rfl

end CulpeoStream.Typescript
