import CulpeoStream.Wasm.Loader

/-!
# `index.ts` of `culpeostream-wasm`

`parseHeaders` and `serializeFrame` of the package, each with two paths: through the compiled
module when it is loaded, and in TypeScript when it is not.
-/

namespace CulpeoStream.Wasm

open Message Search Utf16 Typescript Checks

/-! ### Without the module -/

def MAX_HEADER_SCAN : ℕ := 16 * 1024

/-- One turn of the loop over the lines. -/
def headerPair (rt : Runtime) (pairs : List TextHeader) (line : Text) :
    Except Text (List TextHeader) :=
  if line.isEmpty then .ok pairs
  else
    match find [unit ':'] line with
    | none | some 0 =>
        .error (utf16 "culpeostream-wasm: malformed header line (missing ':'): " ++ line)
    | some colon =>
        .ok (pairs ++ [⟨rt.toLowerCase (trim (line.take colon)), trim (line.drop (colon + 1))⟩])

def parseHeadersTs (rt : Runtime) (buf : Bytes) : Except Text (Option (List TextHeader × ℕ)) :=
  let searchLen := min buf.length MAX_HEADER_SCAN
  match find crlfcrlf (buf.take searchLen) with
  | none => .ok none
  | some termPos => do
      let pairs ← (linesOf (textDecode (buf.take termPos))).foldlM (headerPair rt) []
      return some (pairs, termPos + 4)

def serializeFrameTs (headers : List TextHeader) (body : Bytes) : Bytes :=
  Utf8.encode (headers.flatMap TextHeader.line ++ utf16 "\r\n") ++ body

/-! ### The package -/

/-- The properties of an object. -/
abbrev Record := Text → Option Text

/-- `record[k] = v`.  A string is no prototype, so nothing happens to `__proto__`. -/
def Record.set (record : Record) (pair : TextHeader) : Record :=
  if pair.name = utf16 "__proto__" then record
  else Function.update record pair.name (some pair.value)

def recordOf (headers : List TextHeader) : Record := headers.foldl Record.set fun _ => none

/-- `impl !== null ? impl.parseHeaders(buf) : parseHeadersTs(buf)`. -/
def backendParse (rt : Runtime) (loaded : Option Heap) (buf : Bytes) :
    Except Text (Option (List TextHeader × ℕ)) :=
  match loaded with
  | some heap => parseHeadersWasm rt heap buf
  | none => parseHeadersTs rt buf

/-- `parseHeaders`, with the module loaded or not. -/
def parseHeaders (rt : Runtime) (loaded : Option Heap) (buf : Bytes) :
    Except Text (Option (Record × ℕ)) := do
  let result ← backendParse rt loaded buf
  return result.map fun found => (recordOf found.1, found.2)

/-- `serializeFrame` for the entries of a record, with the module loaded or not. -/
def serializeFrame (loaded : Option Heap) (headers : List TextHeader) (body : Bytes) :
    Except Text Bytes :=
  match loaded with
  | some heap => serializeFrameWasm heap headers body
  | none => .ok (serializeFrameTs headers body)

/-! ### Records -/

theorem Record.set_apply (record : Record) (pair : TextHeader) (name : Text) :
    record.set pair name =
      if name = utf16 "__proto__" then record name
      else if pair.name = name then some pair.value else record name := by
  unfold Record.set
  by_cases hname : pair.name = name
  · subst hname
    split
    · rfl
    · rw [if_pos rfl, Function.update_self]
  · rw [if_neg hname, ite_self]
    split
    · rfl
    · rw [Function.update_of_ne (Ne.symm hname)]

/-- The record has the last value of each name. -/
theorem recordOf_apply (headers : List TextHeader) (name : Text) :
    recordOf headers name =
      if name = utf16 "__proto__" then none else lastValue headers name := by
  have hfold : ∀ record : Record, headers.foldl Record.set record name =
      if name = utf16 "__proto__" then record name
      else (lastValue headers name).or (record name) := by
    induction headers with
    | nil =>
        intro record
        rw [List.foldl_nil]
        split <;> rfl
    | cons header rest ih =>
        intro record
        rw [List.foldl_cons, ih, lastValue_cons, Record.set_apply]
        by_cases hproto : name = utf16 "__proto__"
        · rw [if_pos hproto, if_pos hproto, if_pos hproto]
        · rw [if_neg hproto, if_neg hproto, if_neg hproto, Option.or_assoc]
          congr 1
          split <;> rfl
  rw [recordOf, hfold]
  split
  · rfl
  · exact Option.or_none

/-! ### Reading -/

/-- A line that is not empty and has no name. -/
def Nameless (line : Text) : Prop := line ≠ [] ∧ ¬ HasName line

theorem headerPair_of_named {rt : Runtime} {line : Text} (pairs : List TextHeader)
    (h : HasName line) : headerPair rt pairs line = .ok (pairs ++ [textField rt line]) := by
  obtain ⟨separator, hfind⟩ := h
  have hne : line.isEmpty = false := by
    cases line with
    | nil => cases hfind
    | cons u rest => rfl
  unfold headerPair textField
  rw [hne, if_neg Bool.false_ne_true, hfind]
  rfl

theorem headerPair_of_nameless (rt : Runtime) {line : Text} (pairs : List TextHeader)
    (h : Nameless line) : ∃ e, headerPair rt pairs line = .error e := by
  obtain ⟨hne, hname⟩ := h
  unfold headerPair
  rw [if_neg (by simpa using hne)]
  split
  · exact ⟨_, rfl⟩
  · exact ⟨_, rfl⟩
  · rename_i colon hzero hfind
    cases colon with
    | zero => exact absurd rfl hzero
    | succ separator => exact absurd ⟨separator, hfind⟩ hname

/-- **What the loop over the lines makes of them.** -/
theorem foldlM_headerPair (rt : Runtime) {lines : List Text} (pairs : List TextHeader)
    (h : ∀ line ∈ lines, ¬ Nameless line) :
    lines.foldlM (headerPair rt) pairs =
      .ok (pairs ++ (lines.filter (!·.isEmpty)).map (textField rt)) := by
  induction lines generalizing pairs with
  | nil =>
      rw [List.filter_nil, List.map_nil, List.append_nil]
      rfl
  | cons line rest ih =>
      obtain ⟨hline, hrest⟩ := List.forall_mem_cons.mp h
      rw [List.foldlM_cons, List.filter_cons]
      cases line with
      | nil =>
          exact ih pairs hrest
      | cons u line =>
          have hname : HasName (u :: line) := by
            by_contra hname
            exact hline ⟨List.cons_ne_nil u line, hname⟩
          rw [headerPair_of_named pairs hname]
          exact (ih _ hrest).trans (by simp)

theorem foldlM_headerPair_throws (rt : Runtime) {lines : List Text} (pairs : List TextHeader)
    (h : ∃ line ∈ lines, Nameless line) :
    ∃ e, lines.foldlM (headerPair rt) pairs = .error e := by
  induction lines generalizing pairs with
  | nil =>
      obtain ⟨line, hline, -⟩ := h
      cases hline
  | cons line rest ih =>
      rw [List.foldlM_cons]
      cases hpair : headerPair rt pairs line with
      | error e => exact ⟨e, rfl⟩
      | ok pairs' =>
          refine ih pairs' ?_
          obtain ⟨bad, hbad, hnameless⟩ := h
          obtain rfl | hbad := List.mem_cons.mp hbad
          · obtain ⟨e, hthrows⟩ := headerPair_of_nameless rt pairs hnameless
            rw [hpair] at hthrows
            cases hthrows
          · exact ⟨bad, hbad, hnameless⟩

/-- The header block ends at `t`, within the bytes that are scanned. -/
def Scanned (buf : Bytes) (t : ℕ) : Prop := IsFirst crlfcrlf buf t ∧ t + 4 ≤ MAX_HEADER_SCAN

theorem find_scanned_iff {buf : Bytes} {t : ℕ} :
    find crlfcrlf (buf.take (min buf.length MAX_HEADER_SCAN)) = some t ↔ Scanned buf t := by
  have hlen : crlfcrlf.length = 4 := rfl
  rw [find_take_eq_some_iff (by simp [crlfcrlf]), hlen]
  refine and_congr_right fun hfirst => ?_
  have hend := hfirst.add_length_le
  rw [hlen] at hend
  omega

/-- Some line of the block has no name. -/
def HasNameless (block : Bytes) : Prop := ∃ line ∈ linesOf (textDecode block), Nameless line

theorem parseHeadersTs_of_not_scanned (rt : Runtime) {buf : Bytes} (h : ∀ t, ¬ Scanned buf t) :
    parseHeadersTs rt buf = .ok none := by
  unfold parseHeadersTs
  dsimp only
  cases hfind : find crlfcrlf (buf.take (min buf.length MAX_HEADER_SCAN)) with
  | none => rfl
  | some t => exact absurd (find_scanned_iff.mp hfind) (h t)

theorem parseHeadersTs_of_nameless (rt : Runtime) {buf : Bytes} {t : ℕ} (h : Scanned buf t)
    (hnameless : HasNameless (buf.take t)) : ∃ e, parseHeadersTs rt buf = .error e := by
  obtain ⟨e, hthrows⟩ := foldlM_headerPair_throws rt [] hnameless
  unfold parseHeadersTs
  dsimp only
  rw [find_scanned_iff.mpr h]
  dsimp only
  rw [hthrows]
  exact ⟨e, rfl⟩

theorem parseHeadersTs_of_named (rt : Runtime) {buf : Bytes} {t : ℕ} (h : Scanned buf t)
    (hnamed : ¬ HasNameless (buf.take t)) :
    parseHeadersTs rt buf = .ok (some
      (((linesOf (textDecode (buf.take t))).filter (!·.isEmpty)).map (textField rt), t + 4)) := by
  have hline : ∀ line ∈ linesOf (textDecode (buf.take t)), ¬ Nameless line :=
    fun line hline hnameless => hnamed ⟨line, hline, hnameless⟩
  unfold parseHeadersTs
  dsimp only
  rw [find_scanned_iff.mpr h]
  dsimp only
  rw [foldlM_headerPair rt [] hline]
  rfl

/-- Without the module, such a block is read with more white space taken from its values. -/
theorem parseHeadersTs_of_denotes (rt : Runtime) {buf : Bytes} {t : ℕ}
    {fields : List HeaderField} (h : Denotes {} buf t fields) :
    parseHeadersTs rt buf = .ok (some (fields.map (decodedField rt), t + 4)) := by
  obtain ⟨hnamed, hfields⟩ := linesOf_of_denotes rt h
  have hwithin : t ≤ 8192 := h.within
  have hscanned : Scanned buf t := ⟨h.terminator, by unfold MAX_HEADER_SCAN; omega⟩
  have hfilter : (linesOf (textDecode (buf.take t))).filter (!·.isEmpty) =
      linesOf (textDecode (buf.take t)) := by
    rw [List.filter_eq_self]
    intro line hline
    obtain ⟨separator, hfind⟩ := hnamed line hline
    cases line with
    | nil => cases hfind
    | cons u rest => rfl
  rw [parseHeadersTs_of_named rt hscanned fun ⟨line, hline, hnameless⟩ =>
    hnameless.2 (hnamed line hline), hfilter, hfields]

/-- The values that a record gets have no further white space at their ends. -/
def Trimmed (rt : Runtime) (fields : List HeaderField) : Prop :=
  ∀ name, name ≠ utf16 "__proto__" → ∀ value ∈ lastValue (fields.map (wasmField rt)) name,
    trim value = value

theorem recordOf_eq_iff (rt : Runtime) {buf : Bytes} {t : ℕ} {fields : List HeaderField}
    (h : Denotes {} buf t fields) :
    recordOf (fields.map (wasmField rt)) = recordOf (fields.map (decodedField rt)) ↔
      Trimmed rt fields := by
  have hlast : ∀ name, lastValue (fields.map (decodedField rt)) name =
      (lastValue (fields.map (wasmField rt)) name).map trim := by
    intro name
    rw [decodedFields_eq rt h, lastValue_trimmed]
  constructor
  · intro hsame name hname value hvalue
    have hname' := congrFun hsame name
    rw [recordOf_apply, recordOf_apply, if_neg hname, if_neg hname, hlast,
      Option.mem_def.mp hvalue] at hname'
    exact (Option.some.inj hname').symm
  · intro htrimmed
    funext name
    rw [recordOf_apply, recordOf_apply, hlast]
    split
    · rfl
    · rename_i hname
      cases hvalue : lastValue (fields.map (wasmField rt)) name with
      | none => rfl
      | some value => rw [Option.map_some, htrimmed name hname value hvalue]

/-- The buffers that both paths read alike. -/
inductive ReadAlike (rt : Runtime) (heap : Heap) (buf : Bytes) : Prop where
  /-- Both find a line without a name. -/
  | malformed (t : ℕ) (scanned : Scanned buf t) (nameless : HasNameless (buf.take t))
  | incomplete (room : heap.HasRoom (parseBlocks buf)) (incomplete : Incomplete buf)
  | headers (room : heap.HasRoom (parseBlocks buf)) (t : ℕ) (fields : List HeaderField)
      (denotes : Denotes {} buf t fields) (trimmed : Trimmed rt fields)

theorem parseHeaders_of_ok {rt : Runtime} (loaded : Option Heap) {buf : Bytes}
    {result : Option (List TextHeader × ℕ)}
    (h : backendParse rt loaded buf = .ok result) :
    parseHeaders rt loaded buf =
      .ok (result.map fun found => (recordOf found.1, found.2)) := by
  rw [parseHeaders, h]
  rfl

theorem parseHeaders_of_throws {rt : Runtime} (loaded : Option Heap) {buf : Bytes}
    (h : ∃ e, backendParse rt loaded buf = .error e) :
    (parseHeaders rt loaded buf).toOption = none := by
  obtain ⟨e, h⟩ := h
  rw [parseHeaders, h]
  rfl

theorem scanned_of_denotes {buf : Bytes} {t : ℕ} {fields : List HeaderField}
    (h : Denotes {} buf t fields) : Scanned buf t := by
  have hwithin : t ≤ 8192 := h.within
  exact ⟨h.terminator, by unfold MAX_HEADER_SCAN; omega⟩

theorem Incomplete.not_isFirst {buf : Bytes} (h : Incomplete buf) (t : ℕ) :
    ¬ IsFirst crlfcrlf buf t := by
  intro hfirst
  have hfind := find_eq_some_iff.mpr hfirst
  rw [h.1] at hfind
  cases hfind

/-- **Reading with and without the module.** -/
theorem parseHeaders_same_iff (rt : Runtime) (heap : Heap) (buf : Bytes) :
    SameOutcome (parseHeaders rt (some heap) buf) (parseHeaders rt none buf) ↔
      ReadAlike rt heap buf := by
  unfold SameOutcome
  by_cases hscanned : ∃ t, Scanned buf t
  · obtain ⟨t, hscanned⟩ := hscanned
    have hcomplete : ¬ Incomplete buf := fun h => h.not_isFirst t hscanned.1
    by_cases hnameless : HasNameless (buf.take t)
    · -- Both throw: a line without a name is none that libculpeo-message reads.
      have hthrows := parseHeadersWasm_throws rt heap fun _ =>
        ⟨hcomplete, fun t' fields hdenotes => by
          obtain rfl := hdenotes.terminator.unique hscanned.1
          obtain ⟨line, hline, hbad⟩ := hnameless
          exact hbad.2 ((linesOf_of_denotes rt hdenotes).1 line hline)⟩
      rw [parseHeaders_of_throws (some heap) hthrows,
        parseHeaders_of_throws none (parseHeadersTs_of_nameless rt hscanned hnameless)]
      exact iff_of_true rfl (.malformed t hscanned hnameless)
    · have hts := parseHeadersTs_of_named rt hscanned hnameless
      by_cases hreads : heap.HasRoom (parseBlocks buf) ∧ ∃ fields, Denotes {} buf t fields
      · obtain ⟨hroom, fields, hdenotes⟩ := hreads
        rw [parseHeaders_of_ok none (parseHeadersTs_of_denotes rt hdenotes),
          parseHeaders_of_ok (some heap) (parseHeadersWasm_of_denotes rt hroom hdenotes)]
        constructor
        · intro hsame
          have hrecord := congrArg Prod.fst (Option.some.inj (Option.some.inj hsame))
          exact .headers hroom t fields hdenotes ((recordOf_eq_iff rt hdenotes).mp hrecord)
        · intro halike
          have htrimmed : Trimmed rt fields := by
            cases halike with
            | malformed t' hscanned' hnameless' =>
                obtain rfl := hscanned'.1.unique hscanned.1
                exact absurd hnameless' hnameless
            | incomplete _ hincomplete => exact absurd hincomplete hcomplete
            | headers _ t' fields' hdenotes' htrimmed =>
                obtain rfl := hdenotes'.terminator.unique hscanned.1
                rwa [← hdenotes.blockFields_eq, hdenotes'.blockFields_eq]
          have hrecord := (recordOf_eq_iff rt hdenotes).mpr htrimmed
          rw [Option.map_some, Option.map_some, hrecord]
      · have hthrows := parseHeadersWasm_throws rt heap fun hroom =>
          ⟨hcomplete, fun t' fields hdenotes => by
            obtain rfl := hdenotes.terminator.unique hscanned.1
            exact hreads ⟨hroom, fields, hdenotes⟩⟩
        rw [parseHeaders_of_throws (some heap) hthrows, parseHeaders_of_ok none hts]
        refine iff_of_false nofun fun halike => ?_
        cases halike with
        | malformed t' hscanned' hnameless' =>
            obtain rfl := hscanned'.1.unique hscanned.1
            exact hnameless hnameless'
        | incomplete _ hincomplete => exact hcomplete hincomplete
        | headers hroom t' fields hdenotes _ =>
            obtain rfl := hdenotes.terminator.unique hscanned.1
            exact hreads ⟨hroom, fields, hdenotes⟩
  · have hscanned := not_exists.mp hscanned
    rw [parseHeaders_of_ok none (parseHeadersTs_of_not_scanned rt hscanned)]
    by_cases hreads : heap.HasRoom (parseBlocks buf) ∧ Incomplete buf
    · rw [parseHeaders_of_ok (some heap) (parseHeadersWasm_of_incomplete rt hreads.1 hreads.2)]
      exact iff_of_true rfl (.incomplete hreads.1 hreads.2)
    · have hthrows := parseHeadersWasm_throws rt heap fun hroom =>
        ⟨fun hincomplete => hreads ⟨hroom, hincomplete⟩,
          fun t fields hdenotes => hscanned t (scanned_of_denotes hdenotes)⟩
      rw [parseHeaders_of_throws (some heap) hthrows]
      refine iff_of_false nofun fun halike => ?_
      cases halike with
      | malformed t hscanned' _ => exact hscanned t hscanned'
      | incomplete hroom hincomplete => exact hreads ⟨hroom, hincomplete⟩
      | headers _ t fields hdenotes _ => exact hscanned t (scanned_of_denotes hdenotes)

/-! ### Writing -/

theorem serializeFrameTs_eq (headers : List TextHeader) (body : Bytes) :
    serializeFrameTs headers body = encode (headers.map TextHeader.field) body := by
  rw [serializeFrameTs, encode_lines, encode, List.append_assoc]
  rfl

/-- **Writing with and without the module.** -/
theorem serializeFrame_same_iff (heap : Heap) (headers : List TextHeader) (body : Bytes) :
    SameOutcome (serializeFrame (some heap) headers body) (serializeFrame none headers body) ↔
      Writable heap headers body := by
  unfold SameOutcome serializeFrame
  dsimp only
  rw [serializeFrameTs_eq]
  constructor
  · intro hsame
    cases hwasm : serializeFrameWasm heap headers body with
    | error e =>
        rw [hwasm] at hsame
        cases hsame
    | ok bytes => exact writable_of_serializeFrameWasm hwasm
  · intro hwritable
    rw [serializeFrameWasm_of_writable hwritable]

/-! ### The two paths -/

/-- **The package with and without the module.** -/
theorem paths_agree_iff (rt : Runtime) (heap : Heap) :
    (∀ buf, SameOutcome (parseHeaders rt (some heap) buf) (parseHeaders rt none buf) ↔
      ReadAlike rt heap buf) ∧
    ∀ headers body, SameOutcome (serializeFrame (some heap) headers body)
      (serializeFrame none headers body) ↔ Writable heap headers body :=
  ⟨parseHeaders_same_iff rt heap, serializeFrame_same_iff heap⟩

/-- A heap with a block wherever the addresses reach. -/
def wholeHeap : Heap where
  malloc blocks size := decide (blocks.sum + size < 2 ^ 32)
  bounded _ _ h := of_decide_eq_true h

/-- A blank in a name is refused by the module only, on either way. -/
theorem not_paths_agree :
    ¬ ∀ (rt : Runtime) (heap : Heap),
      (∀ buf, SameOutcome (parseHeaders rt (some heap) buf) (parseHeaders rt none buf)) ∧
      ∀ headers body, SameOutcome (serializeFrame (some heap) headers body)
        (serializeFrame none headers body) := by
  intro hagrees
  have hread := (hagrees ⟨id⟩ wholeHeap).1 (ascii "a b: c\r\n\r\n")
  have hwasm : (parseHeaders ⟨id⟩ (some wholeHeap) (ascii "a b: c\r\n\r\n")).toOption.isSome =
      false := by decide +kernel
  have hts : (parseHeaders ⟨id⟩ none (ascii "a b: c\r\n\r\n")).toOption.isSome = true := by
    decide +kernel
  rw [hread, hts] at hwasm
  cases hwasm

end CulpeoStream.Wasm
