import CulpeoStream.Lib.CopyLog
import CulpeoStream.Message.CApi
import CulpeoStream.Message.RoundTrip

/-!
# The C interface of the serializer, with a `size_t` of 32 bits

`culpeo_serialize_frame` of `c_api.cpp` and `serialize_frame_to_buffer` as WebAssembly runs
them: `serialized_frame_size` adds modulo 2^32, and so does the cursor of the writer.

A call does not return the buffer but the `memcpy`s that it has made, also when it fails.  The
buffers of a call are taken to be apart, so that a copy leaves the names, the values and the
body alone.  What happens behind a copy that leaves the output is of no interest here: nothing
is said about it.

* `writeHeaders_spec`: the loop copies the lines up to the first name or value that is not
  valid, one behind the other.
* `insideOutput_iff`: the copies stay inside the output exactly when they fit into it.
* `culpeoSerializeFrame_inside_iff`: and the check of the capacity is to no avail when the sum
  of the lengths has wrapped.
-/

namespace CulpeoStream.Message.Wasm32

/-- `size_t` on a machine of 32 bits. -/
abbrev SizeT := BitVec 32

/-- A pointer and a length: the pointer is null, or so many bytes begin there. -/
structure Region where
  data : Option Bytes
  len : SizeT
  length_eq : ∀ bytes ∈ data, bytes.length = len.toNat

namespace Region

def bytes (region : Region) : Bytes := region.data.getD []

/-- The bytes at a pointer, fewer than four gigabytes of them. -/
def ofBytes (bytes : Bytes) (small : bytes.length < 2 ^ 32) : Region where
  data := some bytes
  len := BitVec.ofNat 32 bytes.length
  length_eq := by
    rintro _ ⟨⟩
    rw [BitVec.toNat_ofNat, Nat.mod_eq_of_lt small]

/-- A null pointer, with no bytes to read. -/
def null : Region where
  data := none
  len := 0
  length_eq := by rintro _ ⟨⟩

end Region

/-- The arguments of `culpeo_serialize_frame`. -/
structure SerializeCall where
  headers : Option (List CulpeoHeader)
  headerCount : ℤ
  stringsBuf : Region
  body : Region
  outBuf : Region
  headers_length : ∀ hs ∈ headers, hs.length = headerCount.toNat

/-- The descriptors that the loop over `header_count` reads. -/
def SerializeCall.entries (call : SerializeCall) : List CulpeoHeader := call.headers.getD []

/-- What a call returns, and the copies into the output that it has made. -/
structure CSerialize where
  code : ℤ
  copies : List (Copy 32 UInt8) := []
  deriving DecidableEq, Repr

/-! ### `serialize_frame_to_buffer` -/

def serializedFrameSize (headers : List HeaderField) (bodySize : SizeT) : SizeT :=
  headers.foldl (fun size header => size +
      (BitVec.ofNat 32 header.name.length + 2 + BitVec.ofNat 32 header.value.length + 2))
    (2 + bodySize)

/-- The loop over the headers, and the error that stopped it. -/
def writeHeaders : List HeaderField → CopyLog 32 UInt8 → Option Error × CopyLog 32 UInt8
  | [], log => (none, log)
  | header :: rest, log =>
      if !validHeaderName header.name then (some .invalidHeaderName, log)
      else if !validHeaderValue header.value then (some .invalidHeaderValue, log)
      else
        writeHeaders rest
          ((((log.copy header.name).copy (ascii ": ")).copy header.value).copy crlf)

def serializeFrameToBuffer (headers : List HeaderField) (body : Bytes) (outputSize : SizeT) :
    Except Error SizeT × CopyLog 32 UInt8 :=
  let required := serializedFrameSize headers (BitVec.ofNat 32 body.length)
  if outputSize < required then (.error .bufferTooSmall, .start)
  else
    match writeHeaders headers .start with
    | (some e, log) => (.error e, log)
    | (none, log) =>
        let log := log.copy crlf
        let log := if body.isEmpty then log else log.copy body
        (.ok log.cursor, log)

/-! ### `culpeo_serialize_frame` -/

def kMaxHeaders : ℤ := 128

def INT_MAX : ℕ := 2 ^ 31 - 1

/-- The checks of the arguments, each of which returns -1. -/
def SerializeCall.argumentsInvalid (call : SerializeCall) : Bool :=
  (decide (0 < call.body.len) && call.body.data.isNone)
    || (call.outBuf.data.isNone || call.outBuf.len == 0)
    || decide (call.headerCount < 0)
    || (decide (0 < call.headerCount) && (call.headers.isNone || call.stringsBuf.data.isNone))
    || decide (kMaxHeaders < call.headerCount)

/-- Whether the slices of a descriptor lie in the strings.  The ends are computed with 64
bits. -/
def withinStrings (strings : Region) (h : CulpeoHeader) : Bool :=
  let keyEnd := h.keyPtr.toUInt64 + h.keyLen.toUInt64
  let valEnd := h.valPtr.toUInt64 + h.valLen.toUInt64
  !(decide (strings.len.toNat < keyEnd.toNat) || decide (strings.len.toNat < valEnd.toNat))

/-- The key and the value that a descriptor names in the strings. -/
def viewOf (strings : Region) (h : CulpeoHeader) : HeaderField :=
  ⟨h.key strings.bytes, h.val strings.bytes⟩

/-- The loop that builds the views: it fails at the first slice that is out of bounds. -/
def viewsOf (strings : Region) : List CulpeoHeader → Option (List HeaderField)
  | [] => some []
  | h :: rest =>
      if withinStrings strings h then (viewsOf strings rest).map (viewOf strings h :: ·)
      else none

def culpeoSerializeFrame (call : SerializeCall) : CSerialize :=
  if call.argumentsInvalid then { code := -1 }
  else
    match viewsOf call.stringsBuf call.entries with
    | none => { code := -2 }
    | some views =>
        match serializeFrameToBuffer views call.body.bytes call.outBuf.len with
        | (.error _, log) => { code := -1, copies := log.copies }
        | (.ok written, log) =>
            if INT_MAX < written.toNat then { code := -4, copies := log.copies }
            else { code := written.toNat, copies := log.copies }

/-! ### The size of a frame -/

/-- The length of the header lines, with their separators. -/
def linesSize (headers : List HeaderField) : ℕ :=
  (headers.map fun header => header.name.length + header.value.length + 4).sum

theorem length_encodeHeaders (headers : List HeaderField) :
    (encodeHeaders headers).length = linesSize headers := by
  induction headers with
  | nil => rfl
  | cons header rest ih =>
      have hcolon : (ascii ": ").length = 2 := by decide
      have hcrlf : crlf.length = 2 := rfl
      simp only [encodeHeaders, List.flatMap_cons, List.length_append, headerText, hcolon,
        hcrlf, linesSize, List.map_cons, List.sum_cons] at ih ⊢
      omega

theorem length_encode (headers : List HeaderField) (body : Bytes) :
    (encode headers body).length = 2 + body.length + linesSize headers := by
  have hcrlf : crlf.length = 2 := rfl
  rw [encode, List.length_append, List.length_append, length_encodeHeaders, hcrlf]
  omega

/-- **The size that is compared with the capacity** is the length of the frame modulo 2^32. -/
theorem serializedFrameSize_eq (headers : List HeaderField) (bodySize : ℕ) :
    serializedFrameSize headers (BitVec.ofNat 32 bodySize) =
      BitVec.ofNat 32 (2 + bodySize + linesSize headers) := by
  have two : (2 : SizeT) = BitVec.ofNat 32 2 := rfl
  have fold : ∀ size : ℕ, headers.foldl (fun size header => size +
        (BitVec.ofNat 32 header.name.length + 2 + BitVec.ofNat 32 header.value.length + 2))
      (BitVec.ofNat 32 size) = BitVec.ofNat 32 (size + linesSize headers) := by
    induction headers with
    | nil =>
        intro size
        rw [List.foldl_nil, linesSize, List.map_nil, List.sum_nil, Nat.add_zero]
    | cons header rest ih =>
        intro size
        rw [List.foldl_cons, two]
        simp only [← BitVec.ofNat_add] at ih ⊢
        rw [two] at ih
        simp only [← BitVec.ofNat_add] at ih
        rw [ih, linesSize, linesSize, List.map_cons, List.sum_cons]
        congr 1
        omega
  rw [serializedFrameSize, two, ← BitVec.ofNat_add, ← two, fold]

/-! ### The copies of the writer -/

theorem validHeaders_nil : ValidHeaders [] := fun _ hmem => by cases hmem

/-- **The loop copies the lines** up to the first name or value that is not valid. -/
theorem writeHeaders_spec (headers : List HeaderField) :
    ∀ {log : CopyLog 32 UInt8}, log.Contiguous →
      ∃ after, after.Contiguous ∧
        ((ValidHeaders headers ∧ writeHeaders headers log = (none, after) ∧
            after.text = log.text ++ encodeHeaders headers) ∨
          ∃ e valid header rest, headers = valid ++ header :: rest ∧ ValidHeaders valid ∧
            ¬ (validHeaderName header.name = true ∧ validHeaderValue header.value = true) ∧
            writeHeaders headers log = (some e, after) ∧
            after.text = log.text ++ encodeHeaders valid) := by
  induction headers with
  | nil =>
      intro log contiguous
      exact ⟨log, contiguous, .inl ⟨validHeaders_nil, rfl, by simp [encodeHeaders]⟩⟩
  | cons header rest ih =>
      intro log contiguous
      by_cases name : validHeaderName header.name = true
      · by_cases value : validHeaderValue header.value = true
        · have line := (((contiguous.copy header.name).copy (ascii ": ")).copy
            header.value).copy crlf
          obtain ⟨after, hafter, halt⟩ := ih line
          have step : writeHeaders (header :: rest) log = writeHeaders rest
              ((((log.copy header.name).copy (ascii ": ")).copy header.value).copy crlf) := by
            rw [writeHeaders, name, value]
            rfl
          have encoded : ∀ others, encodeHeaders (header :: others) =
              header.name ++ (ascii ": " ++ (header.value ++ (crlf ++ encodeHeaders others))) := by
            intro others
            simp [encodeHeaders, headerText]
          refine ⟨after, hafter, ?_⟩
          rw [step]
          rcases halt with ⟨hvalid, hrun, htext⟩ | ⟨e, valid, bad, tail, hsplit, hvalid, hbad, hrun,
            htext⟩
          · refine .inl ⟨validHeaders_cons.mpr ⟨⟨name, value⟩, hvalid⟩, hrun, ?_⟩
            rw [htext, encoded]
            simp only [CopyLog.text_copy, List.append_assoc]
          · refine .inr ⟨e, header :: valid, bad, tail, by rw [hsplit, List.cons_append],
              validHeaders_cons.mpr ⟨⟨name, value⟩, hvalid⟩, hbad, hrun, ?_⟩
            rw [htext, encoded]
            simp only [CopyLog.text_copy, List.append_assoc]
        · refine ⟨log, contiguous, .inr ⟨.invalidHeaderValue, [], header, rest, rfl,
            validHeaders_nil, fun both => value both.2, ?_, by simp [encodeHeaders]⟩⟩
          simp [writeHeaders, name, value]
      · refine ⟨log, contiguous, .inr ⟨.invalidHeaderName, [], header, rest, rfl,
          validHeaders_nil, fun both => name both.1, ?_, by simp [encodeHeaders]⟩⟩
        simp [writeHeaders, name]

/-- **A call of the library function.**  Unless it refuses the capacity, it copies the text of
the frame, or the lines in front of the first name or value that is not valid. -/
theorem serializeFrameToBuffer_spec (headers : List HeaderField) (body : Bytes)
    (outputSize : SizeT) :
    (outputSize.toNat < (2 + body.length + linesSize headers) % 2 ^ 32 ∧
        serializeFrameToBuffer headers body outputSize = (.error .bufferTooSmall, .start)) ∨
      ((2 + body.length + linesSize headers) % 2 ^ 32 ≤ outputSize.toNat ∧
        ∃ log, log.Contiguous ∧
          ((ValidHeaders headers ∧
              serializeFrameToBuffer headers body outputSize = (.ok log.cursor, log) ∧
              log.text = encode headers body) ∨
            ∃ e valid header rest, headers = valid ++ header :: rest ∧ ValidHeaders valid ∧
              ¬ (validHeaderName header.name = true ∧ validHeaderValue header.value = true) ∧
              serializeFrameToBuffer headers body outputSize = (.error e, log) ∧
              log.text = encodeHeaders valid)) := by
  have required : outputSize < serializedFrameSize headers (BitVec.ofNat 32 body.length) ↔
      outputSize.toNat < (2 + body.length + linesSize headers) % 2 ^ 32 := by
    rw [serializedFrameSize_eq, BitVec.lt_def, BitVec.toNat_ofNat]
  rw [serializeFrameToBuffer]
  by_cases small : outputSize < serializedFrameSize headers (BitVec.ofNat 32 body.length)
  · exact .inl ⟨required.mp small, if_pos small⟩
  · refine .inr ⟨not_lt.mp (mt required.mpr small), ?_⟩
    rw [if_neg small]
    obtain ⟨lines, hlines, ⟨hvalid, hrun, htext⟩ | ⟨e, valid, header, rest, hsplit, hvalid, hbad,
      hrun, htext⟩⟩ := writeHeaders_spec headers CopyLog.contiguous_start
    · have blank := hlines.copy crlf
      rw [hrun]
      cases body with
      | nil =>
          refine ⟨lines.copy crlf, blank, .inl ⟨hvalid, rfl, ?_⟩⟩
          rw [CopyLog.text_copy, htext, encode]
          simp
      | cons b body =>
          refine ⟨(lines.copy crlf).copy (b :: body), blank.copy _, .inl ⟨hvalid, rfl, ?_⟩⟩
          rw [CopyLog.text_copy, CopyLog.text_copy, htext, encode]
          simp
    · rw [hrun]
      exact ⟨lines, hlines, .inr ⟨e, valid, header, rest, hsplit, hvalid, hbad, rfl,
        by simpa using htext⟩⟩

/-- What every copy keeps, the loop over the headers keeps. -/
theorem writeHeaders_keeps {P : CopyLog 32 UInt8 → Prop}
    (hcopy : ∀ log data, P log → P (log.copy data)) (headers : List HeaderField)
    {log : CopyLog 32 UInt8} (h : P log) : P (writeHeaders headers log).2 := by
  induction headers generalizing log with
  | nil => exact h
  | cons header rest ih =>
      unfold writeHeaders
      split
      · exact h
      · split
        · exact h
        · exact ih (hcopy _ _ (hcopy _ _ (hcopy _ _ (hcopy _ _ h))))

/-- What has been written fills the start of the output. -/
theorem fills_serializeFrameToBuffer (headers : List HeaderField) (body : Bytes)
    (outputSize : SizeT) : (serializeFrameToBuffer headers body outputSize).2.Fills := by
  -- The line is copied, and the loop goes on behind it.
  have lines : (writeHeaders headers .start).2.Fills :=
    writeHeaders_keeps (fun _ data fills => fills.copy data) headers CopyLog.fills_start
  rw [serializeFrameToBuffer]
  dsimp only
  split
  · exact CopyLog.fills_start
  · cases run : writeHeaders headers .start with
    | mk error log =>
        rw [run] at lines
        cases error with
        | some e => exact lines
        | none =>
            dsimp only
            split
            · exact lines.copy crlf
            · exact (lines.copy crlf).copy body

theorem linesSize_append (front back : List HeaderField) :
    linesSize (front ++ back) = linesSize front + linesSize back := by
  simp [linesSize]

/-- The valid lines at the front are no longer than what stands before any invalid one. -/
theorem linesSize_valid_le {valid rest lines rest' : List HeaderField}
    {header header' : HeaderField}
    (same : valid ++ header :: rest = lines ++ header' :: rest') (hvalid : ValidHeaders valid)
    (hbad : ¬ (validHeaderName header'.name = true ∧ validHeaderValue header'.value = true)) :
    linesSize valid ≤ linesSize lines := by
  rcases List.append_eq_append_iff.mp same with ⟨more, rfl, -⟩ | ⟨more, rfl, hmore⟩
  · rw [linesSize_append]
    omega
  · cases more with
    | nil => rw [List.append_nil]
    | cons first more =>
        -- The invalid line would be among the valid ones.
        obtain ⟨rfl, -⟩ := List.cons.inj hmore
        exact absurd (hvalid _ (by simp)) hbad

/-- **When the copies stay inside the output.** -/
theorem insideOutput_iff (headers : List HeaderField) (body : Bytes) (outputSize : SizeT) :
    (∀ copy ∈ (serializeFrameToBuffer headers body outputSize).2.copies,
        copy.Within outputSize.toNat) ↔
      2 + body.length + linesSize headers < 2 ^ 32 ∨
      outputSize.toNat < (2 + body.length + linesSize headers) % 2 ^ 32 ∨
      ∃ lines header rest, headers = lines ++ header :: rest ∧
        ¬ (validHeaderName header.name = true ∧ validHeaderValue header.value = true) ∧
        linesSize lines ≤ outputSize.toNat := by
  have bound : outputSize.toNat < 2 ^ 32 := outputSize.isLt
  rcases serializeFrameToBuffer_spec headers body outputSize with ⟨small, run⟩ | ⟨room, log,
    contiguous, ⟨hvalid, run, htext⟩ | ⟨e, valid, header, rest, hsplit, hvalid, hbad, run, htext⟩⟩
  · rw [run]
    exact ⟨fun _ => .inr (.inl small), fun _ _ hmem => by cases hmem⟩
  · rw [run, contiguous.within_iff _ bound, htext, length_encode]
    constructor
    · intro fits
      exact .inl (by omega)
    · rintro (noWrap | small | ⟨lines, header, rest, rfl, hbad, -⟩)
      · omega
      · omega
      · exact absurd (hvalid header (by simp)) hbad
  · rw [run, contiguous.within_iff _ bound, htext, length_encodeHeaders]
    constructor
    · intro fits
      exact .inr (.inr ⟨valid, header, rest, hsplit, hbad, fits⟩)
    · rintro (noWrap | small | ⟨lines, header', rest', hsplit', hbad', fits⟩)
      · rw [hsplit, linesSize_append] at noWrap room
        omega
      · omega
      · exact (linesSize_valid_le (hsplit.symm.trans hsplit') hvalid hbad').trans fits

/-- What the library function has written when it succeeds. -/
theorem serializeFrameToBuffer_ok {headers : List HeaderField} {body : Bytes}
    {outputSize written : SizeT} {log : CopyLog 32 UInt8}
    (run : serializeFrameToBuffer headers body outputSize = (.ok written, log)) :
    ValidHeaders headers ∧
      (2 + body.length + linesSize headers) % 2 ^ 32 ≤ outputSize.toNat ∧
      written.toNat = (2 + body.length + linesSize headers) % 2 ^ 32 ∧
      log.text = encode headers body := by
  rcases serializeFrameToBuffer_spec headers body outputSize with ⟨-, run'⟩ | ⟨room, log',
    contiguous, ⟨hvalid, run', htext⟩ | ⟨e, -, -, -, -, -, -, run', -⟩⟩
  · rw [run'] at run
    cases run
  · rw [run'] at run
    obtain ⟨hwritten, rfl⟩ := Prod.mk.inj run
    cases hwritten
    refine ⟨hvalid, room, ?_, htext⟩
    rw [contiguous.cursor, BitVec.toNat_ofNat, htext, length_encode]
  · rw [run'] at run
    cases run

/-! ### The call -/

/-- The length of the header lines that the descriptors stand for. -/
def slicesSize (entries : List CulpeoHeader) : ℕ :=
  (entries.map fun h => h.keyLen.toNat + h.valLen.toNat + 4).sum

/-- The length of the frame, without a wrap. -/
def SerializeCall.size (call : SerializeCall) : ℕ :=
  2 + call.body.len.toNat + slicesSize call.entries

/-- The call writes inside the output only, and a length that it returns is that of the frame. -/
structure SerializeCall.Inside (call : SerializeCall) : Prop where
  copies : ∀ copy ∈ (culpeoSerializeFrame call).copies, copy.Within call.outBuf.len.toNat
  code : 0 ≤ (culpeoSerializeFrame call).code → (culpeoSerializeFrame call).code = call.size

theorem viewsOf_eq (strings : Region) (entries : List CulpeoHeader) :
    viewsOf strings entries =
      if ∀ h ∈ entries, withinStrings strings h = true then some (entries.map (viewOf strings))
      else none := by
  induction entries with
  | nil => rfl
  | cons h rest ih =>
      rw [viewsOf, ih]
      by_cases head : withinStrings strings h = true
      · simp only [List.forall_mem_cons, head, if_true, true_and]
        split <;> rfl
      · simp only [List.forall_mem_cons, head, if_false, false_and, Bool.false_eq_true]

theorem withinStrings_iff {strings : Region} {h : CulpeoHeader} :
    withinStrings strings h = true ↔
      h.keyPtr.toNat + h.keyLen.toNat ≤ strings.len.toNat ∧
        h.valPtr.toNat + h.valLen.toNat ≤ strings.len.toNat := by
  have hkeyPtr := h.keyPtr.toNat_lt
  have hkeyLen := h.keyLen.toNat_lt
  have hvalPtr := h.valPtr.toNat_lt
  have hvalLen := h.valLen.toNat_lt
  simp only [withinStrings, UInt64.toNat_add, UInt32.toNat_toUInt64, Bool.not_eq_true',
    Bool.or_eq_false_iff, decide_eq_false_iff_not, not_lt]
  rw [Nat.mod_eq_of_lt (by omega), Nat.mod_eq_of_lt (by omega)]

/-- The slices are as long as the descriptors say. -/
theorem linesSize_viewOf {strings : Region} {entries : List CulpeoHeader}
    (there : strings.bytes.length = strings.len.toNat ∨ entries = [])
    (within : ∀ h ∈ entries, withinStrings strings h = true) :
    linesSize (entries.map (viewOf strings)) = slicesSize entries := by
  rw [linesSize, slicesSize, List.map_map]
  congr 1
  apply List.map_congr_left
  intro h hmem
  obtain ⟨key, val⟩ := withinStrings_iff.mp (within h hmem)
  rcases there with there | rfl
  · simp only [Function.comp_apply, viewOf, CulpeoHeader.key, CulpeoHeader.val,
      List.length_take, List.length_drop, there]
    omega
  · cases hmem

theorem Region.length_bytes {region : Region} (h : region.data ≠ none) :
    region.bytes.length = region.len.toNat := by
  cases data : region.data with
  | none => exact absurd data h
  | some bytes =>
      rw [Region.bytes, data]
      exact region.length_eq bytes data

/-- What the checks of the arguments leave. -/
theorem lengths_of_valid {call : SerializeCall} (valid : call.argumentsInvalid = false) :
    call.body.bytes.length = call.body.len.toNat ∧
      (call.stringsBuf.bytes.length = call.stringsBuf.len.toNat ∨ call.entries = []) := by
  simp only [SerializeCall.argumentsInvalid, Bool.or_eq_false_iff, Bool.and_eq_false_iff,
    decide_eq_false_iff_not, Option.isNone_eq_false_iff, not_lt] at valid
  obtain ⟨⟨⟨⟨hbody, -⟩, hcount⟩, hheaders⟩, -⟩ := valid
  constructor
  · rcases hbody with empty | there
    · have zero : call.body.len.toNat = 0 := by
        have notLess := mt BitVec.lt_def.mpr empty
        simpa using notLess
      cases data : call.body.data with
      | none => rw [Region.bytes, data, zero]; rfl
      | some bytes => exact Region.length_bytes (by rw [data]; simp)
    · exact Region.length_bytes (Option.isSome_iff_ne_none.mp there)
  · rcases hheaders with none | ⟨-, there⟩
    · right
      cases headers : call.headers with
      | none => rw [SerializeCall.entries, headers]; rfl
      | some hs =>
          have length := call.headers_length hs headers
          rw [SerializeCall.entries, headers, Option.getD_some]
          exact List.length_eq_zero_iff.mp (by omega)
    · exact .inl (Region.length_bytes (Option.isSome_iff_ne_none.mp there))

/-- A call that comes to the serializer. -/
theorem culpeoSerializeFrame_eq {call : SerializeCall} (valid : call.argumentsInvalid = false)
    (within : ∀ h ∈ call.entries, withinStrings call.stringsBuf h = true) :
    (culpeoSerializeFrame call).copies =
        (serializeFrameToBuffer (call.entries.map (viewOf call.stringsBuf)) call.body.bytes
          call.outBuf.len).2.copies ∧
      ∀ n : ℕ, (culpeoSerializeFrame call).code = n ↔
        ∃ written log, serializeFrameToBuffer (call.entries.map (viewOf call.stringsBuf))
            call.body.bytes call.outBuf.len = (.ok written, log) ∧
          written.toNat = n ∧ n ≤ INT_MAX := by
  rw [culpeoSerializeFrame, valid, viewsOf_eq, if_pos within]
  simp only [Bool.false_eq_true, if_false]
  rcases serializeFrameToBuffer (call.entries.map (viewOf call.stringsBuf)) call.body.bytes
    call.outBuf.len with ⟨e | written, log⟩
  · exact ⟨rfl, by simp⟩
  · by_cases large : INT_MAX < written.toNat
    · simp only [if_pos large, true_and]
      intro n
      constructor
      · intro negative
        omega
      · rintro ⟨_, _, same, rfl, small⟩
        cases same
        omega
    · simp only [if_neg large, true_and]
      intro n
      constructor
      · intro code
        exact ⟨written, log, rfl, by omega, by omega⟩
      · rintro ⟨_, _, same, rfl, -⟩
        cases same
        rfl

/-- **A call whose slices are in bounds.** -/
theorem inside_iff_of_within {call : SerializeCall} (valid : call.argumentsInvalid = false)
    (within : ∀ h ∈ call.entries, withinStrings call.stringsBuf h = true) :
    call.Inside ↔ call.size < 2 ^ 32 ∨ call.outBuf.len.toNat < call.size % 2 ^ 32 ∨
      ∃ before h after, call.entries = before ++ h :: after ∧
        ¬ (validHeaderName (viewOf call.stringsBuf h).name = true ∧
          validHeaderValue (viewOf call.stringsBuf h).value = true) ∧
        slicesSize before ≤ call.outBuf.len.toNat := by
  obtain ⟨body, strings⟩ := lengths_of_valid valid
  obtain ⟨copies, code⟩ := culpeoSerializeFrame_eq valid within
  have size : 2 + call.body.bytes.length + linesSize (call.entries.map (viewOf call.stringsBuf)) =
      call.size := by
    rw [body, linesSize_viewOf strings within, SerializeCall.size]
  have inside := insideOutput_iff (call.entries.map (viewOf call.stringsBuf)) call.body.bytes
    call.outBuf.len
  rw [size, ← copies] at inside
  -- The lines in front of an invalid one, as descriptors.
  have front : (∃ lines header rest,
        call.entries.map (viewOf call.stringsBuf) = lines ++ header :: rest ∧
          ¬ (validHeaderName header.name = true ∧ validHeaderValue header.value = true) ∧
          linesSize lines ≤ call.outBuf.len.toNat) ↔
      ∃ before h after, call.entries = before ++ h :: after ∧
        ¬ (validHeaderName (viewOf call.stringsBuf h).name = true ∧
          validHeaderValue (viewOf call.stringsBuf h).value = true) ∧
        slicesSize before ≤ call.outBuf.len.toNat := by
    have sizes : ∀ before h after, call.entries = before ++ h :: after →
        linesSize (before.map (viewOf call.stringsBuf)) = slicesSize before := by
      intro before h after split
      refine linesSize_viewOf (strings.imp_right fun nil => ?_) fun h hmem =>
        within h (by rw [split]; exact List.mem_append_left _ hmem)
      rw [nil] at split
      exact absurd split (by simp)
    constructor
    · rintro ⟨lines, header, rest, split, bad, fits⟩
      obtain ⟨before, more, split', rfl, hmore⟩ := List.map_eq_append_iff.mp split
      obtain ⟨h, after, rfl, rfl, -⟩ := List.map_eq_cons_iff.mp hmore
      exact ⟨before, h, after, split', bad, sizes before h after split' ▸ fits⟩
    · rintro ⟨before, h, after, split, bad, fits⟩
      refine ⟨before.map (viewOf call.stringsBuf), viewOf call.stringsBuf h,
        after.map (viewOf call.stringsBuf), ?_, bad, ?_⟩
      · rw [split, List.map_append, List.map_cons]
      · rw [sizes before h after split]
        exact fits
  rw [front] at inside
  constructor
  · intro all
    exact inside.mp all.copies
  · intro condition
    refine ⟨inside.mpr condition, fun nonneg => ?_⟩
    obtain ⟨n, hn⟩ := Int.eq_ofNat_of_zero_le nonneg
    obtain ⟨written, log, run, rfl, -⟩ := (code n).mp hn
    obtain ⟨hvalid, room, returned, -⟩ := serializeFrameToBuffer_ok run
    rw [size] at room returned
    rw [hn, returned]
    -- A frame that has been written was neither refused nor stopped.
    rcases condition with noWrap | small | ⟨before, h, after, split, bad, -⟩
    · rw [Nat.mod_eq_of_lt noWrap]
    · omega
    · exact absurd (hvalid _ (List.mem_map_of_mem (by rw [split]; simp))) bad

/-- **A serialization stays inside its buffer and returns the length of the frame exactly when
the sum of the lengths does not wrap**, or a check stops it in time: the arguments or a slice
are refused, the capacity is smaller than even the wrapped sum, or a name or value that is not
valid comes while the lines in front of it still fit. -/
theorem culpeoSerializeFrame_inside_iff (call : SerializeCall) :
    call.Inside ↔ call.argumentsInvalid = true ∨
      (∃ h ∈ call.entries, withinStrings call.stringsBuf h = false) ∨
      call.size < 2 ^ 32 ∨ call.outBuf.len.toNat < call.size % 2 ^ 32 ∨
      ∃ before h after, call.entries = before ++ h :: after ∧
        ¬ (validHeaderName (viewOf call.stringsBuf h).name = true ∧
          validHeaderValue (viewOf call.stringsBuf h).value = true) ∧
        slicesSize before ≤ call.outBuf.len.toNat := by
  by_cases invalid : call.argumentsInvalid = true
  · have refused : culpeoSerializeFrame call = { code := -1 } := by
      rw [culpeoSerializeFrame, if_pos invalid]
    refine ⟨fun _ => .inl invalid, fun _ => ⟨?_, ?_⟩⟩
    · rw [refused]
      exact fun _ hmem => by cases hmem
    · rw [refused]
      exact fun nonneg => absurd nonneg (by decide)
  · by_cases within : ∀ h ∈ call.entries, withinStrings call.stringsBuf h = true
    · have none : ¬ ∃ h ∈ call.entries, withinStrings call.stringsBuf h = false := by
        rintro ⟨h, hmem, outside⟩
        rw [within h hmem] at outside
        cases outside
      rw [inside_iff_of_within (Bool.eq_false_of_not_eq_true invalid) within]
      simp only [invalid, none, false_or, Bool.false_eq_true]
    · have refused : culpeoSerializeFrame call = { code := -2 } := by
        rw [culpeoSerializeFrame, if_neg invalid, viewsOf_eq, if_neg within]
      refine ⟨fun _ => .inr (.inl ?_), fun _ => ⟨?_, ?_⟩⟩
      · simpa using within
      · rw [refused]
        exact fun _ hmem => by cases hmem
      · rw [refused]
        exact fun nonneg => absurd nonneg (by decide)

/-- Sixty-four headers of one and the same name of `n` bytes, and an output of two bytes. -/
def aliasedCall (n : UInt32) : SerializeCall where
  headers := some (List.replicate 64 ⟨0, n, 0, 0⟩)
  headerCount := 64
  stringsBuf := .ofBytes (List.replicate n.toNat (ch 'a')) (by
    rw [List.length_replicate]
    exact n.toNat_lt)
  body := .null
  outBuf := .ofBytes [0, 0] (by decide)
  headers_length := by
    rintro _ ⟨⟩
    rw [List.length_replicate]
    rfl

theorem withinStrings_aliasedCall (n : UInt32) :
    ∀ h ∈ (aliasedCall n).entries, withinStrings (aliasedCall n).stringsBuf h = true := by
  intro h hmem
  obtain rfl := List.eq_of_mem_replicate hmem
  rw [withinStrings_iff]
  have strings : (aliasedCall n).stringsBuf.len.toNat = n.toNat := by
    show (BitVec.ofNat 32 (List.replicate n.toNat (ch 'a')).length).toNat = n.toNat
    rw [List.length_replicate, BitVec.toNat_ofNat, Nat.mod_eq_of_lt n.toNat_lt]
  rw [strings]
  simp

theorem not_inside_aliasedCall {n : UInt32} (wraps : 64 * (n.toNat + 4) = 2 ^ 32) :
    ¬ (aliasedCall n).Inside := by
  have size : (aliasedCall n).size = 2 + 2 ^ 32 := by
    rw [← wraps]
    show 2 + 0 + slicesSize (List.replicate 64 ⟨0, n, 0, 0⟩) = _
    rw [slicesSize, List.map_replicate, List.sum_replicate_nat]
    rfl
  have name : ∀ h ∈ (aliasedCall n).entries,
      validHeaderName (viewOf (aliasedCall n).stringsBuf h).name = true ∧
        validHeaderValue (viewOf (aliasedCall n).stringsBuf h).value = true := by
    intro h hmem
    obtain rfl := List.eq_of_mem_replicate hmem
    have key : (viewOf (aliasedCall n).stringsBuf ⟨0, n, 0, 0⟩).name =
        List.replicate n.toNat (ch 'a') := by
      show ((List.replicate n.toNat (ch 'a')).drop 0).take n.toNat = _
      rw [List.drop_zero, List.take_of_length_le (by rw [List.length_replicate])]
    rw [key, validHeaderName_iff]
    refine ⟨⟨by simp; omega, fun c hc => ?_⟩, rfl⟩
    rw [List.eq_of_mem_replicate hc]
    rfl
  rw [inside_iff_of_within rfl (withinStrings_aliasedCall n), size]
  rintro (noWrap | small | ⟨before, h, after, split, bad, -⟩)
  · omega
  · have capacity : (aliasedCall n).outBuf.len.toNat = 2 := rfl
    omega
  · exact bad (name h (by rw [split]; simp))

/-- 64 names of 67108860 bytes make lines of 2^32 bytes, so that a frame with them passes for
one of two bytes. -/
theorem not_culpeoSerializeFrame_inside :
    ¬ ∀ call : SerializeCall, call.headerCount ≤ kMaxHeaders →
      (∀ h ∈ call.entries, withinStrings call.stringsBuf h = true) → call.Inside := by
  intro hinside
  have wraps : 64 * ((67108860 : UInt32).toNat + 4) = 2 ^ 32 := rfl
  exact not_inside_aliasedCall wraps
    (hinside (aliasedCall 67108860) (by decide) (withinStrings_aliasedCall _))

end CulpeoStream.Message.Wasm32
