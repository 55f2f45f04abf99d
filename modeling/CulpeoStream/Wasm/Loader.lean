import CulpeoStream.Message.CSerialize
import CulpeoStream.Typescript.Headers

/-!
# `wasm-loader.ts`

The helpers of `culpeostream-wasm` around the compiled C interface: they copy their input into
the heap of the module, call it, and make strings of what it reports.  The module has addresses
of 32 bits, so what is in its heap is shorter than 2^32 bytes.
-/

namespace CulpeoStream.Wasm

open Message Search Utf16 Typescript

/-- The allocator of the module: whether it has a block of a size, beside blocks of the sizes in
the list. -/
structure Heap where
  malloc : List ℕ → ℕ → Bool
  bounded : ∀ blocks size, malloc blocks size = true → blocks.sum + size < 2 ^ 32

namespace Heap

/-- Blocks of the sizes, one after the other, each with the message of the `Error` when there is
none. -/
def allocate (heap : Heap) : List ℕ → List (ℕ × Text) → Except Text Unit
  | _, [] => .ok ()
  | blocks, (size, message) :: rest =>
      if heap.malloc blocks size then heap.allocate (blocks ++ [size]) rest else .error message

/-- The sizes of the blocks that are there. -/
theorem allocate_ok {heap : Heap} {blocks : List ℕ} {wanted : List (ℕ × Text)}
    (h : heap.allocate blocks wanted = .ok ()) :
    ∀ block ∈ wanted, block.1 < 2 ^ 32 := by
  induction wanted generalizing blocks with
  | nil => exact List.forall_mem_nil _
  | cons block rest ih =>
      obtain ⟨size, message⟩ := block
      unfold allocate at h
      split at h
      · rename_i hsize
        have hbound := heap.bounded blocks size hsize
        exact List.forall_mem_cons.mpr ⟨by dsimp only; omega, ih h⟩
      · cases h

end Heap

def HEADER_STRUCT_SIZE : ℕ := 16
def MAX_HEADERS : ℕ := 128
def UINT32_SIZE : ℕ := 4

/-- `copyToHeap`. -/
def copyToHeap (src : Bytes) : ℕ × Text :=
  (max src.length 1, utf16 "culpeostream-wasm: malloc failed")

/-! ### Parsing -/

def parseBlocks (buf : Bytes) : List (ℕ × Text) :=
  [copyToHeap buf,
    (MAX_HEADERS * HEADER_STRUCT_SIZE,
      utf16 "culpeostream-wasm: malloc failed for headers array"),
    (UINT32_SIZE, utf16 "culpeostream-wasm: malloc failed for body offset")]

/-- The strings that an entry stands for. -/
def pairOf (rt : Runtime) (input : Bytes) (header : CulpeoHeader) : TextHeader :=
  ⟨rt.toLowerCase (textDecode (header.key input)), textDecode (header.val input)⟩

def parseHeadersWasm (rt : Runtime) (heap : Heap) (buf : Bytes) :
    Except Text (Option (List TextHeader × ℕ)) :=
  match heap.allocate [] (parseBlocks buf) with
  | .error e => .error e
  | .ok () =>
      let parsed := culpeoParseHeaders buf MAX_HEADERS
      let count := parsed.code
      if count = -1 then .ok none
      else if count = -2 then
        .error (utf16 "culpeostream-wasm: malformed header line (missing ':')")
      else if count = -3 then .error (utf16 "culpeostream-wasm: header count exceeds maximum")
      else if count < 0 then
        .error (utf16 "culpeostream-wasm: unexpected parse error code " ++ stringOf count)
      else
        .ok (some ((parsed.headersOut.take count.toNat).map (pairOf rt buf),
          parsed.bodyOffset.getD 0))

/-! ### Serializing -/

/-- All names and values one after the other. -/
def stringsBuf (headers : List TextHeader) : Bytes :=
  headers.flatMap fun header => header.field.name ++ header.field.value

/-- Where the names and the values lie in the buffer of strings, from `cursor` on. -/
def headerDescs : ℕ → List TextHeader → List CulpeoHeader
  | _, [] => []
  | cursor, header :: rest =>
      let keyLen := header.field.name.length
      let valLen := header.field.value.length
      { keyPtr := cursor.toUInt32
        keyLen := keyLen.toUInt32
        valPtr := (cursor + keyLen).toUInt32
        valLen := valLen.toUInt32 } :: headerDescs (cursor + (keyLen + valLen)) rest

/-- The size of the output, by the formula of the C code. -/
def outCap (headers : List TextHeader) (body : Bytes) : ℕ :=
  headers.foldl
    (fun size header => size + (header.field.name.length + 2 + header.field.value.length + 2))
    (2 + body.length)

def serializeBlocks (headers : List TextHeader) (body : Bytes) : List (ℕ × Text) :=
  copyToHeap (stringsBuf headers) :: ((if body.isEmpty then [] else [copyToHeap body]) ++
    [(max (headers.length * HEADER_STRUCT_SIZE) 1,
        utf16 "culpeostream-wasm: malloc failed for header structs"),
      (outCap headers body, utf16 "culpeostream-wasm: malloc failed for output buffer")])

/-- The bytes at a pointer into the heap. -/
def regionOf (bytes : Bytes) : Wasm32.Region :=
  if small : bytes.length < 2 ^ 32 then .ofBytes bytes small else .null

theorem length_headerDescs (cursor : ℕ) (headers : List TextHeader) :
    (headerDescs cursor headers).length = headers.length := by
  induction headers generalizing cursor with
  | nil => rfl
  | cons header rest ih => rw [headerDescs, List.length_cons, List.length_cons, ih]

/-- The arguments of `_culpeo_serialize_frame`. -/
def serializeCall (headers : List TextHeader) (body : Bytes) : Wasm32.SerializeCall where
  headers := some (headerDescs 0 headers)
  headerCount := headers.length
  stringsBuf := regionOf (stringsBuf headers)
  body := if body.isEmpty then .null else regionOf body
  outBuf := regionOf (List.replicate (outCap headers body) 0)
  headers_length := by
    rintro _ ⟨⟩
    exact length_headerDescs 0 headers

def serializeFrameWasm (heap : Heap) (headers : List TextHeader) (body : Bytes) :
    Except Text Bytes :=
  match heap.allocate [] (serializeBlocks headers body) with
  | .error e => .error e
  | .ok () =>
      let call := serializeCall headers body
      let written := Wasm32.culpeoSerializeFrame call
      if written.code < 0 then
        .error (utf16 "culpeostream-wasm: serialize_frame buffer too small")
      else .ok ((Copy.applyAll written.copies call.outBuf.bytes).take written.code.toNat)

/-! ### What the module reads -/

/-- A field of the block, as it is read through the module. -/
def wasmField (rt : Runtime) (field : HeaderField) : TextHeader :=
  ⟨rt.toLowerCase (textDecode field.name), textDecode field.value⟩

/-- The module has room for what it is given. -/
def Heap.HasRoom (heap : Heap) (wanted : List (ℕ × Text)) : Prop :=
  heap.allocate [] wanted = .ok ()

/-- The buffer has not got a whole header block yet, and may still get one. -/
def Incomplete (buf : Bytes) : Prop := find crlfcrlf buf = none ∧ buf.length ≤ 8192

theorem parseLines_ne_missing {limits : Message.ParseLimits} {block : Bytes} :
    ∀ {fuel start count : ℕ} {parsed : ParsedHeadersView},
      parseLines limits block fuel start count parsed ≠ .error .missingHeaderTerminator := by
  have hline : ∀ {line : Bytes} {parsed : ParsedHeadersView},
      parseLine limits line parsed ≠ .error .missingHeaderTerminator := by
    intro line parsed h
    unfold parseLine at h
    split at h
    · cases h
    · split at h
      · cases h
      · dsimp only at h
        split at h
        · cases h
        · split at h
          · cases h
          · unfold setIfReserved at h
            split at h
            · cases h
            · split at h <;> cases h
  intro fuel
  induction fuel with
  | zero =>
      intro start count parsed h
      cases h
  | succ fuel ih =>
      intro start count parsed h
      unfold parseLines at h
      dsimp only at h
      split at h
      · split at h
        · cases h
        · split at h
          · rename_i hthrown
            cases h
            exact hline hthrown
          · exact ih h
      · cases h

theorem parseHeaders_incomplete_iff (buf : Bytes) :
    Message.parseHeaders .control buf {} = .error .missingHeaderTerminator ↔ Incomplete buf := by
  have hlimit : (8192 + 4) % 2 ^ 64 = 8196 := by decide
  unfold Message.parseHeaders Incomplete
  dsimp only
  rw [hlimit]
  constructor
  · intro h
    split at h
    · rename_i hnone
      split at h
      · cases h
      · rename_i hsize
        rw [if_pos (by omega), List.take_length] at hnone
        exact ⟨hnone, by omega⟩
    · split at h
      · cases h
      · exact absurd h parseLines_ne_missing
  · rintro ⟨hnone, hsize⟩
    rw [if_pos (by omega), List.take_length, hnone]
    dsimp only
    rw [if_neg (by omega)]

theorem map_pairOf (rt : Runtime) {buf : Bytes} {t : ℕ} {hs : List CulpeoHeader}
    {fields : List HeaderField}
    (hall : List.Forall₂ (CulpeoHeader.Reports (buf.take t)) hs fields) :
    hs.map (pairOf rt buf) = fields.map (wasmField rt) := by
  induction hall with
  | nil => rfl
  | cons hreports _ ih =>
      obtain ⟨hkey, hval⟩ := hreports.in_buffer
      rw [List.map_cons, List.map_cons, ih, pairOf, wasmField, hkey, hval]

/-- What the module makes of a buffer that libculpeo-message reads. -/
theorem parseHeadersWasm_of_denotes (rt : Runtime) {heap : Heap} {buf : Bytes} {t : ℕ}
    {fields : List HeaderField} (hroom : heap.HasRoom (parseBlocks buf))
    (h : Denotes {} buf t fields) :
    parseHeadersWasm rt heap buf = .ok (some (fields.map (wasmField rt), t + 4)) := by
  obtain ⟨parsed, hfill⟩ :=
    Exists.intro _ (@filledFrom_filledView fields .control buf (buf.take t) (buf.drop (t + 4)))
  have hparse : Message.parseHeaders .control buf {} = .ok parsed :=
    (parseHeaders_ok_iff (by decide)).mpr ⟨t, fields, h, hfill⟩
  have hcount : fields.length ≤ 64 := h.count
  have hend : t + 4 ≤ buf.length := h.terminator.add_length_le
  have hblock : parsed.headerBlock = buf.take t := hfill.headerBlock
  have hbody : parsed.body = buf.drop (t + 4) := hfill.body
  obtain ⟨hs, hwalk, hall⟩ := (walkLines_of_denotes (by decide : (1 : ℤ) ≤ MAX_HEADERS) h).1 (by
    have hmax : ((MAX_HEADERS : ℕ) : ℤ) = 128 := rfl
    omega)
  have hpairs : (hs.take fields.length).map (pairOf rt buf) = fields.map (wasmField rt) := by
    rw [← hall.length_eq, List.take_length, map_pairOf rt hall]
  have hcall : culpeoParseHeaders buf MAX_HEADERS =
      { code := fields.length, bodyOffset := some (t + 4), headersOut := hs } := by
    rw [culpeoParseHeaders, if_neg (by decide), hparse]
    dsimp only
    rw [hblock, hwalk, hbody, List.length_drop, Nat.sub_sub_self hend]
  have hnat : ∀ k : ℤ, k < 0 → ¬ ((fields.length : ℤ) = k) := by omega
  unfold parseHeadersWasm
  rw [hroom, hcall]
  dsimp only
  rw [if_neg (hnat _ (by decide)), if_neg (hnat _ (by decide)), if_neg (hnat _ (by decide)),
    if_neg (by omega), Int.toNat_natCast, hpairs, Option.getD_some]

theorem parseHeadersWasm_of_incomplete (rt : Runtime) {heap : Heap} {buf : Bytes}
    (hroom : heap.HasRoom (parseBlocks buf)) (h : Incomplete buf) :
    parseHeadersWasm rt heap buf = .ok none := by
  have hcall : culpeoParseHeaders buf MAX_HEADERS = { code := -1 } := by
    rw [culpeoParseHeaders, if_neg (by decide), (parseHeaders_incomplete_iff buf).mpr h]
  unfold parseHeadersWasm
  rw [hroom, hcall]
  rfl

/-- Everything else throws. -/
theorem parseHeadersWasm_throws (rt : Runtime) (heap : Heap) {buf : Bytes}
    (h : heap.HasRoom (parseBlocks buf) →
      ¬ Incomplete buf ∧ ∀ t fields, ¬ Denotes {} buf t fields) :
    ∃ e, parseHeadersWasm rt heap buf = .error e := by
  unfold parseHeadersWasm
  cases hroom : heap.allocate [] (parseBlocks buf) with
  | error e => exact ⟨e, rfl⟩
  | ok _ =>
      obtain ⟨hcomplete, hdenotes⟩ := h hroom
      rw [← parseHeaders_incomplete_iff] at hcomplete
      cases hparse : Message.parseHeaders .control buf {} with
      | ok parsed =>
          obtain ⟨t, fields, hden, -⟩ := (parseHeaders_ok_iff (by decide)).mp hparse
          exact absurd hden (hdenotes t fields)
      | error e =>
          dsimp only
          rw [culpeoParseHeaders_of_error (by decide) hparse]
          cases e with
          | missingHeaderTerminator => exact absurd hparse hcomplete
          | _ => exact ⟨_, rfl⟩

/-! ### The same block as text -/

theorem token_unit {c : UInt8} (h : isTokenChar c = true) :
    c.toNat < 0x80 ∧ isSpace c.toUInt16 = false := by
  have hall : ∀ n : Fin 256, isTokenChar (UInt8.ofNat n) = true →
      (UInt8.ofNat n).toNat < 0x80 ∧ isSpace (UInt8.ofNat n).toUInt16 = false := by decide +kernel
  have hc := hall ⟨c.toNat, c.toNat_lt⟩
  rw [UInt8.ofNat_toNat] at hc
  exact hc h

/-- No byte order mark stands before a token. -/
theorem dropBom_token {name : Bytes} (h : ∀ c ∈ name, isTokenChar c = true) (hne : name ≠ [])
    (rest : Text) : dropBom (name.map UInt8.toUInt16 ++ rest) =
      name.map UInt8.toUInt16 ++ rest := by
  obtain ⟨c, tail, rfl⟩ := List.exists_cons_of_ne_nil hne
  have hspace := (token_unit (h c List.mem_cons_self)).2
  rw [List.map_cons, List.cons_append, dropBom, if_neg]
  intro hbom
  rw [hbom] at hspace
  exact absurd hspace (by decide)

/-- A token is read as it stands. -/
theorem textDecode_token {name : Bytes} (h : ∀ c ∈ name, isTokenChar c = true) (hne : name ≠ []) :
    textDecode name = name.map UInt8.toUInt16 ∧
      trim (Utf8.decode name) = name.map UInt8.toUInt16 := by
  have hspace : ∀ u ∈ name.map UInt8.toUInt16, isSpace u = false := by
    intro u hu
    obtain ⟨c, hc, rfl⟩ := List.mem_map.mp hu
    exact (token_unit (h c hc)).2
  have hbom := dropBom_token h hne []
  rw [List.append_nil] at hbom
  rw [textDecode_eq, Utf8.decode_ascii fun c hc => (token_unit (h c hc)).1]
  exact ⟨hbom, Strip.strip_eq_self (fun u hu => hspace u (List.mem_of_mem_head? hu))
    fun u hu => hspace u (List.mem_of_getLast? hu)⟩

/-- Without the module the value is trimmed of all white space. -/
theorem decodedField_eq (rt : Runtime) {limits : Message.ParseLimits} {line : Bytes}
    {field : HeaderField} (h : HeaderLine limits line field) :
    decodedField rt field =
      { wasmField rt field with value := trim (wasmField rt field).value } := by
  obtain ⟨htext, htrim⟩ := textDecode_token h.token h.name_ne_nil
  rw [decodedField, wasmField, htext, htrim, textDecode_eq, trim_dropBom]

/-- The value without further white space at its ends. -/
def TextHeader.trimmed (field : TextHeader) : TextHeader := { field with value := trim field.value }

theorem decodedFields_eq (rt : Runtime) {buf : Bytes} {t : ℕ} {fields : List HeaderField}
    (h : Denotes {} buf t fields) :
    fields.map (decodedField rt) = (fields.map (wasmField rt)).map TextHeader.trimmed := by
  have hlines := h.lines
  generalize headerLines (buf.take t) = lines at hlines
  clear h
  induction hlines with
  | nil => rfl
  | cons hfield _ ih =>
      rw [List.map_cons, List.map_cons, List.map_cons, ih, decodedField_eq rt hfield]
      rfl

theorem lastValue_trimmed (fields : List TextHeader) (name : Text) :
    lastValue (fields.map TextHeader.trimmed) name = (lastValue fields name).map trim := by
  induction fields with
  | nil => rfl
  | cons field rest ih =>
      rw [List.map_cons, lastValue_cons, lastValue_cons, ih]
      cases lastValue rest name with
      | some value => rfl
      | none =>
          rw [Option.map_none, Option.none_or, Option.none_or]
          unfold TextHeader.trimmed
          dsimp only
          split <;> rfl

theorem hasName_of_headerLine {limits : Message.ParseLimits} {line : Bytes} {field : HeaderField}
    (h : HeaderLine limits line field) :
    HasName (Utf8.decode line) ∧ dropBom (Utf8.decode line) = Utf8.decode line := by
  obtain ⟨raw, hline, -⟩ := h.split
  have hcolon : ch ':' ∉ field.name := fun hmem => by
    have hbad := h.token _ hmem
    rw [isTokenChar_colon] at hbad
    cases hbad
  have hfind : find [ch ':'] line = some field.name.length := by
    rw [hline]
    exact find_colon hcolon
  constructor
  · rcases find_colon_decode line with ⟨hnone, -⟩ | ⟨name, raw', -, hbytes, -, htext⟩
    · rw [hfind] at hnone
      cases hnone
    · have hlength : field.name.length = name.length := by
        rw [hfind] at hbytes
        exact Option.some.inj hbytes
      have hne : name ≠ [] := by
        rintro rfl
        exact h.name_ne_nil (List.length_eq_zero_iff.mp hlength)
      obtain ⟨separator, hseparator⟩ := Nat.exists_eq_succ_of_ne_zero
        (fun hzero => Utf8.decode_ne_nil hne (List.length_eq_zero_iff.mp hzero))
      exact ⟨separator, by rw [htext, hseparator]⟩
  · rw [hline, Utf8.decode_ascii_append fun c hc => (token_unit (h.token c hc)).1]
    exact dropBom_token h.token h.name_ne_nil _

/-- The lines of a block that libculpeo-message reads, as text. -/
theorem linesOf_of_denotes (rt : Runtime) {buf : Bytes} {t : ℕ} {fields : List HeaderField}
    (h : Denotes {} buf t fields) :
    (∀ line ∈ linesOf (textDecode (buf.take t)), HasName line) ∧
      (linesOf (textDecode (buf.take t))).map (textField rt) = fields.map (decodedField rt) := by
  have hbom : ¬ BomOnly (buf.take t) := by
    intro hbom
    obtain ⟨line, hline, -, hcolon⟩ := hbom.exists_line
    exact hcolon (h.colon_mem line hline)
  have hforall := h.lines
  have hlines : linesOf (textDecode (buf.take t)) =
      (headerLines (buf.take t)).map Utf8.decode := by
    rcases linesOf_textDecode hbom with ⟨hnil, htext⟩ | ⟨line, rest, hcons, htext⟩
    · rw [hnil, htext]
      rfl
    · rw [hcons] at hforall
      cases hforall with
      | cons hfield _ =>
          rw [hcons, htext, (hasName_of_headerLine hfield).2, List.map_cons]
  rw [textFields_eq rt hbom, hlines]
  generalize headerLines (buf.take t) = lines at hforall
  clear h hbom hlines
  induction hforall with
  | nil => exact ⟨List.forall_mem_nil _, rfl⟩
  | cons hfield _ ih =>
      rw [List.map_cons, List.forall_mem_cons, List.map_cons, List.map_cons, List.map_cons,
        lineField_of_headerLine hfield, ih.2]
      exact ⟨⟨(hasName_of_headerLine hfield).1, ih.1⟩, rfl⟩

/-! ### What the module writes -/

theorem outCap_eq (headers : List TextHeader) (body : Bytes) :
    outCap headers body = 2 + body.length + Wasm32.linesSize (headers.map TextHeader.field) := by
  have hfold : ∀ size : ℕ, headers.foldl (fun size header =>
        size + (header.field.name.length + 2 + header.field.value.length + 2)) size =
      size + Wasm32.linesSize (headers.map TextHeader.field) := by
    induction headers with
    | nil => exact fun size => rfl
    | cons header rest ih =>
        intro size
        rw [List.foldl_cons, ih]
        simp only [Wasm32.linesSize, List.map_cons, List.sum_cons]
        omega
  exact hfold _

theorem regionOf_bytes {bytes : Bytes} (small : bytes.length < 2 ^ 32) :
    (regionOf bytes).data = some bytes ∧ (regionOf bytes).len.toNat = bytes.length := by
  rw [regionOf, dif_pos small]
  exact ⟨rfl, by rw [Wasm32.Region.ofBytes, BitVec.toNat_ofNat, Nat.mod_eq_of_lt small]⟩

/-- **The descriptors stand for the headers.** -/
theorem viewOf_headerDescs {strings : Bytes} (small : strings.length < 2 ^ 32)
    (headers : List TextHeader) :
    ∀ before : Bytes, strings = before ++ stringsBuf headers →
      (∀ h ∈ headerDescs before.length headers,
        Wasm32.withinStrings (regionOf strings) h = true) ∧
      (headerDescs before.length headers).map (Wasm32.viewOf (regionOf strings)) =
        headers.map TextHeader.field := by
  obtain ⟨hdata, hlen⟩ := regionOf_bytes small
  have hbytes : (regionOf strings).bytes = strings := by rw [Wasm32.Region.bytes, hdata]; rfl
  have hcast : ∀ n, n ≤ strings.length → n.toUInt32.toNat = n := fun n hn =>
    UInt32.toNat_ofNat_of_lt' (by rw [UInt32.size]; omega)
  -- Over the headers, with the strings that are in front of them.
  induction headers with
  | nil => exact fun _ _ => ⟨List.forall_mem_nil _, rfl⟩
  | cons header rest ih =>
      intro before hsplit
      have hnext : strings = (before ++ header.field.name ++ header.field.value) ++
          stringsBuf rest := by
        rw [hsplit, stringsBuf, stringsBuf, List.flatMap_cons]
        simp
      have hlength := congrArg List.length hnext
      simp only [List.length_append] at hlength
      obtain ⟨hwithin, hviews⟩ := ih _ hnext
      have hcursor : before.length + (header.field.name.length + header.field.value.length) =
          (before ++ header.field.name ++ header.field.value).length := by
        simp only [List.length_append]
        omega
      rw [headerDescs, hcursor, List.forall_mem_cons, List.map_cons, List.map_cons, hviews]
      refine ⟨⟨?_, hwithin⟩, ?_⟩
      · rw [Wasm32.withinStrings_iff, hlen]
        dsimp only
        rw [hcast _ (by omega), hcast _ (by omega), hcast _ (by omega), hcast _ (by omega)]
        omega
      · congr 1
        rw [Wasm32.viewOf, CulpeoHeader.key, CulpeoHeader.val, hbytes]
        dsimp only
        rw [hcast _ (by omega), hcast _ (by omega), hcast _ (by omega), hcast _ (by omega), hnext,
          ← List.length_append, List.append_assoc (before ++ header.field.name), List.drop_left,
          List.take_left, List.append_assoc before, List.drop_left, List.take_left]

/-- With room in the heap, everything is shorter than its addresses reach. -/
theorem lengths_of_room {heap : Heap} {headers : List TextHeader} {body : Bytes}
    (hroom : heap.HasRoom (serializeBlocks headers body)) :
    (stringsBuf headers).length < 2 ^ 32 ∧ body.length < 2 ^ 32 ∧ outCap headers body < 2 ^ 32 := by
  have hsizes := Heap.allocate_ok hroom
  unfold serializeBlocks at hsizes
  obtain ⟨hstrings, hrest⟩ := List.forall_mem_cons.mp hsizes
  have hcap := hrest (outCap headers body, _)
    (List.mem_append_right _ (List.mem_cons_of_mem _ List.mem_cons_self))
  have hstrings' : max (stringsBuf headers).length 1 < 2 ^ 32 := hstrings
  have hcap' : outCap headers body < 2 ^ 32 := hcap
  rw [outCap_eq] at hcap'
  exact ⟨by omega, by omega, hcap⟩

/-- The headers and bodies that both paths write alike. -/
structure Writable (heap : Heap) (headers : List TextHeader) (body : Bytes) : Prop where
  room : heap.HasRoom (serializeBlocks headers body)
  count : headers.length ≤ 128
  valid : ValidHeaders (headers.map TextHeader.field)
  size : outCap headers body < 2 ^ 31

theorem argumentsInvalid_serializeCall {heap : Heap} {headers : List TextHeader} {body : Bytes}
    (hroom : heap.HasRoom (serializeBlocks headers body)) (hcount : headers.length ≤ 128) :
    (serializeCall headers body).argumentsInvalid = false := by
  obtain ⟨hstrings, hbody, hcap⟩ := lengths_of_room hroom
  have hlength : (List.replicate (outCap headers body) (0 : UInt8)).length = outCap headers body :=
    List.length_replicate
  obtain ⟨hout, houtLen⟩ := regionOf_bytes (by rwa [hlength])
  rw [hlength] at houtLen
  have hsome : (serializeCall headers body).outBuf.data.isNone = false := by
    show (regionOf _).data.isNone = false
    rw [hout]
    rfl
  have hnonzero : ((serializeCall headers body).outBuf.len == 0) = false := by
    rw [beq_eq_false_iff_ne]
    intro hzero
    have htwo := outCap_eq headers body
    have hlen : (serializeCall headers body).outBuf.len.toNat = outCap headers body := houtLen
    rw [hzero] at hlen
    have : (0 : Wasm32.SizeT).toNat = 0 := rfl
    omega
  have hread : (decide (0 < (serializeCall headers body).body.len) &&
      (serializeCall headers body).body.data.isNone) = false := by
    cases body with
    | nil => rfl
    | cons b body =>
        have hdata := (regionOf_bytes hbody).1
        show (_ && (regionOf (b :: body)).data.isNone) = false
        rw [hdata]
        exact Bool.and_false _
  have hnames : (serializeCall headers body).stringsBuf.data.isNone = false := by
    show (regionOf _).data.isNone = false
    rw [(regionOf_bytes hstrings).1]
    rfl
  have hheaders : (serializeCall headers body).headers.isNone = false := rfl
  have hnatural : decide ((serializeCall headers body).headerCount < 0) = false :=
    decide_eq_false (not_lt.mpr (Int.natCast_nonneg _))
  have hmax : decide (Wasm32.kMaxHeaders < (serializeCall headers body).headerCount) = false :=
    decide_eq_false (not_lt.mpr (Int.ofNat_le.mpr hcount))
  unfold Wasm32.SerializeCall.argumentsInvalid
  rw [hread, hsome, hnonzero, hnames, hheaders, hnatural, hmax]
  simp

/-- What the module makes of headers that it has room for, and that are not too many. -/
theorem culpeoSerializeFrame_serializeCall {heap : Heap} {headers : List TextHeader}
    {body : Bytes} (hroom : heap.HasRoom (serializeBlocks headers body))
    (hcount : headers.length ≤ 128) :
    (Wasm32.culpeoSerializeFrame (serializeCall headers body)).copies =
        (Wasm32.serializeFrameToBuffer (headers.map TextHeader.field) body
          (BitVec.ofNat 32 (outCap headers body))).2.copies ∧
      ∀ n : ℕ, (Wasm32.culpeoSerializeFrame (serializeCall headers body)).code = n ↔
        ∃ written log, Wasm32.serializeFrameToBuffer (headers.map TextHeader.field) body
            (BitVec.ofNat 32 (outCap headers body)) = (.ok written, log) ∧
          written.toNat = n ∧ n ≤ Wasm32.INT_MAX := by
  obtain ⟨hstrings, hbody, hcap⟩ := lengths_of_room hroom
  obtain ⟨hwithin, hviews⟩ := viewOf_headerDescs hstrings headers [] rfl
  have hcall := Wasm32.culpeoSerializeFrame_eq (argumentsInvalid_serializeCall hroom hcount) hwithin
  have hread : (serializeCall headers body).body.bytes = body := by
    cases body with
    | nil => rfl
    | cons b body =>
        show (regionOf (b :: body)).bytes = _
        rw [Wasm32.Region.bytes, (regionOf_bytes hbody).1]
        rfl
  have hlength : (List.replicate (outCap headers body) (0 : UInt8)).length = outCap headers body :=
    List.length_replicate
  have hout : (serializeCall headers body).outBuf.len = BitVec.ofNat 32 (outCap headers body) := by
    have hnat : (serializeCall headers body).outBuf.len.toNat = outCap headers body :=
      (regionOf_bytes (by rwa [hlength])).2.trans hlength
    rw [← BitVec.toNat_inj, hnat, BitVec.toNat_ofNat, Nat.mod_eq_of_lt hcap]
  have hentries :
      (serializeCall headers body).entries.map
          (Wasm32.viewOf (serializeCall headers body).stringsBuf) =
        headers.map TextHeader.field :=
    hviews
  rw [hread, hout, hentries] at hcall
  exact hcall

/-- The bytes that a call has written. -/
theorem written_eq {heap : Heap} {headers : List TextHeader} {body : Bytes}
    (hroom : heap.HasRoom (serializeBlocks headers body)) {log : CopyLog 32 UInt8}
    (hfills : log.Fills) (htext : log.text = encode (headers.map TextHeader.field) body) :
    (Copy.applyAll log.copies (serializeCall headers body).outBuf.bytes).take
        (outCap headers body) =
      encode (headers.map TextHeader.field) body := by
  obtain ⟨-, -, hcap⟩ := lengths_of_room hroom
  have hlength : (List.replicate (outCap headers body) (0 : UInt8)).length = outCap headers body :=
    List.length_replicate
  have hbytes : (serializeCall headers body).outBuf.bytes =
      List.replicate (outCap headers body) 0 := by
    show (regionOf _).bytes = _
    rw [Wasm32.Region.bytes, (regionOf_bytes (by rwa [hlength])).1]
    rfl
  have hsize : log.text.length = outCap headers body := by
    rw [htext, Wasm32.length_encode, outCap_eq]
  rw [hbytes, hfills.applyAll _ (by rw [hlength, hsize]) (by rwa [hlength]), ← hsize,
    List.take_left, htext]

/-- **What the module writes.** -/
theorem serializeFrameWasm_of_writable {heap : Heap} {headers : List TextHeader} {body : Bytes}
    (h : Writable heap headers body) :
    serializeFrameWasm heap headers body =
      .ok (encode (headers.map TextHeader.field) body) := by
  obtain ⟨hcopies, hcode⟩ := culpeoSerializeFrame_serializeCall h.room h.count
  have hcap := (lengths_of_room h.room).2.2
  have hfills := Wasm32.fills_serializeFrameToBuffer (headers.map TextHeader.field) body
    (BitVec.ofNat 32 (outCap headers body))
  rcases Wasm32.serializeFrameToBuffer_spec (headers.map TextHeader.field) body
      (BitVec.ofNat 32 (outCap headers body)) with ⟨hsmall, -⟩ | ⟨-, log, hlog, ⟨-, hrun, htext⟩ |
    ⟨e, valid, header, rest, hsplit, -, hbad, -⟩⟩
  · rw [← outCap_eq, BitVec.toNat_ofNat] at hsmall
    exact absurd hsmall (lt_irrefl _)
  · have hwritten : log.cursor.toNat = outCap headers body := by
      rw [hlog.cursor, htext, Wasm32.length_encode, ← outCap_eq, BitVec.toNat_ofNat,
        Nat.mod_eq_of_lt hcap]
    have hmax : outCap headers body ≤ Wasm32.INT_MAX := Nat.le_of_lt_succ h.size
    have hreturned := (hcode _).mpr ⟨log.cursor, log, hrun, hwritten, hmax⟩
    rw [hrun] at hcopies hfills
    unfold serializeFrameWasm
    rw [h.room]
    dsimp only
    rw [hreturned, if_neg (by omega), Int.toNat_natCast, hcopies]
    exact congrArg Except.ok (written_eq h.room hfills htext)
  · exact absurd (h.valid header (by rw [hsplit]; simp)) hbad

theorem writable_of_serializeFrameWasm {heap : Heap} {headers : List TextHeader}
    {body bytes : Bytes} (h : serializeFrameWasm heap headers body = .ok bytes) :
    Writable heap headers body := by
  unfold serializeFrameWasm at h
  cases hroom : heap.allocate [] (serializeBlocks headers body) with
  | error e =>
      rw [hroom] at h
      cases h
  | ok _ =>
      rw [hroom] at h
      dsimp only at h
      split at h
      · cases h
      · rename_i hcode
        have hcount : headers.length ≤ 128 := by
          by_contra hmany
          have hmax : decide (Wasm32.kMaxHeaders < (serializeCall headers body).headerCount) =
              true := decide_eq_true (Int.ofNat_lt.mpr (not_le.mp hmany))
          have hinvalid : (serializeCall headers body).argumentsInvalid = true := by
            rw [Wasm32.SerializeCall.argumentsInvalid, hmax, Bool.or_true]
          rw [Wasm32.culpeoSerializeFrame, if_pos hinvalid] at hcode
          exact hcode (by decide)
        obtain ⟨n, hn⟩ := Int.eq_ofNat_of_zero_le (not_lt.mp hcode)
        obtain ⟨written, log, hrun, hwritten, hmax⟩ :=
          ((culpeoSerializeFrame_serializeCall hroom hcount).2 n).mp hn
        obtain ⟨hvalid, -, hlength, -⟩ := Wasm32.serializeFrameToBuffer_ok hrun
        rw [← outCap_eq, Nat.mod_eq_of_lt (lengths_of_room hroom).2.2] at hlength
        exact ⟨hroom, hcount, hvalid, by unfold Wasm32.INT_MAX at hmax; omega⟩

end CulpeoStream.Wasm
