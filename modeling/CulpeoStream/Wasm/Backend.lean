import CulpeoStream.Typescript.Bodies
import CulpeoStream.Wasm.Index

/-!
# `parseFrame` with a backend

A loaded module reads the headers for the core: `extractHeaders` takes the pairs from it and
checks them like those it reads itself.  `parseFrame_same_iff` says which frames are read alike
with the module and without it.
-/

namespace CulpeoStream.Wasm

open Message Search Utf16 Typescript Checks

/-- What is thrown: an `Error` of the backend, or by the codec. -/
inductive Failure where
  | backend (message : Text)
  | core (thrown : Thrown)

/-- One turn of the loop over the pairs of a backend. -/
def addPair (limits : Typescript.ParseLimits) (state : HeaderState) (pair : TextHeader) :
    Except Thrown HeaderState :=
  let lineCount := state.lineCount + 1
  if limits.maxHeaderCount < lineCount then throwProtocolError "Header count exceeds maximum"
  else addHeader limits pair.name pair.value { state with lineCount }

/-- The headers that a backend has found, checked. -/
def checkPairs (limits : Typescript.ParseLimits) (found : Option (List TextHeader × ℕ)) :
    Except Thrown (Headers × ℕ) :=
  match found with
  | none => throwProtocolError "Frame headers must terminate with CRLF CRLF"
  | some (pairs, bodyOffset) => do
      let state ← pairs.foldlM (addPair limits) {}
      return (state.headers, bodyOffset)

/-- `extractHeaders`, with an active backend or without. -/
def extractHeaders (rt : Runtime) (backend : Option Heap) (bytes : Bytes)
    (limits : Typescript.ParseLimits) : Except Failure (Headers × ℕ) :=
  match backend with
  | some heap => do
      let result ← (parseHeadersWasm rt heap bytes).mapError .backend
      (checkPairs limits result).mapError .core
  | none => (Typescript.extractHeaders rt bytes limits).mapError .core

variable {J : Type}

def parseFrame (platform : Platform J) (backend : Option Heap) (input : FrameData)
    (frameType : TransportMessageType) (limits : Typescript.ParseLimits) :
    Except Failure (Frame J) := do
  let bytes := input.toUint8Array
  let (headers, bodyOffset) ← extractHeaders platform.toRuntime backend bytes limits
  (parseBody platform headers (bytes.drop bodyOffset) frameType).mapError .core

/-- Without a backend this is the codec. -/
theorem parseFrame_none (platform : Platform J) (input : FrameData)
    (frameType : TransportMessageType) (limits : Typescript.ParseLimits) :
    parseFrame platform none input frameType limits =
      (Typescript.parseFrame platform input frameType limits).mapError .core := by
  unfold parseFrame Typescript.parseFrame extractHeaders
  dsimp only
  cases Typescript.extractHeaders platform.toRuntime input.toUint8Array limits <;> rfl

/-! ### What is read through the module -/

theorem addPair_ok_iff {limits : Typescript.ParseLimits} {state state' : HeaderState}
    {pair : TextHeader} :
    addPair limits state pair = .ok state' ↔
      ((state.lineCount + 1 : ℕ) : ℤ) ≤ limits.maxHeaderCount ∧ Admissible limits pair ∧
        ¬ state.Repeats pair ∧ state' = state.push pair := by
  unfold addPair
  dsimp only
  split
  · rename_i hcount
    refine iff_of_false (error_ne_ok state') ?_
    rintro ⟨hle, -⟩
    exact absurd hle (not_le.mpr hcount)
  · rename_i hcount
    rw [addHeader_ok_iff]
    exact ⟨fun h => ⟨not_lt.mp hcount, h⟩, And.right⟩

/-- **What the loop over the pairs accepts**, and what it makes of them. -/
theorem foldlM_addPair_ok_iff {limits : Typescript.ParseLimits} {pairs : List TextHeader} :
    ∀ {state state' : HeaderState},
      pairs.foldlM (addPair limits) state = .ok state' ↔
        Admits limits state pairs ∧ state' = pairs.foldl HeaderState.push state := by
  induction pairs with
  | nil =>
      intro state state'
      rw [List.foldlM_nil, List.foldl_nil]
      refine ⟨?_, ?_⟩
      · rintro ⟨⟩
        exact ⟨.nil, rfl⟩
      · rintro ⟨-, rfl⟩
        rfl
  | cons pair rest ih =>
      intro state state'
      rw [List.foldlM_cons, admits_cons_iff, List.foldl_cons]
      constructor
      · intro h
        obtain ⟨mid, hpair, hrest⟩ := exists_of_bind_ok h
        obtain ⟨hle, hadm, hnew, rfl⟩ := addPair_ok_iff.mp hpair
        obtain ⟨hadmits, hstate⟩ := ih.mp hrest
        exact ⟨⟨⟨hle, hadm, hnew⟩, hadmits⟩, hstate⟩
      · rintro ⟨⟨⟨hle, hadm, hnew⟩, hadmits⟩, hstate⟩
        rw [addPair_ok_iff.mpr ⟨hle, hadm, hnew, rfl⟩]
        exact ih.mpr ⟨hadmits, hstate⟩

/-- The module finds the fields, up to the offset, and their pairs pass the checks. -/
structure ModuleReads (rt : Runtime) (heap : Heap) (limits : Typescript.ParseLimits)
    (bytes : Bytes) (t : ℕ) (fields : List HeaderField) : Prop where
  room : heap.HasRoom (parseBlocks bytes)
  denotes : Denotes {} bytes t fields
  admits : Admits limits {} (fields.map (wasmField rt))

/-- The codec finds its lines, up to the offset, and they pass the checks. -/
structure CodecReads (rt : Runtime) (limits : Typescript.ParseLimits) (bytes : Bytes) (t : ℕ) :
    Prop where
  terminator : IsFirst crlfcrlf bytes t
  within : (t : ℤ) ≤ limits.maxHeaderBlockSize
  accepts : Accepts rt limits {} (linesOf (textDecode (bytes.take t)))

/-- The headers that are read through the module. -/
def moduleHeaders (rt : Runtime) (fields : List HeaderField) : Headers :=
  lastValue (fields.map (wasmField rt))

/-- The headers that the codec reads. -/
def codecHeaders (rt : Runtime) (block : Bytes) : Headers :=
  lastValue ((linesOf (textDecode block)).map (textField rt))

theorem parseHeadersWasm_some_iff {rt : Runtime} {heap : Heap} {bytes : Bytes}
    {pairs : List TextHeader} {bodyOffset : ℕ} :
    parseHeadersWasm rt heap bytes = .ok (some (pairs, bodyOffset)) ↔
      ∃ t fields, heap.HasRoom (parseBlocks bytes) ∧ Denotes {} bytes t fields ∧
        fields.map (wasmField rt) = pairs ∧ t + 4 = bodyOffset := by
  constructor
  · intro h
    by_cases hreads : heap.HasRoom (parseBlocks bytes) ∧ ∃ t fields, Denotes {} bytes t fields
    · obtain ⟨hroom, t, fields, hdenotes⟩ := hreads
      rw [parseHeadersWasm_of_denotes rt hroom hdenotes] at h
      cases h
      exact ⟨t, fields, hroom, hdenotes, rfl, rfl⟩
    · exfalso
      by_cases hincomplete : heap.HasRoom (parseBlocks bytes) ∧ Incomplete bytes
      · rw [parseHeadersWasm_of_incomplete rt hincomplete.1 hincomplete.2] at h
        cases h
      · obtain ⟨e, hthrows⟩ := parseHeadersWasm_throws rt heap fun hroom =>
          ⟨fun hinc => hincomplete ⟨hroom, hinc⟩, fun t fields hdenotes =>
            hreads ⟨hroom, t, fields, hdenotes⟩⟩
        rw [hthrows] at h
        cases h
  · rintro ⟨t, fields, hroom, hdenotes, rfl, rfl⟩
    exact parseHeadersWasm_of_denotes rt hroom hdenotes

theorem extractHeaders_some_ok_iff {rt : Runtime} {heap : Heap} {bytes : Bytes}
    {limits : Typescript.ParseLimits} {headers : Headers} {bodyOffset : ℕ} :
    extractHeaders rt (some heap) bytes limits = .ok (headers, bodyOffset) ↔
      ∃ t fields, ModuleReads rt heap limits bytes t fields ∧
        moduleHeaders rt fields = headers ∧ t + 4 = bodyOffset := by
  constructor
  · intro h
    obtain ⟨result, hwasm, h⟩ := exists_of_bind_ok h
    rw [mapError_ok_iff] at hwasm h
    cases result with
    | none => cases h
    | some found =>
        obtain ⟨pairs, offset⟩ := found
        obtain ⟨t, fields, hroom, hdenotes, rfl, rfl⟩ := parseHeadersWasm_some_iff.mp hwasm
        obtain ⟨state, hfold, h⟩ := exists_of_bind_ok h
        cases h
        obtain ⟨hadmits, rfl⟩ := foldlM_addPair_ok_iff.mp hfold
        exact ⟨t, fields, ⟨hroom, hdenotes, hadmits⟩, (headers_of_push _).symm, rfl⟩
  · rintro ⟨t, fields, ⟨hroom, hdenotes, hadmits⟩, rfl, rfl⟩
    have hwasm := parseHeadersWasm_of_denotes rt hroom hdenotes
    have hfold := foldlM_addPair_ok_iff.mpr ⟨hadmits, rfl⟩
    refine bind_ok (mapError_ok_iff.mpr hwasm) (mapError_ok_iff.mpr (bind_ok hfold ?_))
    rw [headers_of_push]
    rfl

theorem extractHeaders_none_ok_iff {rt : Runtime} {bytes : Bytes}
    {limits : Typescript.ParseLimits} {headers : Headers} {bodyOffset : ℕ} :
    extractHeaders rt none bytes limits = .ok (headers, bodyOffset) ↔
      ∃ t, CodecReads rt limits bytes t ∧
        codecHeaders rt (bytes.take t) = headers ∧ t + 4 = bodyOffset := by
  refine mapError_ok_iff.trans (extractHeaders_ok_iff.trans ?_)
  simp only [foldlM_parseHeaderLine_ok_iff]
  constructor
  · rintro ⟨t, ⟨hfirst, hwithin⟩, state, ⟨haccepts, rfl⟩, rfl, rfl⟩
    exact ⟨t, ⟨hfirst, hwithin, haccepts⟩, (headers_of_push _).symm, rfl⟩
  · rintro ⟨t, ⟨hfirst, hwithin, haccepts⟩, rfl, rfl⟩
    exact ⟨t, ⟨hfirst, hwithin⟩, _, ⟨haccepts, rfl⟩, headers_of_push _, rfl⟩

/-! ### The same frame on both ways -/

/-- Without the module more white space is taken from the values. -/
theorem codecHeaders_eq (rt : Runtime) {bytes : Bytes} {t : ℕ} {fields : List HeaderField}
    (h : Denotes {} bytes t fields) (name : Text) :
    codecHeaders rt (bytes.take t) name = (moduleHeaders rt fields name).map trim := by
  rw [codecHeaders, (linesOf_of_denotes rt h).2, decodedFields_eq rt h, lastValue_trimmed]
  rfl

theorem admissible_trimmed {limits : Typescript.ParseLimits} {field : TextHeader}
    (h : Admissible limits field) : Admissible limits (TextHeader.trimmed field) := by
  obtain ⟨front, back, -, -, hvalue⟩ := Strip.exists_strip isSpace field.value
  have hlength : (trim field.value).length ≤ field.value.length := by
    have hsum := congrArg List.length hvalue
    rw [List.length_append, List.length_append] at hsum
    show (Strip.strip isSpace field.value).length ≤ _
    omega
  have hclean : hasForbidden (trim field.value) = false :=
    List.any_eq_false.mpr fun u hu =>
      List.any_eq_false.mp h.cleanValue u (Strip.strip_subset isSpace field.value hu)
  exact ⟨h.nameLength, (Int.ofNat_le.mpr hlength).trans h.valueLength, h.cleanName, hclean⟩

/-- What is read through the module is read by the codec, if the block is not too large for it. -/
theorem ModuleReads.codecReads {rt : Runtime} {heap : Heap} {limits : Typescript.ParseLimits}
    {bytes : Bytes} {t : ℕ} {fields : List HeaderField}
    (h : ModuleReads rt heap limits bytes t fields)
    (hwithin : (t : ℤ) ≤ limits.maxHeaderBlockSize) : CodecReads rt limits bytes t := by
  obtain ⟨hnamed, hfields⟩ := linesOf_of_denotes rt h.denotes
  obtain ⟨hcount, hadm, hdistinct, hfresh⟩ := h.admits
  have hnames : reservedNames ((fields.map (wasmField rt)).map TextHeader.trimmed) =
      reservedNames (fields.map (wasmField rt)) := by
    rw [reservedNames, List.map_map]
    rfl
  refine ⟨h.denotes.terminator, hwithin, accepts_iff.mpr ⟨hnamed, ?_⟩⟩
  rw [hfields, decodedFields_eq rt h.denotes]
  refine ⟨fun hne => ?_, List.forall_mem_map.mpr fun field hfield =>
    admissible_trimmed (hadm field hfield), by rwa [hnames], by rwa [hnames]⟩
  rw [List.length_map]
  exact hcount (fun hnil => hne (by rw [hnil]; rfl))

/-- A frame with a message, read through the module. -/
def ModuleAccepts (platform : Platform J) (heap : Heap) (limits : Typescript.ParseLimits)
    (bytes : Bytes) (frameType : TransportMessageType) : Prop :=
  ∃ t fields, ModuleReads platform.toRuntime heap limits bytes t fields ∧
    Complete platform (moduleHeaders platform.toRuntime fields) (bytes.drop (t + 4)) frameType

/-- A frame with a message, read by the codec. -/
def CodecAccepts (platform : Platform J) (limits : Typescript.ParseLimits) (bytes : Bytes)
    (frameType : TransportMessageType) : Prop :=
  ∃ t, CodecReads platform.toRuntime limits bytes t ∧
    Complete platform (codecHeaders platform.toRuntime (bytes.take t)) (bytes.drop (t + 4))
      frameType

/-- The frames that are read alike. -/
inductive FrameAlike (platform : Platform J) (heap : Heap) (limits : Typescript.ParseLimits)
    (bytes : Bytes) (frameType : TransportMessageType) : Prop where
  | refused (module : ¬ ModuleAccepts platform heap limits bytes frameType)
      (codec : ¬ CodecAccepts platform limits bytes frameType)
  /-- Both read a message, and there is no further white space around what it takes over. -/
  | message (t : ℕ) (fields : List HeaderField)
      (reads : ModuleReads platform.toRuntime heap limits bytes t fields)
      (within : (t : ℤ) ≤ limits.maxHeaderBlockSize)
      (complete : Complete platform (moduleHeaders platform.toRuntime fields)
        (bytes.drop (t + 4)) frameType)
      (trimmed : ∀ name ∈ carriedNames (moduleHeaders platform.toRuntime fields) frameType,
        ∀ value ∈ moduleHeaders platform.toRuntime fields name, trim value = value)

theorem parseFrame_ok_iff {platform : Platform J} {backend : Option Heap} {input : FrameData}
    {frameType : TransportMessageType} {limits : Typescript.ParseLimits} {frame : Frame J} :
    parseFrame platform backend input frameType limits = .ok frame ↔
      ∃ headers bodyOffset,
        extractHeaders platform.toRuntime backend input.toUint8Array limits =
          .ok (headers, bodyOffset) ∧
        parseBody platform headers (input.toUint8Array.drop bodyOffset) frameType = .ok frame := by
  constructor
  · intro h
    obtain ⟨⟨headers, bodyOffset⟩, hheaders, hbody⟩ := exists_of_bind_ok h
    exact ⟨headers, bodyOffset, hheaders, mapError_ok_iff.mp hbody⟩
  · rintro ⟨headers, bodyOffset, hheaders, hbody⟩
    exact bind_ok hheaders (mapError_ok_iff.mpr hbody)

theorem parseFrame_some_ok_iff {platform : Platform J} {heap : Heap} {input : FrameData}
    {frameType : TransportMessageType} {limits : Typescript.ParseLimits} {frame : Frame J} :
    parseFrame platform (some heap) input frameType limits = .ok frame ↔
      ∃ t fields, ModuleReads platform.toRuntime heap limits input.toUint8Array t fields ∧
        parseBody platform (moduleHeaders platform.toRuntime fields)
          (input.toUint8Array.drop (t + 4)) frameType = .ok frame := by
  rw [parseFrame_ok_iff]
  simp only [extractHeaders_some_ok_iff]
  constructor
  · rintro ⟨_, _, ⟨t, fields, hreads, rfl, rfl⟩, hbody⟩
    exact ⟨t, fields, hreads, hbody⟩
  · rintro ⟨t, fields, hreads, hbody⟩
    exact ⟨_, _, ⟨t, fields, hreads, rfl, rfl⟩, hbody⟩

theorem parseFrame_none_ok_iff {platform : Platform J} {input : FrameData}
    {frameType : TransportMessageType} {limits : Typescript.ParseLimits} {frame : Frame J} :
    parseFrame platform none input frameType limits = .ok frame ↔
      ∃ t, CodecReads platform.toRuntime limits input.toUint8Array t ∧
        parseBody platform (codecHeaders platform.toRuntime (input.toUint8Array.take t))
          (input.toUint8Array.drop (t + 4)) frameType = .ok frame := by
  rw [parseFrame_ok_iff]
  simp only [extractHeaders_none_ok_iff]
  constructor
  · rintro ⟨_, _, ⟨t, hreads, rfl, rfl⟩, hbody⟩
    exact ⟨t, hreads, hbody⟩
  · rintro ⟨t, hreads, hbody⟩
    exact ⟨_, _, ⟨t, hreads, rfl, rfl⟩, hbody⟩

theorem moduleAccepts_iff {platform : Platform J} {heap : Heap} {limits : Typescript.ParseLimits}
    {input : FrameData} {frameType : TransportMessageType} :
    (∃ frame, parseFrame platform (some heap) input frameType limits = .ok frame) ↔
      ModuleAccepts platform heap limits input.toUint8Array frameType := by
  simp only [parseFrame_some_ok_iff, ModuleAccepts, ← parseBody_ok_iff]
  constructor
  · rintro ⟨frame, t, fields, hreads, hbody⟩
    exact ⟨t, fields, hreads, frame, hbody⟩
  · rintro ⟨t, fields, hreads, frame, hbody⟩
    exact ⟨frame, t, fields, hreads, hbody⟩

theorem codecAccepts_iff {platform : Platform J} {limits : Typescript.ParseLimits}
    {input : FrameData} {frameType : TransportMessageType} :
    (∃ frame, parseFrame platform none input frameType limits = .ok frame) ↔
      CodecAccepts platform limits input.toUint8Array frameType := by
  simp only [parseFrame_none_ok_iff, CodecAccepts, ← parseBody_ok_iff]
  constructor
  · rintro ⟨frame, t, hreads, hbody⟩
    exact ⟨t, hreads, frame, hbody⟩
  · rintro ⟨t, hreads, frame, hbody⟩
    exact ⟨frame, t, hreads, hbody⟩

/-- Headers whose values are trimmed once more make the same message if it takes over trimmed
values only, -/
theorem parseBody_of_trimmed {platform : Platform J} {headers headers' : Headers} {body : Bytes}
    {frameType : TransportMessageType}
    (hheaders : ∀ name, headers' name = (headers name).map trim)
    (htrimmed : ∀ name ∈ carriedNames headers frameType, ∀ value ∈ headers name,
      trim value = value) :
    parseBody platform headers' body frameType = parseBody platform headers body frameType := by
  refine parseBody_congr (fun name hname => ?_) fun name => ?_
  · rw [hheaders]
    cases hvalue : headers name with
    | none => rfl
    | some value => rw [Option.map_some, htrimmed name hname value hvalue]
  · unfold parseNumber
    rw [hheaders]
    cases headers name with
    | none => rfl
    | some value =>
        rw [Option.map_some]
        dsimp only
        rw [parseInt_trim]

/-- and only then. -/
theorem trimmed_of_parseBody {platform : Platform J} {headers headers' : Headers} {body : Bytes}
    {frameType : TransportMessageType} {frame : Frame J}
    (hheaders : ∀ name, headers' name = (headers name).map trim)
    (hbody : parseBody platform headers body frameType = .ok frame)
    (hbody' : parseBody platform headers' body frameType = .ok frame) :
    ∀ name ∈ carriedNames headers frameType, ∀ value ∈ headers name, trim value = value := by
  have hvalue : ∀ name, (headers name).getD [] = (headers' name).getD [] →
      ∀ value ∈ headers name, trim value = value := by
    intro name hsame value hvalue
    rw [hheaders, Option.mem_def.mp hvalue] at hsame
    exact hsame.symm
  have hcarried := (carried_of_parseBody hbody).symm.trans (carried_of_parseBody hbody')
  have hnames : carriedNames headers' frameType = carriedNames headers frameType := by
    cases frameType with
    | binary => rfl
    | text =>
        have hevent := hvalue _ (List.cons.inj hcarried).1
        unfold carriedNames
        rw [hheaders]
        cases hname : headers (utf16 "event") with
        | none => rfl
        | some event => rw [Option.map_some, hevent event hname]
  rw [hnames, List.map_inj_left] at hcarried
  exact fun name hname => hvalue name (hcarried name hname)

/-- **Which frames are read alike** with the module and without it. -/
theorem parseFrame_same_iff (platform : Platform J) (heap : Heap) (input : FrameData)
    (frameType : TransportMessageType) (limits : Typescript.ParseLimits) :
    SameOutcome (parseFrame platform (some heap) input frameType limits)
        (parseFrame platform none input frameType limits) ↔
      FrameAlike platform heap limits input.toUint8Array frameType := by
  unfold SameOutcome
  constructor
  · intro hsame
    cases hmodule : parseFrame platform (some heap) input frameType limits with
    | error e =>
        have hcodec : ∀ frame, parseFrame platform none input frameType limits ≠ .ok frame := by
          intro frame hframe
          rw [hmodule, hframe] at hsame
          cases hsame
        refine .refused (fun haccepts => ?_) fun haccepts => ?_
        · obtain ⟨frame, hframe⟩ := moduleAccepts_iff.mpr haccepts
          rw [hmodule] at hframe
          cases hframe
        · obtain ⟨frame, hframe⟩ := codecAccepts_iff.mpr haccepts
          exact hcodec frame hframe
    | ok frame =>
        have hcodec : parseFrame platform none input frameType limits = .ok frame := by
          rw [hmodule] at hsame
          cases hresult : parseFrame platform none input frameType limits with
          | error e =>
              rw [hresult] at hsame
              cases hsame
          | ok frame' =>
              rw [hresult] at hsame
              cases hsame
              rfl
        obtain ⟨t, fields, hreads, hbody⟩ := parseFrame_some_ok_iff.mp hmodule
        obtain ⟨t', hreads', hbody'⟩ := parseFrame_none_ok_iff.mp hcodec
        -- Both have found the same end of the headers.
        obtain rfl := hreads'.terminator.unique hreads.denotes.terminator
        exact .message t' fields hreads hreads'.within (parseBody_ok_iff.mp ⟨frame, hbody⟩)
          (trimmed_of_parseBody (codecHeaders_eq _ hreads.denotes) hbody hbody')
  · rintro (⟨hmodule, hcodec⟩ | ⟨t, fields, hreads, hwithin, hcomplete, htrimmed⟩)
    · rw [← moduleAccepts_iff] at hmodule
      rw [← codecAccepts_iff] at hcodec
      have hnone : ∀ {x : Except Failure (Frame J)}, (¬ ∃ frame, x = .ok frame) →
          x.toOption = none := by
        intro x hx
        cases x with
        | error e => rfl
        | ok frame => exact absurd ⟨frame, rfl⟩ hx
      rw [hnone hmodule, hnone hcodec]
    · obtain ⟨frame, hbody⟩ := parseBody_ok_iff.mpr hcomplete
      have hbody' := (parseBody_of_trimmed (codecHeaders_eq _ hreads.denotes) htrimmed).trans hbody
      rw [parseFrame_some_ok_iff.mpr ⟨t, fields, hreads, hbody⟩,
        parseFrame_none_ok_iff.mpr ⟨t, hreads.codecReads hwithin, hbody'⟩]

/-- A runtime for ASCII letters, with one JSON value. -/
def plainPlatform : Platform Unit where
  toLowerCase := List.map fun u => if unit 'A' ≤ u ∧ u ≤ unit 'Z' then u + 32 else u
  jsonStringify := fun _ => utf16 "\x7b\x7d"
  jsonParse := fun _ => some ()
  isJsonObject := fun _ => true

/-- A ping with a blank in the name of a header. -/
def blankName : FrameData := .text (utf16 "a b: c\r\nEvent: culpeo.ping\r\n\r\n")

/-- The name is refused by the module only. -/
theorem not_parseFrame_same :
    ¬ ∀ (J : Type) (platform : Platform J) (heap : Heap) (input : FrameData)
      (frameType : TransportMessageType) (limits : Typescript.ParseLimits),
      SameOutcome (parseFrame platform (some heap) input frameType limits)
        (parseFrame platform none input frameType limits) := by
  intro hagrees
  have hread := hagrees Unit plainPlatform wholeHeap blankName .text {}
  have hmodule : (parseFrame plainPlatform (some wholeHeap) blankName .text {}).toOption.isSome =
      false := by decide +kernel
  have hcodec : (parseFrame plainPlatform none blankName .text {}).toOption.isSome = true := by
    decide +kernel
  rw [hread, hcodec] at hmodule
  cases hmodule

end CulpeoStream.Wasm
