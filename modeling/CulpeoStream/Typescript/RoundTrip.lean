import CulpeoStream.Typescript.Parsing

/-!
# What `serializeFrame` writes, `parseFrame` reads back

A frame is written with header lines whose names are among ten and no two the same
(`written_frameToHeaders`); such lines are read back as the `Map` from the lower-case names
to the values (`extractHeaders_written`).  From this `Map` each variant of a frame is built
again, with the optional headers that it had.

The lower case of an ASCII string is taken as known, and of `JSON` that it reads back what it
wrote for the body, a text without unpaired surrogates that starts with a brace.
-/

namespace CulpeoStream.Typescript

open Message Search Utf16

/-- `toLowerCase` of an ASCII string. -/
def LowersAscii (rt : Runtime) : Prop :=
  ∀ s : Text, (∀ u ∈ s, u.toNat < 0x80) → rt.toLowerCase s = s.map lowerAscii

/-! ### Lines -/

/-- The names that are written. -/
def writtenNames : List Text :=
  [utf16 "Event", utf16 "Content-Type", utf16 "Authorization", utf16 "Session-Id",
    utf16 "Stream-Id", utf16 "Offset", utf16 "Timestamp", utf16 "Buffer-Window", utf16 "Reason",
    utf16 "Code"]

def lowerName (name : Text) : Text := name.map lowerAscii

/-- A value that a header line carries unchanged. -/
structure CleanHeader (value : Text) : Prop where
  wellFormed : Utf8.WellFormed value
  trimmed : trim value = value
  clean : hasForbidden value = false
  size : value.length ≤ 4096

/-- The line of a header, without its separator. -/
def lineText (header : TextHeader) : Text :=
  header.name ++ unit ':' :: (unit ' ' :: header.value)

theorem writtenName_facts : ∀ name ∈ writtenNames,
    (name.all fun u => u.toNat < 0x80) = true ∧ trim name = name ∧ unit ':' ∉ name ∧
      0 < name.length ∧
      validHeaderName (Utf8.encode name) = true ∧ (lowerName name).length ≤ 256 ∧
      hasForbidden (lowerName name) = false ∧ lowerName name ∈ reservedHeaders := by
  decide

theorem decode_headerText {header : TextHeader} (hname : header.name ∈ writtenNames)
    (hvalue : CleanHeader header.value) :
    Utf8.decode (headerText header.field) = lineText header := by
  have hascii := Utf8.ascii_of_all (writtenName_facts _ hname).1
  have hline : headerText header.field = Utf8.encode header.name ++ ch ':' ::
      ([] ++ ch ' ' :: Utf8.encode header.value) := rfl
  rw [hline, Utf8.decode_append_ascii (by decide), Utf8.decode_append_ascii (by decide),
    Utf8.decode_encode (Utf8.wellFormed_ascii hascii), Utf8.decode_encode hvalue.wellFormed]
  rfl

theorem trim_cons_space (value : Text) : trim (unit ' ' :: value) = trim value := by
  have hspace : isSpace (unit ' ') = true := by decide
  rw [trim, trim, trimBy, trimBy, List.dropWhile_cons_of_pos hspace]

/-- **A written line is read back.** -/
theorem parseHeaderLine_lineText {rt : Runtime} (hrt : LowersAscii rt) {header : TextHeader}
    (hname : header.name ∈ writtenNames) (hvalue : CleanHeader header.value)
    {state : HeaderState} (hseen : lowerName header.name ∉ state.seenReservedHeaders)
    (hcount : state.lineCount < 64) :
    parseHeaderLine rt {} state (lineText header) = .ok {
      headers := Function.update state.headers (lowerName header.name) (some header.value)
      seenReservedHeaders := lowerName header.name :: state.seenReservedHeaders
      lineCount := state.lineCount + 1 } := by
  obtain ⟨hascii, htrim, hcolon, hpos, -, hlen, hclean, hreserved⟩ := writtenName_facts _ hname
  obtain ⟨k, hk⟩ : ∃ k, header.name.length = k + 1 := ⟨header.name.length - 1, by omega⟩
  have hfind : find [unit ':'] (lineText header) = some (k + 1) := by
    have hself : find [unit ':'] (unit ':' :: (unit ' ' :: header.value)) = some 0 :=
      find_self_append
    rw [lineText, find_append_of_head_notMem hcolon, hself, ← hk]
    simp
  have htake : (lineText header).take (k + 1) = header.name := by
    rw [lineText, ← hk, List.take_left]
  have hdrop : (lineText header).drop (k + 1 + 1) = unit ' ' :: header.value := by
    rw [lineText, ← hk, ← List.drop_drop, List.drop_left]
    rfl
  have hlower : rt.toLowerCase header.name = lowerName header.name :=
    hrt _ (Utf8.ascii_of_all hascii)
  have hsize := hvalue.size
  have hnameLimit : ({} : ParseLimits).maxHeaderNameLength = 256 := rfl
  have hvalueLimit : ({} : ParseLimits).maxHeaderValueLength = 4096 := rfl
  unfold parseHeaderLine
  simp only [hfind, htake, hdrop, htrim, trim_cons_space, hvalue.trimmed, hlower]
  rw [if_neg (by omega)]
  unfold addHeader
  rw [if_neg (by omega), if_neg (by omega), hclean, hvalue.clean]
  simp [hreserved, hseen]

/-- The `Map` of a list of headers. -/
def headersOf (headers : List TextHeader) : Headers :=
  headers.foldl (fun headers header =>
    Function.update headers (lowerName header.name) (some header.value)) fun _ => none

theorem foldlM_lineText {rt : Runtime} (hrt : LowersAscii rt) :
    ∀ {headers : List TextHeader} {state : HeaderState},
      (∀ header ∈ headers, header.name ∈ writtenNames) →
      (∀ header ∈ headers, CleanHeader header.value) →
      (headers.map fun header => lowerName header.name).Nodup →
      (∀ header ∈ headers, lowerName header.name ∉ state.seenReservedHeaders) →
      state.lineCount + headers.length ≤ 64 →
      ∃ state', (headers.map lineText).foldlM (parseHeaderLine rt {}) state = .ok state' ∧
        state'.headers = headers.foldl (fun headers header =>
          Function.update headers (lowerName header.name) (some header.value)) state.headers := by
  intro headers
  induction headers with
  | nil =>
      intro state _ _ _ _ _
      exact ⟨state, rfl, rfl⟩
  | cons header rest ih =>
      intro state hnames hvalues hnodup hseen hcount
      rw [List.map_cons, List.nodup_cons] at hnodup
      rw [List.length_cons] at hcount
      have hline := parseHeaderLine_lineText hrt (hnames header (by simp))
        (hvalues header (by simp)) (hseen header (by simp)) (by omega)
      have hseen' : ∀ next ∈ rest, lowerName next.name ∉
          lowerName header.name :: state.seenReservedHeaders := by
        intro next hnext
        rw [List.mem_cons, not_or]
        refine ⟨fun heq => hnodup.1 ?_, hseen next (by simp [hnext])⟩
        rw [← heq]
        exact List.mem_map_of_mem hnext
      have hcount' : state.lineCount + 1 + rest.length ≤ 64 := by omega
      obtain ⟨state', hfold, hheaders⟩ := @ih
        ⟨Function.update state.headers (lowerName header.name) (some header.value),
          lowerName header.name :: state.seenReservedHeaders, state.lineCount + 1⟩
        (fun h hh => hnames h (by simp [hh])) (fun h hh => hvalues h (by simp [hh])) hnodup.2
        hseen' hcount'
      refine ⟨state', ?_, hheaders⟩
      rw [List.map_cons, List.foldlM_cons, hline]
      exact hfold

/-! ### The header block -/

/-- Header lines as they are written. -/
structure Written (headers : List TextHeader) : Prop where
  ne_nil : headers ≠ []
  names : ∀ header ∈ headers, header.name ∈ writtenNames
  values : ∀ header ∈ headers, CleanHeader header.value
  distinct : (headers.map fun header => lowerName header.name).Nodup
  count : headers.length ≤ 64
  block : (crlf.intercalate ((headers.map TextHeader.field).map headerText)).length ≤ 8192

/-- A text that starts with a written name does not start with a byte order mark. -/
theorem dropBom_name {name : Text} (hname : name ∈ writtenNames) (rest : Text) :
    dropBom (name ++ rest) = name ++ rest := by
  obtain ⟨hascii, -, -, hpos, -⟩ := writtenName_facts _ hname
  obtain ⟨u, name, rfl⟩ := List.exists_cons_of_length_pos hpos
  have hu : u ≠ 0xFEFF := by
    rintro rfl
    exact absurd (Utf8.ascii_of_all hascii 0xFEFF (by simp)) (by decide)
  simp [dropBom, hu]

theorem dropBom_block {headers : List TextHeader} (hne : headers ≠ [])
    (hnames : ∀ header ∈ headers, header.name ∈ writtenNames) :
    dropBom (Utf8.decode (crlf.intercalate ((headers.map TextHeader.field).map headerText))) =
      Utf8.decode (crlf.intercalate ((headers.map TextHeader.field).map headerText)) := by
  obtain ⟨header, rest, rfl⟩ := List.exists_cons_of_ne_nil hne
  have hname := hnames header (by simp)
  obtain ⟨tail, htail⟩ : ∃ tail, crlf.intercalate
      (((header :: rest).map TextHeader.field).map headerText) =
        Utf8.encode header.name ++ ch ':' :: tail := by
    cases rest with
    | nil => exact ⟨ch ' ' :: Utf8.encode header.value, by
        simp [headerText, TextHeader.field, ascii, ch]⟩
    | cons next rest =>
        exact ⟨ch ' ' :: Utf8.encode header.value ++ (crlf ++ crlf.intercalate
          (((next :: rest).map TextHeader.field).map headerText)), by
          simp [headerText, TextHeader.field, ascii, ch, List.intercalate]⟩
  rw [htail, Utf8.decode_append_ascii (by decide),
    Utf8.decode_encode (Utf8.wellFormed_ascii (Utf8.ascii_of_all (writtenName_facts _ hname).1))]
  exact dropBom_name hname _

/-- **Written lines are read back** as the `Map` from their names to their values. -/
theorem extractHeaders_written {rt : Runtime} (hrt : LowersAscii rt) {headers : List TextHeader}
    (h : Written headers) (body : Bytes) :
    ∃ bodyOffset, extractHeaders rt (encode (headers.map TextHeader.field) body) {} =
        .ok (headersOf headers, bodyOffset) ∧
      (encode (headers.map TextHeader.field) body).drop bodyOffset = body := by
  have hne : headers.map TextHeader.field ≠ [] := by simpa using h.ne_nil
  have hvalid : ValidHeaders (headers.map TextHeader.field) := by
    intro field hfield
    obtain ⟨header, hheader, rfl⟩ := List.mem_map.mp hfield
    exact ⟨(writtenName_facts _ (h.names header hheader)).2.2.2.2.1,
      validHeaderValue_encode (h.values header hheader).clean⟩
  have hblock := encode_eq_block hne body
  have hfirst := find_eq_some_iff.mp (find_terminator_encode hne hvalid body)
  have htexts : ((headers.map TextHeader.field).map headerText).map Utf8.decode =
      headers.map lineText := by
    rw [List.map_map, List.map_map]
    exact List.map_congr_left fun header hheader =>
      decode_headerText (h.names header hheader) (h.values header hheader)
  have hlines : linesOf (textDecode (crlf.intercalate
      ((headers.map TextHeader.field).map headerText))) = headers.map lineText := by
    rw [textDecode_eq, dropBom_block h.ne_nil h.names, linesOf_decode,
      headerLines_encode hne hvalid, htexts]
  have hcount : ({} : HeaderState).lineCount + headers.length ≤ 64 := by
    have hcount := h.count
    simpa using hcount
  obtain ⟨state, hfold, hheaders⟩ := foldlM_lineText hrt h.names h.values h.distinct
    (fun _ _ => List.not_mem_nil) hcount
  refine ⟨_, extractHeaders_ok_iff.mpr ⟨_, ⟨hfirst, ?_⟩, state, ?_, hheaders, rfl⟩, ?_⟩
  · have := h.block
    show ((crlf.intercalate ((headers.map TextHeader.field).map headerText)).length : ℤ) ≤ 8192
    omega
  · rw [hblock, List.take_left, hlines]
    exact hfold
  · rw [hblock, ← List.drop_drop, List.drop_left]
    rfl

/-! ### Numbers -/

theorem trim_of_notSpace {s : Text} (h : ∀ u ∈ s, isSpace u = false) : trim s = s := by
  have hdrop : s.dropWhile isSpace = s := by
    cases s with
    | nil => rfl
    | cons u s => rw [List.dropWhile_cons_of_neg (by simp [h u (by simp)])]
  rw [trim, trimBy, hdrop, List.rdropWhile_eq_self_iff]
  intro hne
  simp [h _ (List.getLast_mem hne)]

theorem notSpace_of_isDigit {u : UInt16} (h : Numeral.isDigit u = true) :
    isSpace u = false ∧ isForbiddenUnit u = false ∧ u.toNat < 0x80 ∧ u ≠ unit '+' ∧
      u ≠ unit '-' := by
  obtain ⟨hlt, hu⟩ := Numeral.digitValue_of_isDigit h
  revert hu
  generalize Numeral.digitValue u = d at hlt
  rintro rfl
  interval_cases d <;> decide

theorem stringOf_natCast (n : ℕ) : stringOf n = Numeral.decimal n := by
  rw [stringOf, Numeral.decimalInt, if_neg (by omega), Int.natAbs_natCast]

theorem cleanHeader_stringOf {n : ℕ} (h : n < 2 ^ 53) : CleanHeader (stringOf n) := by
  have hunit : ∀ u ∈ stringOf n, isSpace u = false ∧ isForbiddenUnit u = false ∧ u.toNat < 0x80 ∧
      u ≠ unit '+' ∧ u ≠ unit '-' := by
    intro u hu
    rw [stringOf_natCast] at hu
    exact notSpace_of_isDigit (Numeral.isDigit_of_mem_decimal hu)
  have hlen := Numeral.length_decimal_le (k := 16) (by decide) (show n < 10 ^ 16 by omega)
  refine ⟨Utf8.wellFormed_ascii fun u hu => (hunit u hu).2.2.1,
    trim_of_notSpace fun u hu => (hunit u hu).1, ?_, ?_⟩
  · rw [hasForbidden, List.any_eq_false]
    intro u hu
    simp [(hunit u hu).2.1]
  · rw [stringOf_natCast]
    omega

theorem parseInt_stringOf (n : ℕ) : parseInt (stringOf n) = some (n : ℤ) := by
  have hall : (Numeral.decimal n).takeWhile isDigit = Numeral.decimal n :=
    List.takeWhile_eq_self_iff.mpr fun c hc => Numeral.isDigit_of_mem_decimal hc
  have hne : (Numeral.decimal n).isEmpty = false := by simpa using Numeral.decimal_ne_nil n
  have hvalue : Decimal.value ((Numeral.decimal n).map fun d => (d - unit '0').toNat) = n :=
    Numeral.natValue_decimal n
  obtain ⟨c, rest, hc⟩ := List.exists_cons_of_ne_nil (Numeral.decimal_ne_nil n)
  obtain ⟨hspace, -, -, hplus, hminus⟩ := notSpace_of_isDigit (u := c)
    (Numeral.isDigit_of_mem_decimal (by rw [hc]; simp))
  unfold parseInt
  rw [stringOf_natCast, hc, List.dropWhile_cons_of_neg (by simp [hspace])]
  simp only [hplus, hminus, or_self, if_false]
  rw [← hc, hall, hne, hvalue]
  rfl

/-- A safe integer is read without rounding. -/
theorem parseNumber_of_parseInt {headers : Headers} {name value : Text} {n : ℕ}
    (h : headers name = some value) (hparse : parseInt value = some (n : ℤ)) (hsafe : n < 2 ^ 53) :
    parseNumber headers name = .ok (some (n : ℤ)) := by
  have hfinite : ¬ Binary64.overflow ≤ ((n : ℤ)).natAbs := by
    have hover := Binary64.le_overflow
    rw [Int.natAbs_natCast]
    omega
  unfold parseNumber
  rw [h]
  simp only [hparse, if_neg hfinite, Binary64.roundInt_of_lt hsafe]

/-- A safe integer is read back as it was written. -/
theorem parseNumber_stringOf {headers : Headers} {name : Text} {n : ℤ}
    (h : headers name = some (stringOf n)) (hnonneg : 0 ≤ n) (hsafe : n < 2 ^ 53) :
    parseNumber headers name = .ok (some n) := by
  obtain ⟨n, rfl⟩ := Int.eq_ofNat_of_zero_le hnonneg
  exact parseNumber_of_parseInt h (parseInt_stringOf n) (by omega)

/-! ### Frames -/

variable {J : Type}

namespace Frame

/-- The strings among the headers. -/
def texts : Frame J → List Text
  | media headers _ => [headers.streamId, headers.contentType]
  | init headers _ => headers.authorization :: headers.sessionId.toList
  | initAck headers _ => [headers.sessionId]
  | initError code reason _ => [code, reason]
  | ping _ => []
  | pong _ => []
  | authRefresh _ => []
  | authResponse authorization _ => [authorization]
  | close code reason _ => [code, reason]
  | application message =>
      message.event :: (message.headers.contentType.toList ++ message.headers.streamId.toList)

/-- The numbers among the headers. -/
def numbers : Frame J → List ℤ
  | media headers _ => headers.offset :: headers.timestamp.toList
  | init headers _ => headers.bufferWindow.toList
  | initAck headers _ => headers.bufferWindow.toList
  | _ => []

/-- The body of a control frame. -/
def jsonBody : Frame J → Option J
  | media _ _ => none
  | init _ body | initAck _ body | initError _ _ body | ping body | pong body
  | authRefresh body | authResponse _ body | close _ _ body => some body
  | application message => some message.body

/-- The event is also the event among the headers. -/
def EventAgrees : Frame J → Prop
  | application message => message.headers.event = message.event
  | _ => True

end Frame

/-- What is known of `JSON` and of a body that is an object. -/
structure JsonRoundTrip (platform : Platform J) (body : J) : Prop where
  parse_stringify : platform.jsonParse (platform.jsonStringify body) = some body
  isObject : platform.isJsonObject body = true
  wellFormed : Utf8.WellFormed (platform.jsonStringify body)
  brace : (platform.jsonStringify body).head? = some 0x7B

/-- The frames of the round trip. -/
structure RoundTrips (platform : Platform J) (frame : Frame J) : Prop where
  texts : ∀ value ∈ frame.texts, CleanHeader value
  numbers : ∀ n ∈ frame.numbers, 0 ≤ n ∧ n < 2 ^ 53
  event : frame.EventAgrees
  block : (crlf.intercalate
    (((frameToHeaders frame).map TextHeader.field).map headerText)).length ≤ 8192
  json : ∀ body ∈ frame.jsonBody, JsonRoundTrip platform body

theorem cleanHeader_event (event : KnownProtocolEvent) : CleanHeader event.text := by
  cases event <;> exact ⟨by decide, by decide, rfl, by decide⟩

theorem cleanHeader_json : CleanHeader (utf16 "application/json") :=
  ⟨by decide, by decide, rfl, by decide⟩

theorem mem_optionalHeader {header : TextHeader} {name : Text} {value : Option Text} :
    header ∈ optionalHeader name value ↔ ∃ v, value = some v ∧ header = ⟨name, v⟩ := by
  cases value <;> simp [optionalHeader]

/-- The names of a frame's lines. -/
theorem frameToHeaders_names (frame : Frame J) :
    (∀ name ∈ (frameToHeaders frame).map TextHeader.name, name ∈ writtenNames) ∧
      (((frameToHeaders frame).map TextHeader.name).map lowerName).Nodup ∧
      ((frameToHeaders frame).map TextHeader.name).length ≤ 64 := by
  cases frame with
  | media headers body =>
      obtain ⟨streamId, offset, contentType, timestamp⟩ := headers
      cases timestamp <;> exact of_decide_eq_true rfl
  | init headers body =>
      obtain ⟨authorization, bufferWindow, sessionId⟩ := headers
      cases bufferWindow <;> cases sessionId <;> exact of_decide_eq_true rfl
  | initAck headers body =>
      obtain ⟨sessionId, bufferWindow⟩ := headers
      cases bufferWindow <;> exact of_decide_eq_true rfl
  | application message =>
      obtain ⟨event, ⟨headerEvent, contentType, streamId⟩, body, unknown⟩ := message
      cases contentType <;> cases streamId <;> exact of_decide_eq_true rfl
  | _ => exact of_decide_eq_true rfl

/-- The values of a frame's lines. -/
theorem frameToHeaders_values {frame : Frame J} {header : TextHeader}
    (h : header ∈ frameToHeaders frame) :
    header.value ∈ frame.texts ∨ (∃ n ∈ frame.numbers, header.value = stringOf n) ∨
      header.value = utf16 "application/json" ∨
        ∃ event : KnownProtocolEvent, header.value = event.text := by
  cases frame with
  | media headers body =>
      simp only [frameToHeaders, List.mem_append, List.mem_cons, List.not_mem_nil, or_false,
        mem_optionalHeader, Option.map_eq_some_iff] at h
      obtain (rfl | rfl | rfl) | ⟨_, ⟨n, hn, rfl⟩, rfl⟩ := h
      · exact .inl (by simp [Frame.texts])
      · exact .inr (.inl ⟨headers.offset, by simp [Frame.numbers], rfl⟩)
      · exact .inl (by simp [Frame.texts])
      · exact .inr (.inl ⟨n, by simp [Frame.numbers, hn], rfl⟩)
  | init headers body =>
      simp only [frameToHeaders, List.mem_append, List.mem_cons, List.not_mem_nil, or_false,
        mem_optionalHeader, Option.map_eq_some_iff] at h
      obtain ((rfl | rfl | rfl) | ⟨sessionId, hs, rfl⟩) | ⟨_, ⟨n, hn, rfl⟩, rfl⟩ := h
      · exact .inr (.inr (.inr ⟨.init, rfl⟩))
      · exact .inl (by simp [Frame.texts])
      · exact .inr (.inr (.inl rfl))
      · exact .inl (by simp [Frame.texts, hs])
      · exact .inr (.inl ⟨n, by simp [Frame.numbers, hn], rfl⟩)
  | initAck headers body =>
      simp only [frameToHeaders, List.mem_append, List.mem_cons, List.not_mem_nil, or_false,
        mem_optionalHeader, Option.map_eq_some_iff] at h
      obtain (rfl | rfl | rfl) | ⟨_, ⟨n, hn, rfl⟩, rfl⟩ := h
      · exact .inr (.inr (.inr ⟨.initAck, rfl⟩))
      · exact .inl (by simp [Frame.texts])
      · exact .inr (.inr (.inl rfl))
      · exact .inr (.inl ⟨n, by simp [Frame.numbers, hn], rfl⟩)
  | application message =>
      simp only [frameToHeaders, List.mem_append, List.mem_cons, List.not_mem_nil, or_false,
        mem_optionalHeader] at h
      obtain (rfl | ⟨streamId, hs, rfl⟩) | ⟨contentType, hc, rfl⟩ := h
      · exact .inl (by simp [Frame.texts])
      · exact .inl (by simp [Frame.texts, hs])
      · exact .inl (by simp [Frame.texts, hc])
  | ping body =>
      simp only [frameToHeaders, List.mem_cons, List.not_mem_nil, or_false] at h
      obtain rfl | rfl := h
      · exact .inr (.inr (.inr ⟨.ping, rfl⟩))
      · exact .inr (.inr (.inl rfl))
  | pong body =>
      simp only [frameToHeaders, List.mem_cons, List.not_mem_nil, or_false] at h
      obtain rfl | rfl := h
      · exact .inr (.inr (.inr ⟨.pong, rfl⟩))
      · exact .inr (.inr (.inl rfl))
  | authRefresh body =>
      simp only [frameToHeaders, List.mem_cons, List.not_mem_nil, or_false] at h
      obtain rfl | rfl := h
      · exact .inr (.inr (.inr ⟨.authRefresh, rfl⟩))
      · exact .inr (.inr (.inl rfl))
  | authResponse authorization body =>
      simp only [frameToHeaders, List.mem_cons, List.not_mem_nil, or_false] at h
      obtain rfl | rfl | rfl := h
      · exact .inr (.inr (.inr ⟨.authResponse, rfl⟩))
      · exact .inl (by simp [Frame.texts])
      · exact .inr (.inr (.inl rfl))
  | initError code reason body =>
      simp only [frameToHeaders, List.mem_cons, List.not_mem_nil, or_false] at h
      obtain rfl | rfl | rfl := h
      · exact .inr (.inr (.inr ⟨.initError, rfl⟩))
      · exact .inl (by simp [Frame.texts])
      · exact .inl (by simp [Frame.texts])
  | close code reason body =>
      simp only [frameToHeaders, List.mem_cons, List.not_mem_nil, or_false] at h
      obtain rfl | rfl | rfl := h
      · exact .inr (.inr (.inr ⟨.close, rfl⟩))
      · exact .inl (by simp [Frame.texts])
      · exact .inl (by simp [Frame.texts])

/-- **The lines of a frame** are clean, with names that are written and differ. -/
theorem written_frameToHeaders {platform : Platform J} {frame : Frame J}
    (h : RoundTrips platform frame) : Written (frameToHeaders frame) := by
  obtain ⟨hnames, hdistinct, hcount⟩ := frameToHeaders_names frame
  refine ⟨?_, fun header hheader => hnames _ (List.mem_map_of_mem hheader), ?_, ?_, ?_, h.block⟩
  · cases frame <;> simp [frameToHeaders]
  · intro header hheader
    obtain htext | ⟨n, hn, hvalue⟩ | hjson | ⟨event, hevent⟩ := frameToHeaders_values hheader
    · exact h.texts _ htext
    · obtain ⟨hnonneg, hsafe⟩ := h.numbers n hn
      obtain ⟨n, rfl⟩ := Int.eq_ofNat_of_zero_le hnonneg
      rw [hvalue]
      exact cleanHeader_stringOf (by omega)
    · rw [hjson]
      exact cleanHeader_json
    · rw [hevent]
      exact cleanHeader_event event
  · rw [List.map_map] at hdistinct
    exact hdistinct
  · rw [List.length_map] at hcount
    exact hcount

/-! ### Parsing -/

theorem parseMediaFrame_headersOf {platform : Platform J} {headers : MediaHeaders} {body : Bytes}
    (h : RoundTrips platform (.media headers body)) :
    parseMediaFrame (headersOf (frameToHeaders (.media headers body : Frame J))) body =
      .ok (.media headers body : Frame J) := by
  obtain ⟨streamId, offset, contentType, timestamp⟩ := headers
  obtain ⟨hnonneg, hsafe⟩ := h.numbers offset (by simp [Frame.numbers])
  have hoffset : parseNumber (headersOf (frameToHeaders
      (.media ⟨streamId, offset, contentType, timestamp⟩ body : Frame J))) (utf16 "offset") =
      .ok (some offset) := parseNumber_stringOf (by cases timestamp <;> rfl) hnonneg hsafe
  unfold parseMediaFrame
  cases timestamp with
  | none =>
      show (parseNumber _ (utf16 "offset") >>= _) = _
      rw [hoffset]
      rfl
  | some n =>
      obtain ⟨hnonneg, hsafe⟩ := h.numbers n (by simp [Frame.numbers])
      have htimestamp : parseNumber (headersOf (frameToHeaders
          (.media ⟨streamId, offset, contentType, some n⟩ body : Frame J))) (utf16 "timestamp") =
          .ok (some n) := parseNumber_stringOf rfl hnonneg hsafe
      show (parseNumber _ (utf16 "offset") >>= _) = _
      rw [hoffset]
      show (parseNumber _ (utf16 "timestamp") >>= fun timestamp =>
        pure (Frame.media ⟨streamId, offset, contentType, timestamp⟩ body)) = _
      rw [htimestamp]
      rfl

/-- The buffer window of a frame that has at most one. -/
theorem parseNumber_bufferWindow {platform : Platform J} {frame : Frame J}
    (h : RoundTrips platform frame) {bufferWindow : Option ℤ}
    (hnumbers : frame.numbers = bufferWindow.toList) {headers : Headers}
    (hheaders : headers (utf16 "buffer-window") = bufferWindow.map stringOf) :
    parseNumber headers (utf16 "buffer-window") = .ok bufferWindow := by
  cases bufferWindow with
  | none =>
      rw [parseNumber, hheaders]
      rfl
  | some n =>
      obtain ⟨hnonneg, hsafe⟩ := h.numbers n (by simp [hnumbers])
      exact parseNumber_stringOf hheaders hnonneg hsafe

theorem parseControlFrame_headersOf {platform : Platform J} {frame : Frame J} {body : J}
    (h : RoundTrips platform frame) (hbody : body ∈ frame.jsonBody) :
    parseControlFrame (headersOf (frameToHeaders frame)) body = .ok frame := by
  cases frame with
  | media headers body => cases hbody
  | init headers body =>
      cases hbody
      obtain ⟨authorization, bufferWindow, sessionId⟩ := headers
      have hwindow := parseNumber_bufferWindow h rfl
        (show headersOf (frameToHeaders (.init ⟨authorization, bufferWindow, sessionId⟩ body))
            (utf16 "buffer-window") = bufferWindow.map stringOf by
          cases bufferWindow <;> cases sessionId <;> rfl)
      have hparse : parseControlFrame (headersOf (frameToHeaders
          (.init ⟨authorization, bufferWindow, sessionId⟩ body))) body =
          (parseNumber (headersOf (frameToHeaders
            (.init ⟨authorization, bufferWindow, sessionId⟩ body))) (utf16 "buffer-window") >>=
            fun bufferWindow => pure (.init { authorization, bufferWindow, sessionId } body)) := by
        cases bufferWindow <;> cases sessionId <;> rfl
      rw [hparse, hwindow]
      rfl
  | initAck headers body =>
      cases hbody
      obtain ⟨sessionId, bufferWindow⟩ := headers
      have hwindow := parseNumber_bufferWindow h rfl
        (show headersOf (frameToHeaders (.initAck ⟨sessionId, bufferWindow⟩ body))
            (utf16 "buffer-window") = bufferWindow.map stringOf by
          cases bufferWindow <;> rfl)
      have hparse : parseControlFrame (headersOf (frameToHeaders
          (.initAck ⟨sessionId, bufferWindow⟩ body))) body =
          (parseNumber (headersOf (frameToHeaders
            (.initAck ⟨sessionId, bufferWindow⟩ body))) (utf16 "buffer-window") >>=
            fun bufferWindow => pure (.initAck { sessionId, bufferWindow } body)) := by
        cases bufferWindow <;> rfl
      rw [hparse, hwindow]
      rfl
  | initError code reason body =>
      cases hbody
      rfl
  | ping body =>
      cases hbody
      rfl
  | pong body =>
      cases hbody
      rfl
  | authRefresh body =>
      cases hbody
      rfl
  | authResponse authorization body =>
      cases hbody
      rfl
  | close code reason body =>
      cases hbody
      rfl
  | application message =>
      cases hbody
      have hevent := h.event
      obtain ⟨event, ⟨headerEvent, contentType, streamId⟩, body, unknown⟩ := message
      obtain rfl : headerEvent = event := hevent
      have hname : headersOf (frameToHeaders (.application
          ⟨headerEvent, ⟨headerEvent, contentType, streamId⟩, body, unknown⟩ : Frame J))
          (utf16 "event") = some headerEvent := by
        cases contentType <;> cases streamId <;> rfl
      have hcontent : headersOf (frameToHeaders (.application
          ⟨headerEvent, ⟨headerEvent, contentType, streamId⟩, body, unknown⟩ : Frame J))
          (utf16 "content-type") = contentType := by
        cases contentType <;> cases streamId <;> rfl
      have hstream : headersOf (frameToHeaders (.application
          ⟨headerEvent, ⟨headerEvent, contentType, streamId⟩, body, unknown⟩ : Frame J))
          (utf16 "stream-id") = streamId := by
        cases contentType <;> cases streamId <;> rfl
      unfold parseControlFrame
      rw [hname]
      dsimp only
      split
      all_goals rename_i hknown
      case h_9 => rw [hcontent, hstream]
      all_goals
        rw [unknown] at hknown
        cases hknown

/-- The body of a control frame is read back. -/
theorem parseJsonObject_stringify {platform : Platform J} {body : J}
    (h : JsonRoundTrip platform body) :
    parseJsonObject platform (Utf8.encode (platform.jsonStringify body)) = .ok body := by
  obtain ⟨rest, hrest⟩ : ∃ rest, platform.jsonStringify body = 0x7B :: rest := by
    have hbrace := h.brace
    cases hs : platform.jsonStringify body with
    | nil =>
        rw [hs] at hbrace
        cases hbrace
    | cons u rest =>
        rw [hs, List.head?_cons, Option.some.injEq] at hbrace
        exact ⟨rest, by rw [hbrace]⟩
  have hne : (Utf8.encode (platform.jsonStringify body)).isEmpty = false := by
    have hcons : Utf8.encode ([] ++ 0x7B :: rest) = Utf8.encode [] ++ 0x7B :: Utf8.encode rest :=
      Utf8.encode_append_ascii (by decide) [] rest
    rw [List.nil_append] at hcons
    rw [hrest, hcons]
    rfl
  have htext : textDecode (Utf8.encode (platform.jsonStringify body)) =
      platform.jsonStringify body := by
    rw [textDecode_eq, Utf8.decode_encode h.wellFormed, hrest]
    rfl
  unfold parseJsonObject
  simp only [hne, htext, h.parse_stringify, h.isObject, Bool.false_eq_true, if_false, if_true]

/-- The bytes behind the header block. -/
def Frame.bodyBytes (platform : Platform J) : Frame J → Bytes
  | .media _ body => body
  | .init _ body | .initAck _ body | .initError _ _ body | .ping body | .pong body
  | .authRefresh body | .authResponse _ body | .close _ _ body =>
      Utf8.encode (platform.jsonStringify body)
  | .application message => Utf8.encode (platform.jsonStringify message.body)

theorem toUint8Array_serializeFrame (platform : Platform J) (frame : Frame J) :
    (serializeFrame platform frame).toUint8Array =
      encode ((frameToHeaders frame).map TextHeader.field) (frame.bodyBytes platform) := by
  have htext : ∀ body : J, (serializeTextFrame platform frame body).toUint8Array =
      encode ((frameToHeaders frame).map TextHeader.field)
        (Utf8.encode (platform.jsonStringify body)) := by
    intro body
    rw [serializeTextFrame, FrameData.toUint8Array, List.append_assoc, encode_lines,
      encode_crlf_append, encode]
  cases frame with
  | media headers body =>
      have hcrlf := encode_crlf_append []
      rw [List.append_nil] at hcrlf
      simp only [serializeFrame, FrameData.toUint8Array, serializeRawFrame, encode_lines, hcrlf,
        encode, List.append_assoc]
      rfl
  | _ => exact htext _

theorem parseBody_headersOf {platform : Platform J} {frame : Frame J}
    (h : RoundTrips platform frame) :
    parseBody platform (headersOf (frameToHeaders frame)) (frame.bodyBytes platform)
      (serializeFrame platform frame).frameType = .ok frame := by
  have hcontrol : ∀ body ∈ frame.jsonBody,
      parseBody platform (headersOf (frameToHeaders frame))
        (Utf8.encode (platform.jsonStringify body)) .text = .ok frame := by
    intro body hbody
    show (parseJsonObject platform _ >>= fun body => parseControlFrame _ body) = _
    rw [parseJsonObject_stringify (h.json body hbody)]
    exact parseControlFrame_headersOf h hbody
  cases frame with
  | media headers body => exact parseMediaFrame_headersOf h
  | _ => exact hcontrol _ rfl

/-- **Codec round trip.** -/
theorem parseFrame_serializeFrame (platform : Platform J)
    (hrt : LowersAscii platform.toRuntime) (frame : Frame J) (h : RoundTrips platform frame) :
    parseFrame platform (serializeFrame platform frame)
      (serializeFrame platform frame).frameType {} = .ok frame := by
  obtain ⟨bodyOffset, hextract, hbody⟩ := extractHeaders_written hrt (written_frameToHeaders h)
    (frame.bodyBytes platform)
  unfold parseFrame
  simp only [toUint8Array_serializeFrame, hextract]
  show parseBody platform (headersOf (frameToHeaders frame)) _ _ = _
  rw [hbody]
  exact parseBody_headersOf h

/-- A runtime on ASCII strings, with one JSON value, the empty object. -/
def emptyObjects : Platform Unit where
  toLowerCase := fun s => s.map lowerAscii
  jsonStringify := fun _ => utf16 "\x7b\x7d"
  jsonParse := fun text => if text = utf16 "\x7b\x7d" then some () else none
  isJsonObject := fun _ => true

def transcript : Frame Unit := .application {
  event := utf16 "x-app.transcript"
  headers := { event := utf16 "x-app.transcript", streamId := some (utf16 "s événements") }
  body := ()
  unknown := by decide }

theorem parseFrame_serializeFrame_transcript :
    parseFrame emptyObjects (serializeFrame emptyObjects transcript) .text {} = .ok transcript := by
  refine parseFrame_serializeFrame emptyObjects (fun s _ => rfl) transcript
    ⟨?_, ?_, rfl, by decide, ?_⟩
  · intro value hvalue
    have htexts : value = utf16 "x-app.transcript" ∨ value = utf16 "s événements" := by
      simpa [Frame.texts, transcript] using hvalue
    obtain rfl | rfl := htexts <;>
      exact ⟨by decide, by decide, rfl, by decide⟩
  · intro n hn
    cases hn
  · intro body _
    cases body
    exact ⟨by decide, rfl, by decide, by decide⟩

end CulpeoStream.Typescript
