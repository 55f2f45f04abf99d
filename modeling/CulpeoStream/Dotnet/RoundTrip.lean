import CulpeoStream.Dotnet.Parser
import CulpeoStream.Lib.Checks
import CulpeoStream.Message.TextHeaders

/-!
# What `SerializeAsync` writes, `ParseAsync` reads back

The serializer writes one line for each header of the message, in the order of the ten
members of `ReservedHeader` (`serializeAsync_eq`).  The parser is a fold over the header
lines (`parseLines_eq_foldlM`); the line of a header copies that header into the message
(`parseLine_headerText`).  `parseAsync_serializeAsync` is the round trip.
-/

namespace CulpeoStream.Dotnet

open Message Search Utf16

/-! ### The headers of a message -/

/-- The text of a header. -/
def CulpeoMessage.headerValue (m : CulpeoMessage) : Reserved → Option Text
  | .event => m.event
  | .contentType => m.contentType
  | .authorization => m.authorization
  | .sessionId => m.sessionId
  | .streamId => m.streamId
  | .offset => m.offset.map fun n => Numeral.decimalInt n.toInt
  | .timestamp => m.timestamp.map fun n => Numeral.decimalInt n.toInt
  | .bufferWindow => m.bufferWindow.map fun n => Numeral.decimalInt n.toInt
  | .reason => m.reason
  | .code => m.code

/-- The name under which a header is written. -/
def headerName : Reserved → Text
  | .event => utf16 "Event"
  | .contentType => utf16 "Content-Type"
  | .authorization => utf16 "Authorization"
  | .sessionId => utf16 "Session-Id"
  | .streamId => utf16 "Stream-Id"
  | .offset => utf16 "Offset"
  | .timestamp => utf16 "Timestamp"
  | .bufferWindow => utf16 "Buffer-Window"
  | .reason => utf16 "Reason"
  | .code => utf16 "Code"

/-- The lines that one header contributes. -/
def headerLine (m : CulpeoMessage) (r : Reserved) : List TextHeader :=
  ((m.headerValue r).filter (!·.isEmpty)).toList.map (⟨headerName r, ·⟩)

/-- The lines of a message. -/
def CulpeoMessage.headers (m : CulpeoMessage) : List TextHeader :=
  kReservedHeaderNames.flatMap (headerLine m)

/-- The body that is written. -/
def CulpeoMessage.writtenBody (m : CulpeoMessage) : Bytes :=
  if m.kind = .control ∧ m.body = [] then ascii "\x7b\x7d" else m.body

/-! ### The serializer -/

theorem appendHeader_eq (builder name : Text) (value : Option Text) :
    appendHeader builder name value =
      builder ++ (((value.filter (!·.isEmpty)).toList.map (TextHeader.mk name ·)).flatMap
        TextHeader.line) := by
  cases value with
  | none => simp [appendHeader]
  | some v => cases v <;> simp [appendHeader, TextHeader.line, Option.filter]

/-- The lines of the headers, appended one after the other. -/
theorem foldl_appendHeader (m : CulpeoMessage) (rs : List Reserved) (builder : Text) :
    rs.foldl (fun builder r => appendHeader builder (headerName r) (m.headerValue r)) builder =
      builder ++ (rs.flatMap (headerLine m)).flatMap TextHeader.line := by
  induction rs generalizing builder with
  | nil => simp
  | cons r rs ih =>
      rw [List.foldl_cons, ih, appendHeader_eq, List.flatMap_cons, List.flatMap_append,
        List.append_assoc]
      rfl

theorem serializeAsync_eq (m : CulpeoMessage) :
    serializeAsync m = encode (m.headers.map TextHeader.field) m.writtenBody := by
  have hbuilder : serializeAsync m = Utf8.encode (kReservedHeaderNames.foldl
      (fun builder r => appendHeader builder (headerName r) (m.headerValue r)) [] ++
        utf16 "\r\n") ++ m.writtenBody := by
    simp only [kReservedHeaderNames, List.foldl_cons, List.foldl_nil, headerName,
      CulpeoMessage.headerValue]
    unfold serializeAsync CulpeoMessage.writtenBody
    cases m.offset <;> cases m.timestamp <;> cases m.bufferWindow <;> simp [appendHeader]
  rw [hbuilder, foldl_appendHeader, List.nil_append, encode_lines, encode, List.append_assoc]
  rfl

/-! ### The line loop -/

/-- **The loop is a fold over the header lines**, as long as the block does not end with a
line separator. -/
theorem parseLines_eq_foldlM (limits : ParseLimits) (block : Bytes) :
    ∀ (fuel start : ℕ) (state : ParseState),
      block.length ≤ fuel + start → ¬ crlf <:+ block.drop start →
      parseLines limits block fuel start state =
        (headerLines (block.drop start)).foldlM (fun state line => parseLine limits line state)
          state := by
  intro fuel
  induction fuel with
  | zero =>
      intro start state hfuel _
      have hnil : block.drop start = [] := List.drop_eq_nil_of_le (by omega)
      rw [hnil, headerLines, if_pos rfl]
      rfl
  | succ fuel ih =>
      intro start state hfuel hend
      by_cases hstart : start < block.length
      · have hnext : start + ((find crlf (block.drop start)).getD (block.drop start).length + 2) =
            ((find crlf (block.drop start)).map (· + start)).getD block.length + 2 := by
          cases find crlf (block.drop start) <;> simp <;> omega
        have hline : (find crlf (block.drop start)).getD (block.drop start).length =
            ((find crlf (block.drop start)).map (· + start)).getD block.length - start := by
          cases find crlf (block.drop start) <;> simp
        obtain ⟨hle, -, hrest, hlines⟩ := headerLines_at_cursor hstart hend rfl
        rw [parseLines, if_pos hstart, hlines, List.foldlM_cons]
        dsimp only
        rw [hline]
        cases parseLine limits ((block.drop start).take
            (((find crlf (block.drop start)).map (· + start)).getD block.length - start)) state with
        | error e => rfl
        | ok state =>
            rw [← hline, hnext]
            exact ih _ _ (by omega) hrest
      · have hnil : block.drop start = [] := List.drop_eq_nil_of_le (by omega)
        rw [hnil, parseLines, if_neg hstart, headerLines, if_pos rfl]
        rfl

/-! ### `ParseAsync` -/

theorem find_searchSpan_iff {limits : ParseLimits} {frame : Bytes} {t : ℕ} :
    find crlfcrlf
        (if limits.maxHeaderBlockSize + 4 < frame.length then
          frame.take (limits.maxHeaderBlockSize + 4) else frame) = some t ∧
        t ≤ limits.maxHeaderBlockSize ↔
      IsFirst crlfcrlf frame t ∧ t ≤ limits.maxHeaderBlockSize := by
  have hlen : crlfcrlf.length = 4 := rfl
  split
  · rw [find_take_eq_some_iff (by simp [crlfcrlf]), hlen]
    constructor
    · rintro ⟨⟨hfirst, -⟩, hwithin⟩
      exact ⟨hfirst, hwithin⟩
    · rintro ⟨hfirst, hwithin⟩
      exact ⟨⟨hfirst, by omega⟩, hwithin⟩
  · rw [find_eq_some_iff]

/-- A frame whose terminator stands within the limit is read line by line. -/
theorem parseAsync_eq_foldlM {limits : ParseLimits} {frame : Bytes} (kind : CulpeoMessageKind)
    {t : ℕ} (hfirst : IsFirst crlfcrlf frame t ∧ t ≤ limits.maxHeaderBlockSize) :
    parseAsync limits frame kind =
      ((headerLines (frame.take t)).foldlM (fun state line => parseLine limits line state)
        { message := { kind, body := frame.drop (t + 4) } }).map ParseState.message := by
  obtain ⟨hfind, hwithin⟩ := find_searchSpan_iff.mpr hfirst
  unfold parseAsync
  simp only [hfind, if_neg (Nat.not_lt.mpr hwithin)]
  rw [parseLines_eq_foldlM limits _ _ _ _ (by omega)
    (by simpa using not_crlf_suffix_of_isFirst hfirst.1), List.drop_zero]

/-- Every other frame is refused. -/
theorem parseAsync_eq_error {limits : ParseLimits} {frame : Bytes} (kind : CulpeoMessageKind)
    (hnot : ¬ ∃ t, IsFirst crlfcrlf frame t ∧ t ≤ limits.maxHeaderBlockSize) :
    ∃ message, parseAsync limits frame kind = .error (.format message) := by
  unfold parseAsync
  dsimp only
  split
  · exact ⟨_, rfl⟩
  · rename_i t hfind
    split
    · exact ⟨_, rfl⟩
    · rename_i hwithin
      exact absurd ⟨t, find_searchSpan_iff.mp ⟨hfind, Nat.not_lt.mp hwithin⟩⟩ hnot

/-- **What `ParseAsync` accepts**: a frame whose terminator stands within the limit and whose
header lines can be read one after the other. -/
theorem parseAsync_ok_iff {limits : ParseLimits} {frame : Bytes} {kind : CulpeoMessageKind}
    {m : CulpeoMessage} :
    parseAsync limits frame kind = .ok m ↔
      ∃ t, (IsFirst crlfcrlf frame t ∧ t ≤ limits.maxHeaderBlockSize) ∧
        ∃ state, (headerLines (frame.take t)).foldlM (fun state line => parseLine limits line state)
            { message := { kind, body := frame.drop (t + 4) } } = .ok state ∧
          state.message = m := by
  constructor
  · intro h
    by_cases hfirst : ∃ t, IsFirst crlfcrlf frame t ∧ t ≤ limits.maxHeaderBlockSize
    · obtain ⟨t, hfirst⟩ := hfirst
      rw [parseAsync_eq_foldlM kind hfirst] at h
      exact ⟨t, hfirst, Checks.map_ok_iff.mp h⟩
    · obtain ⟨message, herror⟩ := parseAsync_eq_error kind hfirst
      rw [herror] at h
      cases h
  · rintro ⟨t, hfirst, hstate⟩
    rw [parseAsync_eq_foldlM kind hfirst]
    exact Checks.map_ok_iff.mpr hstate

/-! ### One header -/

/-- A string that a header line carries unchanged. -/
structure CleanText (value : Text) : Prop where
  ne_nil : value ≠ []
  wellFormed : Utf8.WellFormed value
  clean : value.any isForbiddenUnit = false
  front : value.head?.any isBlankUnit = false
  back : value.getLast?.any isBlankUnit = false
  size : (Utf8.encode value).length ≤ 4096

theorem unit_of_isDigit {u : UInt16} (h : u = unit '-' ∨ Numeral.isDigit u = true) :
    u.toNat < 0x80 ∧ isForbiddenUnit u = false ∧ isBlankUnit u = false := by
  obtain rfl | hdigit := h
  · decide
  · obtain ⟨hlt, hu⟩ := Numeral.digitValue_of_isDigit hdigit
    revert hu
    generalize Numeral.digitValue u = d at hlt
    rintro rfl
    interval_cases d <;> decide

/-- What is written for an integer is clean. -/
theorem cleanText_decimalInt {n : ℤ} (h : n.natAbs < 10 ^ 20) :
    CleanText (Numeral.decimalInt n) := by
  have hunit : ∀ u ∈ Numeral.decimalInt n, u.toNat < 0x80 ∧ isForbiddenUnit u = false ∧
      isBlankUnit u = false := fun u hu => unit_of_isDigit (Numeral.mem_decimalInt hu)
  have hascii : ∀ u ∈ Numeral.decimalInt n, u.toNat < 0x80 := fun u hu => (hunit u hu).1
  have hlen := Numeral.length_decimalInt_le (by decide) h
  refine ⟨Numeral.decimalInt_ne_nil n, Utf8.wellFormed_ascii hascii, ?_, ?_, ?_, ?_⟩
  · rw [List.any_eq_false]
    intro u hu
    simp [(hunit u hu).2.1]
  · cases hhead : (Numeral.decimalInt n).head? with
    | none => rfl
    | some u => simp [(hunit u (List.mem_of_mem_head? hhead)).2.2]
  · cases hlast : (Numeral.decimalInt n).getLast? with
    | none => rfl
    | some u => simp [(hunit u (List.mem_of_mem_getLast? hlast)).2.2]
  · rw [Utf8.encode_ascii hascii, List.length_map]
    omega

theorem integerOf_decimalInt (n : ℤ) : integerOf (Numeral.decimalInt n) = some n := by
  have hall : (Numeral.decimal n.natAbs).takeWhile Numeral.isDigit = Numeral.decimal n.natAbs :=
    List.takeWhile_eq_self_iff.mpr fun c hc => Numeral.isDigit_of_mem_decimal hc
  have htail : (Numeral.decimal n.natAbs).dropWhile Numeral.isDigit = [] :=
    List.dropWhile_eq_nil_iff.mpr fun c hc => Numeral.isDigit_of_mem_decimal hc
  have hne : (Numeral.decimal n.natAbs).isEmpty = false := by
    simpa using Numeral.decimal_ne_nil n.natAbs
  unfold Numeral.decimalInt
  split
  · rename_i hneg
    have hspace : isNumberSpace (unit '-') = false := by decide
    unfold integerOf
    rw [List.dropWhile_cons_of_neg (by simp [hspace])]
    have hnat : -(n.natAbs : ℤ) = n := by omega
    simp only [or_true, if_true, hall, htail, hne, Numeral.natValue_decimal, hnat]
    rfl
  · rename_i hpos
    obtain ⟨c, rest, hc⟩ := List.exists_cons_of_ne_nil (Numeral.decimal_ne_nil n.natAbs)
    have hdigit : Numeral.isDigit c = true := Numeral.isDigit_of_mem_decimal (by rw [hc]; simp)
    obtain ⟨hlt, hvalue⟩ := Numeral.digitValue_of_isDigit hdigit
    have hchar : isNumberSpace c = false ∧ ¬ (c = unit '+' ∨ c = unit '-') ∧ c ≠ unit '-' := by
      revert hvalue
      generalize Numeral.digitValue c = d at hlt
      rintro rfl
      interval_cases d <;> decide
    unfold integerOf
    rw [hc, List.dropWhile_cons_of_neg (by simp [hchar.1])]
    simp only [if_neg hchar.2.1, if_neg hchar.2.2]
    have hnat : (n.natAbs : ℤ) = n := by omega
    rw [← hc]
    simp only [hall, htail, hne, Numeral.natValue_decimal, hnat]
    rfl

theorem parseInteger_decimalInt {bound n : ℤ} (type : Text) (hlower : -bound ≤ n)
    (hupper : n < bound) : parseInteger bound type (Numeral.decimalInt n) = .ok n := by
  rw [parseInteger, integerOf_decimalInt]
  exact if_pos ⟨hlower, hupper⟩

theorem parseLong_decimalInt (n : Int64) : parseLong (Numeral.decimalInt n.toInt) = .ok n := by
  rw [parseLong, parseInteger_decimalInt _ n.le_toInt n.toInt_lt, Except.map, Int64.ofInt_toInt]

theorem parseInt_decimalInt (n : Int32) : parseInt (Numeral.decimalInt n.toInt) = .ok n := by
  rw [parseInt, parseInteger_decimalInt _ n.le_toInt n.toInt_lt, Except.map, Int32.ofInt_toInt]

/-- `acc` with one header of `m`, if `m` has it. -/
def CulpeoMessage.copyHeader (m acc : CulpeoMessage) : Reserved → CulpeoMessage
  | .event => { acc with event := m.event.or acc.event }
  | .contentType => { acc with contentType := m.contentType.or acc.contentType }
  | .authorization => { acc with authorization := m.authorization.or acc.authorization }
  | .sessionId => { acc with sessionId := m.sessionId.or acc.sessionId }
  | .streamId => { acc with streamId := m.streamId.or acc.streamId }
  | .offset => { acc with offset := m.offset.or acc.offset }
  | .timestamp => { acc with timestamp := m.timestamp.or acc.timestamp }
  | .bufferWindow => { acc with bufferWindow := m.bufferWindow.or acc.bufferWindow }
  | .reason => { acc with reason := m.reason.or acc.reason }
  | .code => { acc with code := m.code.or acc.code }

theorem assignHeader_eq {m acc : CulpeoMessage} {r : Reserved} {value : Text}
    (h : m.headerValue r = some value) : assignHeader acc r value = .ok (m.copyHeader acc r) := by
  cases r
  case offset | timestamp =>
    obtain ⟨n, hn, rfl⟩ := Option.map_eq_some_iff.mp h
    simp [assignHeader, CulpeoMessage.copyHeader, parseLong_decimalInt, hn, Except.map]
  case bufferWindow =>
    obtain ⟨n, hn, rfl⟩ := Option.map_eq_some_iff.mp h
    simp [assignHeader, CulpeoMessage.copyHeader, parseInt_decimalInt, hn, Except.map]
  all_goals
    simp only [CulpeoMessage.headerValue] at h
    simp [assignHeader, CulpeoMessage.copyHeader, h]

theorem copyHeader_none {m acc : CulpeoMessage} {r : Reserved} (h : m.headerValue r = none) :
    m.copyHeader acc r = acc := by
  cases r <;> simp only [CulpeoMessage.headerValue, Option.map_eq_none_iff] at h <;>
    simp [CulpeoMessage.copyHeader, h]

/-! ### The round trip -/

/-- The state after the line of a header of `m`, if `m` has it. -/
def ParseState.copy (m : CulpeoMessage) (state : ParseState) (r : Reserved) : ParseState :=
  match m.headerValue r with
  | none => state
  | some _ =>
      { message := m.copyHeader state.message r
        seenHeaders := r :: state.seenHeaders
        headerCount := state.headerCount + 1 }

theorem encode_headerName (r : Reserved) : Utf8.encode (headerName r) = r.headerName := by
  cases r <;> decide

theorem tryMapHeader_headerName (r : Reserved) : tryMapHeader r.headerName = some r := by
  cases r <;> decide

theorem validateNoForbiddenBytes_ok {span : Bytes} (h : validHeaderValue span = true)
    (fieldKind : Text) : validateNoForbiddenBytes span fieldKind = .ok () := by
  have hnone : span.find? isForbidden = none := by
    rw [List.find?_eq_none]
    intro c hc
    obtain ⟨hcr, hlf, hzero⟩ := validHeaderValue_iff.mp h c hc
    simp [isForbidden, hcr, hlf, hzero]
  rw [validateNoForbiddenBytes, hnone]

theorem headerName_facts (r : Reserved) :
    validHeaderName r.headerName = true ∧ validHeaderValue r.headerName = true ∧
      0 < r.headerName.length ∧ r.headerName.length ≤ 256 := by
  cases r <;> decide

/-- **The line of a header of `m` copies that header.** -/
theorem parseLine_headerText {m : CulpeoMessage} {r : Reserved} {value : Text}
    (hvalue : m.headerValue r = some value) (hclean : CleanText value) {state : ParseState}
    (hseen : r ∉ state.seenHeaders) (hcount : state.headerCount < 64) :
    parseLine {} (headerText (TextHeader.field ⟨headerName r, value⟩)) state =
      .ok (state.copy m r) := by
  obtain ⟨hname, hnameClean, hpos, hlen⟩ := headerName_facts r
  have hline : headerText (TextHeader.field ⟨headerName r, value⟩) =
      r.headerName ++ ch ':' :: (ch ' ' :: Utf8.encode value) := by
    rw [headerText, TextHeader.field, encode_headerName]
    rfl
  obtain ⟨k, hk⟩ : ∃ k, r.headerName.length = k + 1 := ⟨r.headerName.length - 1, by omega⟩
  have hfind : find [ch ':'] (r.headerName ++ ch ':' :: (ch ' ' :: Utf8.encode value)) =
      some (k + 1) := by
    rw [find_colon (notMem_of_validHeaderName hname isTokenChar_colon), hk]
  have htake : (r.headerName ++ ch ':' :: (ch ' ' :: Utf8.encode value)).take (k + 1) =
      r.headerName := by rw [← hk, List.take_left]
  have hdrop : (r.headerName ++ ch ':' :: (ch ' ' :: Utf8.encode value)).drop (k + 1 + 1) =
      ch ' ' :: Utf8.encode value := by
    rw [← hk, ← List.drop_drop, List.drop_left]
    rfl
  have htrim : trimAscii (ch ' ' :: Utf8.encode value) = Utf8.encode value := by
    rw [trimAscii_cons_blank isBlank_space,
      trimAscii_encode hclean.wellFormed hclean.front hclean.back]
  have hsize := hclean.size
  have hvalid := validHeaderValue_encode hclean.clean
  rw [hline, parseLine, ParseState.copy, hvalue]
  simp only [hfind, htake, hdrop, htrim]
  rw [if_neg (by simp), if_neg (by omega), if_neg (by omega), if_neg (by omega),
    validateNoForbiddenBytes_ok hnameClean, validateNoForbiddenBytes_ok hvalid,
    tryMapHeader_headerName]
  simp only [if_neg hseen, Utf8.decode_encode hclean.wellFormed, assignHeader_eq hvalue]
  rfl

/-- The string fields. -/
def CulpeoMessage.texts (m : CulpeoMessage) : List (Option Text) :=
  [m.event, m.contentType, m.authorization, m.sessionId, m.streamId, m.reason, m.code]

/-- The messages of the round trip: some header is set, the strings are clean, and the header
lines fit. -/
structure RoundTrips (m : CulpeoMessage) : Prop where
  some_header : ∃ r, m.headerValue r ≠ none
  texts : ∀ value, some value ∈ m.texts → CleanText value
  block : (crlf.intercalate ((m.headers.map TextHeader.field).map headerText)).length ≤ 8192

theorem RoundTrips.cleanText {m : CulpeoMessage} (h : RoundTrips m) {r : Reserved} {value : Text}
    (hvalue : m.headerValue r = some value) : CleanText value := by
  cases r
  case offset | timestamp =>
    obtain ⟨n, -, rfl⟩ := Option.map_eq_some_iff.mp hvalue
    have hlower := n.le_toInt
    have hupper := n.toInt_lt
    exact cleanText_decimalInt (by omega)
  case bufferWindow =>
    obtain ⟨n, -, rfl⟩ := Option.map_eq_some_iff.mp hvalue
    have hlower := n.le_toInt
    have hupper := n.toInt_lt
    exact cleanText_decimalInt (by omega)
  all_goals
    refine h.texts value ?_
    simp only [CulpeoMessage.headerValue] at hvalue
    simp [CulpeoMessage.texts, hvalue]

theorem RoundTrips.headerLine_eq {m : CulpeoMessage} (h : RoundTrips m) (r : Reserved) :
    headerLine m r = (m.headerValue r).toList.map (⟨headerName r, ·⟩) := by
  rw [headerLine]
  cases hvalue : m.headerValue r with
  | none => rfl
  | some value =>
      have hne : value.isEmpty = false := by simpa using (h.cleanText hvalue).ne_nil
      simp [Option.filter, hne]

/-- The lines of distinct headers copy them, one after the other. -/
theorem foldlM_headerLines {m : CulpeoMessage} (h : RoundTrips m) :
    ∀ {rs : List Reserved} {state : ParseState}, rs.Nodup → (∀ r ∈ rs, r ∉ state.seenHeaders) →
      state.headerCount + rs.length ≤ 64 →
      (((rs.flatMap (headerLine m)).map TextHeader.field).map headerText).foldlM
          (fun state line => parseLine {} line state) state =
        (.ok (rs.foldl (ParseState.copy m) state) : Except ParseExn ParseState) := by
  intro rs
  induction rs with
  | nil =>
      intro state _ _ _
      rfl
  | cons r rs ih =>
      intro state hnodup hseen hcount
      obtain ⟨hr, hnodup⟩ := List.nodup_cons.mp hnodup
      rw [List.length_cons] at hcount
      rw [List.flatMap_cons, List.map_append, List.map_append, List.foldlM_append,
        h.headerLine_eq, List.foldl_cons]
      cases hvalue : m.headerValue r with
      | none =>
          have hcopy : state.copy m r = state := by rw [ParseState.copy, hvalue]
          rw [hcopy]
          exact ih hnodup (fun q hq => hseen q (by simp [hq])) (by omega)
      | some value =>
          have hstep := parseLine_headerText hvalue (h.cleanText hvalue) (hseen r (by simp))
            (by omega)
          have hcopy : state.copy m r = ⟨m.copyHeader state.message r, r :: state.seenHeaders,
              state.headerCount + 1⟩ := by rw [ParseState.copy, hvalue]
          simp only [Option.toList_some, List.map_cons, List.map_nil, List.foldlM_cons,
            List.foldlM_nil]
          rw [hstep]
          refine ih hnodup (fun q hq => ?_) ?_
          · rw [hcopy, List.mem_cons, not_or]
            exact ⟨fun heq => hr (heq ▸ hq), hseen q (by simp [hq])⟩
          · rw [hcopy]
            dsimp only
            omega

theorem copy_message (m : CulpeoMessage) (state : ParseState) (r : Reserved) :
    (state.copy m r).message = m.copyHeader state.message r := by
  rw [ParseState.copy]
  cases hvalue : m.headerValue r with
  | none => exact (copyHeader_none hvalue).symm
  | some value => rfl

/-- All headers copied into a message without headers. -/
theorem message_of_copies (m : CulpeoMessage) (body : Bytes) :
    (kReservedHeaderNames.foldl (ParseState.copy m) { message := { kind := m.kind, body } }).message
      = { m with body } := by
  simp only [kReservedHeaderNames, List.foldl_cons, List.foldl_nil, copy_message,
    CulpeoMessage.copyHeader, Option.or_none]

/-- **Codec round trip.** -/
theorem parseAsync_serializeAsync (m : CulpeoMessage) (h : RoundTrips m) :
    parseAsync {} (serializeAsync m) m.kind = .ok { m with body := m.writtenBody } := by
  have hne : m.headers.map TextHeader.field ≠ [] := by
    obtain ⟨r, hr⟩ := h.some_header
    obtain ⟨value, hvalue⟩ := Option.ne_none_iff_exists'.mp hr
    have hmem : (⟨headerName r, value⟩ : TextHeader) ∈ m.headers := by
      refine List.mem_flatMap.mpr ⟨r, by cases r <;> decide, ?_⟩
      rw [h.headerLine_eq, hvalue]
      simp
    intro hnil
    rw [List.map_eq_nil_iff] at hnil
    rw [hnil] at hmem
    cases hmem
  have hvalid : ValidHeaders (m.headers.map TextHeader.field) := by
    intro field hfield
    obtain ⟨header, hheader, rfl⟩ := List.mem_map.mp hfield
    obtain ⟨r, -, hline⟩ := List.mem_flatMap.mp hheader
    rw [h.headerLine_eq, List.mem_map] at hline
    obtain ⟨value, hvalue, rfl⟩ := hline
    rw [Option.mem_toList] at hvalue
    refine ⟨?_, validHeaderValue_encode (h.cleanText hvalue).clean⟩
    rw [TextHeader.field, encode_headerName]
    exact (headerName_facts r).1
  have hfirst := find_eq_some_iff.mp (find_terminator_encode hne hvalid m.writtenBody)
  have hblock := encode_eq_block hne m.writtenBody
  rw [serializeAsync_eq]
  refine parseAsync_ok_iff.mpr ⟨_, ⟨hfirst, h.block⟩,
    kReservedHeaderNames.foldl (ParseState.copy m)
      { message := { kind := m.kind, body := m.writtenBody } }, ?_, message_of_copies m _⟩
  have hbody : (encode (m.headers.map TextHeader.field) m.writtenBody).drop
      ((crlf.intercalate ((m.headers.map TextHeader.field).map headerText)).length + 4) =
      m.writtenBody := by
    rw [hblock, ← List.drop_drop, List.drop_left]
    rfl
  rw [hbody, hblock, List.take_left, headerLines_encode hne hvalid]
  exact foldlM_headerLines h (by decide) (fun r _ => by simp) (by simp [kReservedHeaderNames])

/-- An empty control body, a negative offset and a reason with a surrogate pair. -/
def closing : CulpeoMessage where
  kind := .control
  event := some (utf16 "culpeo.close")
  offset := some (-9223372036854775808)
  reason := some (utf16 "bye 👋")

theorem parseAsync_serializeAsync_closing :
    parseAsync {} (serializeAsync closing) .control =
      .ok { closing with body := ascii "\x7b\x7d" } := by
  refine parseAsync_serializeAsync closing ⟨⟨.event, by decide⟩, ?_, by decide⟩
  intro value hvalue
  have htexts : value = utf16 "culpeo.close" ∨ value = utf16 "bye 👋" := by
    simpa [CulpeoMessage.texts, closing] using hvalue
  obtain rfl | rfl := htexts
  · exact ⟨by decide, by decide, rfl, rfl, rfl, by decide⟩
  · exact ⟨by decide, by decide, rfl, rfl, rfl, by decide⟩

end CulpeoStream.Dotnet
