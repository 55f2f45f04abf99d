import CulpeoStream.Message.Grammar

/-!
# What `serialize_frame` writes, and that `parse_headers` reads it back

`encode headers body` is the text of a frame.  `serializeFrame_ok_iff` says that
the encoder, with its buffer and its cursor, produces exactly this text for the
headers it accepts; `denotes_encode` puts the text into the grammar of
`CulpeoStream.Message.Grammar`.  The round trip is their composition.

The one delicate point is the terminator.  No header line contains a `CR`, and a
line that follows a `CRLF` starts with a token character, so no `CRLFCRLF` starts
inside the header lines; the body plays no part in the search
(`find_terminator_encode`).
-/

namespace CulpeoStream.Message

open Search

/-- The text of one header, without its line separator. -/
def headerText (header : HeaderField) : Bytes :=
  header.name ++ (ascii ": " ++ header.value)

/-- The header lines of a frame, each with its separator. -/
def encodeHeaders (headers : List HeaderField) : Bytes :=
  headers.flatMap fun header => headerText header ++ crlf

/-- The text of a frame. -/
def encode (headers : List HeaderField) (body : Bytes) : Bytes :=
  encodeHeaders headers ++ (crlf ++ body)

/-- The header as it is read back: its value without the surrounding blanks. -/
def trimField (header : HeaderField) : HeaderField :=
  { header with value := trimAscii header.value }

/-- The headers that the encoder accepts. -/
def ValidHeaders (headers : List HeaderField) : Prop :=
  ∀ header ∈ headers,
    validHeaderName header.name = true ∧ validHeaderValue header.value = true

/-! ### The encoder -/

theorem serializedFrameSize_eq (headers : List HeaderField) (bodySize : ℕ) :
    serializedFrameSize headers bodySize = (encodeHeaders headers).length + 2 + bodySize := by
  have hfold : ∀ (size : ℕ), headers.foldl
      (fun size header => size + (header.name.length + 2 + header.value.length + 2)) size =
      size + (encodeHeaders headers).length := by
    induction headers with
    | nil => intro size; rfl
    | cons header rest ih =>
        intro size
        have hcolon : (ascii ": ").length = 2 := by decide
        have hcrlf : crlf.length = 2 := rfl
        rw [List.foldl_cons, ih]
        simp only [encodeHeaders, headerText, List.flatMap_cons, List.length_append, hcolon, hcrlf]
        omega
  rw [serializedFrameSize, hfold]
  omega

/-- `w` is a writer over a buffer of `size` bytes whose first bytes are `text`. -/
structure Wrote (w : Writer) (size : ℕ) (text : Bytes) : Prop where
  output : w.output.length = size
  cursor : w.cursor = text.length
  text : w.output.take w.cursor = text

/-- Writing inside the buffer appends to the text. -/
theorem Wrote.writeBytes {w : Writer} {size : ℕ} {text : Bytes} (h : Wrote w size text)
    (data : Bytes) (hroom : text.length + data.length ≤ size) :
    Wrote (w.writeBytes data) size (text ++ data) := by
  have hcursor : (w.output.take w.cursor).length = w.cursor := by
    rw [List.length_take, h.output, h.cursor]
    omega
  refine ⟨?_, ?_, ?_⟩
  · simp only [Writer.writeBytes, List.length_append, List.length_drop, hcursor, h.output]
    rw [h.cursor]
    omega
  · simp only [Writer.writeBytes, List.length_append, h.cursor]
  · have hlen : w.cursor + data.length = (w.output.take w.cursor ++ data).length := by
      rw [List.length_append, hcursor]
    simp only [Writer.writeBytes]
    rw [hlen, List.take_left, h.text]

theorem validHeaders_cons {header : HeaderField} {rest : List HeaderField} :
    ValidHeaders (header :: rest) ↔
      (validHeaderName header.name = true ∧ validHeaderValue header.value = true) ∧
        ValidHeaders rest := by
  simp [ValidHeaders]

theorem writeHeaders_valid {headers : List HeaderField} {w w' : Writer}
    (h : writeHeaders headers w = .ok w') : ValidHeaders headers := by
  induction headers generalizing w with
  | nil => intro header hmem; cases hmem
  | cons header rest ih =>
      rw [writeHeaders] at h
      by_cases hname : validHeaderName header.name = true
      · by_cases hvalue : validHeaderValue header.value = true
        · simp only [hname, hvalue] at h
          exact validHeaders_cons.mpr ⟨⟨hname, hvalue⟩, ih h⟩
        · simp [hname, hvalue] at h
      · simp [hname] at h

theorem writeHeaders_wrote {headers : List HeaderField} (hvalid : ValidHeaders headers) :
    ∀ {w : Writer} {size : ℕ} {text : Bytes}, Wrote w size text →
      text.length + (encodeHeaders headers).length ≤ size →
      ∃ w', writeHeaders headers w = .ok w' ∧ Wrote w' size (text ++ encodeHeaders headers) := by
  induction headers with
  | nil =>
      intro w size text hw _
      exact ⟨w, rfl, by simpa [encodeHeaders] using hw⟩
  | cons header rest ih =>
      intro w size text hw hroom
      obtain ⟨⟨hname, hvalue⟩, hrest⟩ := validHeaders_cons.mp hvalid
      have htext : encodeHeaders (header :: rest) =
          header.name ++ (ascii ": " ++ (header.value ++ (crlf ++ encodeHeaders rest))) := by
        simp [encodeHeaders, headerText]
      rw [htext] at hroom
      simp only [List.length_append] at hroom
      have hline := (((hw.writeBytes header.name (by omega)).writeBytes (ascii ": ")
        (by rw [List.length_append]; omega)).writeBytes header.value
        (by simp only [List.length_append]; omega)).writeBytes crlf
        (by simp only [List.length_append]; omega)
      obtain ⟨w', hok, hw'⟩ := ih hrest hline (by simp only [List.length_append]; omega)
      refine ⟨w', ?_, ?_⟩
      · simpa [writeHeaders, hname, hvalue] using hok
      · simpa [htext, List.append_assoc] using hw'

/-- **The encoder.**  `serialize_frame` succeeds exactly on valid headers, and then
writes the text of the frame. -/
theorem serializeFrame_ok_iff {frameType : FrameType} {headers : List HeaderField}
    {body out : Bytes} :
    serializeFrame frameType headers body = .ok out ↔
      ValidHeaders headers ∧ out = encode headers body := by
  have hroom : ¬ (List.replicate (serializedFrameSize headers body.length) (0 : UInt8)).length <
      serializedFrameSize headers body.length := by simp
  have hstart : Wrote ⟨List.replicate (serializedFrameSize headers body.length) 0, 0⟩
      (serializedFrameSize headers body.length) [] := ⟨by simp, rfl, rfl⟩
  have hcrlf : crlf.length = 2 := rfl
  -- For valid headers the writer ends up with the whole text in its buffer.
  have hwrite : ValidHeaders headers →
      serializeFrame frameType headers body = .ok (encode headers body) := by
    intro hvalid
    obtain ⟨w, hok, hw⟩ := writeHeaders_wrote hvalid hstart
      (by rw [serializedFrameSize_eq, List.length_nil]; omega)
    have hblank := hw.writeBytes crlf
      (by rw [serializedFrameSize_eq, List.nil_append, hcrlf]; omega)
    have hbody := hblank.writeBytes body
      (by rw [serializedFrameSize_eq, List.nil_append, List.length_append, hcrlf])
    simp only [serializeFrame, serializeFrameToBuffer, if_neg hroom, hok]
    cases body with
    | nil => simpa [encode] using hblank.text
    | cons b body => simpa [encode] using hbody.text
  constructor
  · intro h
    have hvalid : ValidHeaders headers := by
      simp only [serializeFrame, serializeFrameToBuffer, if_neg hroom] at h
      cases hw : writeHeaders headers
          ⟨List.replicate (serializedFrameSize headers body.length) 0, 0⟩ with
      | error e => simp [hw] at h
      | ok w => exact writeHeaders_valid hw
    rw [hwrite hvalid] at h
    cases h
    exact ⟨hvalid, rfl⟩
  · rintro ⟨hvalid, rfl⟩
    exact hwrite hvalid

/-! ### The text in the grammar -/

theorem cr_notMem_headerText {header : HeaderField}
    (hname : validHeaderName header.name = true)
    (hvalue : validHeaderValue header.value = true) : ch '\r' ∉ headerText header := by
  have hcolon : ch '\r' ∉ ascii ": " := by decide
  have hv : ch '\r' ∉ header.value := fun hmem =>
    (validHeaderValue_iff.mp hvalue _ hmem).1 rfl
  simp only [headerText, List.mem_append, not_or]
  exact ⟨notMem_of_validHeaderName hname isTokenChar_cr, hcolon, hv⟩

/-- The header lines of a frame end where its terminator starts. -/
theorem encode_eq_block {headers : List HeaderField} (hne : headers ≠ []) (body : Bytes) :
    encode headers body =
      crlf.intercalate (headers.map headerText) ++ (crlfcrlf ++ body) := by
  rw [encode]
  induction headers with
  | nil => exact absurd rfl hne
  | cons header rest ih =>
      cases rest with
      | nil => simp [encodeHeaders, crlf, crlfcrlf]
      | cons next rest =>
          have hrest := ih (by simp)
          simp only [encodeHeaders, List.flatMap_cons, List.map_cons, List.append_assoc] at hrest ⊢
          rw [hrest]
          simp [List.intercalate]

/-- After a line separator, a line that starts with a token character is not a
second separator. -/
theorem find_crlfcrlf_after_crlf {c : UInt8} (hc : c ≠ ch '\r') (rest : Bytes) :
    find crlfcrlf (crlf ++ c :: rest) = (find crlfcrlf (c :: rest)).map (· + 2) := by
  have hfirst : ¬ crlfcrlf <+: crlf ++ c :: rest := by
    simp [crlfcrlf, crlf, Ne.symm hc]
  have hsecond : ¬ crlfcrlf <+: ch '\n' :: c :: rest := by
    rw [crlfcrlf, List.cons_prefix_cons]
    exact fun h => absurd h.1 (by decide)
  have hstep : find crlfcrlf (ch '\n' :: c :: rest) =
      (find crlfcrlf (c :: rest)).map (· + 1) := by
    rw [find, if_neg hsecond]
  have htext : crlf ++ c :: rest = ch '\r' :: ch '\n' :: c :: rest := rfl
  rw [htext] at hfirst ⊢
  rw [find, if_neg hfirst, hstep, Option.map_map]
  congr 1

/-- **No terminator arises before the real one**, whatever the headers and the
body. -/
theorem find_terminator_encode {headers : List HeaderField} (hne : headers ≠ [])
    (hvalid : ValidHeaders headers) (body : Bytes) :
    find crlfcrlf (encode headers body) =
      some (crlf.intercalate (headers.map headerText)).length := by
  rw [encode_eq_block hne]
  induction headers with
  | nil => exact absurd rfl hne
  | cons header rest ih =>
      obtain ⟨⟨hname, hvalue⟩, hrest⟩ := validHeaders_cons.mp hvalid
      have hcr := cr_notMem_headerText hname hvalue
      cases rest with
      | nil =>
          have hself : find crlfcrlf (crlfcrlf ++ body) = some 0 := find_self_append
          simp only [List.map_cons, List.map_nil, List.intercalate_singleton]
          rw [crlfcrlf, find_append_of_head_notMem hcr, ← crlfcrlf, hself]
          simp
      | cons next rest =>
          -- The next line starts with a token character, so the CRLF in front of it is not the
          -- first half of a terminator.
          obtain ⟨⟨hnext, -⟩, -⟩ := validHeaders_cons.mp hrest
          obtain ⟨c, tail, htail⟩ : ∃ c tail, crlf.intercalate
              ((next :: rest).map headerText) ++ (crlfcrlf ++ body) = c :: tail ∧
                c ≠ ch '\r' := by
            obtain ⟨hnil, htoken⟩ := validHeaderName_iff.mp hnext
            obtain ⟨c, name, hcons⟩ := List.exists_cons_of_ne_nil hnil
            have hc : c ≠ ch '\r' := by
              rintro rfl
              have := htoken (ch '\r') (by simp [hcons])
              rw [isTokenChar_cr] at this
              cases this
            cases rest with
            | nil => exact ⟨c, _, by simp [headerText, hcons]; rfl, hc⟩
            | cons third rest =>
                exact ⟨c, _, by simp [headerText, hcons, List.intercalate]; rfl, hc⟩
          have hjoin : crlf.intercalate ((header :: next :: rest).map headerText) =
              headerText header ++ (crlf ++ crlf.intercalate ((next :: rest).map headerText)) := by
            rw [List.map_cons, List.map_cons, List.intercalate_cons_cons, List.append_assoc]
          have htext := ih (by simp) hrest
          rw [htail.1] at htext
          rw [hjoin, List.append_assoc, List.append_assoc, htail.1, crlfcrlf,
            find_append_of_head_notMem hcr, ← crlfcrlf, find_crlfcrlf_after_crlf htail.2, htext]
          simp [crlf]
          omega

/-- The lines of the encoded text are the encoded headers. -/
theorem headerLines_encode {headers : List HeaderField} (hne : headers ≠ [])
    (hvalid : ValidHeaders headers) :
    headerLines (crlf.intercalate (headers.map headerText)) = headers.map headerText := by
  have hmap : headers.map headerText ≠ [] := by simpa using hne
  have hcr : ∀ line ∈ headers.map headerText, ch '\r' ∉ line := by
    intro line hline
    obtain ⟨header, hmem, rfl⟩ := List.mem_map.mp hline
    exact cr_notMem_headerText (hvalid header hmem).1 (hvalid header hmem).2
  have hblock : crlf.intercalate (headers.map headerText) ≠ [] := by
    obtain ⟨header, rest, rfl⟩ := List.exists_cons_of_ne_nil hne
    cases rest <;> simp [headerText, List.intercalate, ascii]
  rw [headerLines, if_neg hblock]
  exact splitOn_intercalate hmap hcr

/-- An encoded header is read back with its value trimmed. -/
theorem headerLine_headerText {limits : ParseLimits} {header : HeaderField}
    (hname : validHeaderName header.name = true)
    (hvalue : validHeaderValue header.value = true)
    (hsize : (trimAscii header.value).length ≤ limits.maxHeaderValueBytes) :
    HeaderLine limits (headerText header) (trimField header) := by
  obtain ⟨hne, htoken⟩ := validHeaderName_iff.mp hname
  refine ⟨⟨ch ' ' :: header.value, rfl, ?_⟩, hne, htoken, hsize, fun c hc => ?_⟩
  · rw [trimAscii_cons_blank isBlank_space]
    rfl
  · exact validHeaderValue_iff.mp hvalue c (trimAscii_subset _ hc)

/-- The headers of a frame that `parse_headers` will read under `limits`. -/
structure FitsLimits (limits : ParseLimits) (headers : List HeaderField) : Prop where
  count : headers.length ≤ limits.maxHeaderCount
  size : ∀ header ∈ headers, (trimAscii header.value).length ≤ limits.maxHeaderValueBytes
  unique : ∀ r, (fieldsOf r headers).length ≤ 1
  block : (crlf.intercalate (headers.map headerText)).length ≤ limits.maxHeaderBlockBytes

theorem fieldsOf_map_trimField (r : Reserved) (headers : List HeaderField) :
    fieldsOf r (headers.map trimField) = (fieldsOf r headers).map trimField := by
  rw [fieldsOf, List.filter_map]
  rfl

/-- **The text of a frame is in the grammar**, and denotes its headers. -/
theorem denotes_encode {limits : ParseLimits} {headers : List HeaderField}
    (hne : headers ≠ []) (hvalid : ValidHeaders headers) (hfits : FitsLimits limits headers)
    (body : Bytes) :
    Denotes limits (encode headers body)
      (crlf.intercalate (headers.map headerText)).length (headers.map trimField) := by
  have htake : (encode headers body).take (crlf.intercalate (headers.map headerText)).length =
      crlf.intercalate (headers.map headerText) := by
    rw [encode_eq_block hne, List.take_left]
  refine ⟨find_eq_some_iff.mp (find_terminator_encode hne hvalid body), hfits.block, ?_,
    by simpa using hfits.count, fun r => ?_⟩
  · rw [htake, headerLines_encode hne hvalid, List.forall₂_map_left_iff,
      List.forall₂_map_right_iff, List.forall₂_same]
    intro header hmem
    exact headerLine_headerText (hvalid header hmem).1 (hvalid header hmem).2
      (hfits.size header hmem)
  · rw [fieldsOf_map_trimField, List.length_map]
    exact hfits.unique r

/-! ### The round trip -/

/-- The header lists of the round trip: tokens and clean, trimmed values, within
the default limits, with no reserved header carried twice. -/
structure RoundTrips (headers : List HeaderField) : Prop where
  ne_nil : headers ≠ []
  count : headers.length ≤ 64
  name : ∀ header ∈ headers, header.name ≠ [] ∧ ∀ c ∈ header.name, isTokenChar c = true
  clean : ∀ header ∈ headers, ∀ c ∈ header.value, c ≠ ch '\r' ∧ c ≠ ch '\n' ∧ c ≠ 0
  front : ∀ header ∈ headers, ∀ c ∈ header.value.head?, isBlank c = false
  back : ∀ header ∈ headers, ∀ c ∈ header.value.getLast?, isBlank c = false
  size : ∀ header ∈ headers, header.value.length ≤ 4096
  unique : ∀ r, (fieldsOf r headers).length ≤ 1
  block : (crlf.intercalate (headers.map headerText)).length ≤ 8192

instance decidableRoundTrips (headers : List HeaderField) : Decidable (RoundTrips headers) :=
  decidable_of_iff
    (headers ≠ [] ∧ headers.length ≤ 64 ∧
      (∀ header ∈ headers,
        validHeaderName header.name = true ∧ validHeaderValue header.value = true ∧
        (header.value.head?.all (!isBlank ·) = true) ∧
        (header.value.getLast?.all (!isBlank ·) = true) ∧ header.value.length ≤ 4096) ∧
      (∀ r ∈ kReservedHeaderNames, (fieldsOf r headers).length ≤ 1) ∧
      (crlf.intercalate (headers.map headerText)).length ≤ 8192) <| by
    have hend : ∀ last : Option UInt8,
        last.all (!isBlank ·) = true ↔ ∀ c ∈ last, isBlank c = false := by
      intro last
      cases last <;> simp
    simp only [hend, validHeaderName_iff, validHeaderValue_iff]
    constructor
    · rintro ⟨hne, hcount, hfield, hunique, hblock⟩
      exact
        { ne_nil := hne
          count := hcount
          name := fun header hmem => (hfield header hmem).1
          clean := fun header hmem => (hfield header hmem).2.1
          front := fun header hmem => (hfield header hmem).2.2.1
          back := fun header hmem => (hfield header hmem).2.2.2.1
          size := fun header hmem => (hfield header hmem).2.2.2.2
          unique := fun r => hunique r (by cases r <;> decide)
          block := hblock }
    · intro h
      exact ⟨h.ne_nil, h.count, fun header hmem => ⟨h.name header hmem, h.clean header hmem,
        h.front header hmem, h.back header hmem, h.size header hmem⟩, fun r _ => h.unique r, h.block⟩

theorem RoundTrips.valid {headers : List HeaderField} (h : RoundTrips headers) :
    ValidHeaders headers := fun header hmem =>
  ⟨validHeaderName_iff.mpr (h.name header hmem), validHeaderValue_iff.mpr (h.clean header hmem)⟩

/-- The view of a frame that `serialize_frame` has written. -/
def writtenView (frameType : FrameType) (headers : List HeaderField) (body : Bytes) :
    ParsedHeadersView :=
  filledView headers frameType (encode headers body) (crlf.intercalate (headers.map headerText))
    body

/-- What is written is read back. -/
theorem parseHeaders_encode {frameType : FrameType} {headers : List HeaderField} {body : Bytes}
    (h : RoundTrips headers) :
    parseHeaders frameType (encode headers body) {} = .ok (writtenView frameType headers body) := by
  have hself : ∀ header ∈ headers, trimAscii header.value = header.value := fun header hmem =>
    trimAscii_eq_self (h.front header hmem) (h.back header hmem)
  have htrim : headers.map trimField = headers := by
    conv_rhs => rw [← List.map_id headers]
    refine List.map_congr_left fun header hmem => ?_
    rw [trimField, hself header hmem]
    rfl
  have hfits : FitsLimits {} headers :=
    ⟨h.count, fun header hmem => by simpa [hself header hmem] using h.size header hmem,
      h.unique, h.block⟩
  have hden := denotes_encode h.ne_nil h.valid hfits body
  rw [htrim] at hden
  have htake : (encode headers body).take (crlf.intercalate (headers.map headerText)).length =
      crlf.intercalate (headers.map headerText) := by
    rw [encode_eq_block h.ne_nil, List.take_left]
  have hdrop : (encode headers body).drop
      ((crlf.intercalate (headers.map headerText)).length + 4) = body := by
    rw [encode_eq_block h.ne_nil, ← List.drop_drop, List.drop_left]
    rfl
  refine (parseHeaders_ok_iff (by decide)).mpr ⟨_, headers, hden, ?_⟩
  rw [htake, hdrop]
  exact filledFrom_filledView

/-- **Codec round trip.**  What `serialize_frame` writes for such headers and any
body, `parse_headers` reads back: the same body, and in each reserved slot the
value of the header of that name. -/
theorem parseHeaders_serializeFrame (frameType : FrameType) (headers : List HeaderField)
    (body : Bytes) (h : RoundTrips headers) :
    ∃ out parsed, serializeFrame frameType headers body = .ok out ∧
      parseHeaders frameType out {} = .ok parsed ∧ parsed.body = body ∧
        ∀ r, parsed.slot r = fieldValue r headers :=
  ⟨encode headers body, writtenView frameType headers body,
    serializeFrame_ok_iff.mpr ⟨h.valid, rfl⟩, parseHeaders_encode h, rfl,
    slot_filledView⟩

/-- A media frame whose body contains the terminator, with an empty value and a
reserved name in capitals. -/
theorem parseHeaders_serializeFrame_media :
    ∃ out parsed, serializeFrame .media
        [⟨ascii "STREAM-ID", ascii "s1"⟩, ⟨ascii "X-Empty", []⟩] (ascii "\r\n\r\nA: b") = .ok out ∧
      parseHeaders .media out {} = .ok parsed ∧ parsed.body = ascii "\r\n\r\nA: b" ∧
        ∀ r, parsed.slot r =
          fieldValue r [⟨ascii "STREAM-ID", ascii "s1"⟩, ⟨ascii "X-Empty", []⟩] :=
  parseHeaders_serializeFrame .media _ _ (by decide +kernel)

end CulpeoStream.Message
