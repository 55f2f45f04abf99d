import CulpeoStream.Dotnet.Headers
import CulpeoStream.Typescript.Headers
import CulpeoStream.Typescript.RoundTrip

/-!
# The three header parsers on one frame

`parse_headers` in C++ and `ParseAsync` in C# read the fields of the header block as they
stand, up to `SP` and `HTAB` around a value, so whatever both accept they read alike.  The
TypeScript parser trims all white space, from names as well.  It agrees with either of the
others exactly on the frames whose fields have no white space to trim
(`HeaderParser.reads_agree_iff`).
-/

namespace CulpeoStream

open Message Search Utf16

/-- `parse_headers`, the TypeScript parser without a backend, and `ParseAsync`. -/
inductive HeaderParser where
  | cpp
  | typescript
  | dotnet
  deriving DecidableEq, Repr

/-- What a parser says of a frame. -/
structure Reading where
  bodyOffset : ℕ
  text : Reserved → Option Text

/-- The headers whose value is a text. -/
def textHeaders : List Reserved :=
  [.event, .contentType, .authorization, .sessionId, .streamId, .reason, .code]

/-- Where the body begins, and what each of the text headers says, if it is there. -/
structure Reading.Agree (a b : Reading) : Prop where
  bodyOffset : a.bodyOffset = b.bodyOffset
  text : ∀ r ∈ textHeaders, a.text r = b.text r

/-- The name of a header in the `Map` of the TypeScript parser. -/
def mapKey : Reserved → Text
  | .event => utf16 "event"
  | .contentType => utf16 "content-type"
  | .authorization => utf16 "authorization"
  | .sessionId => utf16 "session-id"
  | .streamId => utf16 "stream-id"
  | .offset => utf16 "offset"
  | .timestamp => utf16 "timestamp"
  | .bufferWindow => utf16 "buffer-window"
  | .reason => utf16 "reason"
  | .code => utf16 "code"

/-- What a parser says of a frame it accepts under its default limits. -/
inductive HeaderParser.Reads (rt : Typescript.Runtime) (frame : Bytes) :
    HeaderParser → Reading → Prop where
  | cpp {frameType : FrameType} {parsed : ParsedHeadersView}
      (h : parseHeaders frameType frame {} = .ok parsed) :
      Reads rt frame .cpp
        ⟨frame.length - parsed.body.length, fun r => (parsed.slot r).map Utf8.decode⟩
  | typescript {headers : Typescript.Headers} {bodyOffset : ℕ}
      (h : Typescript.extractHeaders rt frame {} = .ok (headers, bodyOffset)) :
      Reads rt frame .typescript ⟨bodyOffset, fun r => headers (mapKey r)⟩
  | dotnet {kind : Dotnet.CulpeoMessageKind} {message : Dotnet.CulpeoMessage}
      (h : Dotnet.parseAsync {} frame kind = .ok message) :
      Reads rt frame .dotnet ⟨frame.length - message.body.length, message.headerValue⟩

/-- What the runtime does to the case of letters.  The Kelvin sign is the only character
outside ASCII whose lower case is in ASCII. -/
structure LowersUnicode (rt : Typescript.Runtime) : Prop where
  ascii : Typescript.LowersAscii rt
  ofAscii : ∀ s, (∀ u ∈ rt.toLowerCase s, u.toNat < 0x80 ∧ u ≠ unit 'k') → ∀ u ∈ s, u.toNat < 0x80

/-- There is nothing to trim from the name and the value of a field. -/
structure Untrimmed (field : HeaderField) : Prop where
  name : Typescript.trim (Utf8.decode field.name) = Utf8.decode field.name
  value : Typescript.trim (Utf8.decode field.value) = Utf8.decode field.value

/-- The fields of a frame that have the name of a text header, up to white space and the case
of letters, have no further white space at the ends of their names and values. -/
def PlainHeaders (rt : Typescript.Runtime) (frame : Bytes) : Prop :=
  ∀ t, IsFirst crlfcrlf frame t → ∀ field ∈ blockFields (frame.take t), ∀ r ∈ textHeaders,
    rt.toLowerCase (Typescript.trim (Utf8.decode field.name)) = mapKey r → Untrimmed field

/-! ### The parsers of bytes -/

/-- A reading of the fields as they stand. -/
structure Reading.OfFields (a : Reading) (frame : Bytes) (t : ℕ) : Prop where
  terminator : IsFirst crlfcrlf frame t
  bodyOffset : a.bodyOffset = t + 4
  colons : ∀ line ∈ headerLines (frame.take t), line ≠ [] → ch ':' ∈ line
  text : ∀ r ∈ textHeaders,
    a.text r = (fieldValue r (blockFields (frame.take t))).map Utf8.decode

theorem bodyOffset_of_isFirst {frame : Bytes} {t : ℕ} (h : IsFirst crlfcrlf frame t) :
    frame.length - (frame.drop (t + 4)).length = t + 4 := by
  have hend := h.add_length_le
  have hlen : crlfcrlf.length = 4 := rfl
  rw [List.length_drop]
  omega

theorem ofFields_cpp {rt : Typescript.Runtime} {frame : Bytes} {a : Reading}
    (h : HeaderParser.Reads rt frame .cpp a) : ∃ t, a.OfFields frame t := by
  cases h with
  | @cpp frameType parsed hparse =>
      obtain ⟨t, fields, hdenotes, hfilled⟩ := (parseHeaders_ok_iff (by decide)).mp hparse
      refine ⟨t, hdenotes.terminator, ?_, fun line hline _ => hdenotes.colon_mem line hline,
        fun r _ => ?_⟩
      · rw [hfilled.body]
        exact bodyOffset_of_isFirst hdenotes.terminator
      · have hempty : ParsedHeadersView.slot
            { frameType, frame, headerBlock := frame.take t, body := frame.drop (t + 4) } r =
              none := by cases r <;> rfl
        show (parsed.slot r).map Utf8.decode = _
        rw [hfilled.slots, hempty, hdenotes.blockFields_eq, Option.none_or]

theorem ofFields_dotnet {rt : Typescript.Runtime} {frame : Bytes} {a : Reading}
    (h : HeaderParser.Reads rt frame .dotnet a) : ∃ t, a.OfFields frame t := by
  cases h with
  | @dotnet kind message hparse =>
      obtain ⟨t, hfirst, hbody, hcolons, hheaders, -⟩ := Dotnet.parseAsync_headers hparse
      refine ⟨t, hfirst, ?_, hcolons, fun r hr => ?_⟩
      · rw [hbody]
        exact bodyOffset_of_isFirst hfirst
      · have hr' := hheaders r
        show message.headerValue r = _
        revert hr'
        cases fieldValue r (blockFields (frame.take t)) with
        | none => exact id
        | some value =>
            intro hreads
            revert hr
            cases r <;> intro hr <;> first | exact hreads | exact absurd hr (by decide)

theorem Reading.OfFields.agree {frame : Bytes} {a b : Reading} {t t' : ℕ}
    (ha : a.OfFields frame t) (hb : b.OfFields frame t') : a.Agree b := by
  obtain rfl := ha.terminator.unique hb.terminator
  exact ⟨ha.bodyOffset.trans hb.bodyOffset.symm,
    fun r hr => (ha.text r hr).trans (hb.text r hr).symm⟩

/-! ### The parser of texts -/

theorem mapKey_eq (r : Reserved) :
    mapKey r = (r.headerName.map UInt8.toUInt16).map lowerAscii := by
  cases r <;> decide

theorem reservedHeaders_mapKey (r : Reserved) :
    Typescript.reservedHeaders.contains (mapKey r) = true := by
  cases r <;> decide

theorem reservedOf_iff {name : Bytes} {r : Reserved} :
    reservedOf name = some r ↔ (name.map UInt8.toUInt16).map lowerAscii = mapKey r := by
  rw [reservedOf_eq_some_iff, iequalsAscii, beq_iff_eq, mapKey_eq, map_lowerAscii_map,
    map_lowerAscii_map, (List.map_injective_iff.mpr toUInt16_injective).eq_iff]

/-- A name that is that of a header is ASCII. -/
theorem ascii_of_reservedOf {name : Bytes} {r : Reserved} (h : reservedOf name = some r) :
    ∀ c ∈ name, c.toNat < 0x80 := by
  rw [reservedOf_eq_some_iff, iequalsAscii, beq_iff_eq] at h
  have hascii : (r.headerName.all fun c => c < 0x80) = true := by cases r <;> decide
  intro c hc
  have hmem := List.mem_map_of_mem (f := toLowerAscii) hc
  rw [h] at hmem
  obtain ⟨d, hd, hlow⟩ := List.mem_map.mp hmem
  have hd' : d < 0x80 := by simpa using List.all_eq_true.mp hascii d hd
  rw [← Dotnet.toLowerAscii_lt, hlow, Dotnet.toLowerAscii_lt] at hd'
  exact hd'

theorem fieldValue_eq_none_iff {r : Reserved} {fields : List HeaderField} :
    fieldValue r fields = none ↔ ∀ f ∈ fields, reservedOf f.name ≠ some r := by
  simp [fieldValue, fieldsOf, reservedOf_eq_some_iff]

theorem exists_of_fieldValue {r : Reserved} {fields : List HeaderField} {value : Bytes}
    (h : fieldValue r fields = some value) :
    ∃ f ∈ fields, reservedOf f.name = some r ∧ f.value = value := by
  rw [fieldValue, Option.map_eq_some_iff] at h
  obtain ⟨f, hhead, hvalue⟩ := h
  obtain ⟨hmem, hname⟩ := List.mem_filter.mp (List.mem_of_head? hhead)
  exact ⟨f, hmem, reservedOf_eq_some_iff.mpr hname, hvalue⟩

/-- The name of a header has no white space. -/
theorem trim_of_reservedOf {name : Bytes} {r : Reserved} (h : reservedOf name = some r) :
    Typescript.trim (Utf8.decode name) = Utf8.decode name := by
  have hkey : ((mapKey r).any Typescript.isSpace) = false := by cases r <;> decide
  have hletter : ∀ n : Fin 91, 65 ≤ n.val → Typescript.isSpace (UInt16.ofNat n.val) = false := by
    decide
  apply Typescript.trim_of_notSpace
  intro u hu
  rw [Utf8.decode_ascii (ascii_of_reservedOf h)] at hu
  have hmem := List.mem_map_of_mem (f := lowerAscii) hu
  rw [reservedOf_iff.mp h] at hmem
  have hlower := List.any_eq_false.mp hkey _ hmem
  unfold lowerAscii at hlower
  split at hlower
  · rename_i hrange
    have hle : u.toNat < 91 := Nat.lt_succ_of_le (UInt16.le_iff_toNat_le.mp hrange.2)
    have hu' := hletter ⟨u.toNat, hle⟩ (UInt16.le_iff_toNat_le.mp hrange.1)
    rwa [UInt16.ofNat_toNat] at hu'
  · exact Bool.not_eq_true _ ▸ hlower

section Runtime

variable {rt : Typescript.Runtime} (hrt : LowersUnicode rt)
include hrt

theorem toLowerCase_of_reservedOf {name : Bytes} {r : Reserved} (h : reservedOf name = some r) :
    rt.toLowerCase (Utf8.decode name) = mapKey r := by
  have hascii := ascii_of_reservedOf h
  rw [hrt.ascii _ fun u hu => ?_, Utf8.decode_ascii hascii]
  · exact reservedOf_iff.mp h
  · rw [Utf8.decode_ascii hascii] at hu
    obtain ⟨c, hc, rfl⟩ := List.mem_map.mp hu
    rw [UInt8.toNat_toUInt16]
    exact hascii c hc

/-- **The names of the text headers.**  Nothing but such a name has its lower case. -/
theorem toLowerCase_eq_mapKey_iff {name : Bytes} {r : Reserved} (hr : r ∈ textHeaders) :
    rt.toLowerCase (Utf8.decode name) = mapKey r ↔ reservedOf name = some r := by
  refine ⟨fun h => ?_, toLowerCase_of_reservedOf hrt⟩
  have hkey :
      ((mapKey r).all fun u => decide (u.toNat < 0x80) && decide (u ≠ unit 'k')) = true := by
    revert hr
    cases r <;> intro hr <;> first | exact absurd hr (by decide) | decide
  have hdecoded := hrt.ofAscii (Utf8.decode name) fun u hu => by
    rw [h] at hu
    simpa using List.all_eq_true.mp hkey u hu
  have hname : ∀ c ∈ name, c.toNat < 0x80 := by
    intro c hc
    by_contra hlarge
    obtain ⟨u, hu, hunit⟩ := Utf8.exists_mem_decode (not_lt.mp hlarge) hc
    exact absurd (hdecoded u hu) (by omega)
  rw [hrt.ascii _ hdecoded, Utf8.decode_ascii hname] at h
  exact reservedOf_iff.mpr h

/-- The TypeScript parser and a reading of the fields as they stand. -/
theorem Reading.OfFields.agree_typescript_iff {frame : Bytes} {a b : Reading} {t : ℕ}
    (ha : a.OfFields frame t) (hb : HeaderParser.Reads rt frame .typescript b) :
    a.Agree b ↔ PlainHeaders rt frame := by
  cases hb with
  | @typescript headers bodyOffset hextract =>
      obtain ⟨t', hfirst, rfl, hreads | ⟨hbom, -⟩⟩ := Typescript.extractHeaders_reads hextract
      · obtain rfl := ha.terminator.unique hfirst
        constructor
        · intro hagree t' ht' f hf r hr hname
          obtain rfl := hfirst.unique ht'
          have hvalue := hreads.value_of_mem hf
            (show Typescript.reservedHeaders.contains (Typescript.decodedField rt f).name = true by
              show Typescript.reservedHeaders.contains (rt.toLowerCase _) = true
              rw [hname]
              exact reservedHeaders_mapKey r)
          have htext := (ha.text r hr).symm.trans (hagree.text r hr)
          change _ = headers (mapKey r) at htext
          have hkey : (Typescript.decodedField rt f).name = mapKey r := hname
          rw [← hkey, hvalue, Option.map_eq_some_iff] at htext
          obtain ⟨value, hfield, hdecode⟩ := htext
          -- The field that the others take has the name, so it is this field.
          obtain ⟨g, hg, hreserved, rfl⟩ := exists_of_fieldValue hfield
          have hgname : (Typescript.decodedField rt g).name = mapKey r := by
            show rt.toLowerCase (Typescript.trim (Utf8.decode g.name)) = mapKey r
            rw [trim_of_reservedOf hreserved, toLowerCase_of_reservedOf hrt hreserved]
          obtain rfl : f = g := by
            refine hreads.eq_of_name hf hg ?_ (hkey.trans hgname.symm)
            rw [hkey]
            exact reservedHeaders_mapKey r
          exact ⟨trim_of_reservedOf hreserved, hdecode.symm⟩
        · intro hplain
          refine ⟨ha.bodyOffset, fun r hr => ?_⟩
          show a.text r = headers (mapKey r)
          rw [ha.text r hr]
          cases hfield : fieldValue r (blockFields (frame.take t)) with
          | some value =>
              obtain ⟨g, hg, hreserved, rfl⟩ := exists_of_fieldValue hfield
              have hgname : rt.toLowerCase (Typescript.trim (Utf8.decode g.name)) = mapKey r := by
                rw [trim_of_reservedOf hreserved, toLowerCase_of_reservedOf hrt hreserved]
              have hvalue := hreads.value_of_mem hg
                (show Typescript.reservedHeaders.contains (rt.toLowerCase _) = true by
                  rw [hgname]
                  exact reservedHeaders_mapKey r)
              change headers (rt.toLowerCase _) = some (Typescript.trim _) at hvalue
              rw [hgname, (hplain t hfirst g hg r hr hgname).value] at hvalue
              exact hvalue.symm
          | none =>
              symm
              by_contra hsome
              obtain ⟨value, hvalue⟩ := Option.ne_none_iff_exists'.mp hsome
              obtain ⟨f, hf, hname, -⟩ := hreads.exists_field hvalue
              have hlower : rt.toLowerCase (Typescript.trim (Utf8.decode f.name)) = mapKey r :=
                hname
              rw [(hplain t hfirst f hf r hr hname).name] at hlower
              exact fieldValue_eq_none_iff.mp hfield f hf
                ((toLowerCase_eq_mapKey_iff hrt hr).mp hlower)
      · obtain rfl := ha.terminator.unique hfirst
        obtain ⟨line, hline, hne, hcolon⟩ := hbom.exists_line
        exact absurd (ha.colons line hline hne) hcolon

end Runtime

theorem Reading.Agree.symm {a b : Reading} (h : a.Agree b) : b.Agree a :=
  ⟨h.bodyOffset.symm, fun r hr => (h.text r hr).symm⟩

theorem Reading.agree_comm {a b : Reading} : a.Agree b ↔ b.Agree a :=
  ⟨Agree.symm, Agree.symm⟩

/-- **When the parsers agree.**  Two parsers that accept a frame say the same of it, unless
one of them is the TypeScript parser and there is white space in the frame that it trims and
the other does not. -/
theorem HeaderParser.reads_agree_iff {rt : Typescript.Runtime} (hrt : LowersUnicode rt)
    {frame : Bytes} {p q : HeaderParser} {a b : Reading} (hp : p.Reads rt frame a)
    (hq : q.Reads rt frame b) (hne : p ≠ q) :
    a.Agree b ↔ (p = .typescript ∨ q = .typescript → PlainHeaders rt frame) := by
  have hbytes : ∀ {p : HeaderParser} {a : Reading}, p.Reads rt frame a → p ≠ .typescript →
      ∃ t, a.OfFields frame t := by
    intro p a h hnot
    cases p with
    | cpp => exact ofFields_cpp h
    | typescript => exact absurd rfl hnot
    | dotnet => exact ofFields_dotnet h
  by_cases hpts : p = .typescript
  · subst hpts
    obtain ⟨t, hb⟩ := hbytes hq (Ne.symm hne)
    rw [Reading.agree_comm, hb.agree_typescript_iff hrt hp]
    simp
  · obtain ⟨t, ha⟩ := hbytes hp hpts
    by_cases hqts : q = .typescript
    · subst hqts
      rw [ha.agree_typescript_iff hrt hq]
      simp
    · obtain ⟨t', hb⟩ := hbytes hq hqts
      simp only [hpts, hqts, or_self, false_implies, iff_true]
      exact ha.agree hb

/-! ### A blank before a name -/

/-- A runtime for ASCII letters. -/
def asciiLetters : Typescript.Runtime where
  toLowerCase := fun s => s.map lowerAscii

theorem lowersUnicode_asciiLetters : LowersUnicode asciiLetters where
  ascii := fun _ _ => rfl
  ofAscii := by
    intro s h u hu
    have hlow := (h _ (List.mem_map_of_mem (f := lowerAscii) hu)).1
    unfold lowerAscii at hlow
    split at hlow
    · rename_i hrange
      have hle : u.toNat ≤ 90 := UInt16.le_iff_toNat_le.mp hrange.2
      omega
    · exact hlow

/-- The name of the header has a blank before it. -/
def spacedFrame : Bytes := ascii " Event: culpeo.ping\r\n\r\n"

/-- The TypeScript parser finds an event in this frame, the C# parser finds none. -/
theorem exists_reads_spacedFrame : ∃ a b,
    HeaderParser.Reads asciiLetters spacedFrame .typescript a ∧
      HeaderParser.Reads asciiLetters spacedFrame .dotnet b ∧
      a.text .event = some (utf16 "culpeo.ping") ∧ b.text .event = none := by
  refine ⟨_, _, .typescript rfl, @HeaderParser.Reads.dotnet _ _ .control _ rfl, ?_, ?_⟩
  · decide
  · rfl

theorem reads_agree_iff_spacedFrame : ∃ a b,
    HeaderParser.Reads asciiLetters spacedFrame .typescript a ∧
      HeaderParser.Reads asciiLetters spacedFrame .dotnet b ∧
      (a.Agree b ↔ (HeaderParser.typescript = .typescript ∨ HeaderParser.dotnet = .typescript →
        PlainHeaders asciiLetters spacedFrame)) := by
  obtain ⟨a, b, ha, hb, -⟩ := exists_reads_spacedFrame
  exact ⟨a, b, ha, hb,
    HeaderParser.reads_agree_iff lowersUnicode_asciiLetters ha hb (by decide)⟩

theorem not_reads_agree : ¬ ∀ (rt : Typescript.Runtime) (frame : Bytes) (p q : HeaderParser)
    (a b : Reading), LowersUnicode rt → p.Reads rt frame a → q.Reads rt frame b → p ≠ q →
      a.Agree b := by
  intro h
  obtain ⟨a, b, ha, hb, hsome, hnone⟩ := exists_reads_spacedFrame
  have hagree := h asciiLetters spacedFrame .typescript .dotnet a b lowersUnicode_asciiLetters
    ha hb (by decide)
  have htext := hagree.text .event (by decide)
  rw [hsome, hnone] at htext
  cases htext

end CulpeoStream
