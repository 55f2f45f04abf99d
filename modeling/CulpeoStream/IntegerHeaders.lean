import CulpeoStream.HeaderParsers
import CulpeoStream.Session.Admission

/-!
# The integer headers

`Offset`, `Timestamp` and `Buffer-Window` are read with `parseInt` in TypeScript, with
`long.Parse` and `int.Parse` in C#, and with `parse_uint64` in the C++ session, which falls
back to its default.  Each of them reads a canonical numeral as the number it stands for, up
to the range of its type; but none of the components insists on a canonical numeral
(`integer_headers_exact_iff`).
-/

namespace CulpeoStream

open Message Search Utf16

/-- The number is written in the canonical form, and taken as it is written. -/
structure ReadExactly (written : Text) (used : ℤ) : Prop where
  canonical : Numeral.Canonical written
  value : used = Numeral.natValue written

theorem readExactly_iff {written : Text} {used : ℤ} {exact : Prop}
    (h : Numeral.Canonical written → (used = Numeral.natValue written ↔ exact)) :
    ReadExactly written used ↔ Numeral.Canonical written ∧ exact :=
  ⟨fun ⟨hcanonical, hvalue⟩ => ⟨hcanonical, (h hcanonical).mp hvalue⟩,
    fun ⟨hcanonical, hexact⟩ => ⟨hcanonical, (h hcanonical).mpr hexact⟩⟩

/-- The bytes before the first terminator. -/
def headerBlockOf (frame : Bytes) : Bytes := frame.take ((find crlfcrlf frame).getD 0)

theorem headerBlockOf_eq {frame : Bytes} {t : ℕ} (h : IsFirst crlfcrlf frame t) :
    headerBlockOf frame = frame.take t := by
  rw [headerBlockOf, find_eq_some_iff.mpr h, Option.getD_some]

/-! ### TypeScript -/

namespace Typescript

variable {J : Type}

/-- The numbers that the codec takes from the headers. -/
def Frame.number : Frame J → Reserved → Option ℤ
  | .media headers _, .offset => some headers.offset
  | .media headers _, .timestamp => headers.timestamp
  | .init headers _, .bufferWindow => headers.bufferWindow
  | .initAck headers _, .bufferWindow => headers.bufferWindow
  | _, _ => none

/-- The value that is written for a header, without `SP` and `HTAB` around it. -/
def written (rt : Runtime) (frame : Bytes) (r : Reserved) : Option Text :=
  ((blockFields (headerBlockOf frame)).find? fun field =>
    rt.toLowerCase (trim (Utf8.decode field.name)) = mapKey r).map fun field =>
      Utf8.decode field.value

theorem parseNumber_ok_some {headers : Headers} {name : Text} {n : ℤ}
    (h : parseNumber headers name = .ok (some n)) :
    ∃ value parsed, headers name = some value ∧ parseInt value = some parsed ∧
      n = Binary64.roundInt parsed := by
  unfold parseNumber at h
  split at h
  · cases h
  · rename_i value hvalue
    split at h
    · cases h
    · rename_i parsed hparsed
      split at h
      · cases h
      · cases h
        exact ⟨value, parsed, hvalue, hparsed, rfl⟩

/-- **The numbers of a frame** are those of its headers. -/
theorem parseBody_number {platform : Platform J} {headers : Headers} {body : Bytes}
    {frameType : TransportMessageType} {frame : Frame J} {r : Reserved} {n : ℤ}
    (h : parseBody platform headers body frameType = .ok frame)
    (hnumber : frame.number r = some n) : parseNumber headers (mapKey r) = .ok (some n) := by
  cases frameType with
  | binary =>
      change parseMediaFrame headers body = .ok frame at h
      unfold parseMediaFrame at h
      obtain ⟨offset, hoffset, h⟩ := Checks.exists_of_bind_ok h
      dsimp only at h
      split at h
      · rename_i streamId offset contentType hstream hcontent
        obtain ⟨timestamp, htimestamp, h⟩ := Checks.exists_of_bind_ok h
        cases h
        cases r <;> cases hnumber
        · exact hoffset
        · exact htimestamp
      · cases h
  | text =>
      obtain ⟨json, -, h⟩ := Checks.exists_of_bind_ok h
      unfold parseControlFrame at h
      split at h
      · cases h
      · split at h
        · obtain ⟨window, hwindow, h⟩ := Checks.exists_of_bind_ok h
          cases h
          cases r <;> cases hnumber
          exact hwindow
        · split at h
          · cases h
          · obtain ⟨window, hwindow, h⟩ := Checks.exists_of_bind_ok h
            cases h
            cases r <;> cases hnumber
            exact hwindow
        all_goals
          try split at h
          all_goals
            cases h
            try cases hnumber

theorem parseInt_canonical {t : Text} (h : Numeral.Canonical t) :
    parseInt t = some (Numeral.natValue t : ℤ) := by
  have hread := parseInt_stringOf (Numeral.natValue t)
  rwa [stringOf_natCast, Numeral.canonical_iff.mp h] at hread

/-- The `Map` has what is written, trimmed. -/
theorem headers_written {rt : Runtime} {limits : ParseLimits} {frame : Bytes} {t : ℕ}
    {headers : Headers} (hfirst : IsFirst crlfcrlf frame t)
    (hreads : Reads rt limits (frame.take t) headers) (r : Reserved) :
    headers (mapKey r) = (written rt frame r).map trim := by
  rw [written, headerBlockOf_eq hfirst]
  cases hfind : (blockFields (frame.take t)).find? fun field =>
      rt.toLowerCase (trim (Utf8.decode field.name)) = mapKey r with
  | none =>
      cases hvalue : headers (mapKey r) with
      | none => rfl
      | some value =>
          obtain ⟨f, hf, hname, -⟩ := hreads.exists_field hvalue
          exact absurd (decide_eq_true hname) (List.find?_eq_none.mp hfind f hf)
  | some g =>
      have hfound := List.find?_some hfind
      have hname : (decodedField rt g).name = mapKey r := of_decide_eq_true hfound
      have hkey : reservedHeaders.contains (decodedField rt g).name = true := by
        rw [hname]
        exact reservedHeaders_mapKey r
      have hvalue := hreads.value_of_mem (List.mem_of_find?_eq_some hfind) hkey
      rw [hname] at hvalue
      exact hvalue

theorem trim_canonical {v : Text} (h : Numeral.Canonical v) : trim v = v :=
  trim_of_notSpace fun u hu => (notSpace_of_isDigit (h.digits u hu)).1

/-- `parseInt` rounds, and `trim` leaves a numeral as it is. -/
theorem parseFrame_number {platform : Platform J} {input : FrameData}
    {frameType : TransportMessageType} {limits : ParseLimits} {frame : Frame J} {r : Reserved}
    {n : ℤ} (h : parseFrame platform input frameType limits = .ok frame)
    (hnumber : frame.number r = some n) :
    ∃ v, written platform.toRuntime input.toUint8Array r = some v ∧
      (ReadExactly v n ↔ Numeral.Canonical v ∧ Binary64.Representable (Numeral.natValue v)) := by
  obtain ⟨⟨headers, bodyOffset⟩, hextract, hbody⟩ := Checks.exists_of_bind_ok h
  obtain ⟨value, parsed, hvalue, hparsed, rfl⟩ :=
    parseNumber_ok_some (parseBody_number hbody hnumber)
  obtain ⟨t, hfirst, -, hreads | ⟨-, rfl⟩⟩ := extractHeaders_reads hextract
  · rw [headers_written hfirst hreads, Option.map_eq_some_iff] at hvalue
    obtain ⟨v, hwritten, rfl⟩ := hvalue
    refine ⟨v, hwritten, readExactly_iff fun hcanonical => ?_⟩
    rw [trim_canonical hcanonical, parseInt_canonical hcanonical, Option.some.injEq] at hparsed
    rw [← hparsed, Binary64.roundInt_natCast, Nat.cast_inj, Binary64.round_eq_self_iff]
  · cases hvalue

end Typescript

/-! ### C# -/

namespace Dotnet

/-- The numbers of a message. -/
def CulpeoMessage.number (m : CulpeoMessage) : Reserved → Option ℤ
  | .offset => m.offset.map Int64.toInt
  | .timestamp => m.timestamp.map Int64.toInt
  | .bufferWindow => m.bufferWindow.map Int32.toInt
  | _ => none

/-- The value that is written for a header, without `SP` and `HTAB` around it. -/
def written (frame : Bytes) (r : Reserved) : Option Text :=
  (fieldValue r (blockFields (headerBlockOf frame))).map Utf8.decode

theorem integerOf_canonical {t : Text} (h : Numeral.Canonical t) :
    integerOf t = some (Numeral.natValue t : ℤ) := by
  have hread := integerOf_decimalInt (Numeral.natValue t)
  have hnat : ((Numeral.natValue t : ℤ)).natAbs = Numeral.natValue t := Int.natAbs_natCast _
  rwa [Numeral.decimalInt, if_neg (by omega), hnat, Numeral.canonical_iff.mp h] at hread

/-- What is read as a number is the integer of the text. -/
theorem parseInteger_ok {bound : ℤ} {type decoded : Text} {n : ℤ}
    (h : parseInteger bound type decoded = .ok n) :
    integerOf decoded = some n ∧ -bound ≤ n ∧ n < bound := by
  unfold parseInteger at h
  split at h
  · cases h
  · rename_i k hk
    split at h
    · rename_i hrange
      cases h
      exact ⟨hk, hrange⟩
    · cases h

theorem parseLong_ok {decoded : Text} {n : Int64} (h : parseLong decoded = .ok n) :
    integerOf decoded = some n.toInt := by
  unfold parseLong at h
  cases hparsed : parseInteger (2 ^ 63) (utf16 "Int64") decoded with
  | error e =>
      rw [hparsed] at h
      cases h
  | ok k =>
      rw [hparsed] at h
      cases h
      obtain ⟨hk, hlower, hupper⟩ := parseInteger_ok hparsed
      rw [hk, Int64.toInt_ofInt_of_le hlower hupper]

theorem parseInt_ok {decoded : Text} {n : Int32} (h : parseInt decoded = .ok n) :
    integerOf decoded = some n.toInt := by
  unfold parseInt at h
  cases hparsed : parseInteger (2 ^ 31) (utf16 "Int32") decoded with
  | error e =>
      rw [hparsed] at h
      cases h
  | ok k =>
      rw [hparsed] at h
      cases h
      obtain ⟨hk, hlower, hupper⟩ := parseInteger_ok hparsed
      rw [hk, Int32.toInt_ofInt_of_le hlower hupper]

theorem CulpeoMessage.ReadsAs.number {m : CulpeoMessage} {decoded : Text} {r : Reserved} {n : ℤ}
    (h : m.ReadsAs decoded r) (hnumber : m.number r = some n) : integerOf decoded = some n := by
  cases r <;> simp only [CulpeoMessage.number, reduceCtorEq] at hnumber
  case offset | timestamp =>
    obtain ⟨k, hk, hm⟩ := h
    rw [hm, Option.map_some, Option.some.injEq] at hnumber
    rw [← hnumber]
    exact parseLong_ok hk
  case bufferWindow =>
    obtain ⟨k, hk, hm⟩ := h
    rw [hm, Option.map_some, Option.some.injEq] at hnumber
    rw [← hnumber]
    exact parseInt_ok hk

/-- A number is there only if its text is. -/
theorem CulpeoMessage.headerValue_of_number {m : CulpeoMessage} {r : Reserved} {n : ℤ}
    (hnumber : m.number r = some n) : m.headerValue r ≠ none := by
  cases r <;> simp only [CulpeoMessage.number, reduceCtorEq] at hnumber <;>
    · obtain ⟨k, hk, -⟩ := Option.map_eq_some_iff.mp hnumber
      simp [CulpeoMessage.headerValue, hk]

/-- `long.Parse` and `int.Parse` read a numeral in range exactly. -/
theorem parseAsync_number {limits : ParseLimits} {frame : Bytes} {kind : CulpeoMessageKind}
    {m : CulpeoMessage} {r : Reserved} {n : ℤ} (h : parseAsync limits frame kind = .ok m)
    (hnumber : m.number r = some n) :
    ∃ v, written frame r = some v ∧ (ReadExactly v n ↔ Numeral.Canonical v) := by
  obtain ⟨t, hfirst, -, -, hheaders, -⟩ := parseAsync_headers h
  have hr := hheaders r
  rw [written, headerBlockOf_eq hfirst]
  revert hr
  cases fieldValue r (blockFields (frame.take t)) with
  | none => exact fun hnone => absurd hnone (CulpeoMessage.headerValue_of_number hnumber)
  | some value =>
      intro hreads
      have hread := hreads.number hnumber
      refine ⟨_, rfl, fun hexact => hexact.canonical, fun hcanonical => ⟨hcanonical, ?_⟩⟩
      rw [integerOf_canonical hcanonical, Option.some.injEq] at hread
      exact hread.symm

end Dotnet

/-! ### The C++ session -/

namespace Session

theorem handleFresh_window {setup : Setup} {amb : Ambient} {f : ParsedHeadersView}
    {decls : List StreamDeclaration} {version : Bytes} {registry : StreamRegistry}
    {e : Establishment} (h : handleFresh setup amb f decls version registry = .ok e) :
    e.bufferWindowMs = negotiateBufferWindow setup.config f.bufferWindow := by
  rw [handleFresh] at h
  split at h
  · cases h
  · split at h
    · cases h
    · split at h
      · cases h
      · cases h
        rfl

theorem handleResumption_window {setup : Setup} {amb : Ambient} {f : ParsedHeadersView}
    {sid : Bytes} {decls : List StreamDeclaration} {version : Bytes} {registry : StreamRegistry}
    {e : Establishment}
    (h : handleResumption setup amb f sid decls version registry = .ok e) :
    e.bufferWindowMs = negotiateBufferWindow setup.config f.bufferWindow := by
  unfold handleResumption at h
  repeat' split at h
  all_goals
    cases h
    try rfl

/-- The window of a session that the decision has established. -/
theorem decided_window {setup : Setup} {amb : Ambient} {f : ParsedHeadersView} {bodyJson : Json}
    {version : Bytes} {s : Impl}
    (hest : (decided setup amb f bodyJson version s).state = .established) :
    (decided setup amb f bodyJson version s).negotiatedBufferWindowMs =
      negotiateBufferWindow setup.config f.bufferWindow := by
  unfold decided completeInit at *
  cases hdecls : parseDeclarations bodyJson with
  | error r => simp [hdecls, exec_rejectInit] at hest
  | ok decls =>
      simp only [hdecls] at hest ⊢
      cases hsid : f.sessionId with
      | some sid =>
          simp only [hsid] at hest
          cases hresume : handleResumption setup amb f sid decls version s.registry with
          | error r => simp [hresume, exec_rejectInit] at hest
          | ok e =>
              simp only [hresume, finalizeEstablished, exec_reply]
              exact handleResumption_window hresume
      | none =>
          simp only [hsid] at hest
          cases hhandle : handleFresh setup amb f decls version s.registry with
          | error refusal => simp [hhandle, exec_rejectInit] at hest
          | ok e =>
              simp only [finalizeEstablished, exec_reply]
              exact handleFresh_window hhandle

/-- A canonical numeral of bytes is what `std::to_string` writes. -/
theorem eq_decimal_of_canonical {v : Bytes} (h : Numeral.Canonical (Utf8.decode v)) :
    v = decimal (Numeral.natValue (Utf8.decode v)) := by
  have hascii : ∀ c ∈ v, c.toNat < 0x80 := by
    intro c hc
    by_contra hlarge
    obtain ⟨u, hu, hunit⟩ := Utf8.exists_mem_decode (not_lt.mp hlarge) hc
    have hdigit := (Numeral.isDigit_iff u).mp (h.digits u hu)
    omega
  have htext := Numeral.canonical_iff.mp h
  generalize Numeral.natValue (Utf8.decode v) = n at htext
  rw [Utf8.decode_ascii hascii] at htext
  have hbytes := congrArg (List.map UInt16.toUInt8) htext
  rw [List.map_map] at hbytes
  have hid : v.map (UInt16.toUInt8 ∘ UInt8.toUInt16) = v := by
    conv_rhs => rw [← List.map_id v]
    exact List.map_congr_left fun c _ => UInt8.toNat_inj.mp (by simp)
  rw [hid, Numeral.decimal, List.map_map] at hbytes
  rw [← hbytes, decimal]
  refine List.map_congr_left fun d hd => ?_
  have hlt := Decimal.digits_lt_ten hd
  interval_cases d <;> rfl

/-- A window in canonical form is used if it fits into 64 bits. -/
theorem negotiateBufferWindow_decimal (config : SessionConfig) (n : ℕ) :
    (negotiateBufferWindow config (some (decimal n))).toNat =
        min n config.maxBufferWindowMs.toNat ↔
      (n < 2 ^ 64 ∨ config.defaultBufferWindowMs = config.maxBufferWindowMs) := by
  have hmax := config.maxBufferWindowMs.toNat_lt
  by_cases hn : n < 2 ^ 64
  · have hnat : (UInt64.ofNat n).toNat = n := UInt64.toNat_ofNat_of_lt' hn
    have hparse : parseUint64 (decimal n) = .ok (UInt64.ofNat n) := by
      rw [parseUint64_ok_iff, hnat]
    have hcap : (config.maxBufferWindowMs.toUInt64).toNat = config.maxBufferWindowMs.toNat :=
      UInt32.toNat_toUInt64 _
    simp only [hn, true_or, iff_true]
    have hmin : min (UInt64.ofNat n) config.maxBufferWindowMs.toUInt64 =
        if UInt64.ofNat n ≤ config.maxBufferWindowMs.toUInt64 then UInt64.ofNat n
        else config.maxBufferWindowMs.toUInt64 := rfl
    rw [negotiateBufferWindow]
    simp only [hparse, hmin]
    by_cases hle : UInt64.ofNat n ≤ config.maxBufferWindowMs.toUInt64
    · have hle' := UInt64.le_iff_toNat_le.mp hle
      rw [if_pos hle, UInt64.toNat_toUInt32, hnat]
      rw [hnat, hcap] at hle'
      omega
    · have hgt : ¬ n ≤ config.maxBufferWindowMs.toNat := by
        rw [UInt64.le_iff_toNat_le, hnat, hcap] at hle
        exact hle
      rw [if_neg hle, UInt64.toNat_toUInt32, hcap]
      omega
  · have hparse : parseUint64 (decimal n) = .error .protocolError := by
      rw [parseUint64, fromCharsU64_decimal_of_le (not_lt.mp hn)]
      simp only [ite_self]
    rw [negotiateBufferWindow]
    simp only [hparse, hn, false_or]
    rw [← UInt32.toNat_inj]
    omega

theorem negotiateBufferWindow_canonical (config : SessionConfig) {v : Bytes}
    (h : Numeral.Canonical (Utf8.decode v)) :
    ((negotiateBufferWindow config (some v)).toNat =
        min (Numeral.natValue (Utf8.decode v)) config.maxBufferWindowMs.toNat) ↔
      (Numeral.natValue (Utf8.decode v) < 2 ^ 64 ∨
        config.defaultBufferWindowMs = config.maxBufferWindowMs) := by
  have hv := eq_decimal_of_canonical h
  generalize Numeral.natValue (Utf8.decode v) = n at hv
  subst hv
  exact negotiateBufferWindow_decimal config n

/-- The window of a session that accepts an init. -/
theorem act_window {setup : Setup} {turn : Turn} {f : ParsedHeadersView}
    (hcall : turn.invocation.call = .processControlFrame f)
    (hinit : turn.invocation.call.DeliversInit) {s : Impl}
    (haccept : (turn.act setup s).state.state = .established) :
    (turn.act setup s).state.negotiatedBufferWindowMs =
      negotiateBufferWindow setup.config f.bufferWindow := by
  rcases act_init hcall hinit s with ⟨bodyJson, version, -, hstate⟩ | ⟨-, hnot⟩
  · rw [hstate] at haccept ⊢
    exact decided_window haccept
  · exact absurd haccept hnot

/-- **The buffer window of an accepted init.**  The window that the client writes is used, up
to the largest one, when it is a canonical numeral that fits; anything else is passed over. -/
theorem act_init_window {setup : Setup} {turn : Turn} {f : ParsedHeadersView}
    (hcall : turn.invocation.call = .processControlFrame f)
    (hinit : turn.invocation.call.DeliversInit) {s : Impl}
    (haccept : (turn.act setup s).state.state = .established) {v : Bytes}
    (hv : f.bufferWindow = some v) :
    (∃ n, ReadExactly (Utf8.decode v) n ∧
        ((turn.act setup s).state.negotiatedBufferWindowMs.toNat : ℤ) =
          min n setup.config.maxBufferWindowMs.toNat) ↔
      Numeral.Canonical (Utf8.decode v) ∧
        (Numeral.natValue (Utf8.decode v) < 2 ^ 64 ∨
          setup.config.defaultBufferWindowMs = setup.config.maxBufferWindowMs) := by
  rw [act_window hcall hinit haccept, hv]
  constructor
  · rintro ⟨n, ⟨hcanonical, rfl⟩, hmin⟩
    refine ⟨hcanonical, (negotiateBufferWindow_canonical _ hcanonical).mp ?_⟩
    exact_mod_cast hmin
  · rintro ⟨hcanonical, hfits⟩
    refine ⟨_, ⟨hcanonical, rfl⟩, ?_⟩
    exact_mod_cast (negotiateBufferWindow_canonical _ hcanonical).mpr hfits

end Session

/-! ### All components -/

/-- **The numbers that are used.**  A number of an accepted frame was written in the canonical
form and is used as it was written exactly when: in TypeScript, the header value is canonical
and a double can represent it; in C#, it is canonical; in the C++ session, it is canonical and
fits into 64 bits, or the window that is used instead happens to be the largest one. -/
theorem integer_headers_exact_iff {J : Type} (platform : Typescript.Platform J)
    (input : Typescript.FrameData) (frameType : Typescript.TransportMessageType)
    (parseLimits : Typescript.ParseLimits) (limits : Dotnet.ParseLimits) (bytes : Bytes)
    (kind : Dotnet.CulpeoMessageKind) (setup : Session.Setup) (turn : Session.Turn)
    (f : ParsedHeadersView) (s : Session.Impl) :
    (∀ (frame : Typescript.Frame J) (r : Reserved) (n : ℤ),
      Typescript.parseFrame platform input frameType parseLimits = .ok frame →
      frame.number r = some n →
      ∃ v, Typescript.written platform.toRuntime input.toUint8Array r = some v ∧
        (ReadExactly v n ↔
          Numeral.Canonical v ∧ Binary64.Representable (Numeral.natValue v))) ∧
    (∀ (m : Dotnet.CulpeoMessage) (r : Reserved) (n : ℤ),
      Dotnet.parseAsync limits bytes kind = .ok m → m.number r = some n →
      ∃ v, Dotnet.written bytes r = some v ∧ (ReadExactly v n ↔ Numeral.Canonical v)) ∧
    ∀ v : Bytes, turn.invocation.call = .processControlFrame f →
      turn.invocation.call.DeliversInit → (turn.act setup s).state.state = .established →
      f.bufferWindow = some v →
      ((∃ n, ReadExactly (Utf8.decode v) n ∧
          ((turn.act setup s).state.negotiatedBufferWindowMs.toNat : ℤ) =
            min n setup.config.maxBufferWindowMs.toNat) ↔
        Numeral.Canonical (Utf8.decode v) ∧
          (Numeral.natValue (Utf8.decode v) < 2 ^ 64 ∨
            setup.config.defaultBufferWindowMs = setup.config.maxBufferWindowMs)) :=
  ⟨fun _ _ _ hparse hnumber => Typescript.parseFrame_number hparse hnumber,
    fun _ _ _ hparse hnumber => Dotnet.parseAsync_number hparse hnumber,
    fun _ hcall hinit haccept hv => Session.act_init_window hcall hinit haccept hv⟩

/-! ### Numbers that are not numerals -/

/-- A runtime for ASCII letters, with one JSON value. -/
def asciiPlatform : Typescript.Platform Unit where
  toLowerCase := fun s => s.map lowerAscii
  jsonStringify := fun _ => []
  jsonParse := fun _ => some ()
  isJsonObject := fun _ => true

def trailingFrame : Bytes :=
  ascii "Stream-Id: s\r\nOffset: 12abc\r\nContent-Type: x\r\n\r\n"

def plusFrame : Bytes := ascii "Offset: +5\r\n\r\n"

/-- An init that asks for a window in words. -/
def wordyInit : ParsedHeadersView :=
  { Session.controlFrame (ascii "culpeo.init")
      (Session.exampleInitBody (ascii "input") (ascii "message")) with
    bufferWindow := some (ascii "abc") }

def wordyTurn : Session.Turn where
  invocation :=
    { call := .processControlFrame wordyInit, ambient := { draw := fun _ => some fun _ => 0x2a } }

def wordySetup : Session.Setup := Session.exampleSetup (ascii "input") (ascii "message")

theorem wordyTurn_established :
    (wordyTurn.act wordySetup (Session.Impl.initial wordySetup)).state.state = .established := by
  decide +kernel

theorem parseFrame_trailing :
    Typescript.parseFrame asciiPlatform (.binary trailingFrame) .binary {} = .ok (.media
      { streamId := utf16 "s", offset := 12, contentType := utf16 "x", timestamp := none } []) := by
  obtain ⟨headers, bodyOffset, hextract, hstream, hoffset, hcontent, htimestamp, hbody⟩ :
      ∃ headers bodyOffset, Typescript.extractHeaders asciiPlatform.toRuntime trailingFrame {} =
          .ok (headers, bodyOffset) ∧
        headers (utf16 "stream-id") = some (utf16 "s") ∧
        headers (utf16 "offset") = some (utf16 "12abc") ∧
        headers (utf16 "content-type") = some (utf16 "x") ∧
        headers (utf16 "timestamp") = none ∧ trailingFrame.drop bodyOffset = [] :=
    ⟨_, _, rfl, rfl, rfl, rfl, rfl, rfl⟩
  have hread : Typescript.parseNumber headers (utf16 "offset") = .ok (some 12) :=
    Typescript.parseNumber_of_parseInt hoffset (by decide) (by norm_num)
  have habsent : Typescript.parseNumber headers (utf16 "timestamp") = .ok none := by
    rw [Typescript.parseNumber, htimestamp]
  unfold Typescript.parseFrame
  simp only [Typescript.FrameData.toUint8Array, hextract]
  show Typescript.parseMediaFrame headers (trailingFrame.drop bodyOffset) = _
  rw [hbody, Typescript.parseMediaFrame, hread, hstream, hcontent]
  show (Typescript.parseNumber headers (utf16 "timestamp") >>= _) = _
  rw [habsent]
  rfl

theorem parseAsync_plus :
    Dotnet.parseAsync {} plusFrame .media = .ok { kind := .media, offset := some 5 } := by
  rfl

theorem integer_headers_exact_iff_examples :
    (∃ v, Typescript.written asciiPlatform.toRuntime trailingFrame .offset = some v ∧
      (ReadExactly v 12 ↔
        Numeral.Canonical v ∧ Binary64.Representable (Numeral.natValue v))) ∧
    (∃ v, Dotnet.written plusFrame .offset = some v ∧
      (ReadExactly v 5 ↔ Numeral.Canonical v)) ∧
    ((∃ n, ReadExactly (Utf8.decode (ascii "abc")) n ∧
        ((wordyTurn.act wordySetup
          (Session.Impl.initial wordySetup)).state.negotiatedBufferWindowMs.toNat : ℤ) =
            min n wordySetup.config.maxBufferWindowMs.toNat) ↔
      Numeral.Canonical (Utf8.decode (ascii "abc")) ∧
        (Numeral.natValue (Utf8.decode (ascii "abc")) < 2 ^ 64 ∨
          wordySetup.config.defaultBufferWindowMs = wordySetup.config.maxBufferWindowMs)) :=
  have hexact := integer_headers_exact_iff asciiPlatform (.binary trailingFrame) .binary {} {}
    plusFrame .media wordySetup wordyTurn wordyInit (Session.Impl.initial wordySetup)
  ⟨hexact.1 _ .offset 12 parseFrame_trailing rfl, hexact.2.1 _ .offset 5 parseAsync_plus rfl,
    hexact.2.2 (ascii "abc") rfl (by decide) wordyTurn_established rfl⟩

/-- **The components take numbers that are not in the canonical form**: TypeScript an offset
`12abc`, C# an offset `+5`, and the C++ session an init with a window `abc`. -/
theorem integer_headers_inexact :
    (∃ frame n v,
      Typescript.parseFrame asciiPlatform (.binary trailingFrame) .binary {} = .ok frame ∧
      frame.number .offset = some n ∧
      Typescript.written asciiPlatform.toRuntime trailingFrame .offset = some v ∧
      ¬ ReadExactly v n) ∧
    (∃ m n v, Dotnet.parseAsync {} plusFrame .media = .ok m ∧ m.number .offset = some n ∧
      Dotnet.written plusFrame .offset = some v ∧ ¬ ReadExactly v n) ∧
    (wordyTurn.act wordySetup (Session.Impl.initial wordySetup)).state.state = .established ∧
      wordyInit.bufferWindow = some (ascii "abc") ∧
      ¬ ∃ n, ReadExactly (Utf8.decode (ascii "abc")) n := by
  have hnot : ∀ {t : Text} {n : ℤ}, t.all Numeral.isDigit = false → ¬ ReadExactly t n := by
    rintro t n hall ⟨hcanonical, -⟩
    rw [List.all_eq_true.mpr hcanonical.digits] at hall
    cases hall
  refine ⟨⟨_, 12, utf16 "12abc", parseFrame_trailing, rfl, by decide, hnot (by decide)⟩,
    ⟨_, 5, utf16 "+5", parseAsync_plus, rfl, by decide, hnot (by decide)⟩,
    wordyTurn_established, rfl, ?_⟩
  rintro ⟨n, hexact⟩
  exact hnot (by decide) hexact

end CulpeoStream
