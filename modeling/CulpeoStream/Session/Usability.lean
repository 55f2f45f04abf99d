import CulpeoStream.Session.Accounting
import CulpeoStream.Session.Admission

/-!
# Streams that can be used

A stream is confirmed by the checks on its declaration; a media frame on it has to pass the
comparison of content types and the advance of the offset.  `Usable` is what the latter two
ask of a stream, and `acceptMedia_isOk_iff` says that they ask nothing else of a frame that
fits the stream in every respect (`MediaFor`).

The checks on a declaration do not include them.  `streams_declared` traces the streams of a
session that was not resumed to the declarations of its init, and
`confirmed_stream_usable_iff` puts the two together.
-/

namespace CulpeoStream.Session

open Message Resumption History

/-! ### Content types -/

theorem iequalsAscii_self (value : Bytes) : iequalsAscii value value = true := by
  simp [iequalsAscii]

/-- A content type matches itself when it can be read at all. -/
theorem contentTypeMatches_self (ct : Bytes) :
    contentTypeMatches ct ct = (ctParse ct).isSome := by
  unfold contentTypeMatches
  cases ctParse ct with
  | none => rfl
  | some parsed =>
      obtain ⟨typeSubtype, params⟩ := parsed
      simp only [iequalsAscii_self, beq_self_eq_true, Bool.true_and, Option.isSome_some,
        List.all_eq_true, List.any_eq_true]
      intro d hd
      exact ⟨d, hd, by rw [iequalsAscii_self, beq_self_eq_true, Bool.true_and]⟩

/-! ### Increments -/

/-- PCM parameters by which a frame can be measured. -/
def PcmParams.Usable (params : PcmParams) : Prop :=
  params.channels ≠ 0 ∧ params.bits ≠ 0 ∧ params.bits % 8 = 0

/-- The bytes of a sample over all channels are not zero: sixteen bits times thirteen
cannot wrap around. -/
theorem bytesPerFrameSample_ne_zero {params : PcmParams} (h : params.Usable) :
    params.channels.toUInt64 * (params.bits.toUInt32 / 8).toUInt64 ≠ 0 := by
  obtain ⟨hchannels, hbits, haligned⟩ := h
  intro hzero
  have hproduct := congrArg UInt64.toNat hzero
  have hmultiple := congrArg UInt16.toNat haligned
  simp at hproduct hmultiple
  have hc := params.channels.toNat_lt
  have hb := params.bits.toNat_lt
  have hc0 : params.channels.toNat ≠ 0 := fun h => hchannels (UInt16.toNat_inj.mp h)
  have hb0 : params.bits.toNat ≠ 0 := fun h => hbits (UInt16.toNat_inj.mp h)
  have hsmall : params.channels.toNat * (params.bits.toNat / 8) < 18446744073709551616 := by
    calc params.channels.toNat * (params.bits.toNat / 8)
        ≤ 2 ^ 16 * 2 ^ 16 := Nat.mul_le_mul (by omega) (by omega)
      _ < 18446744073709551616 := by decide
  rw [Nat.mod_eq_of_lt hsmall] at hproduct
  rcases Nat.mul_eq_zero.mp hproduct with h | h <;> omega

theorem computePcmIncrement_isOk_iff (frameBytes : UInt64) (params : PcmParams) :
    (∃ n, computePcmIncrement frameBytes params = .ok n) ↔ params.Usable := by
  constructor
  · rintro ⟨n, h⟩
    unfold computePcmIncrement at h
    split at h
    · cases h
    · rename_i hzero
      split at h
      · cases h
      · exact ⟨(not_or.mp hzero).1, (not_or.mp hzero).2, not_not.mp ‹_›⟩
  · intro h
    have hstride := bytesPerFrameSample_ne_zero h
    obtain ⟨hchannels, hbits, haligned⟩ := h
    unfold computePcmIncrement
    rw [if_neg (not_or.mpr ⟨hchannels, hbits⟩), if_neg (not_not.mpr haligned)]
    simp only [hstride, if_false]
    exact ⟨_, rfl⟩

/-- What the checks on media frames ask of a stream: its content type can be read, and time
can be measured on it when that is how its offset counts. -/
def StreamInfo.Usable (info : StreamInfo) : Prop :=
  (ctParse info.contentType).isSome = true ∧
    (info.offsetType = .time → ∃ params, info.pcmParams = some params ∧ params.Usable)

theorem frameIncrement_isOk_iff (info : StreamInfo) (frameBytes : UInt64) :
    (∃ n, frameIncrement info frameBytes = .ok n) ↔
      (info.offsetType = .time → ∃ params, info.pcmParams = some params ∧ params.Usable) := by
  unfold frameIncrement
  cases info.offsetType with
  | time =>
      cases info.pcmParams with
      | none => simp
      | some params => simp [computePcmIncrement_isOk_iff]
  | byte => simp
  | message => simp

/-- An advance that does not overflow fails only when the increment cannot be told. -/
theorem advanceOffset_isOk_iff {info : StreamInfo} {body : Bytes}
    (hroom : info.offset.toNat + increment info body < 2 ^ 64) :
    (∃ advanced, advanceOffset info body.length.toUInt64 = .ok advanced) ↔
      ∃ n, frameIncrement info body.length.toUInt64 = .ok n := by
  unfold advanceOffset
  cases hinc : frameIncrement info body.length.toUInt64 with
  | error e => simp
  | ok n =>
      have hle : info.offset ≤ 0xFFFFFFFFFFFFFFFF := by
        have hoff := info.offset.toNat_lt
        rw [UInt64.le_iff_toNat_le, show (0xFFFFFFFFFFFFFFFF : UInt64).toNat = 2 ^ 64 - 1 by decide]
        omega
      have hguard : ¬ 0xFFFFFFFFFFFFFFFF - info.offset < n := by
        simp only [increment, hinc] at hroom
        rw [UInt64.lt_iff_toNat_lt, UInt64.toNat_sub_of_le _ _ hle,
          show (0xFFFFFFFFFFFFFFFF : UInt64).toNat = 2 ^ 64 - 1 by decide]
        omega
      simp [hguard]

/-! ### Frames that fit their stream -/

/-- A media frame that a client has every reason to send on a stream: it names the stream,
repeats its content type, carries its current offset and no timestamp. -/
structure MediaFor (f : ParsedHeadersView) (id : Bytes) (info : StreamInfo) : Prop where
  frameType : f.frameType = .media
  streamId : f.streamId = some id
  contentType : f.contentType = some info.contentType
  offset : offsetOf f.offset = some info.offset.toNat
  timestamp : f.timestamp = none

section Frames

variable {f : ParsedHeadersView} {id : Bytes} {info : StreamInfo} {registry : StreamRegistry}

theorem MediaFor.offset_text (h : MediaFor f id info) :
    ∃ text, f.offset = some text ∧ parseUint64 text = .ok info.offset := by
  have hoffset := h.offset
  cases htext : f.offset with
  | none =>
      rw [htext] at hoffset
      cases hoffset
  | some text =>
      rw [htext, offsetOf, Option.bind_some] at hoffset
      refine ⟨text, rfl, ?_⟩
      cases hparse : parseUint64 text with
      | error e =>
          rw [hparse] at hoffset
          cases hoffset
      | ok n =>
          rw [hparse] at hoffset
          rw [UInt64.toNat_inj.mp (Option.some.inj hoffset)]

/-- **A frame that fits its stream is accepted when the stream is usable.** -/
theorem acceptMedia_isOk_iff (hfind : registry.find id = some info)
    (hdir : info.direction ≠ .output) (hf : MediaFor f id info)
    (hroom : info.offset.toNat + increment info f.body < 2 ^ 64) :
    (∃ accepted, acceptMedia registry f = .ok accepted) ↔ info.Usable := by
  obtain ⟨text, htext, hparse⟩ := hf.offset_text
  have hsend : registry.validateClientSend id = .ok info := by
    simp only [StreamRegistry.validateClientSend, hfind, if_neg hdir]
  have hadvance := (advanceOffset_isOk_iff hroom).trans
    (frameIncrement_isOk_iff info f.body.length.toUInt64)
  rw [StreamInfo.Usable, ← hadvance, ← contentTypeMatches_self]
  unfold acceptMedia
  rw [hf.streamId, hf.contentType, hf.timestamp, htext]
  simp only [required, faulty, hsend, hparse, checkOffset, checkContentType, parseTimestamp, ne_eq,
    not_true_eq_false, if_false, bind, Except.bind]
  cases contentTypeMatches info.contentType info.contentType with
  | false => simp
  | true =>
      simp only [if_true, true_and]
      cases advanceOffset info f.body.length.toUInt64 with
      | error e => simp
      | ok advanced => simp [pure, Except.pure]

/-- `process_media_frame` of an established session succeeds when the frame is accepted. -/
theorem perform_media_ok_iff {setup : Setup} {inv : Invocation} {s : Impl}
    (hcall : inv.call = .processMediaFrame f) (htype : f.frameType = .media)
    (hstate : s.state = .established) (answers : ℕ → Bool) :
    (perform setup inv answers s).result = .ok () ↔
      ∃ accepted, acceptMedia s.registry f = .ok accepted := by
  have hopen : s.state ≠ .uninitialized := by rw [hstate]; decide
  rw [perform, enter, hcall]
  simp only
  rw [processMediaFrame, if_neg (not_not.mpr htype), if_neg hopen, if_neg (not_not.mpr hstate)]
  cases acceptMedia s.registry f with
  | error fault => simp [exec_abort]
  | ok accepted =>
      obtain ⟨stream, timestampUs⟩ := accepted
      simp only [← deliver.eq_1, exec_deliver, Except.ok.injEq, exists_eq']

end Frames

/-! ### Where the streams come from -/

/-- The stream is the one registered for the declaration, with its offset moved. -/
def StreamInfo.RegisteredFor (info : StreamInfo) (decl : StreamDeclaration) : Prop :=
  ∃ id offset, info = { StreamRegistry.infoOfDeclaration decl id with offset := offset }

/-- The declaration asks for a stream that can be used. -/
def StreamDeclaration.Usable (decl : StreamDeclaration) : Prop :=
  (ctParse decl.contentType).isSome = true ∧
    (decl.offsetType = some .time →
      ∃ pcm, parseContentType decl.contentType = .ok (.audioPcm pcm))

theorem pcmUsable_of_finish {p : PcmParameters} {pcm : AudioPcmContentType}
    (h : p.finish = .ok (.audioPcm pcm)) :
    PcmParams.Usable { rate := pcm.rate, channels := pcm.channels, bits := pcm.bits } := by
  unfold PcmParameters.finish at h
  split at h
  · split at h
    · cases h
    · rename_i hchannels
      split at h
      · cases h
      · rename_i hbits
        cases h
        exact ⟨hchannels, (not_or.mp hbits).1, not_not.mp (not_or.mp hbits).2⟩
  · cases h

/-- The PCM parameters that `parse_content_type` lets through can be used. -/
theorem pcmUsable_of_parseContentType {ct : Bytes} {pcm : AudioPcmContentType}
    (h : parseContentType ct = .ok (.audioPcm pcm)) :
    PcmParams.Usable { rate := pcm.rate, channels := pcm.channels, bits := pcm.bits } := by
  unfold parseContentType at h
  simp only at h
  repeat' split at h
  all_goals first
    | cases h
    | exact pcmUsable_of_finish h

theorem StreamInfo.RegisteredFor.usable_iff {info : StreamInfo} {decl : StreamDeclaration}
    (h : info.RegisteredFor decl) : info.Usable ↔ decl.Usable := by
  obtain ⟨id, offset, rfl⟩ := h
  have htype : (StreamRegistry.infoOfDeclaration decl id).offsetType = .time ↔
      decl.offsetType = some .time := by
    cases hot : decl.offsetType with
    | none => simp [StreamRegistry.infoOfDeclaration, hot]
    | some offsetType => simp [StreamRegistry.infoOfDeclaration, hot]
  have hpcm : (∃ params, (StreamRegistry.infoOfDeclaration decl id).pcmParams = some params ∧
      params.Usable) ↔ ∃ pcm, parseContentType decl.contentType = .ok (.audioPcm pcm) := by
    simp only [StreamRegistry.infoOfDeclaration]
    constructor
    · rintro ⟨params, hparams, -⟩
      split at hparams
      · exact ⟨_, ‹_›⟩
      · cases hparams
    · rintro ⟨pcm, hparse⟩
      rw [hparse]
      exact ⟨_, rfl, pcmUsable_of_parseContentType hparse⟩
  rw [StreamInfo.Usable, StreamDeclaration.Usable, ← htype, ← hpcm]
  rfl

theorem handleFresh_registry {setup : Setup} {amb : Ambient} {f : ParsedHeadersView}
    {decls : List StreamDeclaration} {version : Bytes} {registry : StreamRegistry}
    {e : Establishment} (h : handleFresh setup amb f decls version registry = .ok e) :
    e.registry = (registry.registerFromDeclarations amb decls).2 := by
  rw [handleFresh] at h
  split at h
  · cases h
  · split at h
    · cases h
    · rename_i hregister
      split at h
      · cases h
      · cases h
        rw [hregister]

theorem handleResumption_resumes {setup : Setup} {amb : Ambient} {f : ParsedHeadersView}
    {sid : Bytes} {decls : List StreamDeclaration} {version : Bytes} {registry : StreamRegistry}
    {e : Establishment}
    (h : handleResumption setup amb f sid decls version registry = .ok e) :
    e.resumption = true := by
  unfold handleResumption at h
  repeat' split at h
  all_goals
    cases h
    try rfl

/-- The streams of a session that the decision has established afresh. -/
theorem decided_streams {setup : Setup} {amb : Ambient} {f : ParsedHeadersView} {bodyJson : Json}
    {version : Bytes} {s : Impl}
    (hest : (decided setup amb f bodyJson version s).state = .established)
    (hfresh : (decided setup amb f bodyJson version s).isResumedSession = false) :
    ∃ decls, parseDeclarations bodyJson = .ok decls ∧
      ∀ stream ∈ (decided setup amb f bodyJson version s).registry.streams,
        ∃ decl ∈ decls, stream.RegisteredFor decl := by
  unfold decided completeInit at *
  cases hdecls : parseDeclarations bodyJson with
  | error r => simp [hdecls, exec_rejectInit] at hest
  | ok decls =>
      refine ⟨decls, rfl, ?_⟩
      simp only [hdecls] at hest hfresh ⊢
      cases hsid : f.sessionId with
      | some sid =>
          simp only [hsid] at hest hfresh
          cases hresume : handleResumption setup amb f sid decls version s.registry with
          | error r => simp [hresume, exec_rejectInit] at hest
          | ok e =>
              simp only [hresume, finalizeEstablished, exec_reply] at hfresh
              rw [handleResumption_resumes hresume] at hfresh
              cases hfresh
      | none =>
          simp only [hsid] at hest
          cases hhandle : handleFresh setup amb f decls version s.registry with
          | error refusal => simp [hhandle, exec_rejectInit] at hest
          | ok e =>
              simp only [finalizeEstablished, exec_reply, handleFresh_registry hhandle]
              intro stream hstream
              rcases StreamRegistry.mem_registerFrom stream hstream with hold | ⟨decl, hd, id, rfl⟩
              · cases hold
              · exact ⟨decl, hd, id, 0, rfl⟩

/-- Moving the offset of a stream does not change what it was registered for. -/
theorem StreamInfo.RegisteredFor.advance {stream advanced : StreamInfo} {body : Bytes}
    {decl : StreamDeclaration} (h : stream.RegisteredFor decl)
    (hadvance : advanceOffset stream body.length.toUInt64 = .ok advanced) :
    advanced.RegisteredFor decl := by
  obtain ⟨id, offset, rfl⟩ := h
  exact ⟨id, advanced.offset, (advanceOffset_ok hadvance).2⟩

/-- **The streams of a session that was not resumed are those of an init it has been given.** -/
def StreamsDeclared (setup : Setup) (past : List SessionRecord) (s : Impl) : Prop :=
  s.state = .established → s.isResumedSession = false →
    ∃ rec ∈ past, ∃ f bodyJson version decls,
      rec.call.invocation.call = .processControlFrame f ∧ f.event = some (ascii "culpeo.init") ∧
      parseInitBody setup f.body = .ok (bodyJson, version) ∧
      parseDeclarations bodyJson = .ok decls ∧
      ∀ stream ∈ s.registry.streams, ∃ decl ∈ decls, stream.RegisteredFor decl

section Run

variable {setup : Setup} {past : List SessionRecord} {s s' : Impl}

/-- What has been found of the past stays found, when every stream is an old one or an old
one with its offset moved. -/
theorem StreamsDeclared.mono (h : StreamsDeclared setup past s) (rec : SessionRecord)
    (hstate : s'.state = s.state) (hresumed : s'.isResumedSession = s.isResumedSession)
    (hstreams : ∀ stream ∈ s'.registry.streams, ∀ decls : List StreamDeclaration,
      (∀ old ∈ s.registry.streams, ∃ decl ∈ decls, old.RegisteredFor decl) →
        ∃ decl ∈ decls, stream.RegisteredFor decl) :
    StreamsDeclared setup (past ++ [rec]) s' := by
  intro hest hfresh
  rw [hstate] at hest
  rw [hresumed] at hfresh
  obtain ⟨r, hr, f, bodyJson, version, decls, hcall, hevent, hbody, hdecls, hall⟩ := h hest hfresh
  exact ⟨r, List.mem_append_left _ hr, f, bodyJson, version, decls, hcall, hevent, hbody, hdecls,
    fun stream hstream => hstreams stream hstream decls hall⟩

theorem registered_update {registry : StreamRegistry} {id body : Bytes}
    {stream advanced : StreamInfo} (hfound : registry.find id = some stream)
    (hadvance : advanceOffset stream body.length.toUInt64 = .ok advanced)
    {decls : List StreamDeclaration}
    (hall : ∀ old ∈ registry.streams, ∃ decl ∈ decls, old.RegisteredFor decl) :
    ∀ info ∈ (registry.update advanced).streams, ∃ decl ∈ decls, info.RegisteredFor decl := by
  intro info hinfo
  rcases StreamRegistry.mem_update hinfo with hold | rfl
  · exact hall info hold
  · obtain ⟨decl, hdecl, hregistered⟩ := hall stream (List.mem_of_find?_eq_some hfound)
    exact ⟨decl, hdecl, hregistered.advance hadvance⟩

/-- **Every call keeps the streams declared.** -/
theorem StreamsDeclared.step (turn : Turn) (h : StreamsDeclared setup past s) :
    StreamsDeclared setup (past ++ [⟨s, turn, turn.act setup s⟩]) (turn.act setup s).state := by
  have hperform : Performs setup turn.invocation s (turn.act setup s) :=
    perform_cases setup turn.invocation turn.answers s
  cases hperform with
  | passes hagree _ _ =>
      refine h.mono _ hagree.state hagree.isResumedSession fun stream hstream decls hall => ?_
      rw [hagree.registry] at hstream
      exact hall stream hstream
  | closes hclosed _ _ _ _ =>
      intro hest
      rw [hclosed] at hest
      cases hest
  | @establishes f e before _ hcall hinit _ _ _ _ _ _ =>
      intro hest hfresh
      obtain ⟨f', hcall', hevent⟩ := hinit.exists_frame
      obtain rfl : f = f' := by
        rw [hcall] at hcall'
        exact Call.processControlFrame.inj hcall'
      rcases @act_init setup f turn hcall hinit s with ⟨bodyJson, version, hread, hact⟩ | ⟨-, hno⟩
      · rw [hact] at hest hfresh ⊢
        obtain ⟨decls, hdecls, hall⟩ := decided_streams hest hfresh
        exact ⟨⟨s, turn, turn.act setup s⟩, List.mem_append_right _ List.mem_cons_self, f,
          bodyJson, version, decls, hcall, hevent, hread.2.2, hdecls, hall⟩
      · exact absurd hest hno
  | accepts _ _ haccept hout =>
      obtain ⟨id, stream, haccepts⟩ := acceptMedia_ok haccept
      refine h.mono _ (by rw [hout]) (by rw [hout]) fun info hinfo decls hall => ?_
      rw [hout] at hinfo
      exact registered_update haccepts.found haccepts.advance hall info hinfo
  | sends _ _ hstream hadvance hafter _ =>
      refine h.mono _ (by rw [hafter]) (by rw [hafter]) fun info hinfo decls hall => ?_
      rw [hafter] at hinfo
      exact registered_update (validateServerSend_ok hstream).1 hadvance hall info hinfo

theorem streams_declared (setup : Setup) (turns : List Turn) :
    StreamsDeclared setup (sessionHistory setup turns) (sessionFinal setup turns) :=
  history_induction (J := StreamsDeclared setup) (G := fun _ => True) (T := fun _ _ => True)
    (fun h => by cases h) (fun _ _ turn h _ _ => h.step turn) turns (fun _ _ => trivial)
    (List.pairwise_of_forall fun _ _ => trivial)

/-- **When a confirmed stream can be used.**  In every state of a session that is established,
a frame that fits an input or duplex stream is accepted exactly when the stream is usable; and
when the session was not resumed, the stream was registered for a declaration of its init, and
is usable exactly when that declaration asks for a usable stream. -/
theorem confirmed_stream_usable_iff (setup : Setup) (turns : List Turn) {id : Bytes}
    {info : StreamInfo} {inv : Invocation} {f : ParsedHeadersView}
    (hest : (sessionFinal setup turns).state = .established)
    (hfind : (sessionFinal setup turns).registry.find id = some info)
    (hdir : info.direction ≠ .output) (hcall : inv.call = .processMediaFrame f)
    (hf : MediaFor f id info) (hroom : info.offset.toNat + increment info f.body < 2 ^ 64)
    (answers : ℕ → Bool) :
    ((perform setup inv answers (sessionFinal setup turns)).result = .ok () ↔ info.Usable) ∧
    ((sessionFinal setup turns).isResumedSession = false →
      ∃ rec ∈ sessionHistory setup turns, ∃ init bodyJson version decls,
        rec.call.invocation.call = .processControlFrame init ∧
        init.event = some (ascii "culpeo.init") ∧
        parseInitBody setup init.body = .ok (bodyJson, version) ∧
        parseDeclarations bodyJson = .ok decls ∧
        ∃ decl ∈ decls, info.RegisteredFor decl ∧ (info.Usable ↔ decl.Usable)) := by
  refine ⟨?_, fun hfresh => ?_⟩
  · rw [perform_media_ok_iff hcall hf.frameType hest]
    exact acceptMedia_isOk_iff hfind hdir hf hroom
  · obtain ⟨rec, hrec, init, bodyJson, version, decls, hinit, hevent, hbody, hdecls, hall⟩ :=
      streams_declared setup turns hest hfresh
    obtain ⟨decl, hdecl, hregistered⟩ := hall info (List.mem_of_find?_eq_some hfind)
    exact ⟨rec, hrec, init, bodyJson, version, decls, hinit, hevent, hbody, hdecls, decl, hdecl,
      hregistered, hregistered.usable_iff⟩

end Run

/-- The stream of the example session after its handshake. -/
def exampleInput (offsetType : OffsetType) : StreamInfo where
  id := ascii "2a2a2a2a2a2a2a2a"
  contentType := ascii "audio/opus"
  direction := .input
  purpose := []
  offset := 0
  codec := .opus
  pcmParams := none
  offsetType := offsetType

/-- The example session is established, and knows the stream. -/
theorem exampleInput_opened :
    (sessionFinal (exampleSetup (ascii "input") (ascii "message"))
        [exampleInit (ascii "input") (ascii "message")]).state = .established ∧
      (sessionFinal (exampleSetup (ascii "input") (ascii "message"))
        [exampleInit (ascii "input") (ascii "message")]).registry.find
          (ascii "2a2a2a2a2a2a2a2a") = some (exampleInput .message) := by
  decide +kernel

/-- The first frame on a stream that counts frames. -/
theorem confirmed_stream_usable_iff_example :
    (perform (exampleSetup (ascii "input") (ascii "message"))
      { call := .processMediaFrame (exampleMedia (ascii "0") [1, 2, 3]) } (fun _ => true)
      (sessionFinal (exampleSetup (ascii "input") (ascii "message"))
        [exampleInit (ascii "input") (ascii "message")])).result = .ok () ↔
      (exampleInput .message).Usable :=
  (confirmed_stream_usable_iff (exampleSetup (ascii "input") (ascii "message"))
    [exampleInit (ascii "input") (ascii "message")] exampleInput_opened.1
    exampleInput_opened.2 (by decide) rfl
    ⟨rfl, rfl, rfl, by decide, rfl⟩ (by decide) fun _ => true).1

/-- A session confirms an Opus stream whose offset is to count time, and its first frame is
the end of the session. -/
theorem confirmed_stream_unusable :
    (sessionFinal (exampleSetup (ascii "input") (ascii "time"))
      [exampleInit (ascii "input") (ascii "time")]).state = .established ∧
    (sessionFinal (exampleSetup (ascii "input") (ascii "time"))
      [exampleInit (ascii "input") (ascii "time")]).registry.find (ascii "2a2a2a2a2a2a2a2a") =
        some (exampleInput .time) ∧
    MediaFor (exampleMedia (ascii "0") []) (ascii "2a2a2a2a2a2a2a2a") (exampleInput .time) ∧
    (perform (exampleSetup (ascii "input") (ascii "time"))
      { call := .processMediaFrame (exampleMedia (ascii "0") []) } (fun _ => true)
      (sessionFinal (exampleSetup (ascii "input") (ascii "time"))
        [exampleInit (ascii "input") (ascii "time")])).result ≠ .ok () := by
  have hopened : (sessionFinal (exampleSetup (ascii "input") (ascii "time"))
        [exampleInit (ascii "input") (ascii "time")]).state = .established ∧
      (sessionFinal (exampleSetup (ascii "input") (ascii "time"))
        [exampleInit (ascii "input") (ascii "time")]).registry.find
          (ascii "2a2a2a2a2a2a2a2a") = some (exampleInput .time) := by
    decide +kernel
  exact ⟨hopened.1, hopened.2, ⟨rfl, rfl, rfl, by decide +kernel, rfl⟩, by decide +kernel⟩

end CulpeoStream.Session
