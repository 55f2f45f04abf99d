import CulpeoStream.Session.Endings

/-!
# Incoming media frames

`process_media_frame` makes its checks one after the other and advances the offset last.
`Fits` lists what a frame must have for all of them to pass (`acceptMedia_iff`).  A frame that
fits moves the offset of its stream; for any other frame the session is closed with its streams
as they were (`processMediaFrame_all_or_nothing`).
-/

namespace CulpeoStream.Session

open Message Resumption Checks

variable {registry : StreamRegistry} {f : ParsedHeadersView}

/-- The frame fits the stream `id`, with this timestamp and this increment. -/
structure Fits (registry : StreamRegistry) (f : ParsedHeadersView) (id : Bytes)
    (stream : StreamInfo) (timestampUs n : UInt64) : Prop where
  streamId : f.streamId = some id
  found : registry.find id = some stream
  direction : stream.direction ≠ .output
  offset : f.offset = some (decimal stream.offset.toNat)
  contentType : ∃ ct, f.contentType = some ct ∧ contentTypeMatches stream.contentType ct = true
  timestamp : f.timestamp = none ∧ timestampUs = 0 ∨
    f.timestamp = some (decimal timestampUs.toNat)
  increment : frameIncrement stream f.body.length.toUInt64 = .ok n
  room : stream.offset.toNat + n.toNat < 2 ^ 64

/-- The stream after a frame with this increment. -/
def StreamInfo.moved (stream : StreamInfo) (n : UInt64) : StreamInfo :=
  { stream with offset := stream.offset + n }

/-! ### The checks -/

theorem faulty_ok_iff {α : Type} {reason : Bytes} {x : Except Error α} {a : α} :
    faulty reason x = .ok a ↔ x = .ok a := by
  refine ⟨faulty_ok, ?_⟩
  rintro rfl
  rfl

theorem required_ok_iff {reason value : Bytes} {header : Option Bytes} :
    required reason header = .ok value ↔ header = some value := by
  refine ⟨required_ok, ?_⟩
  rintro rfl
  rfl

theorem validateClientSend_ok_iff {id : Bytes} {stream : StreamInfo} :
    registry.validateClientSend id = .ok stream ↔
      registry.find id = some stream ∧ stream.direction ≠ .output := by
  refine ⟨validateClientSend_ok, ?_⟩
  rintro ⟨hfound, hdirection⟩
  simp only [StreamRegistry.validateClientSend, hfound, if_neg hdirection]

theorem checkOffset_ok_iff {stream : StreamInfo} {n : UInt64} :
    checkOffset stream n = .ok () ↔ n = stream.offset := by
  rw [checkOffset]
  split
  · next hne => exact ⟨fun h => (by cases h), fun h => absurd h hne⟩
  · next heq => exact ⟨fun _ => not_not.mp heq, fun _ => rfl⟩

theorem checkContentType_ok_iff {stream : StreamInfo} {ct : Bytes} :
    checkContentType stream ct = .ok () ↔ contentTypeMatches stream.contentType ct = true := by
  rw [checkContentType]
  split
  · next h => exact ⟨fun _ => h, fun _ => rfl⟩
  · next h => exact ⟨fun h => (by cases h), fun h' => absurd h' h⟩

theorem parseTimestamp_ok_iff {header : Option Bytes} {timestampUs : UInt64} :
    parseTimestamp header = .ok timestampUs ↔
      header = none ∧ timestampUs = 0 ∨ header = some (decimal timestampUs.toNat) := by
  cases header with
  | none =>
      rw [parseTimestamp, Except.ok.injEq, eq_comm]
      exact ⟨fun h => .inl ⟨rfl, h⟩, fun h => h.elim And.right fun h => by cases h⟩
  | some text =>
      rw [parseTimestamp, faulty_ok_iff, parseUint64_ok_iff, Option.some.injEq]
      exact ⟨.inr, fun h => h.elim (fun h => by cases h.1) id⟩

/-- **What the checks ask for.** -/
theorem acceptMedia_iff {advanced : StreamInfo} {timestampUs : UInt64} :
    acceptMedia registry f = .ok (advanced, timestampUs) ↔
      ∃ id stream n, Fits registry f id stream timestampUs n ∧ advanced = stream.moved n := by
  constructor
  · intro h
    unfold acceptMedia at h
    obtain ⟨id, hid, h⟩ := exists_of_bind_ok h
    obtain ⟨stream, hstream, h⟩ := exists_of_bind_ok h
    obtain ⟨text, htext, h⟩ := exists_of_bind_ok h
    obtain ⟨offset, hoffset, h⟩ := exists_of_bind_ok h
    obtain ⟨_, hcheck, h⟩ := exists_of_bind_ok h
    obtain ⟨ct, hct, h⟩ := exists_of_bind_ok h
    obtain ⟨_, hmatches, h⟩ := exists_of_bind_ok h
    obtain ⟨_, htimestamp, h⟩ := exists_of_bind_ok h
    obtain ⟨_, hadvance, h⟩ := exists_of_bind_ok h
    cases h
    obtain ⟨hfound, hdirection⟩ := validateClientSend_ok_iff.mp (faulty_ok hstream)
    obtain ⟨n, hinc, hroom, rfl⟩ := advanceOffset_ok_iff.mp (faulty_ok hadvance)
    have hvalue := parseUint64_ok_iff.mp (faulty_ok hoffset)
    rw [checkOffset_ok_iff.mp (faulty_ok hcheck)] at hvalue
    exact ⟨id, stream, n,
      { streamId := required_ok hid
        found := hfound
        direction := hdirection
        offset := (required_ok htext).trans (congrArg some hvalue)
        contentType := ⟨ct, required_ok hct, checkContentType_ok_iff.mp hmatches⟩
        timestamp := parseTimestamp_ok_iff.mp htimestamp
        increment := hinc
        room := hroom }, rfl⟩
  · rintro ⟨id, stream, n, h, rfl⟩
    obtain ⟨ct, hct, hmatches⟩ := h.contentType
    have hadvance : advanceOffset stream f.body.length.toUInt64 = .ok (stream.moved n) :=
      advanceOffset_ok_iff.mpr ⟨n, h.increment, h.room, rfl⟩
    exact bind_ok (required_ok_iff.mpr h.streamId) <|
      bind_ok (faulty_ok_iff.mpr (validateClientSend_ok_iff.mpr ⟨h.found, h.direction⟩)) <|
      bind_ok (required_ok_iff.mpr h.offset) <|
      bind_ok (faulty_ok_iff.mpr (parseUint64_decimal stream.offset)) <|
      bind_ok (faulty_ok_iff.mpr (checkOffset_ok_iff.mpr rfl)) <|
      bind_ok (required_ok_iff.mpr hct) <|
      bind_ok (checkContentType_ok_iff.mpr hmatches) <|
      bind_ok (parseTimestamp_ok_iff.mpr h.timestamp) <|
      bind_ok (faulty_ok_iff.mpr hadvance) rfl

/-- The texts with which a media frame is refused. -/
def mediaReasons : List Bytes :=
  [ascii "Media frame missing Stream-Id", ascii "Invalid stream direction",
    ascii "Media frame missing Offset", ascii "Invalid Offset header", ascii "Offset mismatch",
    ascii "Media frame missing Content-Type", ascii "Content-Type mismatch",
    ascii "Invalid Timestamp header", ascii "Offset overflow"]

theorem reason_of_required {reason : Bytes} {header : Option Bytes} {fault : MediaFault}
    (h : required reason header = .error fault) : fault.reason = reason := by
  cases header with
  | none =>
      cases h
      rfl
  | some value => cases h

theorem reason_of_faulty {α : Type} {reason : Bytes} {x : Except Error α} {fault : MediaFault}
    (h : faulty reason x = .error fault) : fault.reason = reason := by
  cases x with
  | error e =>
      cases h
      rfl
  | ok a => cases h

theorem reason_of_checkContentType {stream : StreamInfo} {ct : Bytes} {fault : MediaFault}
    (h : checkContentType stream ct = .error fault) :
    fault.reason = ascii "Content-Type mismatch" := by
  rw [checkContentType] at h
  split at h
  · cases h
  · cases h
    rfl

theorem reason_of_parseTimestamp {header : Option Bytes} {fault : MediaFault}
    (h : parseTimestamp header = .error fault) :
    fault.reason = ascii "Invalid Timestamp header" := by
  cases header with
  | none => cases h
  | some text => exact reason_of_faulty h

/-- Every check has its text. -/
theorem acceptMedia_reason {fault : MediaFault} (h : acceptMedia registry f = .error fault) :
    fault.reason ∈ mediaReasons := by
  simp only [mediaReasons, List.mem_cons, List.not_mem_nil, or_false]
  unfold acceptMedia at h
  rcases error_of_bind_error h with h | ⟨_, -, h⟩
  · simp only [reason_of_required h, true_or]
  rcases error_of_bind_error h with h | ⟨_, -, h⟩
  · simp only [reason_of_faulty h, true_or, or_true]
  rcases error_of_bind_error h with h | ⟨_, -, h⟩
  · simp only [reason_of_required h, true_or, or_true]
  rcases error_of_bind_error h with h | ⟨_, -, h⟩
  · simp only [reason_of_faulty h, true_or, or_true]
  rcases error_of_bind_error h with h | ⟨_, -, h⟩
  · simp only [reason_of_faulty h, true_or, or_true]
  rcases error_of_bind_error h with h | ⟨_, -, h⟩
  · simp only [reason_of_required h, true_or, or_true]
  rcases error_of_bind_error h with h | ⟨_, -, h⟩
  · simp only [reason_of_checkContentType h, true_or, or_true]
  rcases error_of_bind_error h with h | ⟨_, -, h⟩
  · simp only [reason_of_parseTimestamp h, true_or, or_true]
  rcases error_of_bind_error h with h | ⟨_, -, h⟩
  · simp only [reason_of_faulty h, or_true]
  cases h

theorem validHeaderValue_mediaReasons :
    ∀ reason ∈ mediaReasons, validHeaderValue reason = true := by
  decide

/-! ### The call -/

variable (setup : Setup) {inv : Invocation} (answers : ℕ → Bool) {s : Impl}

theorem enter_media (hcall : inv.call = .processMediaFrame f) (htype : f.frameType = .media)
    (hstate : s.state = .established) :
    enter setup inv s =
      match acceptMedia s.registry f with
      | .error fault =>
          (transitionToClosed s, abort (ascii "protocol-error") fault.reason fault.error)
      | .ok (stream, timestampUs) =>
          ({ s with registry := s.registry.update stream },
            deliver setup stream timestampUs f.body) := by
  have hopen : s.state ≠ .uninitialized := by
    rw [hstate]
    decide
  rw [enter, hcall]
  dsimp only
  rw [processMediaFrame, if_neg (not_not.mpr htype), if_neg hopen, if_neg (not_not.mpr hstate)]
  rfl

/-- A frame that fits is counted and delivered. -/
theorem perform_fits (hcall : inv.call = .processMediaFrame f) (htype : f.frameType = .media)
    (hstate : s.state = .established) {id : Bytes} {stream : StreamInfo} {timestampUs n : UInt64}
    (hfits : Fits s.registry f id stream timestampUs n) :
    perform setup inv answers s =
      ⟨{ s with registry := s.registry.update (stream.moved n) },
        if setup.callbacks.onMediaReceived then
          [.onMediaReceived (stream.moved n) timestampUs f.body] else [], .ok ()⟩ := by
  have haccept := acceptMedia_iff.mpr ⟨id, stream, n, hfits, rfl⟩
  rw [perform, enter_media setup hcall htype hstate, haccept]
  exact exec_deliver answers _ setup _ _ _

/-- Any other frame closes the session. -/
theorem perform_misfit (hcall : inv.call = .processMediaFrame f) (htype : f.frameType = .media)
    (hstate : s.state = .established)
    (hmisfit : ¬ ∃ id stream timestampUs n, Fits s.registry f id stream timestampUs n) :
    ClosedForProtocolError s (perform setup inv answers s) ∧
      (perform setup inv answers s).result ≠ .ok () := by
  rw [perform, enter_media setup hcall htype hstate]
  cases haccept : acceptMedia s.registry f with
  | error fault =>
      have hreason := validHeaderValue_mediaReasons _ (acceptMedia_reason haccept)
      refine ⟨closedForProtocolError_abort hreason fault.error answers, ?_⟩
      dsimp only
      rw [exec_abort]
      exact fun h => (by cases h)
  | ok accepted =>
      obtain ⟨advanced, timestampUs⟩ := accepted
      obtain ⟨id, stream, n, hfits, -⟩ := acceptMedia_iff.mp haccept
      exact absurd ⟨id, stream, timestampUs, n, hfits⟩ hmisfit

/-- **Media frames are taken whole or not at all.**  In an established session, the call succeeds
exactly for a frame that fits; then the offset of its stream moves by the increment, and nothing
else changes.  Any other frame leaves the streams as they were and closes the session for a
protocol error. -/
theorem processMediaFrame_all_or_nothing (hcall : inv.call = .processMediaFrame f)
    (htype : f.frameType = .media) (hstate : s.state = .established) :
    ((perform setup inv answers s).result = .ok () ↔
      ∃ id stream timestampUs n, Fits s.registry f id stream timestampUs n) ∧
    (∀ id stream timestampUs n, Fits s.registry f id stream timestampUs n →
      (perform setup inv answers s).state =
        { s with registry := s.registry.update (stream.moved n) } ∧
      (stream.moved n).offset.toNat = stream.offset.toNat + n.toNat ∧
      (s.registry.update (stream.moved n)).find id = some (stream.moved n) ∧
      ∀ id', id' ≠ id →
        (s.registry.update (stream.moved n)).find id' = s.registry.find id') ∧
    ((perform setup inv answers s).result ≠ .ok () →
      ClosedForProtocolError s (perform setup inv answers s)) := by
  have hresult : (perform setup inv answers s).result = .ok () ↔
      ∃ id stream timestampUs n, Fits s.registry f id stream timestampUs n := by
    constructor
    · intro hok
      by_contra hmisfit
      exact (perform_misfit setup answers hcall htype hstate hmisfit).2 hok
    · rintro ⟨id, stream, timestampUs, n, hfits⟩
      rw [perform_fits setup answers hcall htype hstate hfits]
  refine ⟨hresult, fun id stream timestampUs n hfits => ?_, fun hfailed => ?_⟩
  · have hid : stream.id = id := StreamRegistry.find_id hfits.found
    refine ⟨by rw [perform_fits setup answers hcall htype hstate hfits], ?_, ?_, ?_⟩
    · rw [StreamInfo.moved, UInt64.toNat_add]
      exact Nat.mod_eq_of_lt hfits.room
    · exact StreamRegistry.find_update_self hfits.found rfl
    · intro id' hne
      exact StreamRegistry.find_update_of_ne (hid ▸ hne)
  · exact (perform_misfit setup answers hcall htype hstate (hresult.not.mp hfailed)).1

/-! ### A frame -/

def mediaSetup : Setup := { json := ⟨fun _ => none, fun _ => []⟩ }

/-- A stream that counts its messages. -/
def mediaStream : StreamInfo where
  id := ascii "s"
  contentType := ascii "x"
  direction := .input
  purpose := []
  offset := 0
  codec := .other
  pcmParams := none
  offsetType := .message

/-- A session with that stream. -/
def mediaSession : Impl where
  state := .established
  registry := { maxStreams := 1, streams := [mediaStream] }

def mediaFrame : ParsedHeadersView where
  frameType := .media
  frame := []
  headerBlock := []
  body := []
  streamId := some (ascii "s")
  offset := some (ascii "0")
  contentType := some (ascii "x")

def mediaInvocation : Invocation where
  call := .processMediaFrame mediaFrame

theorem mediaFrame_fits : Fits mediaSession.registry mediaFrame (ascii "s") mediaStream 0 1 where
  streamId := rfl
  found := by decide
  direction := by decide
  offset := by decide
  contentType := ⟨ascii "x", rfl, by decide⟩
  timestamp := .inl ⟨rfl, rfl⟩
  increment := rfl
  room := by decide

theorem processMediaFrame_all_or_nothing_example :
    (perform mediaSetup mediaInvocation (fun _ => true) mediaSession).result = .ok () ∧
      (perform mediaSetup mediaInvocation (fun _ => true) mediaSession).state =
        { mediaSession with registry := mediaSession.registry.update (mediaStream.moved 1) } := by
  obtain ⟨hresult, hfits, -⟩ := processMediaFrame_all_or_nothing mediaSetup (fun _ => true)
    (show mediaInvocation.call = .processMediaFrame mediaFrame from rfl) rfl
    (show mediaSession.state = .established from rfl)
  exact ⟨hresult.mpr ⟨_, _, _, _, mediaFrame_fits⟩, (hfits _ _ _ _ mediaFrame_fits).1⟩

end CulpeoStream.Session
