import CulpeoStream.Session.MediaAcceptance
import CulpeoStream.Session.OutboundOrder

/-!
# Sends that fail

`send_media` advances the offset of its stream before the frame is serialized and handed to the
transport, and leaves it there when one of the two fails.  A failed call has no effect on the
streams exactly when it fails before that, or the frame does not move the offset
(`sendMedia_no_trace_iff`).  Otherwise the next frame of the stream leaves a gap.
-/

namespace CulpeoStream.Session

open Message Resumption

/-- The checks of `send_media` pass, and the frame moves the offset by `n`. -/
structure Advances (s : Impl) (streamId payload : Bytes) (stream : StreamInfo) (n : UInt64) :
    Prop where
  established : s.state = .established
  found : s.registry.find streamId = some stream
  direction : stream.direction ≠ .input
  increment : frameIncrement stream payload.length.toUInt64 = .ok n
  room : stream.offset.toNat + n.toNat < 2 ^ 64

/-- The call advances the offset, and then the frame cannot be serialized, or the transport
throws. -/
def LosesOffset (s : Impl) (streamId payload : Bytes) (sent : Bool) : Prop :=
  ∃ stream n, Advances s streamId payload stream n ∧ n ≠ 0 ∧
    (validHeaderValue streamId = true → validHeaderValue stream.contentType = true → sent = false)

/-- The streams are as before, and the next frame on the stream carries the offset that it would
have carried before. -/
structure NoTrace (setup : Setup) (s : Impl) (streamId : Bytes)
    (outcome : Outcome Impl Output Result) : Prop where
  maxStreams : outcome.state.registry.maxStreams = s.registry.maxStreams
  streams : ∀ id, outcome.state.registry.find id = s.registry.find id
  next : ∀ payload timestampUs answers frame,
    .sendBinary frame ∈ (perform setup { call := .sendMedia streamId payload timestampUs } answers
      outcome.state).outputs →
    ∀ stream, s.registry.find streamId = some stream → frame.offset = some stream.offset.toNat

variable (setup : Setup) (answers : ℕ → Bool) {s : Impl} {streamId payload : Bytes}
  (timestampUs : UInt64)

theorem validateServerSend_ok_iff {registry : StreamRegistry} {stream : StreamInfo} :
    registry.validateServerSend streamId = .ok stream ↔
      registry.find streamId = some stream ∧ stream.direction ≠ .input := by
  refine ⟨validateServerSend_ok, ?_⟩
  rintro ⟨hfound, hdirection⟩
  simp only [StreamRegistry.validateServerSend, hfound, if_neg hdirection]

theorem perform_advances {stream : StreamInfo} {n : UInt64}
    (h : Advances s streamId payload stream n) :
    perform setup { call := .sendMedia streamId payload timestampUs } answers s =
      ⟨{ s with registry := s.registry.update (stream.moved n) },
        (makeFrame .media (mediaHeaders streamId stream timestampUs) payload).toList.map
          .sendBinary,
        if (makeFrame .media (mediaHeaders streamId stream timestampUs) payload).isSome && answers 0
          then .ok () else .error .transportError⟩ := by
  have hadvance : advanceOffset stream payload.length.toUInt64 = .ok (stream.moved n) :=
    advanceOffset_ok_iff.mpr ⟨n, h.increment, h.room, rfl⟩
  rw [perform, enter]
  dsimp only
  rw [sendMedia, if_neg (not_not.mpr h.established),
    validateServerSend_ok_iff.mpr ⟨h.found, h.direction⟩]
  dsimp only
  rw [hadvance]
  dsimp only
  rw [handOver]
  cases makeFrame .media (mediaHeaders streamId stream timestampUs) payload with
  | none => rfl
  | some frame => rfl

/-- A call that does not get that far changes nothing. -/
theorem perform_not_advances (h : ¬ ∃ stream n, Advances s streamId payload stream n) :
    ∃ e, perform setup { call := .sendMedia streamId payload timestampUs } answers s =
      ⟨s, [], .error e⟩ := by
  rcases sendMedia_spec streamId payload timestampUs s with
    ⟨e, hsend⟩ | ⟨stream, advanced, hstate, hstream, hadvance, -⟩
  · refine ⟨e, ?_⟩
    rw [perform, enter]
    dsimp only
    rw [hsend]
    rfl
  · obtain ⟨hfound, hdirection⟩ := validateServerSend_ok_iff.mp hstream
    obtain ⟨n, hinc, hroom, -⟩ := advanceOffset_ok_iff.mp hadvance
    exact absurd ⟨stream, n, hstate, hfound, hdirection, hinc, hroom⟩ h

/-- A frame carries the offset at which its stream stands. -/
theorem offset_of_sendMedia {frame : WireFrame} {stream : StreamInfo}
    (hfound : s.registry.find streamId = some stream)
    (hframe : .sendBinary frame ∈
      (perform setup { call := .sendMedia streamId payload timestampUs } answers s).outputs) :
    frame.offset = some stream.offset.toNat := by
  by_cases hadvances : ∃ stream n, Advances s streamId payload stream n
  · obtain ⟨stream', n, h⟩ := hadvances
    rw [perform_advances setup answers timestampUs h] at hframe
    obtain ⟨frame', hmake, hsame⟩ := List.mem_map.mp hframe
    cases hsame
    have hsame : stream' = stream := Option.some.inj (h.found.symm.trans hfound)
    rw [← hsame]
    exact (mediaFrame_header (Option.mem_toList.mp hmake)).2.1
  · obtain ⟨e, hsend⟩ := perform_not_advances setup answers timestampUs hadvances
    rw [hsend] at hframe
    cases hframe

theorem noTrace_of_find {outcome : Outcome Impl Output Result}
    (hmax : outcome.state.registry.maxStreams = s.registry.maxStreams)
    (hfind : ∀ id, outcome.state.registry.find id = s.registry.find id) :
    NoTrace setup s streamId outcome where
  maxStreams := hmax
  streams := hfind
  next _ _ answers _ hframe _ hfound :=
    offset_of_sendMedia setup answers _ ((hfind streamId).trans hfound) hframe

/-- **Sends that leave no trace.**  A failed `send_media` leaves the streams as they were, unless
it has advanced an offset before it failed. -/
theorem sendMedia_no_trace_iff (s : Impl) (streamId payload : Bytes) :
    ((∃ e, (perform setup { call := .sendMedia streamId payload timestampUs } answers s).result =
        .error e) →
      NoTrace setup s streamId
        (perform setup { call := .sendMedia streamId payload timestampUs } answers s)) ↔
      ¬ LosesOffset s streamId payload (answers 0) := by
  by_cases hadvances : ∃ stream n, Advances s streamId payload stream n
  · obtain ⟨stream, n, h⟩ := hadvances
    have hid : (stream.moved n).id = stream.id := by rfl
    have hfails : (∃ e, (perform setup { call := .sendMedia streamId payload timestampUs } answers
        s).result = .error e) ↔ (validHeaderValue streamId = true →
          validHeaderValue stream.contentType = true → answers 0 = false) := by
      have hvalid : (makeFrame .media (mediaHeaders streamId stream timestampUs) payload).isSome =
          true ↔ validHeaderValue streamId = true ∧ validHeaderValue stream.contentType = true :=
        makeFrame_isSome_iff.trans validHeaders_mediaHeaders
      rw [← and_imp, ← hvalid, perform_advances setup answers timestampUs h]
      dsimp only
      cases (makeFrame .media (mediaHeaders streamId stream timestampUs) payload).isSome with
      | false => simp
      | true => cases answers 0 <;> simp
    have hsame : NoTrace setup s streamId
        (perform setup { call := .sendMedia streamId payload timestampUs } answers s) ↔ n = 0 := by
      constructor
      · intro htrace
        have hfind := htrace.streams streamId
        rw [perform_advances setup answers timestampUs h] at hfind
        dsimp only at hfind
        rw [StreamRegistry.find_update_self h.found hid, h.found, Option.some.injEq] at hfind
        have hoffset := congrArg StreamInfo.offset hfind
        rw [StreamInfo.moved] at hoffset
        simpa using hoffset
      · intro hzero
        have hmoved : stream.moved n = stream := by
          rw [StreamInfo.moved, hzero, UInt64.add_zero]
        rw [perform_advances setup answers timestampUs h]
        refine noTrace_of_find setup rfl fun id => ?_
        dsimp only
        rw [hmoved]
        by_cases hne : id = stream.id
        · rw [hne, StreamRegistry.find_id h.found, StreamRegistry.find_update_self h.found rfl,
            h.found]
        · exact StreamRegistry.find_update_of_ne hne
    rw [hfails, hsame]
    constructor
    · rintro hkeeps ⟨stream', n', h', hne, hfailed⟩
      have hstream : stream' = stream := Option.some.inj (h'.found.symm.trans h.found)
      subst hstream
      have hn : n' = n := Except.ok.inj (h'.increment.symm.trans h.increment)
      subst hn
      exact hne (hkeeps hfailed)
    · intro hkept hfailed
      by_contra hne
      exact hkept ⟨stream, n, h, hne, hfailed⟩
  · obtain ⟨e, hsend⟩ := perform_not_advances setup answers timestampUs hadvances
    rw [hsend]
    refine iff_of_true (fun _ => noTrace_of_find setup rfl fun _ => rfl) ?_
    rintro ⟨stream, n, h, -⟩
    exact hadvances ⟨stream, n, h⟩

/-! ### A transport that throws -/

/-- A session with a stream of the server. -/
def sendingSession : Impl where
  state := .established
  registry := { maxStreams := 1, streams := [{ mediaStream with direction := .output }] }

/-- The transport throws, and the offset has moved. -/
theorem sendMedia_leaves_trace :
    ¬ ((∃ e, (perform mediaSetup { call := .sendMedia (ascii "s") [] 0 } (fun _ => false)
        sendingSession).result = .error e) →
      NoTrace mediaSetup sendingSession (ascii "s")
        (perform mediaSetup { call := .sendMedia (ascii "s") [] 0 } (fun _ => false)
          sendingSession)) := by
  intro h
  have hstreams := (h ⟨.transportError, by rfl⟩).streams (ascii "s")
  have hoffset := congrArg (Option.map StreamInfo.offset) hstreams
  revert hoffset
  decide

end CulpeoStream.Session
