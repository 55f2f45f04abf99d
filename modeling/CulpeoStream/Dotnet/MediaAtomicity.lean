import CulpeoStream.Dotnet.Connections

/-!
# Refused media and the streams of a C# session

`HandleIncomingMedia` and `SendMediaAsync` record the frame on its stream and then move the
offset of the stream, which throws when the payload is not a whole number of samples.  A call
that is refused before that leaves every stream as it was; one that is refused there leaves the
checkpoint behind (`mediaOperation_atomic_iff`).
-/

namespace CulpeoStream.Dotnet

open Message Utf16

/-! ### The calls -/

/-- `SendMediaAsync`: a token that is cancelled throws before anything else, and that exception
is `none`. -/
def Endpoint.sendMediaAsync (e : Endpoint) (now : Ticks) (cancelled : Bool) (streamId : Text)
    (payload : Bytes) (timestamp : Int64) : Endpoint × Except (Option Exn) CulpeoMessage :=
  if cancelled then (e, .error none)
  else
    ((e.sendMedia now streamId payload timestamp).1,
      (e.sendMedia now streamId payload timestamp).2.mapError some)

/-- The media operations of a connection, with their arguments. -/
inductive MediaOperation where
  | handleIncomingMedia (frame : CulpeoMessage)
  | sendMediaAsync (cancelled : Bool) (streamId : Text) (payload : Bytes) (timestamp : Int64)

namespace MediaOperation

/-- The connection after the call. -/
def after (rt : Runtime) (e : Endpoint) (now : Ticks) : MediaOperation → Endpoint
  | handleIncomingMedia frame => (e.handleIncomingMedia rt now frame).1
  | sendMediaAsync cancelled streamId payload timestamp =>
      (e.sendMediaAsync now cancelled streamId payload timestamp).1

/-- The frame is answered by closing the session, or the call throws. -/
def Refused (rt : Runtime) (e : Endpoint) (now : Ticks) : MediaOperation → Prop
  | handleIncomingMedia frame =>
      ∀ result, (e.handleIncomingMedia rt now frame).2 = .ok result → result.shouldClose = true
  | sendMediaAsync cancelled streamId payload timestamp =>
      ∀ message, (e.sendMediaAsync now cancelled streamId payload timestamp).2 ≠ .ok message

end MediaOperation

/-! ### What the calls may change of a stream -/

/-- A stream with its offset and its checkpoints. -/
def StreamState.progress (stream : StreamState) : Text × Int64 × List OffsetCheckpoint :=
  (stream.id, stream.currentOffset, stream.checkpoints)

/-- The progress of every stream of every session. -/
def CulpeoSessionServer.progress (server : CulpeoSessionServer) :
    List (List (Text × Int64 × List OffsetCheckpoint)) :=
  server.snapshots.map fun snapshot => snapshot.streams.map StreamState.progress

theorem progress_modifySnapshot {f : SessionSnapshot → SessionSnapshot}
    (h : ∀ snapshot, (f snapshot).streams = snapshot.streams) (e : Endpoint) :
    (e.modifySnapshot f).server.progress = e.server.progress := by
  unfold Endpoint.modifySnapshot
  split
  · rfl
  · refine List.ext_getElem? fun k => ?_
    unfold CulpeoSessionServer.progress
    rw [List.getElem?_map, List.getElem?_map, List.getElem?_modify]
    show (Option.map _ _).map _ = _
    rw [Option.map_map]
    refine congrArg (Option.map · e.server.snapshots[k]?) (funext fun s => ?_)
    dsimp only [Function.comp_apply]
    split
    · rw [h]
    · rfl

theorem progress_stampDisconnected (e : Endpoint) (now : Ticks) :
    (e.stampDisconnected now).server.progress = e.server.progress := by
  unfold Endpoint.stampDisconnected
  split
  · show (CulpeoSessionServer.saveSession _ _ _).progress = _
    unfold CulpeoSessionServer.progress
    rw [snapshots_saveSession]
    have kept : ∀ snapshot : SessionSnapshot,
        { snapshot with disconnectedAt := some now }.streams = snapshot.streams := fun _ => rfl
    exact progress_modifySnapshot kept e
  · rfl

/-- Closing the session touches no stream. -/
theorem progress_closeOnViolation (e : Endpoint) (now : Ticks) (ex : Exn) :
    (e.closeOnViolation now ex).1.server.progress = e.server.progress := by
  cases ex with
  | protocolValidation code reason => exact progress_stampDisconnected (e.setState .closed) now
  | _ => rfl

/-- If an open stream is replaced and nothing is seen to change, then the new one has the
progress of the old one. -/
theorem progress_of_putStream {e : Endpoint} {id : Text} {stream new : StreamState}
    (hopen : e.openStream id = some stream) (hid : new.id = stream.id)
    (same : (e.modifySnapshot (·.putStream new)).server.progress = e.server.progress) :
    new.progress = stream.progress := by
  rw [Endpoint.openStream, if_pos (openStream_established hopen)] at hopen
  obtain ⟨snapshot, hsnapshot, hstream⟩ := Option.bind_eq_some_iff.mp hopen
  obtain ⟨ref, href, hget⟩ := Option.bind_eq_some_iff.mp hsnapshot
  obtain ⟨i, hi⟩ := List.getElem?_of_mem (List.mem_of_find?_eq_some hstream)
  have row : (snapshot.putStream new).streams.map StreamState.progress =
      snapshot.streams.map StreamState.progress := by
    have hrow := congrArg (fun rows => rows[ref]?) same
    simpa [Endpoint.modifySnapshot, href, CulpeoSessionServer.progress, hget] using hrow
  have entry := congrArg (fun entries => entries[i]?) row
  simpa [SessionSnapshot.putStream, hi, hid] using entry

/-- A checkpoint is seen. -/
theorem progress_putStream_recordFrame {e : Endpoint} {id : Text} {stream : StreamState}
    (hopen : e.openStream id = some stream) (offset : Int64) (now : Ticks) :
    (e.modifySnapshot (·.putStream (stream.recordFrame offset now))).server.progress ≠
      e.server.progress := by
  intro same
  have kept : stream.checkpoints ++ [⟨offset, now⟩] = stream.checkpoints :=
    congrArg (fun progress => progress.2.2)
      (@progress_of_putStream e id stream (stream.recordFrame offset now) hopen rfl same)
  exact absurd (List.append_right_eq_self.mp kept) (List.cons_ne_nil _ _)

/-! ### Payloads that cannot be counted -/

/-- The stream counts samples, and the payload is not a whole number of them. -/
def StreamState.Misaligned (stream : StreamState) (payloadLength : ℕ) : Prop :=
  stream.offsetType = .time ∧ ∃ stride, stream.pcmStride = some stride ∧ payloadLength % stride ≠ 0

theorem getIncrement_isOk_iff (stream : StreamState) (payloadLength : ℕ) :
    (∃ n, stream.getIncrement payloadLength = .ok n) ↔ ¬ stream.Misaligned payloadLength := by
  unfold StreamState.getIncrement StreamState.Misaligned
  cases htype : stream.offsetType with
  | time =>
      obtain ⟨stride, -, hstride⟩ := stream.stride_pos htype
      by_cases haligned : payloadLength % stride = 0
      · simp [hstride, StreamState.getPcmIncrement, haligned]
      · simp [hstride, StreamState.getPcmIncrement, haligned]
  | byte => simp
  | message => simp

/-- **A frame can be counted** unless its payload is misaligned, and then it is refused as a
violation of the protocol. -/
theorem advanceOffset_cases (stream : StreamState) (payloadLength : ℕ) :
    (¬ stream.Misaligned payloadLength ∧
        ∃ advanced, stream.advanceOffset payloadLength = .ok advanced) ∨
      (stream.Misaligned payloadLength ∧
        ∃ reason, stream.advanceOffset payloadLength = .error (protocolError reason)) := by
  cases hadvance : stream.advanceOffset payloadLength with
  | ok advanced =>
      refine .inl ⟨(getIncrement_isOk_iff stream payloadLength).mp ?_, advanced, rfl⟩
      unfold StreamState.advanceOffset at hadvance
      split at hadvance
      · cases hadvance
      · exact ⟨_, ‹_›⟩
  | error ex =>
      obtain ⟨reason, rfl, -⟩ := advanceOffset_error hadvance
      refine .inr ⟨?_, reason, rfl⟩
      by_contra aligned
      obtain ⟨n, hn⟩ := (getIncrement_isOk_iff stream payloadLength).mpr aligned
      rw [StreamState.advanceOffset, hn] at hadvance
      cases hadvance

/-- A misaligned stream is misaligned with one more checkpoint. -/
theorem misaligned_recordFrame (stream : StreamState) (offset : Int64) (now : Ticks)
    (payloadLength : ℕ) :
    (stream.recordFrame offset now).Misaligned payloadLength ↔ stream.Misaligned payloadLength :=
  Iff.rfl

/-! ### The frames that come to be counted -/

/-- The headers of the frame are those of the next frame of the stream. -/
def Endpoint.InSequence (rt : Runtime) (e : Endpoint) (frame : CulpeoMessage)
    (stream : StreamState) : Prop :=
  isNullOrWhiteSpace frame.streamId = false ∧
    e.openStream (frame.streamId.getD []) = some stream ∧
    stream.type ≠ .output ∧
    isNullOrWhiteSpace frame.contentType = false ∧
    contentTypesMatch rt stream.contentType (frame.contentType.getD []) = true ∧
    frame.offset = some stream.currentOffset

theorem checkMedia_eq_ok_iff {rt : Runtime} {e : Endpoint} {frame : CulpeoMessage}
    {stream : StreamState} {offset : Int64} :
    e.checkMedia rt frame = .ok (stream, offset) ↔
      e.InSequence rt frame stream ∧ offset = stream.currentOffset := by
  unfold Endpoint.InSequence
  constructor
  · intro hcheck
    obtain ⟨id, hid, hopen, hoffset, rfl⟩ := checkMedia_ok hcheck
    unfold Endpoint.checkMedia at hcheck
    rw [hid, Option.getD_some, getStreamOrThrow_of_openStream hopen] at hcheck
    split at hcheck
    · cases hcheck
    · rename_i hblank
      dsimp only at hcheck
      split at hcheck
      · cases hcheck
      · rename_i htype
        split at hcheck
        · cases hcheck
        · rename_i hcontent
          rw [Bool.or_eq_true, not_or, Bool.not_eq_true, Bool.not_eq_true', Bool.not_eq_false]
            at hcontent
          rw [hid]
          exact ⟨⟨Bool.not_eq_true _ ▸ hblank, hopen, htype, hcontent.1, hcontent.2, hoffset⟩, rfl⟩
  · rintro ⟨⟨hblank, hopen, htype, hcontent, hmatch, hoffset⟩, rfl⟩
    simp [Endpoint.checkMedia, hblank, getStreamOrThrow_of_openStream hopen, htype, hcontent,
      hmatch, hoffset]

/-- The call comes to count the samples of a payload that is not a whole number of them. -/
def MediaOperation.Misaligned (rt : Runtime) (e : Endpoint) : MediaOperation → Prop
  | handleIncomingMedia frame =>
      ∃ stream, e.InSequence rt frame stream ∧ stream.Misaligned frame.body.length
  | sendMediaAsync cancelled streamId payload _ =>
      cancelled = false ∧ ∃ stream, e.openStream streamId = some stream ∧ stream.type ≠ .input ∧
        stream.Misaligned payload.length

theorem handleIncomingMedia_atomic_iff (rt : Runtime) (e : Endpoint) (now : Ticks)
    (frame : CulpeoMessage) :
    ((∀ result, (e.handleIncomingMedia rt now frame).2 = .ok result → result.shouldClose = true) →
      (e.handleIncomingMedia rt now frame).1.server.progress = e.server.progress) ↔
    ¬ ∃ stream, e.InSequence rt frame stream ∧ stream.Misaligned frame.body.length := by
  unfold Endpoint.handleIncomingMedia
  cases hcheck : e.checkMedia rt frame with
  | error ex =>
      -- Nothing has been recorded yet.
      refine iff_of_true (fun _ => progress_closeOnViolation e now ex) ?_
      rintro ⟨stream, hsequence, -⟩
      rw [checkMedia_eq_ok_iff.mpr ⟨hsequence, rfl⟩] at hcheck
      cases hcheck
  | ok found =>
      obtain ⟨stream, offset⟩ := found
      obtain ⟨hsequence, rfl⟩ := checkMedia_eq_ok_iff.mp hcheck
      have hopen := hsequence.2.1
      dsimp only
      rcases advanceOffset_cases (stream.recordFrame stream.currentOffset now)
        frame.body.length with ⟨haligned, advanced, hadvance⟩ | ⟨hmisaligned, reason, hadvance⟩
      · rw [hadvance]
        refine iff_of_true (fun refused => ?_) ?_
        · cases refused _ rfl
        · rintro ⟨other, hother, hmisaligned⟩
          obtain rfl := Option.some.inj (hopen.symm.trans hother.2.1)
          exact haligned ((misaligned_recordFrame _ _ _ _).mpr hmisaligned)
      · rw [hadvance]
        refine iff_of_false (fun atomic => ?_) (not_not.mpr ⟨stream, hsequence, hmisaligned⟩)
        refine progress_putStream_recordFrame hopen stream.currentOffset now ?_
        rw [← progress_closeOnViolation _ now (protocolError reason)]
        refine atomic fun result hresult => ?_
        cases hresult
        rfl

theorem sendMedia_atomic_iff (e : Endpoint) (now : Ticks) (streamId : Text) (payload : Bytes)
    (timestamp : Int64) :
    ((∀ message, (e.sendMedia now streamId payload timestamp).2 ≠ .ok message) →
      (e.sendMedia now streamId payload timestamp).1.server.progress = e.server.progress) ↔
    ¬ ∃ stream, e.openStream streamId = some stream ∧ stream.type ≠ .input ∧
      stream.Misaligned payload.length := by
  unfold Endpoint.sendMedia
  cases hstream : e.getStreamOrThrow streamId with
  | error ex =>
      refine iff_of_true (fun _ => rfl) ?_
      rintro ⟨stream, hopen, -⟩
      rw [getStreamOrThrow_of_openStream hopen] at hstream
      cases hstream
  | ok stream =>
      have hopen := openStream_of_getStreamOrThrow hstream
      dsimp only
      by_cases htype : stream.type = .input
      · rw [if_pos htype]
        refine iff_of_true (fun _ => rfl) ?_
        rintro ⟨other, hother, hinput, -⟩
        obtain rfl := Option.some.inj (hopen.symm.trans hother)
        exact hinput htype
      rw [if_neg htype]
      -- The frame has been recorded when the samples are counted.
      rcases advanceOffset_cases (stream.recordFrame stream.currentOffset now) payload.length with
        ⟨haligned, advanced, hadvance⟩ | ⟨hmisaligned, reason, hadvance⟩
      · rw [hadvance]
        refine iff_of_true (fun refused => absurd rfl (refused _)) ?_
        rintro ⟨other, hother, -, hmisaligned⟩
        obtain rfl := Option.some.inj (hopen.symm.trans hother)
        exact haligned ((misaligned_recordFrame _ _ _ _).mpr hmisaligned)
      · rw [hadvance]
        refine iff_of_false (fun atomic => ?_) (not_not.mpr ⟨stream, hopen, htype, hmisaligned⟩)
        exact progress_putStream_recordFrame hopen stream.currentOffset now
          (atomic Checks.error_ne_ok)

/-- **A refused media call leaves every stream as it was**, exactly if it does not come to count
the samples of a payload that is not a whole number of them. -/
theorem mediaOperation_atomic_iff (rt : Runtime) (e : Endpoint) (now : Ticks)
    (call : MediaOperation) :
    (call.Refused rt e now → (call.after rt e now).server.progress = e.server.progress) ↔
      ¬ call.Misaligned rt e := by
  cases call with
  | handleIncomingMedia frame => exact handleIncomingMedia_atomic_iff rt e now frame
  | sendMediaAsync cancelled streamId payload timestamp =>
      cases cancelled with
      | true => exact iff_of_true (fun _ => rfl) fun misaligned => absurd misaligned.1 nofun
      | false =>
          refine Iff.trans ?_ ((sendMedia_atomic_iff e now streamId payload timestamp).trans
            (not_congr (and_iff_right rfl).symm))
          refine imp_congr ?_ Iff.rfl
          show (∀ message, Except.mapError some (e.sendMedia now streamId payload timestamp).2 ≠ _)
            ↔ _
          cases (e.sendMedia now streamId payload timestamp).2 with
          | error ex => exact iff_of_true Checks.error_ne_ok Checks.error_ne_ok
          | ok sent =>
              exact iff_of_false (fun refused => refused sent rfl) fun refused => refused sent rfl

/-! ### A payload of five bytes -/

/-- Frames of four bytes. -/
def stereoStream : StreamState where
  id := utf16 "pcm"
  contentType := utf16 "audio/pcm;rate=8000;channels=2;bits=16"
  type := .duplex
  purpose := none
  offsetType := .time
  currentOffset := 7
  pcmStride := some 4
  stride_pos := fun _ => ⟨4, by decide, rfl⟩

def stereoEndpoint : Endpoint where
  server :=
    { snapshots := [⟨utf16 "stereo", 30000, [stereoStream], none, 0⟩]
      sessions := [(utf16 "stereo", 0)] }
  connection := { state := .established, snapshot := some 0 }

/-- The payload is refused, and has left a checkpoint. -/
theorem not_mediaOperation_atomic :
    ¬ ∀ (rt : Runtime) (e : Endpoint) (now : Ticks) (call : MediaOperation),
      e.connection.state = .established → call.Refused rt e now →
        (call.after rt e now).server.progress = e.server.progress := by
  intro atomic
  have thrown : (stereoEndpoint.sendMediaAsync 3 false (utf16 "pcm") [1, 2, 3, 4, 5] 0).2 =
      .error (some (protocolError
        (utf16 "PCM payload length must align with the declared sample format."))) := rfl
  have same := atomic ⟨id⟩ stereoEndpoint 3
    (.sendMediaAsync false (utf16 "pcm") [1, 2, 3, 4, 5] 0) rfl
    (fun message hmessage => by rw [thrown] at hmessage; cases hmessage)
  exact absurd same (by decide)

end CulpeoStream.Dotnet
