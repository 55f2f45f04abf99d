import Mathlib.Algebra.Order.Ring.Int
import CulpeoStream.Lib.Table
import CulpeoStream.Dotnet.Session

/-!
# Media frames of a C# connection

What the handlers of media see of a session: the streams of an established connection
(`openStream`), the checks that an accepted frame went through, and the violations that a
rejected one is.
-/

namespace CulpeoStream.Dotnet

open Message Utf16

/-- The stream, in a connection that is established. -/
def Endpoint.openStream (e : Endpoint) (id : Text) : Option StreamState :=
  if e.connection.state = .established then e.snapshot.bind (·.stream id) else none

theorem snapshot_modifySnapshot (e : Endpoint) (f : SessionSnapshot → SessionSnapshot) :
    (e.modifySnapshot f).snapshot = e.snapshot.map f := by
  unfold Endpoint.modifySnapshot Endpoint.snapshot
  cases href : e.connection.snapshot with
  | none => rw [href]; rfl
  | some ref => simp [href]

theorem connection_modifySnapshot (e : Endpoint) (f : SessionSnapshot → SessionSnapshot) :
    (e.modifySnapshot f).connection = e.connection := by
  unfold Endpoint.modifySnapshot
  split <;> rfl

/-- Changing a stream is not seen by the others. -/
theorem openStream_putStream (e : Endpoint) (new : StreamState) (id : Text) :
    (e.modifySnapshot (·.putStream new)).openStream id =
      if id = new.id then (e.openStream id).map fun _ => new else e.openStream id := by
  unfold Endpoint.openStream
  rw [connection_modifySnapshot, snapshot_modifySnapshot]
  by_cases hstate : e.connection.state = .established
  · rw [if_pos hstate, if_pos hstate]
    cases e.snapshot with
    | none => simp
    | some snapshot => exact Table.find?_replace StreamState.id new id snapshot.streams
  · simp [hstate]

theorem openStream_id {e : Endpoint} {id : Text} {stream : StreamState}
    (h : e.openStream id = some stream) : stream.id = id := by
  unfold Endpoint.openStream at h
  split at h
  · obtain ⟨snapshot, -, hstream⟩ := Option.bind_eq_some_iff.mp h
    simpa using List.find?_some hstream
  · cases h

theorem openStream_established {e : Endpoint} {id : Text} {stream : StreamState}
    (h : e.openStream id = some stream) : e.connection.state = .established := by
  unfold Endpoint.openStream at h
  split at h
  · assumption
  · cases h

theorem getStreamOrThrow_of_openStream {e : Endpoint} {id : Text} {stream : StreamState}
    (h : e.openStream id = some stream) : e.getStreamOrThrow id = .ok stream := by
  have hstate := openStream_established h
  rw [Endpoint.openStream, if_pos hstate] at h
  obtain ⟨snapshot, hsnapshot, hstream⟩ := Option.bind_eq_some_iff.mp h
  simp only [Endpoint.getStreamOrThrow, Endpoint.ensureEstablished, hstate, hsnapshot, hstream]

theorem openStream_of_getStreamOrThrow {e : Endpoint} {id : Text} {stream : StreamState}
    (h : e.getStreamOrThrow id = .ok stream) : e.openStream id = some stream := by
  unfold Endpoint.getStreamOrThrow Endpoint.ensureEstablished at h
  cases hstate : e.connection.state with
  | established =>
      cases hsnapshot : e.snapshot with
      | none => simp [hstate, hsnapshot] at h
      | some snapshot =>
          simp only [hstate, hsnapshot] at h
          split at h
          · cases h
            rw [Endpoint.openStream, if_pos hstate, hsnapshot, Option.bind_some]
            assumption
          · cases h
  | _ => simp [hstate] at h

theorem openStream_eq_none {e : Endpoint} (h : e.connection.state ≠ .established) (id : Text) :
    e.openStream id = none := by
  rw [Endpoint.openStream, if_neg h]

theorem state_closeWithCloseFrame (e : Endpoint) (now : Ticks) (code reason : Text) :
    (e.closeWithCloseFrame now code reason).1.connection.state = .closed := by
  unfold Endpoint.closeWithCloseFrame Endpoint.stampDisconnected
  dsimp only
  split
  · dsimp only
    rw [connection_modifySnapshot]
    rfl
  · rfl

theorem state_closeOnViolation (e : Endpoint) (now : Ticks) (reason : Text) :
    (e.closeOnViolation now (protocolError reason)).1.connection.state = .closed :=
  state_closeWithCloseFrame e now (utf16 "protocol-error") reason

/-- An offset that stays below `2^63`. -/
theorem toInt_add_ofNat {offset : Int64} {n : ℕ} (h : offset.toInt + n < 2 ^ 63) :
    (offset + Int64.ofNat n).toInt = offset.toInt + n := by
  have hlow := offset.le_toInt
  have hsize : (Int64.size : ℤ) = 2 ^ 64 := rfl
  rw [Int64.toInt_add, Int64.toInt_ofNat', Int.add_bmod_bmod]
  exact Int.bmod_eq_of_le (by omega) (by omega)

/-- A payload that cannot be counted is a violation of the protocol, and not one of the
offset. -/
theorem advanceOffset_error {stream : StreamState} {n : ℕ} {ex : Exn}
    (h : stream.advanceOffset n = .error ex) :
    ∃ reason, ex = protocolError reason ∧
      reason ≠ utf16 "Media frame offset is out of sequence." := by
  have hinc : stream.getIncrement n = .error ex := by
    unfold StreamState.advanceOffset at h
    split at h
    · cases h
      assumption
    · cases h
  unfold StreamState.getIncrement at hinc
  split at hinc
  · rename_i htime
    obtain ⟨stride, -, hstride⟩ := stream.stride_pos htime
    rw [hstride] at hinc
    unfold StreamState.getPcmIncrement at hinc
    dsimp only at hinc
    split at hinc
    · cases hinc
      exact ⟨_, rfl, by decide⟩
    · cases hinc
  · cases hinc
  · cases hinc

theorem advanceOffset_id {stream advanced : StreamState} {n : ℕ}
    (h : stream.advanceOffset n = .ok advanced) : advanced.id = stream.id := by
  unfold StreamState.advanceOffset at h
  split at h
  · cases h
  · cases h
    rfl

/-- **What an accepted media frame went through.** -/
theorem checkMedia_ok {rt : Runtime} {e : Endpoint} {frame : CulpeoMessage}
    {stream : StreamState} {offset : Int64} (h : e.checkMedia rt frame = .ok (stream, offset)) :
    ∃ id, frame.streamId = some id ∧ e.openStream id = some stream ∧
      frame.offset = some offset ∧ offset = stream.currentOffset := by
  unfold Endpoint.checkMedia at h
  split at h
  · cases h
  · rename_i hblank
    obtain ⟨id, hid⟩ : ∃ id, frame.streamId = some id := by
      cases hid : frame.streamId with
      | none =>
          rw [hid] at hblank
          exact absurd rfl hblank
      | some id => exact ⟨id, rfl⟩
    cases hstream : e.getStreamOrThrow (frame.streamId.getD []) with
    | error ex => simp [hstream] at h
    | ok s =>
        simp only [hstream] at h
        split at h
        · cases h
        · split at h
          · cases h
          · split at h
            · cases h
            · rename_i hoffset
              split at h
              · cases h
              · rename_i hsame
                cases h
                refine ⟨id, hid, ?_, hoffset, not_not.mp hsame⟩
                rw [hid] at hstream
                exact openStream_of_getStreamOrThrow hstream

/-- **What a rejected media frame of an open stream is**: a violation of the protocol, and
a mismatch only when the offset of the frame is not the one of its stream. -/
theorem checkMedia_error {rt : Runtime} {e : Endpoint} {frame : CulpeoMessage}
    {stream : StreamState} (hopen : e.openStream (frame.streamId.getD []) = some stream)
    {ex : Exn} (h : e.checkMedia rt frame = .error ex) :
    ∃ reason, ex = protocolError reason ∧
      (reason = utf16 "Media frame offset is out of sequence." →
        frame.offset ≠ some stream.currentOffset) := by
  unfold Endpoint.checkMedia at h
  rw [getStreamOrThrow_of_openStream hopen] at h
  split at h
  · cases h
    exact ⟨_, rfl, fun hreason => absurd hreason (by decide)⟩
  · dsimp only at h
    split at h
    · cases h
      exact ⟨_, rfl, fun hreason => absurd hreason (by decide)⟩
    · split at h
      · cases h
        exact ⟨_, rfl, fun hreason => absurd hreason (by decide)⟩
      · split at h
        · rename_i hoffset
          cases h
          exact ⟨_, rfl, fun _ => by rw [hoffset]; nofun⟩
        · rename_i hoffset
          split at h
          · rename_i hne
            cases h
            refine ⟨_, rfl, fun _ => ?_⟩
            rw [hoffset, Ne, Option.some.injEq]
            exact hne
          · cases h

end CulpeoStream.Dotnet
