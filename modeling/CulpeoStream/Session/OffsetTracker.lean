import CulpeoStream.Session.Types

/-!
# Offsets

`offset_tracker.cpp`: how far a frame moves the offset of its stream, and the
guarded 64-bit addition.  `advanceOffset_ok` is the addition over the natural numbers
that the session's accounting uses.
-/

namespace CulpeoStream.Session

open Message

def computePcmIncrement (frameBytes : UInt64) (params : PcmParams) : Except Error UInt64 :=
  if params.channels = 0 ∨ params.bits = 0 then .error .offsetOverflow
  else if params.bits % 8 ≠ 0 then .error .offsetOverflow
  else
    let bytesPerSampleChan := params.bits.toUInt32 / 8
    let bytesPerFrameSample := params.channels.toUInt64 * bytesPerSampleChan.toUInt64
    if bytesPerFrameSample = 0 then .error .offsetOverflow
    else .ok (frameBytes / bytesPerFrameSample)

/-- The increment that `advance_offset` computes from the offset type. -/
def frameIncrement (stream : StreamInfo) (frameBytes : UInt64) : Except Error UInt64 :=
  match stream.offsetType with
  | .time =>
      match stream.pcmParams with
      | none => .error .offsetOverflow
      | some params => computePcmIncrement frameBytes params
  | .byte => .ok frameBytes
  | .message => .ok 1

def advanceOffset (stream : StreamInfo) (frameBytes : UInt64) : Except Error StreamInfo :=
  match frameIncrement stream frameBytes with
  | .error e => .error e
  | .ok increment =>
      if 0xFFFFFFFFFFFFFFFF - stream.offset < increment then .error .offsetOverflow
      else .ok { stream with offset := stream.offset + increment }

def checkOffset (stream : StreamInfo) (frameOffset : UInt64) : Except Error Unit :=
  if frameOffset ≠ stream.offset then .error .offsetMismatch else .ok ()

/-- The increment of a frame with this body on this stream, as a natural number;
zero where the source reports an error instead. -/
def increment (stream : StreamInfo) (body : Bytes) : ℕ :=
  match frameIncrement stream body.length.toUInt64 with
  | .ok n => n.toNat
  | .error _ => 0

/-- The increment depends on the stream only through its offset type and its PCM
parameters. -/
theorem increment_congr {s s' : StreamInfo} (htype : s.offsetType = s'.offsetType)
    (hpcm : s.pcmParams = s'.pcmParams) (body : Bytes) : increment s body = increment s' body := by
  simp only [increment, frameIncrement, htype, hpcm]

/-- An advance succeeds when the increment can be told and there is room for it. -/
theorem advanceOffset_ok_iff {stream advanced : StreamInfo} {frameBytes : UInt64} :
    advanceOffset stream frameBytes = .ok advanced ↔
      ∃ n, frameIncrement stream frameBytes = .ok n ∧ stream.offset.toNat + n.toNat < 2 ^ 64 ∧
        advanced = { stream with offset := stream.offset + n } := by
  have hroom : ∀ n : UInt64, ¬ 0xFFFFFFFFFFFFFFFF - stream.offset < n ↔
      stream.offset.toNat + n.toNat < 2 ^ 64 := by
    intro n
    have hoff := stream.offset.toNat_lt
    have hmax : (0xFFFFFFFFFFFFFFFF : UInt64).toNat = 2 ^ 64 - 1 := by decide
    have hle : stream.offset ≤ 0xFFFFFFFFFFFFFFFF := by
      rw [UInt64.le_iff_toNat_le, hmax]
      omega
    rw [UInt64.lt_iff_toNat_lt, UInt64.toNat_sub_of_le _ _ hle, hmax]
    omega
  rw [advanceOffset]
  constructor
  · intro h
    cases hinc : frameIncrement stream frameBytes with
    | error e =>
        rw [hinc] at h
        cases h
    | ok n =>
        rw [hinc] at h
        dsimp only at h
        split at h
        · cases h
        · rename_i hguard
          cases h
          exact ⟨n, rfl, (hroom n).mp hguard, rfl⟩
  · rintro ⟨n, hinc, hlt, rfl⟩
    rw [hinc]
    dsimp only
    rw [if_neg ((hroom n).mpr hlt)]

/-- **Guarded addition.**  A successful advance adds the increment over the natural
numbers, without wrapping, and touches nothing else. -/
theorem advanceOffset_ok {stream stream' : StreamInfo} {body : Bytes}
    (h : advanceOffset stream body.length.toUInt64 = .ok stream') :
    stream'.offset.toNat = stream.offset.toNat + increment stream body ∧
      stream' = { stream with offset := stream'.offset } := by
  obtain ⟨n, hinc, hroom, rfl⟩ := advanceOffset_ok_iff.mp h
  refine ⟨?_, rfl⟩
  simp only [increment, hinc, UInt64.toNat_add]
  exact Nat.mod_eq_of_lt hroom

theorem advanceOffset_id {stream advanced : StreamInfo} {body : Bytes}
    (h : advanceOffset stream body.length.toUInt64 = .ok advanced) : advanced.id = stream.id := by
  rw [(advanceOffset_ok h).2]

end CulpeoStream.Session
