import Mathlib.Algebra.Group.Nat.Defs
import Mathlib.Data.List.Basic
import CulpeoStream.Lib.Framing
import CulpeoStream.Message.Chars

/-!
# The HTTP/2 envelope

HTTP/2 does not keep message boundaries, so every frame travels in an envelope: a 4-byte
big-endian length, a type octet, and the payload.  `encodeH2Envelope` writes one, and
`RecvState.drainFrames` takes complete frames off the bytes that have arrived.

The loop of `drainFrames` is `Format.drain` of the format `envelopeFormat`, whose `front`
is one round of it.
-/

namespace CulpeoStream.Http2

open Framing
open Message (Bytes)

/-- The type octet of a frame, and its payload. -/
abbrev Frame := UInt8 × Bytes

def kTypeControl : UInt8 := 0x01

def kTypeMedia : UInt8 := 0x02

def kH2MaxFrameSize : UInt32 := (1 : UInt32) <<< 20

def kMaxFrameSize : UInt32 := kH2MaxFrameSize

/-! ### Writing -/

/-- The four octets of a length, the most significant first. -/
def lengthOctets (len : UInt32) : Bytes :=
  [((len >>> 24) &&& 0xFF).toUInt8, ((len >>> 16) &&& 0xFF).toUInt8,
    ((len >>> 8) &&& 0xFF).toUInt8, (len &&& 0xFF).toUInt8]

/-- `encode_h2_envelope`, with the text of the exception that it throws. -/
def encodeH2Envelope (type_byte : UInt8) (payload : Bytes) : Except String Bytes :=
  if kH2MaxFrameSize.toNat ≤ payload.length then
    .error "encode_h2_envelope: payload exceeds maximum frame size (kH2MaxFrameSize)"
  else
    .ok (lengthOctets (1 + payload.length.toUInt32) ++ type_byte :: payload)

/-! ### Reading -/

/-- The length that four octets stand for. -/
def readLength (b₀ b₁ b₂ b₃ : UInt8) : UInt32 :=
  (b₀.toUInt32 <<< 24) ||| (b₁.toUInt32 <<< 16) ||| (b₂.toUInt32 <<< 8) ||| b₃.toUInt32

/-- One round of the loop of `drain_frames`. -/
def envelopeFront : Bytes → Front UInt8 Frame
  | b₀ :: b₁ :: b₂ :: b₃ :: type_byte :: rest =>
      let len := readLength b₀ b₁ b₂ b₃
      if len = 0 ∨ kMaxFrameSize < len then .malformed
      -- `buf.size() < 4u + len`, where the five octets above belong to the buffer
      else if rest.length + 5 < (4 + len).toNat then .short
      else .frame (type_byte, rest.take (len.toNat - 1)) (rest.drop (len.toNat - 1))
  | _ => .short

/-! ### The length field -/

theorem shiftLeft_or_shiftLeft {a b n : ℕ} (h : b < 2 ^ n) (m : ℕ) :
    a <<< (n + m) ||| b <<< m = (a * 2 ^ n + b) <<< m := by
  rw [Nat.shiftLeft_add, ← Nat.shiftLeft_or_distrib, ← Nat.shiftLeft_add_eq_or_of_lt h,
    Nat.shiftLeft_eq a]

theorem toNat_readLength (b₀ b₁ b₂ b₃ : UInt8) :
    (readLength b₀ b₁ b₂ b₃).toNat =
      ((b₀.toNat * 2 ^ 8 + b₁.toNat) * 2 ^ 8 + b₂.toNat) * 2 ^ 8 + b₃.toNat := by
  have h₀ := b₀.toNat_lt
  have h₁ := b₁.toNat_lt
  have h₂ := b₂.toNat_lt
  have h₃ := b₃.toNat_lt
  have hshift₀ : (b₀.toUInt32 <<< 24).toNat = b₀.toNat <<< (8 + (8 + 8)) := by
    simp [Nat.shiftLeft_eq]
    omega
  have hshift₁ : (b₁.toUInt32 <<< 16).toNat = b₁.toNat <<< (8 + 8) := by
    simp [Nat.shiftLeft_eq]
    omega
  have hshift₂ : (b₂.toUInt32 <<< 8).toNat = b₂.toNat <<< 8 := by
    simp [Nat.shiftLeft_eq]
    omega
  unfold readLength
  rw [UInt32.toNat_or, UInt32.toNat_or, UInt32.toNat_or, hshift₀, hshift₁, hshift₂,
    shiftLeft_or_shiftLeft h₁, shiftLeft_or_shiftLeft h₂, UInt8.toNat_toUInt32,
    ← Nat.shiftLeft_add_eq_or_of_lt h₃, Nat.shiftLeft_eq]

/-- The octets written for a length are read as that length. -/
theorem readLength_lengthOctets (len : UInt32) :
    readLength ((len >>> 24) &&& 0xFF).toUInt8 ((len >>> 16) &&& 0xFF).toUInt8
      ((len >>> 8) &&& 0xFF).toUInt8 (len &&& 0xFF).toUInt8 = len := by
  have hlt := len.toNat_lt
  have hand : ∀ x : ℕ, x &&& 255 = x % 256 := fun x => Nat.and_two_pow_sub_one_eq_mod x 8
  apply UInt32.toNat_inj.mp
  rw [toNat_readLength]
  simp [Nat.shiftRight_eq_div_pow, hand]
  omega

/-! ### The format -/

theorem toNat_kMaxFrameSize : kMaxFrameSize.toNat = 2 ^ 20 := by decide

/-- The front of a buffer that holds a length and a type octet. -/
theorem envelopeFront_cons (b₀ b₁ b₂ b₃ type_byte : UInt8) (rest : Bytes) :
    envelopeFront (b₀ :: b₁ :: b₂ :: b₃ :: type_byte :: rest) =
      if readLength b₀ b₁ b₂ b₃ = 0 ∨ kMaxFrameSize < readLength b₀ b₁ b₂ b₃ then .malformed
      else if rest.length < (readLength b₀ b₁ b₂ b₃).toNat - 1 then .short
      else .frame (type_byte, rest.take ((readLength b₀ b₁ b₂ b₃).toNat - 1))
        (rest.drop ((readLength b₀ b₁ b₂ b₃).toNat - 1)) := by
  simp only [envelopeFront]
  split
  · rfl
  · rename_i hlen
    have hpos : (readLength b₀ b₁ b₂ b₃).toNat ≠ 0 := fun h => hlen (.inl (UInt32.toNat_inj.mp h))
    have hle : (readLength b₀ b₁ b₂ b₃).toNat ≤ 2 ^ 20 := by
      rw [← toNat_kMaxFrameSize]
      exact Nat.le_of_not_lt fun h => hlen (.inr (UInt32.lt_iff_toNat_lt.mpr h))
    have hsum : (4 + readLength b₀ b₁ b₂ b₃).toNat = 4 + (readLength b₀ b₁ b₂ b₃).toNat := by
      rw [UInt32.toNat_add]
      exact Nat.mod_eq_of_lt (by simp; omega)
    rw [hsum]
    exact if_congr (by omega) rfl rfl

/-- Only a buffer of five octets is looked at. -/
theorem five_le_of_envelopeFront {b : Bytes} (h : envelopeFront b ≠ .short) :
    ∃ b₀ b₁ b₂ b₃ type_byte rest, b = b₀ :: b₁ :: b₂ :: b₃ :: type_byte :: rest := by
  unfold envelopeFront at h
  split at h
  · exact ⟨_, _, _, _, _, _, rfl⟩
  · exact absurd rfl h

/-- The format that `drain_frames` reads. -/
def envelopeFormat : Format UInt8 Frame where
  front := envelopeFront
  front_nil := rfl
  frame_head {b f rest} h := by
    obtain ⟨b₀, b₁, b₂, b₃, type_byte, tail, rfl⟩ := five_le_of_envelopeFront (by rw [h]; nofun)
    rw [envelopeFront_cons] at h
    split at h
    · cases h
    · split at h
      · cases h
      · rename_i hlen hshort
        cases h
        refine ⟨b₀ :: b₁ :: b₂ :: b₃ :: type_byte ::
          tail.take ((readLength b₀ b₁ b₂ b₃).toNat - 1), by simp, by simp, fun x => ?_⟩
        have htake : (tail.take ((readLength b₀ b₁ b₂ b₃).toNat - 1)).length =
            (readLength b₀ b₁ b₂ b₃).toNat - 1 := by
          rw [List.length_take]
          omega
        simp only [List.cons_append]
        rw [envelopeFront_cons, if_neg hlen, if_neg (by rw [List.length_append]; omega),
          List.take_left' htake, List.drop_left' htake]
  malformed_append {b} x h := by
    obtain ⟨b₀, b₁, b₂, b₃, type_byte, tail, rfl⟩ := five_le_of_envelopeFront (by rw [h]; nofun)
    simp only [List.cons_append]
    rw [envelopeFront_cons] at h ⊢
    split at h
    · rw [if_pos ‹_›]
    · split at h <;> cases h

/-! ### The receive buffer -/

structure RecvState where
  buf : Bytes := []

/-- `drain_frames`: the frames, and the buffer that is left. -/
def RecvState.drainFrames (r : RecvState) : List Frame × RecvState :=
  ((envelopeFormat.drain r.buf).1, ⟨(envelopeFormat.drain r.buf).2⟩)

/-- Chunks are appended to the buffer one by one, and each time the buffer is drained. -/
def RecvState.receive (r : RecvState) : List Bytes → List Frame × RecvState
  | [] => ([], r)
  | chunk :: chunks =>
      let drained := drainFrames ⟨r.buf ++ chunk⟩
      let received := receive drained.2 chunks
      (drained.1 ++ received.1, received.2)

theorem receive_eq_feed (chunks : List Bytes) : ∀ r : RecvState,
    r.receive chunks =
      ((envelopeFormat.feed r.buf chunks).1, ⟨(envelopeFormat.feed r.buf chunks).2⟩) := by
  induction chunks with
  | nil => intro r; rfl
  | cons chunk chunks ih =>
      intro r
      simp only [RecvState.receive, RecvState.drainFrames, Format.feed, ih]

/-! ### The round trip -/

theorem encodeH2Envelope_ok (type_byte : UInt8) {payload : Bytes}
    (h : payload.length < kH2MaxFrameSize.toNat) :
    encodeH2Envelope type_byte payload =
      .ok (lengthOctets (1 + payload.length.toUInt32) ++ type_byte :: payload) :=
  if_neg (Nat.not_le.mpr h)

/-- An envelope is read as the frame it was written for, whatever follows it. -/
theorem envelopeFront_envelope {type_byte : UInt8} {payload envelope : Bytes}
    (h : encodeH2Envelope type_byte payload = .ok envelope) (x : Bytes) :
    envelopeFront (envelope ++ x) = .frame (type_byte, payload) x := by
  unfold encodeH2Envelope at h
  split at h
  · cases h
  · rename_i hlt
    cases h
    have hmax : kH2MaxFrameSize.toNat = 2 ^ 20 := toNat_kMaxFrameSize
    have hlen : (1 + payload.length.toUInt32).toNat = 1 + payload.length := by
      simp
      omega
    simp only [lengthOctets, List.cons_append, List.nil_append]
    rw [envelopeFront_cons, readLength_lengthOctets, hlen, if_neg, if_neg]
    · simp
    · simp
    · rintro (hzero | hbig)
      · have := congrArg UInt32.toNat hzero
        simp only [hlen, UInt32.toNat_zero] at this
        omega
      · have := UInt32.lt_iff_toNat_lt.mp hbig
        rw [hlen, toNat_kMaxFrameSize] at this
        omega

/-- Some frames, each in its envelope. -/
def encodeFrames (frames : List Frame) : Except String (List Bytes) :=
  frames.mapM fun f => encodeH2Envelope f.1 f.2

theorem encodeFrames_cons (f : Frame) (frames : List Frame) :
    encodeFrames (f :: frames) =
      (encodeH2Envelope f.1 f.2).bind fun envelope =>
        (encodeFrames frames).bind fun envelopes => .ok (envelope :: envelopes) :=
  List.mapM_cons

theorem exists_encodeFrames {frames : List Frame}
    (hsize : ∀ f ∈ frames, f.2.length < kH2MaxFrameSize.toNat) :
    ∃ envelopes, encodeFrames frames = .ok envelopes := by
  induction frames with
  | nil => exact ⟨[], rfl⟩
  | cons f frames ih =>
      obtain ⟨envelopes, hencode⟩ := ih fun g hg => hsize g (List.mem_cons_of_mem f hg)
      rw [encodeFrames_cons, encodeH2Envelope_ok f.1 (hsize f List.mem_cons_self), hencode]
      exact ⟨_, rfl⟩

/-- The envelopes of some frames are split into these frames. -/
theorem split_envelopes {frames : List Frame} : ∀ {envelopes : List Bytes},
    encodeFrames frames = .ok envelopes →
      envelopeFormat.split envelopes.flatten = (frames, []) := by
  induction frames with
  | nil =>
      intro envelopes h
      cases h
      rfl
  | cons f frames ih =>
      intro envelopes h
      rw [encodeFrames_cons] at h
      cases hfirst : encodeH2Envelope f.1 f.2 with
      | error message =>
          rw [hfirst] at h
          cases h
      | ok envelope =>
          rw [hfirst] at h
          cases hrest : encodeFrames frames with
          | error message =>
              rw [hrest] at h
              cases h
          | ok rest =>
              rw [hrest] at h
              cases h
              rw [List.flatten_cons, Format.split_frame (envelopeFront_envelope hfirst _),
                ih hrest]

/-- **The round trip.**  However the envelopes are cut into chunks, draining the buffer
after each of them gives the frames in order, and leaves the buffer empty. -/
theorem receive_envelopes (frames : List Frame)
    (hsize : ∀ f ∈ frames, f.2.length < kH2MaxFrameSize.toNat) :
    ∃ envelopes, encodeFrames frames = .ok envelopes ∧
      ∀ chunks : List Bytes, chunks.flatten = envelopes.flatten →
        RecvState.receive {} chunks = (frames, {}) := by
  obtain ⟨envelopes, hencode⟩ := exists_encodeFrames hsize
  refine ⟨envelopes, hencode, fun chunks hchunks => ?_⟩
  have hstream : envelopeFormat.split ([] ++ chunks.flatten) = (frames, []) := by
    rw [List.nil_append, hchunks, split_envelopes hencode]
  rw [receive_eq_feed, Format.feed_eq_split rfl (by rw [hstream]; rfl), hstream]

/-- Two frames back to back. -/
theorem receive_envelopes_pair :
    ∃ envelopes, encodeFrames [(kTypeControl, []), (kTypeMedia, [0xAA, 0xBB])] = .ok envelopes ∧
      ∀ chunks : List Bytes, chunks.flatten = envelopes.flatten →
        RecvState.receive {} chunks = ([(kTypeControl, []), (kTypeMedia, [0xAA, 0xBB])], {}) :=
  receive_envelopes [(kTypeControl, []), (kTypeMedia, [0xAA, 0xBB])] (by decide)

end CulpeoStream.Http2
