import CulpeoStream.Http2.Session

/-!
# Reassembly

The frames that a stream yields should depend on its octets only: they are the frames
before the first malformed length field, and nothing is read at or after it.  The receiver
empties its buffer at a malformed length and then goes on with the next `DATA` chunk, so
that the cuts between the chunks decide what is read from there on.
`frames_independent_iff` says for which octets they do not.
-/

namespace CulpeoStream.Http2

open Framing
open Message (Bytes)

/-- The frames before the first malformed length field, and the octets from there on, or
from the first envelope that is not complete. -/
def precedingFrames (bytes : Bytes) : List Frame := (envelopeFormat.split bytes).1

/-- The octets that are left after `precedingFrames`. -/
def remainder (bytes : Bytes) : Bytes := (envelopeFormat.split bytes).2

namespace H2Session

variable {s : H2Session} {sid : ℤ}

/-! ### One chunk -/

/-- A chunk on a stream that was not refused. -/
theorem onDataChunkRecvCallback_eq (h : sid ∉ s.refused_streams_) (data : Bytes) :
    let drained := RecvState.drainFrames ⟨(s.stream sid).recv.buf ++ data⟩
    let sent := (s.stream sid).channel.sendAll (drained.1.map .frame)
    (s.onDataChunkRecvCallback sid data).1.stream sid =
        { s.stream sid with recv := drained.2, channel := sent.1 } ∧
      (s.onDataChunkRecvCallback sid data).2 = { frames := drained.1, received := sent.2 } := by
  unfold onDataChunkRecvCallback dispatchRecvFrames
  simp only [if_neg h, lookup_setStream, stream_setStream, and_self]

theorem refused_onDataChunkRecvCallback (s : H2Session) (sid : ℤ) (data : Bytes) :
    (s.onDataChunkRecvCallback sid data).1.refused_streams_ = s.refused_streams_ := by
  unfold onDataChunkRecvCallback dispatchRecvFrames
  split
  · rfl
  · simp only [lookup_setStream, refused_setStream]

/-! ### A stream of chunks -/

/-- `on_data_chunk_recv_callback` is called with one chunk after another: the frames that
`drain_frames` returns, all together. -/
def feedChunks (s : H2Session) (sid : ℤ) : List Bytes → List Frame
  | [] => []
  | chunk :: chunks =>
      let fed := s.onDataChunkRecvCallback sid chunk
      fed.2.frames ++ feedChunks fed.1 sid chunks

theorem feedChunks_eq_feed (chunks : List Bytes) : ∀ {s : H2Session}, sid ∉ s.refused_streams_ →
    s.feedChunks sid chunks = (envelopeFormat.feed (s.stream sid).recv.buf chunks).1 := by
  induction chunks with
  | nil => intro s _; rfl
  | cons chunk chunks ih =>
      intro s h
      obtain ⟨hstream, harrival⟩ := onDataChunkRecvCallback_eq h chunk
      simp only [feedChunks, Format.feed]
      rw [ih (by rwa [refused_onDataChunkRecvCallback]), hstream, harrival]
      rfl

end H2Session

/-! ### Where the receiver takes up again -/

/-- The first five octets decide whether a front is malformed. -/
theorem envelopeFront_malformed_append {pre post : Bytes} (hlen : 5 ≤ pre.length) :
    envelopeFront (pre ++ post) = .malformed ↔ envelopeFront pre = .malformed := by
  refine ⟨fun h => ?_, envelopeFormat.malformed_append post⟩
  match pre, hlen with
  | b₀ :: b₁ :: b₂ :: b₃ :: type_byte :: rest, _ =>
      simp only [List.cons_append] at h
      rw [envelopeFront_cons] at h ⊢
      split at h
      · rw [if_pos ‹_›]
      · split at h <;> cases h

/-- After a malformed length field no complete envelope begins, from five octets on. -/
def QuietAfterMalformed (bytes : Bytes) : Prop :=
  envelopeFront (remainder bytes) = .malformed → ∀ n, 5 ≤ n → ∀ f rest,
    envelopeFront ((remainder bytes).drop n) ≠ .frame f rest

theorem silent_iff (bytes : Bytes) :
    envelopeFormat.Silent (remainder bytes) ↔ QuietAfterMalformed bytes := by
  constructor
  · intro h hmalformed n hn f rest
    by_cases hlen : (remainder bytes).length ≤ n
    · rw [List.drop_eq_nil_of_le hlen]
      nofun
    · have htake : 5 ≤ ((remainder bytes).take n).length := by
        rw [List.length_take]
        omega
      refine h _ _ (List.take_append_drop n _).symm ?_ f rest
      rw [← List.take_append_drop n (remainder bytes)] at hmalformed
      exact (envelopeFront_malformed_append htake).mp hmalformed
  · intro h pre post hsplit hpre f rest
    have hlen : 5 ≤ pre.length := by
      obtain ⟨_, _, _, _, _, _, rfl⟩ := five_le_of_envelopeFront (by
        show envelopeFront pre ≠ .short
        rw [show envelopeFront pre = .malformed from hpre]
        exact fun hshort => by cases hshort)
      simp
    have hpost : (remainder bytes).drop pre.length = post := by
      rw [hsplit, List.drop_left]
    rw [← hpost]
    refine h ?_ pre.length hlen f rest
    rw [hsplit]
    exact envelopeFormat.malformed_append post hpre

/-- **Reassembly.**  The frames that a stream yields are the frames before the first
malformed length field, however its octets are cut into chunks, exactly if no complete
envelope begins five octets or more after the malformed field begins. -/
theorem frames_independent_iff {s : H2Session} {sid : ℤ} (hopen : sid ∉ s.refused_streams_)
    (hempty : (s.stream sid).recv.buf = []) (bytes : Bytes) :
    (∀ chunks chunks' : List Bytes, chunks.flatten = bytes → chunks'.flatten = bytes →
        s.feedChunks sid chunks = s.feedChunks sid chunks' ∧
          s.feedChunks sid chunks = precedingFrames bytes) ↔ QuietAfterMalformed bytes := by
  rw [← silent_iff, remainder, ← Format.feed_independent_iff]
  constructor
  · intro h chunks hchunks
    have hframes := (h chunks chunks hchunks hchunks).2
    rwa [H2Session.feedChunks_eq_feed chunks hopen, hempty] at hframes
  · intro h chunks chunks' hchunks hchunks'
    rw [H2Session.feedChunks_eq_feed chunks hopen, H2Session.feedChunks_eq_feed chunks' hopen,
      hempty, h chunks hchunks, h chunks' hchunks']
    exact ⟨rfl, rfl⟩

/-- Two envelopes, a length of zero, and octets that begin no envelope. -/
def brokenStream : Bytes :=
  [0, 0, 0, 3, 1, 7, 8, 0, 0, 0, 2, 2, 9, 0, 0, 0, 0, 0, 0, 0, 0, 2]

theorem quietAfterMalformed_brokenStream : QuietAfterMalformed brokenStream := by
  have hremainder : remainder brokenStream = [0, 0, 0, 0, 0, 0, 0, 0, 2] := by decide
  intro _ n hn f rest hframe
  have hlong : envelopeFront ((remainder brokenStream).drop n) ≠ .short := by
    rw [hframe]
    intro h
    cases h
  obtain ⟨_, _, _, _, _, _, hdrop⟩ := five_le_of_envelopeFront hlong
  have hlength := congrArg List.length hdrop
  rw [hremainder, List.length_drop] at hlength
  simp only [List.length_cons, List.length_nil] at hlength
  omega

theorem frames_independent_broken :
    QuietAfterMalformed brokenStream ∧
    ∀ chunks : List Bytes, chunks.flatten = brokenStream →
      H2Session.feedChunks {} 1 chunks = [(1, [7, 8]), (2, [9])] := by
  refine ⟨quietAfterMalformed_brokenStream, fun chunks hchunks => ?_⟩
  have hnew : (1 : ℤ) ∉ ({} : H2Session).refused_streams_ := by decide
  have hframes := ((frames_independent_iff hnew (by decide) _).mpr
    quietAfterMalformed_brokenStream chunks chunks hchunks hchunks).2
  rw [hframes]
  decide

/-- A length of zero, and an envelope after it: cut between the two, the envelope is read. -/
theorem frames_depend_on_chunks :
    ([[0, 0, 0, 0, 0, 0, 0, 0, 1, 1]] : List Bytes).flatten =
        [[0, 0, 0, 0, 0], [0, 0, 0, 1, 1]].flatten ∧
      H2Session.feedChunks {} 1 [[0, 0, 0, 0, 0, 0, 0, 0, 1, 1]] = [] ∧
      H2Session.feedChunks {} 1 [[0, 0, 0, 0, 0], [0, 0, 0, 1, 1]] = [(1, [])] ∧
      precedingFrames [0, 0, 0, 0, 0, 0, 0, 0, 1, 1] = [] := by
  decide

end CulpeoStream.Http2
