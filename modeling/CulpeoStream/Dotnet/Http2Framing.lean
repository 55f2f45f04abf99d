import CulpeoStream.Lib.BigEndian
import CulpeoStream.Lib.Numeral
import CulpeoStream.Lib.Source
import CulpeoStream.Message.Chars

/-!
# `Http2FrameReader.cs` and `Http2FrameWriter.cs`

The envelopes of the C# transport: a type octet, the length of the payload in four octets,
and the payload.  The stream that is read is any `Source`, which decides for itself how
much each `ReadAsync` gives; the stream that is written is the bytes written to it.

A reader takes off the stream what stands at the front of it, in the sense of
`Tagged.front`, however the bytes come in (`readFrameAsync_frame`, `readFrameAsync_short`,
`readFrameAsync_malformed`).
-/

namespace CulpeoStream.Dotnet

open Message (Bytes)
open Utf16

universe u

/-! ### Writing -/

/-- `BinaryPrimitives.WriteUInt32BigEndian`. -/
def writeUInt32BigEndian (value : UInt32) : Bytes := BigEndian.octets value.toNat

/-- `WriteFrameAsync`: what the stream holds afterwards. -/
def writeFrameAsync (stream : Bytes) (typeOctet : UInt8) (payload : Bytes) : Bytes :=
  let header := typeOctet :: writeUInt32BigEndian payload.length.toUInt32
  stream ++ header ++ payload

/-- The bytes of some frames, written one after another. -/
def writeFrames (stream : Bytes) (frames : List Tagged.Frame) : Bytes :=
  frames.foldl (fun stream f => writeFrameAsync stream f.1 f.2) stream

/-! ### Reading -/

/-- What `ReadFrameAsync` throws. -/
inductive ReadFrameExn where
  | endOfStream (message : Text)
  | argumentOutOfRange (paramName message : Text)
  | protocol (code reason : Text)
  deriving DecidableEq, Repr

def unexpectedEnd : ReadFrameExn :=
  .endOfStream (utf16 "Unexpected end of stream while reading a CulpeoStream HTTP/2 frame.")

def frameTooLarge (rawLength : UInt32) (maxPayloadBytes : Int32) : ReadFrameExn :=
  .protocol (utf16 "frame-too-large")
    (utf16 "Frame payload " ++ Numeral.decimal rawLength.toNat ++ utf16 " bytes exceeds limit "
      ++ Numeral.decimalInt maxPayloadBytes.toInt)

/-- `BinaryPrimitives.ReadUInt32BigEndian`. -/
def readUInt32BigEndian (source : Bytes) : UInt32 :=
  (BigEndian.value (source.getD 0 0) (source.getD 1 0) (source.getD 2 0)
    (source.getD 3 0)).toUInt32

def defaultMaxPayloadBytes : Int32 := 16 * 1024 * 1024

section Reader

variable {σ : Type u} (S : Source σ UInt8)

/-- The loop of `ReadExactlyAsync`.  The part of the buffer that is filled has `totalRead`
bytes. -/
def readExactlyLoop (stream : σ) (filled : Bytes) (count : ℕ) : σ × Except ReadFrameExn Bytes :=
  if filled.length < count then
    match S.read stream (count - filled.length) with
    | (stream, bytes) =>
        if bytes.length = 0 then (stream, .error unexpectedEnd)
        else readExactlyLoop stream (filled ++ bytes) count
  else (stream, .ok filled)
termination_by count - filled.length
decreasing_by
  rw [List.length_append]
  omega

def readExactlyAsync (stream : σ) (count : ℕ) : σ × Except ReadFrameExn Bytes :=
  readExactlyLoop S stream [] count

def readFrameAsync (stream : σ) (maxPayloadBytes : Int32) : σ × Except ReadFrameExn Tagged.Frame :=
  match readExactlyAsync S stream 5 with
  | (stream, .error exn) => (stream, .error exn)
  | (stream, .ok header) =>
      let typeOctet := header.getD 0 0
      if maxPayloadBytes < 0 then
        (stream, .error (.argumentOutOfRange (utf16 "maxPayloadBytes")
          (utf16 "maxPayloadBytes must be non-negative.")))
      else
        let rawLength := readUInt32BigEndian (header.drop 1)
        if maxPayloadBytes.toUInt32 < rawLength then
          (stream, .error (frameTooLarge rawLength maxPayloadBytes))
        else
          let payloadLength := rawLength.toNat
          if 0 < payloadLength then
            match readExactlyAsync S stream payloadLength with
            | (stream, .error exn) => (stream, .error exn)
            | (stream, .ok payload) => (stream, .ok (typeOctet, payload))
          else (stream, .ok (typeOctet, []))

/-- Some calls of `ReadFrameAsync` one after another. -/
def readFrames (maxPayloadBytes : Int32) : σ → ℕ → List (Except ReadFrameExn Tagged.Frame)
  | _, 0 => []
  | stream, calls + 1 =>
      (readFrameAsync S stream maxPayloadBytes).2 ::
        readFrames maxPayloadBytes (readFrameAsync S stream maxPayloadBytes).1 calls

variable {S}

/-! ### The exact read -/

theorem readExactlyLoop_done {stream : σ} {filled : Bytes} {count : ℕ}
    (h : count ≤ filled.length) : readExactlyLoop S stream filled count = (stream, .ok filled) := by
  rw [readExactlyLoop, if_neg (Nat.not_lt.mpr h)]

/-- One round of the loop, while something is left. -/
theorem readExactlyLoop_round {stream : σ} {filled : Bytes} {count : ℕ}
    (h : filled.length < count) (hleft : S.left stream ≠ []) :
    ∃ k next, 0 < k ∧ k ≤ count - filled.length ∧ k ≤ (S.left stream).length ∧
      S.left next = (S.left stream).drop k ∧
      readExactlyLoop S stream filled count =
        readExactlyLoop S next (filled ++ (S.left stream).take k) count := by
  obtain ⟨hread, hrest⟩ := S.read_eq_take stream (count - filled.length)
  have hpos := List.length_pos_of_ne_nil
    (S.read_ne_nil stream (count - filled.length) (by omega) hleft)
  refine ⟨_, (S.read stream (count - filled.length)).1, hpos, S.length_read_le _ _, ?_, hrest, ?_⟩
  · have hlen := congrArg List.length (S.read_left stream (count - filled.length))
    rw [List.length_append] at hlen
    omega
  · rw [readExactlyLoop, if_pos h, ← hread]
    simp only [if_neg (Nat.ne_of_gt hpos)]

/-- The loop fills the buffer, if enough is left. -/
theorem readExactlyLoop_enough {count n : ℕ} : ∀ {stream : σ} {filled : Bytes},
    filled.length + n = count → n ≤ (S.left stream).length →
      (readExactlyLoop S stream filled count).2 = .ok (filled ++ (S.left stream).take n) ∧
        S.left (readExactlyLoop S stream filled count).1 = (S.left stream).drop n := by
  induction n using Nat.strongRecOn with
  | ind n ih =>
      intro stream filled hn hleft
      cases n with
      | zero =>
          rw [readExactlyLoop_done (by omega)]
          exact ⟨by rw [List.take_zero, List.append_nil], rfl⟩
      | succ n =>
          have hne : S.left stream ≠ [] := List.ne_nil_of_length_pos (by omega)
          obtain ⟨k, next, hpos, hk, hkleft, hnext, hround⟩ :=
            readExactlyLoop_round (by omega : filled.length < count) hne
          obtain ⟨m, hm⟩ : ∃ m, n + 1 = k + m := ⟨n + 1 - k, by omega⟩
          have htake : ((S.left stream).take k).length = k := List.length_take_of_le hkleft
          obtain ⟨hok, hdrop⟩ := @ih m (by omega) next (filled ++ (S.left stream).take k)
            (by rw [List.length_append]; omega) (by rw [hnext, List.length_drop]; omega)
          rw [hround, hok, hdrop, hnext, hm, List.take_add, List.append_assoc, List.drop_drop]
          exact ⟨rfl, rfl⟩

/-- The loop throws at the end of the stream, if too little is left. -/
theorem readExactlyLoop_short {count n : ℕ} : ∀ {stream : σ} {filled : Bytes},
    (S.left stream).length = n → filled.length + n < count →
      (readExactlyLoop S stream filled count).2 = .error unexpectedEnd ∧
        S.left (readExactlyLoop S stream filled count).1 = [] := by
  induction n using Nat.strongRecOn with
  | ind n ih =>
      intro stream filled hleft hn
      cases n with
      | zero =>
          obtain ⟨hread, hrest⟩ := S.read_nil (List.length_eq_zero_iff.mp hleft)
            (count - filled.length)
          rw [readExactlyLoop, if_pos (by omega)]
          simp only [hread, List.length_nil, if_true, true_and]
          exact hrest
      | succ n =>
          have hne : S.left stream ≠ [] := List.ne_nil_of_length_pos (by omega)
          obtain ⟨k, next, hpos, hk, hkleft, hnext, hround⟩ :=
            readExactlyLoop_round (by omega : filled.length < count) hne
          have htake : ((S.left stream).take k).length = k := List.length_take_of_le hkleft
          rw [hround]
          exact @ih (n + 1 - k) (by omega) next _ (by rw [hnext, List.length_drop]; omega)
            (by rw [List.length_append]; omega)

theorem readExactlyAsync_enough {stream : σ} {count : ℕ} (h : count ≤ (S.left stream).length) :
    (readExactlyAsync S stream count).2 = .ok ((S.left stream).take count) ∧
      S.left (readExactlyAsync S stream count).1 = (S.left stream).drop count :=
  readExactlyLoop_enough (Nat.zero_add count) h

theorem readExactlyAsync_short {stream : σ} {count : ℕ} (h : (S.left stream).length < count) :
    (readExactlyAsync S stream count).2 = .error unexpectedEnd ∧
      S.left (readExactlyAsync S stream count).1 = [] :=
  readExactlyLoop_short rfl (by rwa [List.length_nil, Nat.zero_add])

/-! ### One frame -/

theorem readUInt32BigEndian_cons (b₀ b₁ b₂ b₃ : UInt8) :
    (readUInt32BigEndian [b₀, b₁, b₂, b₃]).toNat = BigEndian.value b₀ b₁ b₂ b₃ := by
  have hlt := BigEndian.value_lt b₀ b₁ b₂ b₃
  show (BigEndian.value b₀ b₁ b₂ b₃).toUInt32.toNat = _
  rw [Nat.toUInt32_eq, UInt32.toNat_ofNat']
  exact Nat.mod_eq_of_lt hlt

theorem toNat_toUInt32 {n : Int32} (h : 0 ≤ n) : (n.toUInt32.toNat : ℤ) = n.toInt := by
  have hnonneg : (0 : ℤ) ≤ n.toInt := Int32.le_iff_toInt_le.mp h
  rw [Int32.toNat_toUInt32_of_le h, ← Int32.toNat_toInt, Int.toNat_of_nonneg hnonneg]

/-- A frame whose header is there. -/
theorem readFrameAsync_cons {stream : σ} {maxPayloadBytes : Int32} (hmax : 0 ≤ maxPayloadBytes)
    {tag b₀ b₁ b₂ b₃ : UInt8} {rest : Bytes}
    (h : S.left stream = tag :: b₀ :: b₁ :: b₂ :: b₃ :: rest) :
    ∃ next, S.left next = rest ∧ readFrameAsync S stream maxPayloadBytes =
      if maxPayloadBytes.toInt < BigEndian.value b₀ b₁ b₂ b₃ then
        (next, .error (frameTooLarge (readUInt32BigEndian [b₀, b₁, b₂, b₃]) maxPayloadBytes))
      else
        ((readExactlyAsync S next (BigEndian.value b₀ b₁ b₂ b₃)).1,
          (readExactlyAsync S next (BigEndian.value b₀ b₁ b₂ b₃)).2.map fun payload =>
            (tag, payload)) := by
  have hfive : 5 ≤ (S.left stream).length := by
    rw [h]
    simp only [List.length_cons]
    omega
  obtain ⟨hok, hdrop⟩ := readExactlyAsync_enough hfive
  rw [h] at hok hdrop
  generalize hheader : readExactlyAsync S stream 5 = answer at hok hdrop
  obtain ⟨next, header⟩ := answer
  cases hok
  have hraw := readUInt32BigEndian_cons b₀ b₁ b₂ b₃
  have hcompare : maxPayloadBytes.toUInt32 < readUInt32BigEndian [b₀, b₁, b₂, b₃] ↔
      maxPayloadBytes.toInt < BigEndian.value b₀ b₁ b₂ b₃ := by
    rw [UInt32.lt_iff_toNat_lt, hraw, ← toNat_toUInt32 hmax, Int.ofNat_lt]
  refine ⟨next, hdrop, ?_⟩
  have hheader : readExactlyAsync S stream 5 = (next, .ok [tag, b₀, b₁, b₂, b₃]) := hheader
  rw [← hraw] at hcompare ⊢
  have hlength : readUInt32BigEndian ([tag, b₀, b₁, b₂, b₃].drop 1) =
      readUInt32BigEndian [b₀, b₁, b₂, b₃] := rfl
  unfold readFrameAsync
  simp only [hheader, hlength, List.getD_cons_zero, if_neg (Int32.not_lt.mpr hmax)]
  by_cases hlarge : maxPayloadBytes.toUInt32 < readUInt32BigEndian [b₀, b₁, b₂, b₃]
  · rw [if_pos hlarge, if_pos (hcompare.mp hlarge)]
  · rw [if_neg hlarge, if_neg (hcompare.not.mp hlarge)]
    by_cases hpos : 0 < (readUInt32BigEndian [b₀, b₁, b₂, b₃]).toNat
    · rw [if_pos hpos]
      cases readExactlyAsync S next (readUInt32BigEndian [b₀, b₁, b₂, b₃]).toNat with
      | mk next payload => cases payload <;> rfl
    · rw [if_neg hpos, Nat.eq_zero_of_not_pos hpos, readExactlyAsync,
        readExactlyLoop_done (Nat.zero_le _)]
      rfl

section Front

variable {stream : σ} {maxPayloadBytes : Int32} (hmax : 0 ≤ maxPayloadBytes)
include hmax

/-- A frame at the front of the stream is taken off it. -/
theorem readFrameAsync_frame {f : Tagged.Frame} {rest : Bytes}
    (h : Tagged.front maxPayloadBytes.toInt (fun _ => true) (S.left stream) = .frame f rest) :
    (readFrameAsync S stream maxPayloadBytes).2 = .ok f ∧
      S.left (readFrameAsync S stream maxPayloadBytes).1 = rest := by
  obtain ⟨tag, b₀, b₁, b₂, b₃, tail, hleft⟩ := Tagged.exists_cons_of_front (by rw [h]; nofun)
  obtain ⟨next, hnext, hread⟩ := readFrameAsync_cons hmax hleft
  rw [hleft, Tagged.front_cons] at h
  split at h
  · cases h
  · split at h
    · cases h
    · rename_i hlimit hshort
      have henough : BigEndian.value b₀ b₁ b₂ b₃ ≤ (S.left next).length := by
        rw [hnext]
        omega
      obtain ⟨hok, hdrop⟩ := readExactlyAsync_enough henough
      rw [if_pos rfl] at h
      cases h
      rw [hread, if_neg hlimit, hok, hdrop, hnext]
      exact ⟨rfl, rfl⟩

/-- Too little for a frame: the stream is read to its end. -/
theorem readFrameAsync_short
    (h : Tagged.front maxPayloadBytes.toInt (fun _ => true) (S.left stream) = .short) :
    (readFrameAsync S stream maxPayloadBytes).2 = .error unexpectedEnd ∧
      S.left (readFrameAsync S stream maxPayloadBytes).1 = [] := by
  by_cases hlen : (S.left stream).length < 5
  · obtain ⟨herror, hend⟩ := readExactlyAsync_short hlen
    unfold readFrameAsync
    generalize readExactlyAsync S stream 5 = answer at herror hend
    obtain ⟨next, header⟩ := answer
    cases herror
    exact ⟨rfl, hend⟩
  · obtain ⟨tag, b₀, b₁, b₂, b₃, tail, hleft⟩ := Tagged.exists_cons (Nat.le_of_not_lt hlen)
    obtain ⟨next, hnext, hread⟩ := readFrameAsync_cons hmax hleft
    rw [hleft, Tagged.front_cons] at h
    split at h
    · cases h
    · split at h
      · rename_i hlimit hshort
        rw [← hnext] at hshort
        obtain ⟨herror, hend⟩ := readExactlyAsync_short hshort
        rw [hread, if_neg hlimit, herror]
        exact ⟨rfl, hend⟩
      · cases h

/-- A length above the limit: only the header has been read. -/
theorem readFrameAsync_malformed {tag b₀ b₁ b₂ b₃ : UInt8} {rest : Bytes}
    (hleft : S.left stream = tag :: b₀ :: b₁ :: b₂ :: b₃ :: rest)
    (h : maxPayloadBytes.toInt < BigEndian.value b₀ b₁ b₂ b₃) :
    (readFrameAsync S stream maxPayloadBytes).2 =
        .error (frameTooLarge (readUInt32BigEndian [b₀, b₁, b₂, b₃]) maxPayloadBytes) ∧
      S.left (readFrameAsync S stream maxPayloadBytes).1 = rest := by
  obtain ⟨next, hnext, hread⟩ := readFrameAsync_cons hmax hleft
  rw [hread, if_pos h]
  exact ⟨rfl, hnext⟩

end Front

/-! ### The round trip -/

theorem writeFrameAsync_eq (stream : Bytes) {f : Tagged.Frame} (h : f.2.length < 2 ^ 32) :
    writeFrameAsync stream f.1 f.2 = stream ++ Tagged.encode f := by
  have hlength : f.2.length.toUInt32.toNat = f.2.length := by
    rw [Nat.toUInt32_eq, UInt32.toNat_ofNat_of_lt' h]
  unfold writeFrameAsync writeUInt32BigEndian Tagged.encode
  rw [hlength, List.append_assoc]

theorem writeFrames_eq {frames : List Tagged.Frame} : ∀ (stream : Bytes),
    (∀ f ∈ frames, f.2.length < 2 ^ 32) →
      writeFrames stream frames = stream ++ frames.flatMap Tagged.encode := by
  induction frames with
  | nil =>
      intro stream _
      exact (List.append_nil stream).symm
  | cons f frames ih =>
      intro stream h
      have hrest := ih (writeFrameAsync stream f.1 f.2) fun g hg => h g (List.mem_cons_of_mem f hg)
      rw [List.flatMap_cons, ← List.append_assoc,
        ← writeFrameAsync_eq stream (h f List.mem_cons_self)]
      exact hrest

/-- At the end of the stream every call throws. -/
theorem readFrames_end {maxPayloadBytes : Int32} (hmax : 0 ≤ maxPayloadBytes) :
    ∀ {calls : ℕ} {stream : σ}, S.left stream = [] →
      readFrames S maxPayloadBytes stream calls = List.replicate calls (.error unexpectedEnd) := by
  intro calls
  induction calls with
  | zero => intro stream _; rfl
  | succ calls ih =>
      intro stream hleft
      have hshort :
          Tagged.front maxPayloadBytes.toInt (fun _ => true) (S.left stream) = .short := by
        rw [hleft]
        rfl
      obtain ⟨herror, hend⟩ := readFrameAsync_short hmax hshort
      rw [readFrames, herror, ih hend, List.replicate_succ]

theorem readFrames_encode {maxPayloadBytes : Int32} (hmax : 0 ≤ maxPayloadBytes)
    {frames : List Tagged.Frame} (calls : ℕ) : ∀ {stream : σ},
    (∀ f ∈ frames, Tagged.Within maxPayloadBytes.toInt (fun _ => true) f) →
    S.left stream = frames.flatMap Tagged.encode →
      readFrames S maxPayloadBytes stream (frames.length + calls) =
        frames.map .ok ++ List.replicate calls (.error unexpectedEnd) := by
  induction frames with
  | nil =>
      intro stream _ hleft
      rw [List.length_nil, Nat.zero_add]
      exact readFrames_end hmax hleft
  | cons f frames ih =>
      intro stream hframes hleft
      have hfront : Tagged.front maxPayloadBytes.toInt (fun _ => true) (S.left stream) =
          .frame f (frames.flatMap Tagged.encode) := by
        rw [hleft]
        exact Tagged.front_encode (hframes f List.mem_cons_self) _
      obtain ⟨hok, hrest⟩ := readFrameAsync_frame hmax hfront
      have hlater := ih (fun g hg => hframes g (List.mem_cons_of_mem f hg)) hrest
      rw [List.length_cons, Nat.succ_add, readFrames, hok, hlater]
      rfl

/-- **The round trip, and lengths above the limit.**  Whatever each `ReadAsync` gives, the
frames that were written are read back in order, and then every call throws at the end of
the stream.  A length above the limit is refused when only the header has been read. -/
theorem http2_framing_round_trip (S : Source σ UInt8) {maxPayloadBytes : Int32}
    (hmax : 0 ≤ maxPayloadBytes) :
    (∀ (frames : List Tagged.Frame) (stream : σ),
      (∀ f ∈ frames, (f.2.length : ℤ) ≤ maxPayloadBytes.toInt) →
      S.left stream = writeFrames [] frames → ∀ calls,
        readFrames S maxPayloadBytes stream (frames.length + calls) =
          frames.map .ok ++ List.replicate calls (.error unexpectedEnd)) ∧
    ∀ (stream : σ) (typeOctet b₀ b₁ b₂ b₃ : UInt8) (rest : Bytes),
      maxPayloadBytes.toInt < (readUInt32BigEndian [b₀, b₁, b₂, b₃]).toNat →
      S.left stream = typeOctet :: b₀ :: b₁ :: b₂ :: b₃ :: rest →
        (readFrameAsync S stream maxPayloadBytes).2 =
            .error (frameTooLarge (readUInt32BigEndian [b₀, b₁, b₂, b₃]) maxPayloadBytes) ∧
          S.left (readFrameAsync S stream maxPayloadBytes).1 = rest := by
  constructor
  · intro frames stream hframes hleft calls
    have hbound : ∀ f ∈ frames, f.2.length < 2 ^ 32 := by
      intro f hf
      have hle := hframes f hf
      have hlt := Int32.toInt_lt maxPayloadBytes
      omega
    rw [writeFrames_eq [] hbound, List.nil_append] at hleft
    exact readFrames_encode hmax calls (fun f hf => ⟨rfl, hframes f hf, hbound f hf⟩) hleft
  · intro stream typeOctet b₀ b₁ b₂ b₃ rest hlength hleft
    rw [readUInt32BigEndian_cons] at hlength
    exact readFrameAsync_malformed hmax hleft hlength

/-- Bytes that come in one by one: two frames, and a length with its top bit set. -/
theorem http2_framing_round_trip_single :
    readFrames Source.scheduled 16
        (writeFrames [] [(1, []), (2, [0xAA, 0xBB])], fun _ => 1) 3 =
      [.ok (1, []), .ok (2, [0xAA, 0xBB]), .error unexpectedEnd] ∧
    (readFrameAsync Source.scheduled ([1, 0x80, 0, 0, 0, 7], fun _ => 1) 16).2 =
      .error (frameTooLarge (readUInt32BigEndian [0x80, 0, 0, 0]) 16) :=
  ⟨(http2_framing_round_trip Source.scheduled (by decide : (0 : Int32) ≤ 16)).1
      [(1, []), (2, [0xAA, 0xBB])] (_, fun _ => 1) (by decide) rfl 1,
    ((http2_framing_round_trip Source.scheduled (by decide : (0 : Int32) ≤ 16)).2
      ([1, 0x80, 0, 0, 0, 7], fun _ => 1) 1 0x80 0 0 0 [7] (by decide) rfl).1⟩

end Reader

end CulpeoStream.Dotnet
