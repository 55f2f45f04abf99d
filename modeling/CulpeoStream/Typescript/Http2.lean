import CulpeoStream.Lib.BigEndian
import CulpeoStream.Lib.History
import CulpeoStream.Lib.Numeral
import CulpeoStream.Message.Chars

/-!
# `framing.ts`, and `frames()` of `server.ts` and `client.ts`

The envelopes of the TypeScript transport, and the iterator over the frames of a stream.
`decodeFrame` looks at the front of a buffer, and `flush` takes all complete frames off it;
together with the check of the type octet, it reads `Tagged.format` with the limit of the
connection.

The iterator keeps what has arrived in `buf`, complete frames in `queue`, and a `next()`
that waits for one.  Of a promise only its settling counts, so a waiting call is one bit:
`pending` stands for `resolve` and `reject`, which are set and cleared together.

A chunk is a `Buffer`, and payloads are octets.  A limit is an integer.
-/

namespace CulpeoStream.Typescript.H2

open Framing
open Message (Bytes)
open Utf16

/-! ### Framing -/

/-- What `encodeFrame`, `decodeFrame` and `flush` throw. -/
inductive FramingError where
  | valueOutOfRange (value : ℕ)
  | payloadTooLong (payloadLength : ℕ) (maxPayloadBytes : ℤ)
  | unknownTypeOctet (typeOctet : UInt8)
  deriving DecidableEq, Repr

/-- A hexadecimal digit, as `toString(16)` writes it. -/
def hexDigit (d : ℕ) : UInt16 := (if d < 10 then 48 + d else 87 + d).toUInt16

/-- The text of an error that the package throws itself. -/
def FramingError.message : FramingError → Option Text
  | valueOutOfRange _ => none
  | payloadTooLong payloadLength maxPayloadBytes =>
      some (utf16 "CulpeoStream HTTP/2: frame payload length " ++ Numeral.decimal payloadLength
        ++ utf16 " exceeds maximum " ++ Numeral.decimalInt maxPayloadBytes)
  | unknownTypeOctet typeOctet =>
      some (utf16 "Unknown frame type octet 0x"
        ++ [hexDigit (typeOctet.toNat / 16), hexDigit (typeOctet.toNat % 16)])

def CONTROL_FRAME : UInt8 := 0x01

def MEDIA_FRAME : UInt8 := 0x02

def HEADER_SIZE : ℕ := 5

/-- `encodeFrame`; `writeUInt32BE` throws when the length does not fit. -/
def encodeFrame (typeOctet : UInt8) (payload : Bytes) : Except FramingError Bytes :=
  if 2 ^ 32 ≤ payload.length then .error (.valueOutOfRange payload.length)
  else .ok (typeOctet :: BigEndian.octets payload.length ++ payload)

/-- `readUInt8`. -/
def readUInt8 (buf : Bytes) (offset : ℕ) : UInt8 := buf.getD offset 0

/-- `readUInt32BE`. -/
def readUInt32BE (buf : Bytes) (offset : ℕ) : ℕ :=
  BigEndian.value (buf.getD offset 0) (buf.getD (offset + 1) 0) (buf.getD (offset + 2) 0)
    (buf.getD (offset + 3) 0)

structure DecodedFrame where
  typeOctet : UInt8
  payload : Bytes
  bytesConsumed : ℕ
  deriving DecidableEq, Repr

/-- The limit where none is given: 16 MiB. -/
def defaultMaxPayloadBytes : ℤ := 16 * 1024 * 1024

def decodeFrame (buf : Bytes) (maxPayloadBytes : ℤ) : Except FramingError (Option DecodedFrame) :=
  if buf.length < HEADER_SIZE then .ok none
  else
    let typeOctet := readUInt8 buf 0
    let payloadLength := readUInt32BE buf 1
    if maxPayloadBytes < payloadLength then .error (.payloadTooLong payloadLength maxPayloadBytes)
    else
      let bytesConsumed := HEADER_SIZE + payloadLength
      if buf.length < bytesConsumed then .ok none
      else
        let payload := (buf.take bytesConsumed).drop HEADER_SIZE
        .ok (some { typeOctet, payload, bytesConsumed })

/-- The types that are known to `flush`. -/
def isKnownType (typeOctet : UInt8) : Bool := typeOctet == CONTROL_FRAME || typeOctet == MEDIA_FRAME

/-- The loop of `flush`, at most `rounds` times round: the frames that it puts into the
queue, the buffer that it leaves, and what it throws. -/
def flushRounds (maxPayloadBytes : ℤ) :
    ℕ → Bytes → List Tagged.Frame × Bytes × Option FramingError
  | 0, buf => ([], buf, none)
  | rounds + 1, buf =>
      if HEADER_SIZE ≤ buf.length then
        match decodeFrame buf maxPayloadBytes with
        | .error err => ([], buf, some err)
        | .ok none => ([], buf, none)
        | .ok (some result) =>
            if !isKnownType result.typeOctet then
              ([], buf, some (.unknownTypeOctet result.typeOctet))
            else
              let later := flushRounds maxPayloadBytes rounds (buf.drop result.bytesConsumed)
              ((result.typeOctet, result.payload) :: later.1, later.2)
      else ([], buf, none)

/-- `flush`.  Every round takes five octets at least. -/
def flush (maxPayloadBytes : ℤ) (buf : Bytes) : List Tagged.Frame × Bytes × Option FramingError :=
  flushRounds maxPayloadBytes (buf.length + 1) buf

/-- The format that `flush` reads. -/
abbrev format (maxPayloadBytes : ℤ) : Format UInt8 Tagged.Frame :=
  Tagged.format maxPayloadBytes isKnownType

/-- The frames at the front of a stream, before the first malformed envelope. -/
def precedingFrames (maxPayloadBytes : ℤ) (bytes : Bytes) : List Tagged.Frame :=
  ((format maxPayloadBytes).split bytes).1

/-- What is left of a stream after these frames. -/
def remainder (maxPayloadBytes : ℤ) (bytes : Bytes) : Bytes :=
  ((format maxPayloadBytes).split bytes).2

/-- A malformed envelope follows the frames at the front of a stream. -/
def Malformed (maxPayloadBytes : ℤ) (bytes : Bytes) : Prop :=
  (format maxPayloadBytes).front (remainder maxPayloadBytes bytes) = .malformed

section Flush

variable {maxPayloadBytes : ℤ}

/-- What one round of `flush` makes of the front of the buffer. -/
theorem decodeFrame_cons (tag b₀ b₁ b₂ b₃ : UInt8) (rest : Bytes) :
    decodeFrame (tag :: b₀ :: b₁ :: b₂ :: b₃ :: rest) maxPayloadBytes =
      if maxPayloadBytes < BigEndian.value b₀ b₁ b₂ b₃ then
        .error (.payloadTooLong (BigEndian.value b₀ b₁ b₂ b₃) maxPayloadBytes)
      else if rest.length < BigEndian.value b₀ b₁ b₂ b₃ then .ok none
      else .ok (some ⟨tag, rest.take (BigEndian.value b₀ b₁ b₂ b₃),
        HEADER_SIZE + BigEndian.value b₀ b₁ b₂ b₃⟩) := by
  have hfive : ¬ (tag :: b₀ :: b₁ :: b₂ :: b₃ :: rest).length < HEADER_SIZE := by
    simp only [List.length_cons, HEADER_SIZE]
    omega
  have hlength : readUInt32BE (tag :: b₀ :: b₁ :: b₂ :: b₃ :: rest) 1 =
      BigEndian.value b₀ b₁ b₂ b₃ := rfl
  unfold decodeFrame
  rw [if_neg hfive]
  simp only [hlength]
  refine if_congr Iff.rfl rfl (if_congr ?_ rfl ?_)
  · simp only [List.length_cons, HEADER_SIZE]
    omega
  · rw [HEADER_SIZE, Nat.add_comm]
    rfl

theorem flushRounds_cons (rounds : ℕ) (tag b₀ b₁ b₂ b₃ : UInt8) (rest : Bytes) :
    flushRounds maxPayloadBytes (rounds + 1) (tag :: b₀ :: b₁ :: b₂ :: b₃ :: rest) =
      if maxPayloadBytes < BigEndian.value b₀ b₁ b₂ b₃ then
        ([], tag :: b₀ :: b₁ :: b₂ :: b₃ :: rest,
          some (.payloadTooLong (BigEndian.value b₀ b₁ b₂ b₃) maxPayloadBytes))
      else if rest.length < BigEndian.value b₀ b₁ b₂ b₃ then
        ([], tag :: b₀ :: b₁ :: b₂ :: b₃ :: rest, none)
      else if isKnownType tag then
        let later := flushRounds maxPayloadBytes rounds
          (rest.drop (BigEndian.value b₀ b₁ b₂ b₃))
        ((tag, rest.take (BigEndian.value b₀ b₁ b₂ b₃)) :: later.1, later.2)
      else
        ([], tag :: b₀ :: b₁ :: b₂ :: b₃ :: rest, some (.unknownTypeOctet tag)) := by
  have hfive : HEADER_SIZE ≤ (tag :: b₀ :: b₁ :: b₂ :: b₃ :: rest).length := by
    simp only [List.length_cons, HEADER_SIZE]
    omega
  have hdrop : (tag :: b₀ :: b₁ :: b₂ :: b₃ :: rest).drop
      (HEADER_SIZE + BigEndian.value b₀ b₁ b₂ b₃) = rest.drop (BigEndian.value b₀ b₁ b₂ b₃) := by
    rw [← List.drop_drop]
    rfl
  rw [flushRounds, if_pos hfive, decodeFrame_cons]
  by_cases hlimit : maxPayloadBytes < BigEndian.value b₀ b₁ b₂ b₃
  · rw [if_pos hlimit, if_pos hlimit]
  · rw [if_neg hlimit, if_neg hlimit]
    by_cases hshort : rest.length < BigEndian.value b₀ b₁ b₂ b₃
    · rw [if_pos hshort, if_pos hshort]
    · rw [if_neg hshort, if_neg hshort]
      simp only [hdrop]
      cases isKnownType tag <;> rfl

/-! One round of `flush`, by what stands at the front of the buffer. -/

theorem flushRounds_short (rounds : ℕ) {buf : Bytes}
    (h : (format maxPayloadBytes).front buf = .short) :
    flushRounds maxPayloadBytes (rounds + 1) buf = ([], buf, none) := by
  have h : Tagged.front maxPayloadBytes isKnownType buf = .short := h
  by_cases hlen : HEADER_SIZE ≤ buf.length
  · obtain ⟨tag, b₀, b₁, b₂, b₃, tail, rfl⟩ := Tagged.exists_cons hlen
    rw [Tagged.front_cons] at h
    rw [flushRounds_cons]
    split at h
    · cases h
    · split at h
      · rename_i hlimit hshort
        rw [if_neg hlimit, if_pos hshort]
      · split at h <;> cases h
  · rw [flushRounds, if_neg hlen]

theorem flushRounds_malformed (rounds : ℕ) {buf : Bytes}
    (h : (format maxPayloadBytes).front buf = .malformed) :
    ∃ err, flushRounds maxPayloadBytes (rounds + 1) buf = ([], buf, some err) := by
  have h : Tagged.front maxPayloadBytes isKnownType buf = .malformed := h
  obtain ⟨tag, b₀, b₁, b₂, b₃, tail, rfl⟩ := Tagged.exists_cons_of_front (by rw [h]; simp)
  rw [Tagged.front_cons] at h
  rw [flushRounds_cons]
  split at h
  · rename_i hlimit
    exact ⟨_, if_pos hlimit⟩
  · split at h
    · cases h
    · split at h
      · cases h
      · rename_i hlimit hshort hknown
        rw [if_neg hlimit, if_neg hshort, if_neg hknown]
        exact ⟨_, rfl⟩

theorem flushRounds_frame (rounds : ℕ) {buf rest : Bytes} {f : Tagged.Frame}
    (h : (format maxPayloadBytes).front buf = .frame f rest) :
    flushRounds maxPayloadBytes (rounds + 1) buf =
      (f :: (flushRounds maxPayloadBytes rounds rest).1,
        (flushRounds maxPayloadBytes rounds rest).2) := by
  have h : Tagged.front maxPayloadBytes isKnownType buf = .frame f rest := h
  obtain ⟨tag, b₀, b₁, b₂, b₃, tail, rfl⟩ := Tagged.exists_cons_of_front (by rw [h]; simp)
  rw [Tagged.front_cons] at h
  rw [flushRounds_cons]
  split at h
  · cases h
  · split at h
    · cases h
    · split at h
      · rename_i hlimit hshort hknown
        cases h
        rw [if_neg hlimit, if_neg hshort, if_pos hknown]
      · cases h

theorem flushRounds_split {rounds : ℕ} : ∀ {buf : Bytes}, buf.length < rounds →
    (flushRounds maxPayloadBytes rounds buf).1 = precedingFrames maxPayloadBytes buf ∧
      (flushRounds maxPayloadBytes rounds buf).2.1 = remainder maxPayloadBytes buf ∧
      ((flushRounds maxPayloadBytes rounds buf).2.2 = none ↔ ¬ Malformed maxPayloadBytes buf) := by
  induction rounds with
  | zero => intro buf h; omega
  | succ rounds ih =>
      intro buf hlen
      unfold Malformed remainder precedingFrames
      cases hfront : (format maxPayloadBytes).front buf with
      | short =>
          rw [Format.split_short hfront, flushRounds_short rounds hfront]
          exact ⟨rfl, rfl, iff_of_true rfl (by rw [hfront]; nofun)⟩
      | malformed =>
          obtain ⟨err, hflush⟩ := flushRounds_malformed rounds hfront
          rw [Format.split_malformed hfront, hflush]
          exact ⟨rfl, rfl, iff_of_false nofun fun h => h hfront⟩
      | frame f rest =>
          have hlt := Format.length_of_frame hfront
          obtain ⟨hframes, hrest, hthrown⟩ := @ih rest (by omega)
          rw [Format.split_frame hfront, flushRounds_frame rounds hfront]
          exact ⟨congrArg (f :: ·) hframes, hrest, hthrown⟩

/-- What `flush` does. -/
theorem flush_split (buf : Bytes) :
    (flush maxPayloadBytes buf).1 = precedingFrames maxPayloadBytes buf ∧
      (flush maxPayloadBytes buf).2.1 = remainder maxPayloadBytes buf ∧
      ((flush maxPayloadBytes buf).2.2 = none ↔ ¬ Malformed maxPayloadBytes buf) :=
  flushRounds_split (Nat.lt_succ_self _)

end Flush

/-! ### The iterator -/

/-- How a `next()` is settled. -/
inductive Settled where
  | value (frame : Tagged.Frame)
  | done
  | rejected (err : FramingError)
  deriving DecidableEq, Repr

def Settled.isValue : Settled → Bool
  | value _ => true
  | _ => false

/-- The two sides of a connection. -/
inductive Side where
  | server (maxPayloadBytes : ℤ)
  | client
  deriving DecidableEq, Repr

/-- The limit of a connection for payloads. -/
def Side.limit : Side → ℤ
  | server maxPayloadBytes => maxPayloadBytes
  | client => defaultMaxPayloadBytes

/-- The variables of an iterator over `frames()`, and the state of its stream: whether it
has ended, and what it was destroyed with. -/
structure FrameIterator where
  buf : Bytes := []
  pending : Bool := false
  queue : List Tagged.Frame := []
  done : Bool := false
  error : Option FramingError := none
  ended : Bool := false
  destroyed : Option FramingError := none

namespace FrameIterator

/-- The handler of a `catch` on the server. -/
def catchServer (it : FrameIterator) (err : FramingError) : FrameIterator × List Settled :=
  ({ it with error := some err, done := true, pending := false },
    if it.pending then [.rejected err] else [])

/-- The handler of a `catch` on the client. -/
def catchClient (it : FrameIterator) (err : FramingError) : FrameIterator × List Settled :=
  ({ it with destroyed := some err }, [])

def catchThrown : Side → FrameIterator → FramingError → FrameIterator × List Settled
  | .server _ => catchServer
  | .client => catchClient

/-- The handler of `data`. -/
def onData (side : Side) (it : FrameIterator) (chunk : Bytes) : FrameIterator × List Settled :=
  let flushed := flush side.limit (it.buf ++ chunk)
  let it := { it with buf := flushed.2.1, queue := it.queue ++ flushed.1 }
  match flushed.2.2 with
  | some err => catchThrown side it err
  | none =>
      match it.pending, it.queue with
      | true, item :: queue => ({ it with pending := false, queue }, [.value item])
      | _, _ => (it, [])

/-- The handler of `end`. -/
def onEnd (it : FrameIterator) : FrameIterator × List Settled :=
  ({ it with done := true, pending := false, ended := true },
    if it.pending then [.done] else [])

/-- The handler of `error`. -/
def onError (it : FrameIterator) (err : FramingError) : FrameIterator × List Settled :=
  ({ it with done := true, error := some err, pending := false },
    if it.pending then [.rejected err] else [])

/-- `next()`. -/
def next (it : FrameIterator) : FrameIterator × List Settled :=
  match it.queue with
  | item :: queue => ({ it with queue }, [.value item])
  | [] =>
      if it.done then
        match it.error with
        | some err => (it, [.rejected err])
        | none => (it, [.done])
      else ({ it with pending := true }, [])

end FrameIterator

/-! ### Runs -/

/-- What happens to an iterator.  The stream fails only when it has been destroyed. -/
inductive FrameEvent where
  | data (chunk : Bytes)
  | end_
  | error (err : FramingError)
  | next
  deriving DecidableEq, Repr

namespace FrameEvent

def act (side : Side) : FrameEvent → FrameIterator → FrameIterator × List Settled
  | data chunk, it => it.onData side chunk
  | end_, it => it.onEnd
  | error err, it => it.onError err
  | next, it => it.next

/-- The octets that arrive. -/
def octets : FrameEvent → Bytes
  | data chunk => chunk
  | _ => []

/-- An event that can happen: data and the end come from a stream that has not ended and is
not destroyed, a destroyed stream reports its error, and a consumer calls `next()` when no
other call is waiting. -/
def Admitted (it : FrameIterator) : FrameEvent → Prop
  | data _ => it.ended = false ∧ it.destroyed = none
  | end_ => it.ended = false ∧ it.destroyed = none
  | error err => it.destroyed = some err
  | next => it.pending = false

instance (it : FrameIterator) : (e : FrameEvent) → Decidable (e.Admitted it)
  | data _ => inferInstanceAs (Decidable (_ ∧ _))
  | end_ => inferInstanceAs (Decidable (_ ∧ _))
  | error _ => inferInstanceAs (Decidable (_ = _))
  | next => inferInstanceAs (Decidable (_ = _))

end FrameEvent

/-- A run, event by event. -/
abbrev FrameRecord := History.Record FrameIterator FrameEvent (FrameIterator × List Settled)

/-- What happens in a run of a new iterator. -/
def iterated (side : Side) (events : List FrameEvent) : List FrameRecord :=
  History.history (FrameEvent.act side) Prod.fst {} events

/-- The octets that arrived in a run. -/
def arrived (records : List FrameRecord) : Bytes := records.flatMap fun r => r.call.octets

/-- How the calls of `next()` were settled in a run, in this order. -/
def settled (records : List FrameRecord) : List Settled := records.flatMap fun r => r.result.2

/-- A run of events that can happen. -/
def Possible (records : List FrameRecord) : Prop := ∀ r ∈ records, r.call.Admitted r.before

end CulpeoStream.Typescript.H2
