import Mathlib.Logic.Function.Basic
import CulpeoStream.Lib.Decimal
import CulpeoStream.Lib.Search
import CulpeoStream.Lib.Utf16

/-!
# `offsets.ts`

The increment of a media frame, and the `OffsetTracker` with its two positions a stream:
the offset of the next frame to be sent and the offset expected of the next frame to be
received.

Offsets are integers; the source keeps them in `number`s and so are exact below `2^53`.
The step of a PCM stream is `channels * (bits / 8)`, which need not be whole; it is
counted here in bits.  `toLowerCase` is taken from the runtime.
-/

namespace CulpeoStream.Typescript

open Search Utf16

/-- What the runtime contributes: the lower case of a string. -/
structure Runtime where
  toLowerCase : Text → Text

/-- The codes of a `CulpeoError`, of an init-error and of a close. -/
inductive Code where
  | unauthorized
  | unsupportedVersion
  | invalidSession
  | invalidStreams
  | protocolError
  | serverError
  | normal
  | authExpired
  | serverShutdown
  | idleTimeout
  | rateLimitExceeded
  deriving DecidableEq, Repr

structure CulpeoError where
  code : Code
  message : Text
  deriving DecidableEq, Repr

/-- A violation of the protocol. -/
def protocolError (message : Text) : CulpeoError := ⟨.protocolError, message⟩

/-- The white space that `trim` and `parseInt` skip. -/
def isSpace (c : UInt16) : Bool :=
  (0x0009 ≤ c && c ≤ 0x000D) || c == 0x0020 || c == 0x00A0 || c == 0x1680
    || (0x2000 ≤ c && c ≤ 0x200A) || c == 0x2028 || c == 0x2029 || c == 0x202F || c == 0x205F
    || c == 0x3000 || c == 0xFEFF

def trim (s : Text) : Text := trimBy isSpace s

def isDigit (c : UInt16) : Bool := unit '0' ≤ c && c ≤ unit '9'

/-- `Number.parseInt` with radix ten: an optional sign and the longest prefix of digits;
none for `NaN`. -/
def parseInt (value : Text) : Option ℤ :=
  match value.dropWhile isSpace with
  | [] => none
  | c :: rest =>
      let digits := (if c = unit '+' ∨ c = unit '-' then rest else c :: rest).takeWhile isDigit
      let n := Decimal.value (digits.map fun d => (d - unit '0').toNat)
      if digits.isEmpty then none else if c = unit '-' then some (-n) else some n

/-- `parsePositiveInteger`.  From `2^1024 - 2^970` on a numeral is read as infinity. -/
def parsePositiveInteger (value : Option Text) : Option ℕ :=
  match value.bind parseInt with
  | none => none
  | some parsed =>
      if parsed ≤ 0 ∨ 2 ^ 1024 - 2 ^ 970 ≤ parsed then none else some parsed.toNat

/-- The parameters of a content type: the last entry of a name counts. -/
def contentTypeParameters (rt : Runtime) (entries : List Text) : List (Text × Text) :=
  (entries.filterMap fun entry =>
    match splitOn [unit '='] entry with
    | rawKey :: rawValue :: _ => some (rt.toLowerCase (trim rawKey), trim rawValue)
    | _ => none).reverse

/-- `parsePcmStepBytes`, in bits; none when the content type is not `audio/pcm`. -/
def parsePcmStepBits (rt : Runtime) (contentType : Text) : Except CulpeoError (Option ℕ) :=
  match splitOn [unit ';'] contentType with
  | [] => .ok none
  | rawType :: parameterEntries =>
      if rt.toLowerCase (trim rawType) ≠ utf16 "audio/pcm" then .ok none
      else
        let parameters := contentTypeParameters rt parameterEntries
        match parsePositiveInteger (parameters.lookup (utf16 "rate")),
          parsePositiveInteger (parameters.lookup (utf16 "channels")),
          parsePositiveInteger (parameters.lookup (utf16 "bits")) with
        | some _, some channels, some bits => .ok (some (channels * bits))
        | _, _, _ => .error (protocolError (utf16
            "PCM content type must include positive integer rate, channels, and bits parameters."))

inductive OffsetType where
  | time
  | byte
  | message
  deriving DecidableEq, Repr

def computeOffsetIncrement (rt : Runtime) (offsetType : OffsetType) (payloadLength : ℕ)
    (contentType : Text) : Except CulpeoError ℕ :=
  match offsetType with
  | .byte => .ok payloadLength
  | .message => .ok 1
  | .time =>
      match parsePcmStepBits rt contentType with
      | .error e => .error e
      | .ok none => .error (protocolError
          (utf16 "offset_type 'time' requires a PCM content type with rate, "
            ++ utf16 "channels, and bits parameters."))
      | .ok (some pcmStepBits) =>
          if pcmStepBits = 0 ∨ 8 * payloadLength % pcmStepBits ≠ 0 then
            .error (protocolError (utf16 "PCM payload length must align to complete samples."))
          else .ok (8 * payloadLength / pcmStepBits)

/-! ### The tracker -/

structure OffsetState where
  nextSendOffset : ℤ
  expectedReceiveOffset : ℤ
  lastSentOffset : Option ℤ := none
  lastReceivedOffset : Option ℤ := none
  deriving DecidableEq, Repr

/-- The `Map` from stream ids to their positions. -/
structure OffsetTracker where
  states : Text → Option OffsetState := fun _ => none

namespace OffsetTracker

def set (tracker : OffsetTracker) (streamId : Text) (state : OffsetState) : OffsetTracker :=
  ⟨Function.update tracker.states streamId (some state)⟩

def register (tracker : OffsetTracker) (streamId : Text) (initialOffset : ℤ) : OffsetTracker :=
  match tracker.states streamId with
  | some _ => tracker
  | none => tracker.set streamId ⟨initialOffset, initialOffset, none, none⟩

def mustGet (tracker : OffsetTracker) (streamId : Text) : Except CulpeoError OffsetState :=
  match tracker.states streamId with
  | some state => .ok state
  | none => .error (protocolError (utf16 "Unknown stream identifier."))

/-- The tracker as `allocate` leaves it, and its result.  The last offset is noted before
the increment is computed, which may fail. -/
def allocate (rt : Runtime) (tracker : OffsetTracker) (streamId : Text) (offsetType : OffsetType)
    (payloadLength : ℕ) (contentType : Text) : OffsetTracker × Except CulpeoError ℤ :=
  match tracker.mustGet streamId with
  | .error e => (tracker, .error e)
  | .ok state =>
      let offset := state.nextSendOffset
      let noted := { state with lastSentOffset := some offset }
      match computeOffsetIncrement rt offsetType payloadLength contentType with
      | .error e => (tracker.set streamId noted, .error e)
      | .ok n => (tracker.set streamId { noted with nextSendOffset := offset + n }, .ok offset)

def recordReceived (tracker : OffsetTracker) (streamId : Text) (offset : ℤ) (increment : ℕ) :
    Except CulpeoError OffsetTracker :=
  match tracker.mustGet streamId with
  | .error e => .error e
  | .ok state =>
      if offset ≠ state.expectedReceiveOffset then
        .error (protocolError (utf16 "Offsets must be strictly contiguous within a stream."))
      else
        .ok (tracker.set streamId
          { state with
            lastReceivedOffset := some offset
            expectedReceiveOffset := state.expectedReceiveOffset + increment })

def seedResumeOffset (tracker : OffsetTracker) (streamId : Text) (offset : ℤ) :
    Except CulpeoError OffsetTracker :=
  match tracker.mustGet streamId with
  | .error e => .error e
  | .ok state =>
      .ok (tracker.set streamId
        { state with
          lastReceivedOffset := some offset
          expectedReceiveOffset := offset
          nextSendOffset :=
            if state.nextSendOffset < offset then offset else state.nextSendOffset })

def getResumeOffset (tracker : OffsetTracker) (streamId : Text) : Except CulpeoError ℤ :=
  match tracker.mustGet streamId with
  | .error e => .error e
  | .ok state => .ok (max (state.lastReceivedOffset.getD 0) (state.lastSentOffset.getD 0))

/-- The offset of the next frame to be sent on a stream. -/
def nextSend (tracker : OffsetTracker) (streamId : Text) : Option ℤ :=
  (tracker.states streamId).map OffsetState.nextSendOffset

/-- The offset expected of the next frame to be received on a stream. -/
def expectedReceive (tracker : OffsetTracker) (streamId : Text) : Option ℤ :=
  (tracker.states streamId).map OffsetState.expectedReceiveOffset

theorem states_set (tracker : OffsetTracker) (streamId : Text) (state : OffsetState)
    (id : Text) : (tracker.set streamId state).states id =
      if id = streamId then some state else tracker.states id := by
  simp [set, Function.update_apply]

theorem nextSend_set (tracker : OffsetTracker) (streamId : Text) (state : OffsetState)
    (id : Text) : (tracker.set streamId state).nextSend id =
      if id = streamId then some state.nextSendOffset else tracker.nextSend id := by
  unfold nextSend
  rw [states_set, apply_ite (Option.map OffsetState.nextSendOffset), Option.map_some]

theorem expectedReceive_set (tracker : OffsetTracker) (streamId : Text) (state : OffsetState)
    (id : Text) : (tracker.set streamId state).expectedReceive id =
      if id = streamId then some state.expectedReceiveOffset else tracker.expectedReceive id := by
  unfold expectedReceive
  rw [states_set, apply_ite (Option.map OffsetState.expectedReceiveOffset), Option.map_some]

/-- Setting a state that keeps one of the two offsets keeps it for every stream. -/
theorem nextSend_set_eq {tracker : OffsetTracker} {streamId : Text} {state new : OffsetState}
    (h : tracker.states streamId = some state) (hsame : new.nextSendOffset = state.nextSendOffset)
    (id : Text) : (tracker.set streamId new).nextSend id = tracker.nextSend id := by
  rw [nextSend_set]
  split
  · rename_i hid
    rw [hid, nextSend, h, Option.map_some, hsame]
  · rfl

theorem expectedReceive_set_eq {tracker : OffsetTracker} {streamId : Text}
    {state new : OffsetState} (h : tracker.states streamId = some state)
    (hsame : new.expectedReceiveOffset = state.expectedReceiveOffset) (id : Text) :
    (tracker.set streamId new).expectedReceive id = tracker.expectedReceive id := by
  rw [expectedReceive_set]
  split
  · rename_i hid
    rw [hid, expectedReceive, h, Option.map_some, hsame]
  · rfl

end OffsetTracker

end CulpeoStream.Typescript
