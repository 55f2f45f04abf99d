import CulpeoStream.Lib.Utf8
import CulpeoStream.Message.RoundTrip
import CulpeoStream.Message.Numerals

/-!
# Data model of `libculpeo-session`

The types of `session.hpp`, the JSON values its handlers read, and the frames and
callbacks through which a session is observed.

Fixed-width integers keep their width.  Time points of the steady clock are
integers in nanoseconds, and `nowUs` is in microseconds.

JSON text is handled by a library outside this repository.  `Json` is the value
type of that library, with the accessors the handlers use; parsing and dumping
text are the two functions of `JsonLib`.  Strings are octets, and a value with a
string that is not UTF-8 cannot be dumped (`Json.IsUtf8`).
-/

namespace CulpeoStream.Session

open Message

inductive SessionState where
  | uninitialized
  | initializing
  | established
  | closed
  deriving DecidableEq, Repr

inductive StreamDirection where
  | input
  | output
  | duplex
  deriving DecidableEq, Repr

inductive StreamCodec where
  | pcm
  | opus
  | aac
  | other
  deriving DecidableEq, Repr

inductive OffsetType where
  | time
  | byte
  | message
  deriving DecidableEq, Repr

structure PcmParams where
  rate : UInt32
  channels : UInt16
  bits : UInt16
  deriving DecidableEq, Repr

structure StreamDeclaration where
  contentType : Bytes
  direction : StreamDirection
  purpose : Bytes := []
  hintId : Bytes := []
  resumeOffset : UInt64 := 0
  hasResumeOffset : Bool := false
  offsetType : Option OffsetType := none
  deriving DecidableEq, Repr

structure StreamInfo where
  id : Bytes
  contentType : Bytes
  direction : StreamDirection
  purpose : Bytes
  offset : UInt64
  codec : StreamCodec
  pcmParams : Option PcmParams
  offsetType : OffsetType
  deriving DecidableEq, Repr

structure PersistedSessionState where
  sessionId : Bytes
  streams : List StreamInfo
  bufferWindowMs : UInt32
  disconnectedAt : ℤ
  deriving DecidableEq, Repr

inductive Error where
  | wrongState
  | protocolError
  | streamNotFound
  | invalidDirection
  | versionUnsupported
  | invalidStreams
  | offsetMismatch
  | offsetOverflow
  | authFailed
  | nonceMismatch
  | nonceAlreadyPending
  | pingRateExceeded
  | jsonError
  | transportError
  | contentTypeMismatch
  | sessionExpired
  | maxStreamsExceeded
  | nonceExpired
  | invalidEventName
  deriving DecidableEq, Repr

structure SessionConfig where
  maxBufferWindowMs : UInt32 := 30000
  defaultBufferWindowMs : UInt32 := 5000
  maxStreams : UInt32 := 16
  maxPingRatePerSecond : UInt32 := 5
  authRefreshTimeoutS : UInt32 := 30
  minAuthRefreshIntervalS : UInt32 := 30
  supportedVersions : List Bytes := [ascii "0.3"]
  deriving DecidableEq, Repr

/-- Which of the application's callbacks are set. -/
structure SessionCallbacks where
  onAuthValidate : Bool := false
  onMediaReceived : Bool := false
  onRtt : Bool := false
  onClose : Bool := false
  onAuthResponse : Bool := false
  deriving DecidableEq, Repr

/-! ### JSON values -/

/-- A value of the JSON library.  Members of an object are listed by key, each key
once. -/
inductive Json where
  | null
  | boolean (value : Bool)
  | integer (value : Int64)
  | unsigned (value : UInt64)
  | float (value : Float)
  | string (value : Bytes)
  | array (items : List Json)
  | object (members : List (Bytes × Json))

namespace Json

/-- `at(key)`; none where the library throws. -/
def at? : Json → Bytes → Option Json
  | .object members, key => members.lookup key
  | _, _ => none

/-- `contains(key)`, false on anything but an object. -/
def contains (j : Json) (key : Bytes) : Bool :=
  (j.at? key).isSome

/-- `get<std::string>()`. -/
def getString : Json → Option Bytes
  | .string value => some value
  | _ => none

/-- `get<uint64_t>()`, which converts any number. -/
def getUint64 : Json → Option UInt64
  | .unsigned value => some value
  | .integer value => some value.toUInt64
  | .float value => some value.toUInt64
  | _ => none

/-- `get<int64_t>()`, which converts any number. -/
def getInt64 : Json → Option Int64
  | .unsigned value => some value.toInt64
  | .integer value => some value
  | .float value => some value.toInt64
  | _ => none

/-- What a range-based `for` visits: the items of an array, the values of an object,
nothing for null, and any other value itself. -/
def elements : Json → List Json
  | .array items => items
  | .object members => members.map Prod.snd
  | .null => []
  | j => [j]

end Json

mutual

/-- The strings in a value, and the keys. -/
def Json.texts : Json → List Bytes
  | .string value => [value]
  | .array items => textsOfItems items
  | .object members => textsOfMembers members
  | _ => []

def textsOfItems : List Json → List Bytes
  | [] => []
  | item :: items => item.texts ++ textsOfItems items

def textsOfMembers : List (Bytes × Json) → List Bytes
  | [] => []
  | (key, value) :: members => key :: (value.texts ++ textsOfMembers members)

end

/-- `dump` does not throw. -/
def Json.IsUtf8 (j : Json) : Prop := ∀ text ∈ j.texts, Utf8.IsValid text

instance decidableIsUtf8 (j : Json) : Decidable j.IsUtf8 :=
  inferInstanceAs (Decidable (∀ text ∈ j.texts, _))

section IsUtf8

variable {items : List Json} {members : List (Bytes × Json)} {text : Bytes}

theorem mem_textsOfItems : text ∈ textsOfItems items ↔ ∃ item ∈ items, text ∈ item.texts := by
  induction items with
  | nil => simp [textsOfItems]
  | cons item items ih => simp [textsOfItems, ih]

theorem mem_textsOfMembers : text ∈ textsOfMembers members ↔
    ∃ member ∈ members, text = member.1 ∨ text ∈ member.2.texts := by
  induction members with
  | nil => simp [textsOfMembers]
  | cons member members ih => simp [textsOfMembers, ih, or_assoc]

theorem isUtf8_string : (Json.string text).IsUtf8 ↔ Utf8.IsValid text := by
  simp [Json.IsUtf8, Json.texts]

theorem isUtf8_array : (Json.array items).IsUtf8 ↔ ∀ item ∈ items, item.IsUtf8 := by
  simp only [Json.IsUtf8, Json.texts, mem_textsOfItems]
  exact ⟨fun h item hitem text htext => h text ⟨item, hitem, htext⟩,
    fun h text ⟨item, hitem, htext⟩ => h item hitem text htext⟩

theorem isUtf8_object : (Json.object members).IsUtf8 ↔
    ∀ member ∈ members, Utf8.IsValid member.1 ∧ member.2.IsUtf8 := by
  simp only [Json.IsUtf8, Json.texts, mem_textsOfMembers]
  constructor
  · exact fun h member hmember => ⟨h _ ⟨member, hmember, .inl rfl⟩,
      fun text htext => h text ⟨member, hmember, .inr htext⟩⟩
  · rintro h text ⟨member, hmember, rfl | htext⟩
    · exact (h member hmember).1
    · exact (h member hmember).2 text htext

end IsUtf8

/-- The strings of a stream are UTF-8. -/
structure StreamInfo.IsUtf8 (stream : StreamInfo) : Prop where
  id : Utf8.IsValid stream.id
  contentType : Utf8.IsValid stream.contentType
  purpose : Utf8.IsValid stream.purpose

/-- The text functions of the JSON library: `parse` (none where it throws) and
`dump`, which returns this text unless it throws. -/
structure JsonLib where
  parse : Bytes → Option Json
  dump : Json → Bytes

/-- A string between quotation marks. -/
def quoted (text : Bytes) : Bytes := ch '"' :: text ++ [ch '"']

mutual

/-- The text of a value without fractions, of which no string needs an escape. -/
def Json.write : Json → Bytes
  | .null => ascii "null"
  | .boolean value => ascii (if value then "true" else "false")
  | .integer value => decimalInt value.toInt
  | .unsigned value => decimal value.toNat
  | .float value => decimal value.toUInt64.toNat
  | .string value => quoted value
  | .array items => ch '[' :: writeItems items ++ [ch ']']
  | .object members => ch '\x7b' :: writeMembers members ++ [ch '\x7d']

def writeItems : List Json → Bytes
  | [] => []
  | [item] => item.write
  | item :: items => item.write ++ ch ',' :: writeItems items

def writeMembers : List (Bytes × Json) → Bytes
  | [] => []
  | [(key, value)] => quoted key ++ ch ':' :: value.write
  | (key, value) :: members =>
      quoted key ++ ch ':' :: value.write ++ ch ',' :: writeMembers members

end

/-- A library that reads the texts of the given values. -/
def JsonLib.reading (values : List Json) : JsonLib where
  parse text := values.find? fun value => value.write = text
  dump := Json.write

theorem parse_reading (value : Json) :
    (JsonLib.reading [value]).parse value.write = some value := by
  simp [JsonLib.reading]

/-! ### What a session does to the outside -/

/-- A frame on the wire, together with the headers and the body it was serialized
from. -/
structure WireFrame where
  frameType : FrameType
  headers : List HeaderField
  body : Bytes
  bytes : Bytes
  serialized : serializeFrame frameType headers body = .ok bytes
  deriving DecidableEq

/-- The value of a reserved header of a frame. -/
def WireFrame.header (frame : WireFrame) (r : Reserved) : Option Bytes :=
  fieldValue r frame.headers

/-- Transport calls and callback invocations, all made without the mutex. -/
inductive Output where
  | sendText (frame : WireFrame)
  | sendBinary (frame : WireFrame)
  | closeTransport (code : ℕ) (reason : Bytes)
  | onAuthValidate (bearer : Bytes)
  | onMediaReceived (stream : StreamInfo) (timestampUs : UInt64) (body : Bytes)
  | onRtt (rtt : ℤ)
  | onClose (code reason : Bytes)
  | onAuthResponse (bearer : Bytes)
  deriving DecidableEq

/-- What one call reads from its surroundings: the steady clock, the system clock,
and the outcome of each of its draws from the CSPRNG (none when it throws). -/
structure Ambient where
  steadyNow : ℤ := 0
  nowUs : ℤ := 0
  draw : ℕ → Option (ℕ → UInt8) := fun _ => none

/-- `secure_random` into a buffer of `size` bytes, the `k`-th draw of the call. -/
def Ambient.secureRandom (amb : Ambient) (k size : ℕ) : Option Bytes :=
  (amb.draw k).map fun byte => (List.range size).map byte

end CulpeoStream.Session
