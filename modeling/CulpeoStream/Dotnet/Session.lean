import CulpeoStream.Message.Chars
import CulpeoStream.Dotnet.ContentType

/-!
# `CulpeoSession.cs`: streams, sessions and connections

The objects of the C# server.  A `SessionSnapshot` is shared by the server, which finds
it by its id, and by the connections that hold it, so snapshots live in a table and are
referred to by their index.  The mutable members of a stream are its offset, the offset
confirmed on resumption, and the checkpoints of the frames that went over it.

`long` is `Int64`, and its additions are unchecked.  A point in time is its number of
ticks, of which `DateTimeOffset` has those from the year 1 to the year 9999.
-/

namespace CulpeoStream.Dotnet

open Message Utf16

/-! ### Messages -/

inductive CulpeoMessageKind where
  | control
  | media
  deriving DecidableEq, Repr

inductive CulpeoSessionState where
  | uninitialized
  | initializing
  | established
  | closed
  deriving DecidableEq, Repr

inductive CulpeoStreamType where
  | input
  | output
  | duplex
  deriving DecidableEq, Repr

inductive OffsetType where
  | time
  | byte
  | message
  deriving DecidableEq, Repr

structure CulpeoMessage where
  kind : CulpeoMessageKind
  body : Bytes := []
  event : Option Text := none
  contentType : Option Text := none
  authorization : Option Text := none
  sessionId : Option Text := none
  streamId : Option Text := none
  offset : Option Int64 := none
  timestamp : Option Int64 := none
  bufferWindow : Option Int32 := none
  reason : Option Text := none
  code : Option Text := none
  deriving DecidableEq

structure CulpeoProcessResult where
  outboundFrames : List CulpeoMessage
  shouldClose : Bool
  closeCode : Option Text
  state : CulpeoSessionState
  deriving DecidableEq

def CulpeoProcessResult.empty (state : CulpeoSessionState) : CulpeoProcessResult :=
  ⟨[], false, none, state⟩

/-- The exceptions that the modelled methods throw. -/
inductive Exn where
  | protocolValidation (code reason : Text)
  | invalidOperation (message : Text)
  | json
  | format
  | overflow
  | argument
  | argumentOutOfRange
  deriving DecidableEq, Repr

/-- A violation of the protocol. -/
def protocolError (reason : Text) : Exn :=
  .protocolValidation (utf16 "protocol-error") reason

/-! ### Streams -/

abbrev Ticks := ℤ

/-- The ticks of a `DateTimeOffset`. -/
def InCalendar (t : Ticks) : Prop := 0 ≤ t ∧ t ≤ 3155378975999999999

instance decidableInCalendar (t : Ticks) : Decidable (InCalendar t) :=
  inferInstanceAs (Decidable (_ ∧ _))

/-- A `TimeSpan` is subtracted from a `DateTimeOffset`, which fails out of the range. -/
def minusSpan (now span : Ticks) : Except Exn Ticks :=
  if InCalendar (now - span) then .ok (now - span) else .error .argumentOutOfRange

structure OffsetCheckpoint where
  offset : Int64
  recordedAt : Ticks
  deriving DecidableEq, Repr

/-- The state of a stream.  A stream that counts samples has a stride: its constructor
fails otherwise. -/
structure StreamState where
  id : Text
  contentType : Text
  type : CulpeoStreamType
  purpose : Option Text
  offsetType : OffsetType
  currentOffset : Int64
  confirmedResumeOffset : Int64 := 0
  checkpoints : List OffsetCheckpoint := []
  pcmStride : Option ℕ := none
  stride_pos : offsetType = .time → ∃ stride, 0 < stride ∧ pcmStride = some stride

/-- A stream that counts no samples needs no stride. -/
theorem no_stride : OffsetType.message = .time → ∃ stride, 0 < stride ∧ none = some stride :=
  fun h => by cases h

namespace StreamState

def recordFrame (stream : StreamState) (offset : Int64) (timestamp : Ticks) : StreamState :=
  { stream with checkpoints := stream.checkpoints ++ [⟨offset, timestamp⟩] }

def getPcmIncrement (payloadLength stride : ℕ) : Except Exn ℕ :=
  if payloadLength % stride ≠ 0 then
    .error (protocolError
      (utf16 "PCM payload length must align with the declared sample format."))
  else .ok (payloadLength / stride)

/-- How far a payload moves the offset. -/
def getIncrement (stream : StreamState) (payloadLength : ℕ) : Except Exn ℕ :=
  match stream.offsetType with
  | .time =>
      match stream.pcmStride with
      | none => .error (.invalidOperation (utf16 "Nullable object must have a value."))
      | some stride => getPcmIncrement payloadLength stride
  | .byte => .ok payloadLength
  | .message => .ok 1

def advanceOffset (stream : StreamState) (payloadLength : ℕ) : Except Exn StreamState :=
  match stream.getIncrement payloadLength with
  | .error e => .error e
  | .ok n => .ok { stream with currentOffset := stream.currentOffset + Int64.ofNat n }

end StreamState

/-! ### Sessions and connections -/

structure SessionSnapshot where
  sessionId : Text
  bufferWindowMs : Int32
  streams : List StreamState
  disconnectedAt : Option Ticks := none
  sessionStartedAt : Ticks

namespace SessionSnapshot

/-- `Streams.TryGetValue`: the dictionary is keyed by the ids of its streams. -/
def stream (snapshot : SessionSnapshot) (streamId : Text) : Option StreamState :=
  snapshot.streams.find? fun s => s.id = streamId

/-- The stream object with this id has changed. -/
def putStream (snapshot : SessionSnapshot) (stream : StreamState) : SessionSnapshot :=
  { snapshot with
    streams := snapshot.streams.map fun s => if s.id = stream.id then stream else s }

end SessionSnapshot

structure CulpeoSessionOptions where
  supportedVersions : List Text := [utf16 "0.3"]
  maxBufferWindowMs : Int32 := 30000
  maxStreamCount : Int32 := 16
  authChallengeTimeout : Ticks := 300000000
  sessionIdByteLength : Int32 := 16
  nonceByteLength : Int32 := 32
  minAuthRefreshIntervalSeconds : Int32 := 30

/-- The server: every snapshot ever made, and the dictionary of sessions. -/
structure CulpeoSessionServer where
  options : CulpeoSessionOptions := {}
  snapshots : List SessionSnapshot := []
  sessions : List (Text × ℕ) := []

/-- `SaveSession`: set the entry of the session's id. -/
def CulpeoSessionServer.saveSession (server : CulpeoSessionServer) (sessionId : Text) (ref : ℕ) :
    CulpeoSessionServer :=
  if server.sessions.any fun entry => entry.1 = sessionId then
    { server with
      sessions := server.sessions.map fun entry =>
        if entry.1 = sessionId then (sessionId, ref) else entry }
  else { server with sessions := server.sessions ++ [(sessionId, ref)] }

structure CulpeoConnection where
  state : CulpeoSessionState := .uninitialized
  snapshot : Option ℕ := none
  pendingNonce : Option Text := none
  authChallengeIssuedAt : Option Ticks := none
  pingTimestamps : List Ticks := []
  lastAuthRefreshIssuedAt : Option Ticks := none

/-- A connection together with the server it belongs to. -/
structure Endpoint where
  server : CulpeoSessionServer
  connection : CulpeoConnection

namespace Endpoint

/-- The snapshot that the connection holds. -/
def snapshot (e : Endpoint) : Option SessionSnapshot :=
  e.connection.snapshot.bind fun ref => e.server.snapshots[ref]?

/-- The snapshot that the connection holds has changed. -/
def modifySnapshot (e : Endpoint) (f : SessionSnapshot → SessionSnapshot) : Endpoint :=
  match e.connection.snapshot with
  | none => e
  | some ref => { e with server.snapshots := e.server.snapshots.modify ref f }

def setState (e : Endpoint) (state : CulpeoSessionState) : Endpoint :=
  { e with connection.state := state }

/-! ### Closing -/

/-- A frame that closes the session. -/
def closeFrame (code reason : Text) : CulpeoMessage where
  kind := .control
  body := ascii "\x7b\x7d"
  event := some (utf16 "culpeo.close")
  contentType := some (utf16 "application/json")
  code := some code
  reason := some reason

/-- The end of `CloseWithCloseFrame`: the snapshot is stamped and saved. -/
def stampDisconnected (e : Endpoint) (now : Ticks) : Endpoint :=
  match e.connection.snapshot, e.snapshot with
  | some ref, some snapshot =>
      let stamped := e.modifySnapshot fun s => { s with disconnectedAt := some now }
      { stamped with server := stamped.server.saveSession snapshot.sessionId ref }
  | _, _ => e

def closeWithCloseFrame (e : Endpoint) (now : Ticks) (code reason : Text) :
    Endpoint × CulpeoProcessResult :=
  ((e.setState .closed).stampDisconnected now,
    ⟨[closeFrame code reason], true, some code, .closed⟩)

def checkPendingAuthTimeout (e : Endpoint) (now : Ticks) :
    Option (Endpoint × CulpeoProcessResult) :=
  match e.connection.pendingNonce, e.connection.authChallengeIssuedAt with
  | some _, some issuedAt =>
      if now - issuedAt ≤ e.server.options.authChallengeTimeout then none
      else
        some ({ e with
            connection.pendingNonce := none
            connection.authChallengeIssuedAt := none
            connection.state := .closed },
          ⟨[closeFrame (utf16 "auth-expired") (utf16 "Authentication refresh timed out.")],
            true, some (utf16 "auth-expired"), .closed⟩)
  | _, _ => none

/-! ### Media -/

def ensureEstablished (e : Endpoint) : Except Exn SessionSnapshot :=
  match e.connection.state, e.snapshot with
  | .established, some snapshot => .ok snapshot
  | _, _ => .error (.invalidOperation (utf16 "The session is not established."))

def getStreamOrThrow (e : Endpoint) (streamId : Text) : Except Exn StreamState :=
  match e.ensureEstablished with
  | .error ex => .error ex
  | .ok snapshot =>
      match snapshot.stream streamId with
      | some stream => .ok stream
      | none => .error (protocolError (utf16 "The referenced stream does not exist."))

/-- The violation that a media frame with an unexpected offset is. -/
def outOfSequence : Exn :=
  protocolError (utf16 "Media frame offset is out of sequence.")

/-- The checks of `HandleIncomingMedia`, in the order of the source: the stream of the
frame, and its offset. -/
def checkMedia (rt : Runtime) (e : Endpoint) (frame : CulpeoMessage) :
    Except Exn (StreamState × Int64) :=
  if isNullOrWhiteSpace frame.streamId then
    .error (protocolError (utf16 "Media frames must include Stream-Id."))
  else
    match e.getStreamOrThrow (frame.streamId.getD []) with
    | .error ex => .error ex
    | .ok stream =>
        if stream.type = .output then
          .error (protocolError (utf16 "Client cannot send media on an output stream."))
        else if isNullOrWhiteSpace frame.contentType
            || !contentTypesMatch rt stream.contentType (frame.contentType.getD []) then
          .error (protocolError
            (utf16 "Media frame content type does not match the declared stream."))
        else
          match frame.offset with
          | none => .error (protocolError (utf16 "Media frames must include Offset."))
          | some offset =>
              if offset ≠ stream.currentOffset then .error outOfSequence
              else .ok (stream, offset)

/-- A violation of the protocol closes the session; other exceptions leave the method. -/
def closeOnViolation (e : Endpoint) (now : Ticks) :
    Exn → Endpoint × Except Exn CulpeoProcessResult
  | .protocolValidation code reason =>
      ((e.closeWithCloseFrame now code reason).1, .ok (e.closeWithCloseFrame now code reason).2)
  | ex => (e, .error ex)

def handleIncomingMedia (rt : Runtime) (e : Endpoint) (now : Ticks) (frame : CulpeoMessage) :
    Endpoint × Except Exn CulpeoProcessResult :=
  match checkMedia rt e frame with
  | .error ex => e.closeOnViolation now ex
  | .ok (stream, offset) =>
      let recorded := stream.recordFrame offset now
      match recorded.advanceOffset frame.body.length with
      | .error ex => (e.modifySnapshot (·.putStream recorded)).closeOnViolation now ex
      | .ok advanced =>
          (e.modifySnapshot (·.putStream advanced), .ok (.empty e.connection.state))

/-- `ReceiveAsync` of a media frame. -/
def receiveMedia (rt : Runtime) (e : Endpoint) (now : Ticks) (frame : CulpeoMessage) :
    Endpoint × Except Exn CulpeoProcessResult :=
  match e.checkPendingAuthTimeout now with
  | some (timedOut, result) => (timedOut, .ok result)
  | none =>
      match e.connection.state with
      | .uninitialized =>
          e.closeOnViolation now (protocolError (utf16 "The first frame must be culpeo.init."))
      | .initializing =>
          e.closeOnViolation now
            (protocolError (utf16 "Session initialization is already in progress."))
      | .established => handleIncomingMedia rt e now frame
      | .closed => (e, .ok ⟨[], true, some (utf16 "closed"), .closed⟩)

/-- The message that `SendMediaAsync` makes. -/
def mediaMessage (stream : StreamState) (payload : Bytes) (timestamp : Int64) :
    CulpeoMessage where
  kind := .media
  body := payload
  contentType := some stream.contentType
  streamId := some stream.id
  offset := some stream.currentOffset
  timestamp := some timestamp

def sendMedia (e : Endpoint) (now : Ticks) (streamId : Text) (payload : Bytes)
    (timestamp : Int64) : Endpoint × Except Exn CulpeoMessage :=
  match e.getStreamOrThrow streamId with
  | .error ex => (e, .error ex)
  | .ok stream =>
      if stream.type = .input then
        (e, .error (.invalidOperation (utf16 "Server cannot send media on an input stream.")))
      else
        -- The frame is recorded before the advance, which may fail.
        let recorded := stream.recordFrame stream.currentOffset now
        match recorded.advanceOffset payload.length with
        | .error ex => (e.modifySnapshot (·.putStream recorded), .error ex)
        | .ok advanced =>
            (e.modifySnapshot (·.putStream advanced), .ok (mediaMessage stream payload timestamp))

end Endpoint

end CulpeoStream.Dotnet
