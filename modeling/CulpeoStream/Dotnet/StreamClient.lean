import CulpeoStream.Lib.InsertionMap
import CulpeoStream.Dotnet.Client
import CulpeoStream.Dotnet.Connection
import CulpeoStream.Dotnet.Parser

/-!
# The data of `CulpeoStreamClient`

The fields of the C# client and what it reads and writes in a handshake.

Streams are objects: a call that has looked one up goes on to use it after the dictionary has
been replaced.  They live in a table that only grows, and the dictionary maps ids to places
in it.
-/

namespace CulpeoStream.Dotnet

open Message Search Utf16

/-- `ClientStreamState` with the other properties that the client uses. -/
structure ConfirmedStream extends ClientStreamState where
  serverId : Text
  contentType : Text
  type : CulpeoStreamType
  purpose : Option Text
  sendOffset : Int64 := 0
  receiveOffset : Int64 := 0
  deriving DecidableEq, Repr

/-- A stream of the options. -/
structure StreamDeclaration where
  contentType : Text
  type : CulpeoStreamType
  offsetType : OffsetType
  purpose : Option Text := none
  deriving DecidableEq, Repr

/-- The options that the modelled methods read.  The constructor of the client refuses options
without streams, or without a source of tokens. -/
structure CulpeoStreamClientOptions where
  authorization : Option Text := none
  /-- `GetToken` is not null. -/
  getToken : Bool := false
  streams : List StreamDeclaration
  version : Text := utf16 "0.3"
  autoReconnect : Bool := true
  maxReconnectAttempts : Int32 := 10
  allowInsecureConnections : Bool := false
  bufferWindowMs : Int32 := 5000
  streams_ne_nil : streams ≠ []
  has_token : authorization.isSome ∨ getToken

inductive CulpeoClientState where
  | disconnected
  | connecting
  | established
  | reconnecting
  deriving DecidableEq, Repr

/-- `ToString` of a state. -/
def CulpeoClientState.name : CulpeoClientState → Text
  | .disconnected => utf16 "Disconnected"
  | .connecting => utf16 "Connecting"
  | .established => utf16 "Established"
  | .reconnecting => utf16 "Reconnecting"

inductive CulpeoClientEvent where
  | mediaReceived (streamId : Text) (data : Bytes) (offset : Int64)
  /-- The body is none where it is no JSON. -/
  | applicationEventReceived (eventName : Text) (body : Option JsonElement)
  | sessionEstablished (sessionId : Text)
  | sessionResumed (sessionId : Text)
  | disconnected (reason : Text)

inductive WebSocketMessageType where
  | text
  | binary
  | close
  deriving DecidableEq, Repr

/-- The exceptions that the methods of the client throw, or see thrown. -/
inductive ClientExn where
  | exn (e : Exn)
  | parse (e : ParseExn)
  | culpeoProtocol (code reason : Text)
  | operationCanceled
  | webSocket
  | channelClosed
  | objectDisposed
  | keyNotFound (message : Text)
  | argument (message : Text)
  | other
  deriving DecidableEq, Repr

/-- An `InvalidOperationException`. -/
def ClientExn.invalidOperation (message : Text) : ClientExn := .exn (.invalidOperation message)

/-- The fields of the client.  A socket is known by its number. -/
structure CulpeoStreamClient where
  state : CulpeoClientState := .disconnected
  /-- `_connectState` is 1. -/
  connectState : Bool := false
  sessionId : Option Text := none
  streamObjects : List ConfirmedStream := []
  streamStates : InsertionMap Text ℕ := .empty
  ws : Option ℕ := none
  /-- How many sockets have been made. -/
  sockets : ℕ := 0
  /-- `_loopTask` is set. -/
  loopStarted : Bool := false
  /-- `_lifetimeCts` is cancelled. -/
  cancelled : Bool := false
  /-- `_lifetimeCts` is disposed of. -/
  disposed : Bool := false
  /-- The events that the channel has accepted. -/
  written : List CulpeoClientEvent := []
  /-- The channel is completed. -/
  completed : Bool := false
  /-- `HandleCloseAsync` has processed a frame.  The code does not keep this. -/
  closeProcessed : Bool := false

namespace CulpeoStreamClient

/-- `_streamStates.TryGetValue`. -/
def tryGetStream (c : CulpeoStreamClient) (streamId : Text) : Option (ℕ × ConfirmedStream) := do
  let ref ← c.streamStates.get streamId
  let stream ← c.streamObjects[ref]?
  return (ref, stream)

/-- The streams of the dictionary. -/
def streams (c : CulpeoStreamClient) : List ConfirmedStream :=
  c.streamStates.entries.filterMap fun entry => c.streamObjects[entry.2]?

/-- A stream object has changed. -/
def modifyStream (c : CulpeoStreamClient) (ref : ℕ) (f : ConfirmedStream → ConfirmedStream) :
    CulpeoStreamClient :=
  { c with streamObjects := c.streamObjects.modify ref f }

/-! ### The handshake -/

/-- `FindMatchingStream`. -/
def findMatchingStream (rt : Runtime) (c : CulpeoStreamClient) (type : CulpeoStreamType)
    (contentType : Text) (purpose : Option Text) : Option ConfirmedStream :=
  c.streams.find? fun s =>
    s.type = type && equalsIgnoreCase rt s.contentType contentType && s.purpose = purpose

/-- The entry of a declaration in the init body. -/
def initEntry (rt : Runtime) (c : CulpeoStreamClient) (isResumption : Bool)
    (decl : StreamDeclaration) : JsonElement :=
  .named <|
    [(utf16 "content_type", .string (some decl.contentType)),
      (utf16 "type", .string (some (streamTypeToString decl.type))),
      (utf16 "offset_type", .string (some (offsetTypeToString decl.offsetType)))] ++
    (if (decl.purpose.getD []).isEmpty then [] else [(utf16 "purpose", .string decl.purpose)]) ++
    if isResumption then
      match c.findMatchingStream rt decl.type decl.contentType decl.purpose with
      | none => []
      | some existing =>
          [(utf16 "id", .string (some existing.serverId)),
            (utf16 "resume_offset", jsonNumber
              (if decl.type = .output then existing.receiveOffset else existing.sendOffset))]
    else []

def buildInitBody (rt : Runtime) (o : CulpeoStreamClientOptions) (c : CulpeoStreamClient)
    (isResumption : Bool) : JsonElement :=
  .named [(utf16 "version", .string (some o.version)),
    (utf16 "streams", .array (o.streams.map (c.initEntry rt isResumption)))]

/-- The frame that `PerformHandshakeAsync` sends. -/
def initFrame (env : Environment) (o : CulpeoStreamClientOptions) (c : CulpeoStreamClient)
    (isResumption : Bool) (token : Text) : CulpeoMessage where
  kind := .control
  body := env.serialize (c.buildInitBody env.toRuntime o isResumption)
  event := some (utf16 "culpeo.init")
  authorization := some token
  contentType := some (utf16 "application/json")
  sessionId := if isResumption then c.sessionId else none
  bufferWindow := some o.bufferWindowMs

/-- The checks on a `resume_offset` of the server. -/
def checkResumeOffset (existing : Option ConfirmedStream) (serverId : Text)
    (type : CulpeoStreamType) (confirmedOffset : Int64) : Except ClientExn Unit :=
  if confirmedOffset < 0 then
    .error (.culpeoProtocol (utf16 "protocol-error")
      (utf16 "Server sent negative resume_offset (" ++ Numeral.decimalInt confirmedOffset.toInt ++
        utf16 ") for stream '" ++ serverId ++ utf16 "'."))
  else
    match existing with
    | none => .ok ()
    | some existing =>
        if type ≠ .output ∧ existing.sendOffset < confirmedOffset then
          .error (.culpeoProtocol (utf16 "protocol-error")
            (utf16 "Server resume_offset " ++ Numeral.decimalInt confirmedOffset.toInt ++
              utf16 " exceeds client tracked send offset " ++
              Numeral.decimalInt existing.sendOffset.toInt ++ utf16 " for stream '" ++ serverId ++
              utf16 "'."))
        else .ok ()

/-- The server's offset becomes the cursor of each direction that the stream has. -/
def applyResumeOffset (stream : ConfirmedStream) (confirmedOffset : Int64) : ConfirmedStream :=
  { stream with
    sendOffset := if stream.type = .output then stream.sendOffset else confirmedOffset
    receiveOffset := if stream.type = .input then stream.receiveOffset else confirmedOffset }

/-- The required fields of an entry of the init-ack: its id, content type, type and offset
type. -/
def requiredFields (serverId contentType typeStr offsetTypeStr : Option Text) :
    Except ClientExn (Text × Text × CulpeoStreamType × OffsetType) :=
  match serverId, contentType, typeStr.bind tryParseStreamType,
      offsetTypeStr.bind tryParseOffsetType with
  | some serverId, some contentType, some type, some offsetType =>
      if serverId.isEmpty || contentType.isEmpty then
        .error (.invalidOperation
          (utf16 "culpeo.init-ack stream entry is missing required fields."))
      else .ok (serverId, contentType, type, offsetType)
  | _, _, _, _ =>
      .error (.invalidOperation
        (utf16 "culpeo.init-ack stream entry is missing required fields."))

/-- A value of the JSON library, or the exception that it throws. -/
def json {α : Type} (value : Except Exn α) : Except ClientExn α := value.mapError .exn

/-- One turn of the loop of `ProcessInitAck`. -/
def confirmStream (env : Environment) (c : CulpeoStreamClient) (isResumption : Bool)
    (streamEl : JsonElement) : Except ClientExn ConfirmedStream := do
  let id ← json (streamEl.stringProperty (utf16 "id"))
  let contentTypeValue ← json (streamEl.stringProperty (utf16 "content_type"))
  let typeStr ← json (streamEl.stringProperty (utf16 "type"))
  let offsetTypeStr ← json (streamEl.stringProperty (utf16 "offset_type"))
  let purpose ← json (streamEl.stringProperty (utf16 "purpose"))
  let (serverId, contentType, type, offsetType) ←
    requiredFields id contentTypeValue typeStr offsetTypeStr
  let existing := if isResumption then
      c.findMatchingStream env.toRuntime type contentType purpose
    else none
  let state : ConfirmedStream :=
    { ClientStreamState.create env.toRuntime contentType offsetType with
      serverId, contentType, type, purpose
      sendOffset := (existing.map ConfirmedStream.sendOffset).getD 0
      receiveOffset := (existing.map ConfirmedStream.receiveOffset).getD 0 }
  if isResumption then
    match ← json (streamEl.int64Property (utf16 "resume_offset")) with
    | none => return state
    | some confirmedOffset =>
        checkResumeOffset existing serverId type confirmedOffset
        return applyResumeOffset state confirmedOffset
  else return state

/-- The streams that an init-ack confirms. -/
def confirmStreams (env : Environment) (c : CulpeoStreamClient) (ackFrame : CulpeoMessage)
    (isResumption : Bool) : Except ClientExn (List ConfirmedStream) := do
  if ackFrame.body.isEmpty then
    throw (.invalidOperation (utf16 "culpeo.init-ack missing body."))
  match env.parse ackFrame.body with
  | none => throw (.exn .json)
  | some root =>
      match ← json (root.tryGetProperty (utf16 "streams")) with
      | some (.array items) => items.mapM (c.confirmStream env isResumption)
      | _ => throw (.invalidOperation (utf16 "culpeo.init-ack body missing 'streams' array."))

/-- `newStates[serverId] = state`. -/
def addStream (c : CulpeoStreamClient) (stream : ConfirmedStream) : CulpeoStreamClient :=
  { c with
    streamObjects := c.streamObjects ++ [stream]
    streamStates := c.streamStates.set stream.serverId c.streamObjects.length }

/-- A new dictionary of streams. -/
def replaceStreams (c : CulpeoStreamClient) (streams : List ConfirmedStream) :
    CulpeoStreamClient :=
  streams.foldl addStream { c with streamStates := .empty }

/-- `ProcessInitAck`, which takes over the session id before it looks at the streams. -/
def processInitAck (env : Environment) (ackFrame : CulpeoMessage) (isResumption : Bool)
    (c : CulpeoStreamClient) : CulpeoStreamClient × Except ClientExn Unit :=
  match ackFrame.sessionId with
  | none => (c, .error (.invalidOperation (utf16 "culpeo.init-ack missing Session-Id.")))
  | some sessionId =>
      let named := { c with sessionId := some sessionId }
      match named.confirmStreams env ackFrame isResumption with
      | .error e => (named, .error e)
      | .ok streams => (named.replaceStreams streams, .ok ())

/-- What the reconnection loop does about a session that cannot be resumed. -/
def forgetSession (c : CulpeoStreamClient) : CulpeoStreamClient :=
  c.streamStates.entries.foldl (fun c entry => c.modifyStream entry.2 fun stream =>
    { stream with sendOffset := 0, receiveOffset := 0 }) { c with sessionId := none }

/-! ### What a handshake leaves as it is -/

/-- Only the session and its streams may differ. -/
structure SameBut (c c' : CulpeoStreamClient) : Prop where
  state : c'.state = c.state
  connectState : c'.connectState = c.connectState
  ws : c'.ws = c.ws
  sockets : c'.sockets = c.sockets
  written : c'.written = c.written
  closeProcessed : c'.closeProcessed = c.closeProcessed

theorem SameBut.trans {c c' c'' : CulpeoStreamClient} (h : SameBut c c') (h' : SameBut c' c'') :
    SameBut c c'' where
  state := h'.state.trans h.state
  connectState := h'.connectState.trans h.connectState
  ws := h'.ws.trans h.ws
  sockets := h'.sockets.trans h.sockets
  written := h'.written.trans h.written
  closeProcessed := h'.closeProcessed.trans h.closeProcessed

theorem sameBut_foldl {ι : Type} {f : CulpeoStreamClient → ι → CulpeoStreamClient}
    (hf : ∀ c i, SameBut c (f c i)) (is : List ι) :
    ∀ c, SameBut c (is.foldl f c) := by
  induction is with
  | nil => exact fun _ => ⟨rfl, rfl, rfl, rfl, rfl, rfl⟩
  | cons i is ih => exact fun c => (hf c i).trans (ih _)

theorem sameBut_processInitAck (env : Environment) (ackFrame : CulpeoMessage)
    (isResumption : Bool) (c : CulpeoStreamClient) :
    SameBut c (processInitAck env ackFrame isResumption c).1 := by
  unfold processInitAck
  split
  · exact ⟨rfl, rfl, rfl, rfl, rfl, rfl⟩
  · dsimp only
    split
    · exact ⟨rfl, rfl, rfl, rfl, rfl, rfl⟩
    · refine SameBut.trans ?_ (sameBut_foldl (fun c stream => ?_) _ _)
      · exact ⟨rfl, rfl, rfl, rfl, rfl, rfl⟩
      · exact ⟨rfl, rfl, rfl, rfl, rfl, rfl⟩

theorem sameBut_forgetSession (c : CulpeoStreamClient) : SameBut c c.forgetSession := by
  refine SameBut.trans ?_ (sameBut_foldl (fun c entry => ?_) _ _)
  · exact ⟨rfl, rfl, rfl, rfl, rfl, rfl⟩
  · exact ⟨rfl, rfl, rfl, rfl, rfl, rfl⟩

end CulpeoStreamClient

end CulpeoStream.Dotnet
