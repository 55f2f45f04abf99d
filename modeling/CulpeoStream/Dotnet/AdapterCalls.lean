import CulpeoStream.Lib.Async
import CulpeoStream.Lib.Utf8
import CulpeoStream.Dotnet.StreamClient

/-!
# The methods of `WebSocketTransportAdapter`

`RunAsync`, which is one call for as long as the connection lasts, and the methods that the
handler calls on its session meanwhile.  A step changes the fields of the adapter and what they
refer to; what is awaited, and what the socket, the clock and the handler say, is an action.  A
token that is cancelled shows in the answers of the actions that take it.

The methods of the connection are one step each.  `rounds` bounds how many messages `RunAsync`
receives, and of how many fragments a message is put together: a run is finite, so that a large
bound loses none of it.
-/

open Resumption

namespace CulpeoStream.Dotnet

open Message Utf16

/-- The options that the adapter reads. -/
structure CulpeoStreamOptions where
  maxMessageBytes : Int32 := 1048576

structure CulpeoMediaFrameContext where
  streamId : Text
  offset : Int64
  timestamp : Option Int64
  contentType : Text
  payload : Bytes
  deriving DecidableEq

structure CulpeoEventContext where
  eventName : Text
  streamId : Option Text
  jsonBody : Text
  deriving DecidableEq

/-- The fields of a `WebSocketTransportAdapter`, and the locals of `RunAsync` that its `finally`
reads. -/
structure Adapter where
  /-- `_connection`, with the server that it belongs to. -/
  endpoint : Endpoint
  /-- `_sessionStart`. -/
  sessionStart : Ticks := 0
  /-- `_closed`. -/
  closed : Bool := false
  handlerConnected : Bool := false
  closeCode : Option Text := none

namespace Adapter

/-! ### Steps and actions -/

/-- The exceptions that the methods tell apart. -/
inductive AdapterExn where
  | operationCanceled
  | culpeoProtocol (code message : Text)
  | objectDisposed
  | argument (message : Text)
  | core (e : Exn)
  | other

inductive WebSocketState where
  | open
  | closeReceived
  | other
  deriving DecidableEq

inductive AdapterAction where
  /-- `cancellationToken.IsCancellationRequested`. -/
  | isCancellationRequested
  /-- A method that does nothing else before it throws for a cancelled token. -/
  | throwIfCancellationRequested
  /-- `_ws.ReceiveAsync`. -/
  | receiveFragment
  | webSocketState
  | waitSendLock
  | releaseSendLock
  | disposeSendLock
  | send (messageType : WebSocketMessageType) (data : Bytes)
  | closeWebSocket
  | utcNow
  /-- `ComputeTimestampMicros`. -/
  | computeTimestampMicros
  /-- `_connection.ReceiveAsync`. -/
  | receive (frame : CulpeoMessage)
  /-- `_connection.CheckTimeoutsAsync`. -/
  | checkTimeouts
  /-- `_connection.DisconnectAsync`. -/
  | disconnect
  /-- `_connection.SendMediaAsync`. -/
  | sendMedia (streamId : Text)
  | authenticate (authorization : Text)
  | onConnected
  | onMediaFrame (frame : CulpeoMediaFrameContext)
  | onEvent (event : CulpeoEventContext)
  | onDisconnected (closeCode : Option Text)

inductive AdapterAnswer where
  | done
  | raises (e : AdapterExn)
  | flag (value : Bool)
  | fragment (messageType : WebSocketMessageType) (data : Bytes) (endOfMessage : Bool)
  | state (state : WebSocketState)
  | time (now : Ticks)
  | timestamp (value : Int64)
  /-- What the connection reads off its clock and gets from its source of random bytes. -/
  | surroundings (s : Surroundings)

namespace AdapterAnswer

def asUnit : AdapterAnswer → Except AdapterExn Unit
  | .raises e => .error e
  | _ => .ok ()

def asFlag : AdapterAnswer → Except AdapterExn Bool
  | .flag value => .ok value
  | .raises e => .error e
  | _ => .ok false

def asFragment : AdapterAnswer → Except AdapterExn (WebSocketMessageType × Bytes × Bool)
  | .fragment messageType data endOfMessage => .ok (messageType, data, endOfMessage)
  | .raises e => .error e
  | _ => .error .other

def asState : AdapterAnswer → Except AdapterExn WebSocketState
  | .state value => .ok value
  | _ => .ok .other

def asTime : AdapterAnswer → Except AdapterExn Ticks
  | .time now => .ok now
  | _ => .ok 0

def asTimestamp : AdapterAnswer → Except AdapterExn Int64
  | .timestamp value => .ok value
  | _ => .ok 0

def asSurroundings : AdapterAnswer → Except AdapterExn Surroundings
  | .surroundings s => .ok s
  | .raises e => .error e
  | _ => .error .other

/-- Those of a method whose token is never cancelled. -/
def asMoment : AdapterAnswer → Except AdapterExn Surroundings
  | .surroundings s => .ok s
  | _ => .ok ⟨fun _ => 0, fun _ _ => 0⟩

end AdapterAnswer

/-- The result of a call; none for a call that has used up its rounds. -/
abbrev Result := Option (Except AdapterExn Unit)

abbrev Rest := Prog Adapter AdapterAction AdapterAnswer Result

abbrev Calls := Config Adapter AdapterAction AdapterAnswer Result

abbrev Method := Async Adapter AdapterAction AdapterAnswer Result AdapterExn

def perform (action : AdapterAction) : Method Unit := .await action AdapterAnswer.asUnit

def setCloseCode (code : Option Text) : Method Unit := .update ({ · with closeCode := code })

/-- A step of `_connection`. -/
def onConnection {α : Type} (body : Endpoint → Endpoint × Except Exn α) : Method α :=
  .step fun a => ({ a with endpoint := (body a.endpoint).1 }, (body a.endpoint).2.mapError .core)

/-! ### Sending -/

/-- `SendFrameAsync`. -/
def sendFrameAsync (frame : CulpeoMessage) : Method Unit := do
  perform .throwIfCancellationRequested
  perform .waitSendLock
  (do
    if (← .await .webSocketState AdapterAnswer.asState) = .open then
      perform (.send (if frame.kind = .control then .text else .binary) (serializeAsync frame))
    : Method Unit).ensuring (perform .releaseSendLock)

def sendFramesAsync : List CulpeoMessage → Method Unit
  | [] => pure ()
  | frame :: frames => do
      sendFrameAsync frame
      sendFramesAsync frames

def buildCloseFrame (code reason : Text) : CulpeoMessage := Endpoint.closeFrame code reason

/-- Send a culpeo.close, after which the loop ends. -/
def closeWith (code reason : Text) : Method Bool := do
  sendFrameAsync (buildCloseFrame code reason)
  setCloseCode (some code)
  return true

/-! ### Receiving -/

section Run

variable (env : Environment) (o : CulpeoStreamOptions)

/-- `ReceiveMessageAsync`, with what has been accumulated. -/
def receiveMessageAsync : ℕ → Bytes → Method (WebSocketMessageType × Bytes)
  | 0, _ => fun _ => .ret none
  | rounds + 1, accumulator => do
      let (messageType, data, endOfMessage) ← .await .receiveFragment AdapterAnswer.asFragment
      if messageType = .close then return (.close, [])
      else if o.maxMessageBytes.toInt < accumulator.length + data.length then
        sendFrameAsync
          (buildCloseFrame (utf16 "protocol-error") (utf16 "Message exceeds maximum allowed size."))
        throw (.culpeoProtocol (utf16 "protocol-error")
          (utf16 "Message exceeds maximum allowed size."))
      else if endOfMessage then return (messageType, accumulator ++ data)
      else receiveMessageAsync rounds (accumulator ++ data)

/-- The frame begins a session. -/
def isInit (frame : CulpeoMessage) : Bool :=
  frame.kind = .control && frame.event = some (utf16 "culpeo.init")

def authErrorFrame : CulpeoMessage where
  kind := .control
  body := ascii "\x7b\x7d"
  event := some (utf16 "culpeo.init-error")
  contentType := some (utf16 "application/json")
  code := some (utf16 "unauthorized")
  reason := some (utf16 "Authentication rejected by server.")

/-- The authentication of a culpeo.init by the handler, and whether the loop goes on. -/
def authenticateFrame (frame : CulpeoMessage) : Method Bool := do
  if isInit frame then
    if ← .await (.authenticate (frame.authorization.getD [])) AdapterAnswer.asFlag then
      return true
    else
      sendFrameAsync authErrorFrame
      setCloseCode (some (utf16 "unauthorized"))
      return false
  else return true

/-- `_connection.ReceiveAsync`. -/
def receiveAsync (frame : CulpeoMessage) : Method CulpeoProcessResult := do
  let s ← .await (.receive frame) AdapterAnswer.asSurroundings
  onConnection fun e => e.receive env s frame

/-- `_connection.CheckTimeoutsAsync`. -/
def checkTimeoutsAsync : Method CulpeoProcessResult := do
  let s ← .await .checkTimeouts AdapterAnswer.asSurroundings
  onConnection fun e => ((e.checkTimeouts s).1, .ok (e.checkTimeouts s).2)

/-- `_connection.SessionStartedAt ?? DateTimeOffset.UtcNow`. -/
def sessionStartedAt : Method Ticks := do
  match ← .read fun a => a.endpoint.snapshot.map SessionSnapshot.sessionStartedAt with
  | some startedAt => pure startedAt
  | none => .await .utcNow AdapterAnswer.asTime

/-- The handler learns of the session when it is established. -/
def connectHandler (result : CulpeoProcessResult) : Method Unit := do
  if !(← .read handlerConnected) && result.state = .established then
    .update ({ · with handlerConnected := true })
    let startedAt ← sessionStartedAt
    .update ({ · with sessionStart := startedAt })
    perform .onConnected

/-- `IsApplicationEvent`. -/
def isApplicationEvent (event : Option Text) : Bool :=
  !(event.getD []).isEmpty && !(utf16 "culpeo.").isPrefixOf (event.getD [])

def mediaFrameContext (frame : CulpeoMessage) : CulpeoMediaFrameContext where
  streamId := frame.streamId.getD []
  offset := frame.offset.getD 0
  timestamp := frame.timestamp
  contentType := frame.contentType.getD []
  payload := frame.body

def eventContext (frame : CulpeoMessage) : CulpeoEventContext where
  eventName := frame.event.getD []
  streamId := frame.streamId
  jsonBody := if frame.body.isEmpty then utf16 "\x7b\x7d" else Utf8.decode frame.body

/-- The frames that are for the application go to the handler. -/
def dispatchFrame (frame : CulpeoMessage) (result : CulpeoProcessResult) : Method Unit :=
  if result.state = .established && !result.shouldClose then
    if frame.kind = .media then perform (.onMediaFrame (mediaFrameContext frame))
    else if isApplicationEvent frame.event then perform (.onEvent (eventContext frame))
    else pure ()
  else pure ()

/-- A frame that has been parsed, and whether the loop ends. -/
def processFrame (frame : CulpeoMessage) : Method Bool := do
  if ← authenticateFrame frame then
    let result ← receiveAsync env frame
    sendFramesAsync result.outboundFrames
    connectHandler result
    dispatchFrame frame result
    let timeoutCheck ← checkTimeoutsAsync
    if timeoutCheck.shouldClose then
      sendFramesAsync timeoutCheck.outboundFrames
      setCloseCode timeoutCheck.closeCode
      return true
    else if result.shouldClose then
      setCloseCode result.closeCode
      return true
    else return false
  else return true

/-- A message that has been received, and whether the loop ends. -/
def processMessage (messageType : WebSocketMessageType) (messageBytes : Bytes) : Method Bool := do
  if messageType = .close then return true
  else
    perform .throwIfCancellationRequested
    match parseAsync {} messageBytes (if messageType = .text then .control else .media) with
    | .error (.format message) =>
        closeWith (utf16 "protocol-error") (utf16 "Malformed frame: " ++ message)
    | .error (.overflow _) => throw .other
    | .ok frame => processFrame env frame

/-- One turn of the loop, and whether it ends. -/
def runOnce (fragments : ℕ) : Method Bool := do
  match ← (receiveMessageAsync o fragments []).attempt with
  | .error .operationCanceled =>
      if ← .await .isCancellationRequested AdapterAnswer.asFlag then throw .operationCanceled
      else closeWith (utf16 "idle-timeout") (utf16 "Session closed due to inactivity.")
  | .error e => throw e
  | .ok (messageType, messageBytes) => processMessage env messageType messageBytes

/-- The loop of `RunAsync`. -/
def runLoop (fragments : ℕ) : ℕ → Method Unit
  | 0 => fun _ => .ret none
  | rounds + 1 => do
      if ← .await .isCancellationRequested AdapterAnswer.asFlag then pure ()
      else if ← runOnce env o fragments then pure ()
      else runLoop fragments rounds

/-! ### The end of a connection -/

/-- Close the transport, if it is open. -/
def closeTransport : Method Unit := do
  let state ← .await .webSocketState AdapterAnswer.asState
  if state = .open ∨ state = .closeReceived then perform .closeWebSocket

def notifyHandler : Method Unit := do
  if ← .read handlerConnected then
    let code ← .read closeCode
    let _ ← (perform (.onDisconnected code)).attempt

/-- The `finally` of `RunAsync`. -/
def leave : Method Unit := do
  .update ({ · with closed := true })
  let s ← .await .disconnect AdapterAnswer.asMoment
  .update fun a => { a with endpoint := a.endpoint.disconnect s }
  notifyHandler
  let _ ← closeTransport.attempt
  perform .disposeSendLock

/-- `RunAsync`, which catches every exception. -/
def runAsync (rounds : ℕ) : Rest :=
  (do
    let _ ← (runLoop env o rounds rounds).attempt
    leave : Method Unit) fun r => .ret (some r)

end Run

/-! ### The session, as the handler has it -/

def throwIfClosed : Method Unit :=
  .step fun a => (a, if a.closed then .error .objectDisposed else .ok ())

def sendMediaAsync (streamId : Text) (payload : Bytes) : Method Unit := do
  throwIfClosed
  let timestamp ← .await .computeTimestampMicros AdapterAnswer.asTimestamp
  let s ← .await (.sendMedia streamId) AdapterAnswer.asSurroundings
  let frame ← onConnection fun e => e.sendMedia (s.clock 0) streamId payload timestamp
  sendFrameAsync frame

def eventFrame (eventName : Text) (streamId : Option Text) (jsonBody : Option Text) :
    CulpeoMessage where
  kind := .control
  body := Utf8.encode (if isNullOrWhiteSpace jsonBody then utf16 "\x7b\x7d" else jsonBody.getD [])
  event := some eventName
  contentType := some (utf16 "application/json")
  streamId := streamId

def sendEventAsync (eventName streamId jsonBody : Option Text) : Method Unit := do
  throwIfClosed
  if (eventName.getD []).isEmpty then
    throw (.argument (utf16 "Event name must not be null or empty."))
  else if (utf16 "culpeo.").isPrefixOf (eventName.getD []) then
    throw (.argument (utf16 "Application events must not use the reserved 'culpeo.' namespace."))
  else sendFrameAsync (eventFrame (eventName.getD []) streamId jsonBody)

def closeAsync (code reason : Text) : Method Unit := do
  if ← .read closed then pure ()
  else sendFrameAsync (buildCloseFrame code reason)

/-- What happens besides `RunAsync`: the handler calls a method of its session, or other
connections have changed what is on the server. -/
inductive AdapterCall where
  | sendMediaAsync (streamId : Text) (payload : Bytes)
  | sendEventAsync (eventName streamId jsonBody : Option Text)
  | closeAsync (code reason : Text)
  | others (server : CulpeoSessionServer)

/-- A method is called. -/
def called (method : Method Unit) (a : Adapter) : Adapter × Rest :=
  (a, method fun r => .ret (some r))

def enter : AdapterCall → Adapter → Adapter × Rest
  | .sendMediaAsync streamId payload => called (sendMediaAsync streamId payload)
  | .sendEventAsync eventName streamId jsonBody =>
      called (sendEventAsync eventName streamId jsonBody)
  | .closeAsync code reason => called (closeAsync code reason)
  | .others server => fun a =>
      ({ a with endpoint := { a.endpoint with server } }, .ret (some (.ok ())))

/-- An adapter whose `RunAsync` has been called. -/
def start (env : Environment) (o : CulpeoStreamOptions) (rounds : ℕ)
    (server : CulpeoSessionServer) : Calls :=
  ⟨{ endpoint := { server, connection := {} } }, [runAsync env o rounds], []⟩

end Adapter

end CulpeoStream.Dotnet
