import CulpeoStream.Lib.Async
import CulpeoStream.Dotnet.StreamClient

/-!
# The methods of `CulpeoStreamClient`

The asynchronous methods, with the background loop that `ConnectAsync` starts.  A step changes
the fields of the client; everything that is awaited, and what the sockets and the clock say,
is an action, and the answers to the actions say how they end.  A token that is cancelled shows
in the answers of the actions that take it.  A message is received whole.

The background loop is what a successful call of `ConnectAsync` goes on with.  `rounds` bounds
how many messages are received on one connection: a run is finite, so that a large bound loses
none of it.
-/

open Resumption

namespace CulpeoStream.Dotnet

open Message Search Utf16

namespace CulpeoStreamClient

/-! ### Steps and actions -/

inductive ClientAction where
  | createWebSocket
  /-- The callback of the options. -/
  | getToken
  | send (socket : ℕ) (messageType : WebSocketMessageType) (data : Bytes)
  | receiveMessage (socket : ℕ)
  /-- Is the socket open? -/
  | socketState (socket : ℕ)
  | disposeSocket (socket : ℕ)
  | waitSendLock
  | releaseSendLock
  /-- The backoff of an attempt to reconnect, and the delay. -/
  | delay (attempt : ℕ)
  | utcNow
  /-- The channel has room for an event. -/
  | waitToWrite (event : CulpeoClientEvent)
  /-- The background loop has ended. -/
  | awaitLoop

inductive ClientAnswer where
  | done
  | raises (e : ClientExn)
  | token (token : Text)
  | message (messageType : WebSocketMessageType) (data : Bytes)
  | isOpen (isOpen : Bool)
  | time (now : Ticks)

def ClientAnswer.asUnit : ClientAnswer → Except ClientExn Unit
  | .raises e => .error e
  | _ => .ok ()

def ClientAnswer.asToken : ClientAnswer → Except ClientExn Text
  | .token value => .ok value
  | .raises e => .error e
  | _ => .error .other

def ClientAnswer.asMessage : ClientAnswer → Except ClientExn (WebSocketMessageType × Bytes)
  | .message messageType data => .ok (messageType, data)
  | .raises e => .error e
  | _ => .error .other

def ClientAnswer.asIsOpen : ClientAnswer → Except ClientExn Bool
  | .isOpen value => .ok value
  | _ => .ok false

def ClientAnswer.asTime : ClientAnswer → Except ClientExn Ticks
  | .time now => .ok now
  | _ => .ok 0

/-- The result of a call. -/
abbrev Result := Except ClientExn Unit

/-- What a call still has to do. -/
abbrev Rest := Prog CulpeoStreamClient ClientAction ClientAnswer Result

/-- A client and the calls on it. -/
abbrev Calls := Config CulpeoStreamClient ClientAction ClientAnswer Result

abbrev Method := Async CulpeoStreamClient ClientAction ClientAnswer Result ClientExn

def perform (action : ClientAction) : Method Unit := .await action ClientAnswer.asUnit

/-- `_eventChannel.Writer.WriteAsync`. -/
def writeAsync (event : CulpeoClientEvent) : Method Unit := do
  perform (.waitToWrite event)
  .step fun c =>
    if c.completed then (c, .error .channelClosed)
    else ({ c with written := c.written ++ [event] }, .ok ())

def setState (state : CulpeoClientState) : Method Unit := .update ({ · with state })

/-- `_eventChannel.Writer.TryComplete`. -/
def tryComplete : Method Unit := .update ({ · with completed := true })

/-! ### Frames -/

def buildCloseFrame (code reason : Text) : CulpeoMessage := Endpoint.closeFrame code reason

/-- Send something on the current socket, if it is open.  The field is read again for the
send. -/
def sendIfOpen (messageType : WebSocketMessageType) (data : Bytes) : Method Unit := do
  match ← .read ws with
  | none => pure ()
  | some socket =>
      if ← .await (.socketState socket) ClientAnswer.asIsOpen then
        match ← .read ws with
        | none => throw .other
        | some current => perform (.send current messageType data)

def sendFrameAsync (frame : CulpeoMessage) : Method Unit := do
  perform .waitSendLock
  (sendIfOpen (if frame.kind = .control then .text else .binary) (serializeAsync frame)).ensuring
    (perform .releaseSendLock)

/-- A send that suppresses exceptions. -/
def trySendFrameAsync (frame : CulpeoMessage) : Method Unit := do
  let _ ← (sendFrameAsync frame).attempt

def receiveMessageAsync (socket : ℕ) : Method (WebSocketMessageType × Bytes) :=
  .await (.receiveMessage socket) ClientAnswer.asMessage

def createWebSocketAsync : Method ℕ := do
  perform .createWebSocket
  .step fun c => ({ c with ws := some c.sockets, sockets := c.sockets + 1 }, .ok c.sockets)

/-! ### Frames that are received -/

/-- Send a culpeo.close; the receive loop stops. -/
def refuse (code reason : Text) : Method Bool := do
  trySendFrameAsync (buildCloseFrame code reason)
  return true

/-- The media frame goes over the stream. -/
def trackReceived (stream : ConfirmedStream) (offset : Int64) (length : ℕ) : ConfirmedStream :=
  if stream.receiveOffset ≤ offset then
    { stream with
      receiveOffset :=
        offset + Int64.ofNat (computeOffsetIncrement stream.toClientStreamState length) }
  else stream

section Handlers

variable (env : Environment) (o : CulpeoStreamClientOptions)

def handleIncomingMediaAsync (frame : CulpeoMessage) : Method Bool := do
  let streamId := frame.streamId.getD []
  match ← .read fun c => if streamId.isEmpty then none else c.tryGetStream streamId with
  | none =>
      refuse (utf16 "protocol-error") (utf16 "Media frame references unknown stream.")
  | some (ref, stream) =>
      let contentType := frame.contentType.getD []
      if !isNullOrWhiteSpace frame.contentType &&
          !contentTypesMatch env.toRuntime stream.contentType contentType then
        refuse (utf16 "protocol-error") (utf16 "Media frame Content-Type '" ++ contentType ++
          utf16 "' does not match declared '" ++ stream.contentType ++ utf16 "'.")
      else
        let offset := frame.offset.getD 0
        .update fun c => c.modifyStream ref (trackReceived · offset frame.body.length)
        writeAsync (.mediaReceived streamId frame.body offset)
        return false

def handleCloseAsync (frame : CulpeoMessage) : Method Bool := do
  trySendFrameAsync (buildCloseFrame (frame.code.getD (utf16 "normal"))
    (frame.reason.getD (utf16 "Session closed")))
  setState .disconnected
  writeAsync (.disconnected (frame.code.getD (utf16 "normal")))
  .update ({ · with completed := true, closeProcessed := true })
  return true

/-- The nonce of an auth-refresh; none where the body is no JSON. -/
def challengeNonce (frame : CulpeoMessage) : Except Exn (Option Text) :=
  match env.parseBody frame.body with
  | .error _ => .ok none
  | .ok root => root.stringProperty (utf16 "nonce")

def authResponse (nonce token : Text) : CulpeoMessage where
  kind := .control
  body := env.serialize (.named [(utf16 "nonce", .string (some nonce))])
  event := some (utf16 "culpeo.auth-response")
  authorization := some token
  contentType := some (utf16 "application/json")

/-- A method that returns or throws at once. -/
def returned {α : Type} : Except ClientExn α → Method α
  | .ok a => pure a
  | .error e => throw e

def handleAuthRefreshAsync (frame : CulpeoMessage) : Method Bool := do
  let nonce := (← returned (json (challengeNonce env frame))).getD []
  if nonce.isEmpty then
    refuse (utf16 "protocol-error") (utf16 "culpeo.auth-refresh missing nonce.")
  else if !o.getToken then
    refuse (utf16 "auth-expired") (utf16 "No token refresh callback configured.")
  else
    match ← Async.attempt (.await .getToken ClientAnswer.asToken) with
    | .error _ => refuse (utf16 "auth-expired") (utf16 "Token refresh failed.")
    | .ok newToken =>
        if newToken.isEmpty then
          refuse (utf16 "auth-expired") (utf16 "Token refresh returned empty token.")
        else
          sendFrameAsync (authResponse env nonce newToken)
          return false

/-- The `ts` of a ping; zero where there is none. -/
def pingTs (frame : CulpeoMessage) : Except Exn Int64 :=
  match env.parseBody frame.body with
  | .error _ => .ok 0
  | .ok root => (root.int64Property (utf16 "ts")).map (·.getD 0)

def handlePingAsync (frame : CulpeoMessage) : Method Bool := do
  let ts ← returned (json (pingTs env frame))
  let now ← .await .utcNow ClientAnswer.asTime
  trySendFrameAsync (Endpoint.pongFrame env now ts)
  return false

def handleApplicationEventAsync (frame : CulpeoMessage) : Method Bool := do
  let event := frame.event.getD []
  -- Unknown events of the protocol are ignored, and a frame without an event is as well.
  if (utf16 "culpeo.").isPrefixOf event || event.isEmpty then return false
  else
    writeAsync (.applicationEventReceived event (env.parseBody frame.body).toOption)
    return false

/-- Whether the receive loop stops. -/
def dispatchFrameAsync (frame : CulpeoMessage) : Method Bool :=
  match frame.kind with
  | .media => handleIncomingMediaAsync env frame
  | .control =>
      if frame.event = some (utf16 "culpeo.close") then handleCloseAsync frame
      else if frame.event = some (utf16 "culpeo.auth-refresh") then
        handleAuthRefreshAsync env o frame
      else if frame.event = some (utf16 "culpeo.ping") then handlePingAsync env frame
      else if frame.event = some (utf16 "culpeo.pong") then pure false
      else handleApplicationEventAsync env frame

/-! ### The receive loop -/

/-- One message of the receive loop, and whether the loop stops. -/
def receiveFrameAsync (socket : ℕ) : Method Bool := do
  match ← (receiveMessageAsync socket).attempt with
  | .error .webSocket => return true
  | .error e => throw e
  | .ok (.close, _) => return true
  | .ok (messageType, messageBytes) =>
      match parseAsync {} messageBytes (if messageType = .text then .control else .media) with
      | .error (.format _) =>
          refuse (utf16 "protocol-error") (utf16 "Malformed frame.")
      | .error e => throw (.parse e)
      | .ok frame => dispatchFrameAsync env o frame

/-- `ReceiveFramesAsync`.  A loop that has used up its rounds does not go on. -/
def receiveFramesAsync : ℕ → Method Unit
  | 0 => fun _ => .ret (.ok ())
  | rounds + 1 => do
      if ← .read cancelled then return
      match ← .read ws with
      | none => throw .other
      | some socket =>
          if ← receiveFrameAsync env o socket then return
          else receiveFramesAsync rounds

/-! ### Connecting -/

def getCurrentTokenAsync : Method Text :=
  if o.getToken then .await .getToken ClientAnswer.asToken
  else pure (o.authorization.getD [])

/-- The message of the exception that an init-error becomes. -/
def initErrorMessage (response : CulpeoMessage) : Text :=
  utf16 "culpeo.init-error [" ++ response.code.getD (utf16 "server-error") ++ utf16 "]: " ++
    response.reason.getD (utf16 "(no reason)")

/-- The answer to culpeo.init. -/
def handleInitResponse (isResumption : Bool) (response : CulpeoMessage) : Method Unit :=
  if response.event = some (utf16 "culpeo.init-error") then
    throw (.invalidOperation (initErrorMessage response))
  else if response.event ≠ some (utf16 "culpeo.init-ack") then
    throw (.invalidOperation (utf16 "Unexpected event '" ++ response.event.getD [] ++
      utf16 "' during handshake."))
  else .step (processInitAck env response isResumption)

def performHandshakeAsync (socket : ℕ) (isResumption : Bool) : Method Unit := do
  let token ← getCurrentTokenAsync o
  let frame ← .read fun c => c.initFrame env o isResumption token
  perform (.send socket .text (serializeAsync frame))
  let (msgType, msgBytes) ← receiveMessageAsync socket
  if msgType ≠ .text then
    throw (.invalidOperation (utf16 "Expected text frame in response to culpeo.init."))
  else
    match parseAsync {} msgBytes .control with
    | .error e => throw (.parse e)
    | .ok response => handleInitResponse env isResumption response

/-! ### The reconnection loop -/

/-- One attempt to reconnect, up to the receive loop. -/
def reconnectAsync : Method Unit := do
  match ← .read ws with
  | none => pure ()
  | some socket => perform (.disposeSocket socket)
  let socket ← createWebSocketAsync
  let isResumption ← .read fun c => c.sessionId.isSome
  performHandshakeAsync env o socket isResumption
  setState .established
  let sessionId ← .read fun c => c.sessionId.getD []
  writeAsync (.sessionResumed sessionId)

/-- The end of `ReconnectLoopAsync`. -/
def giveUp : Method Unit := do
  setState .disconnected
  writeAsync (.disconnected (utf16 "Max reconnection attempts reached."))
  tryComplete

/-- What the loop does after the receive loop of a connection that it has made. -/
def connectionLost (again : Rest) : Rest :=
  .locked ({ · with state := .reconnecting }) fun _ => again

/-- The exceptions that a session id does not survive. -/
def ClientExn.forgets : ClientExn → Bool
  | .exn (.invalidOperation message) => (find (utf16 "invalid-session") message).isSome
  | .culpeoProtocol _ _ => true
  | _ => false

variable (rounds : ℕ)

/-- The attempts of `ReconnectLoopAsync`: how many are left, and the number of the next one. -/
def attempts : ℕ → ℕ → Rest
  | 0, _ => giveUp .ret
  | remaining + 1, attempt =>
      let again := attempts remaining (attempt + 1)
      let caught (e : ClientExn) : Rest :=
        if ClientExn.forgets e then .locked forgetSession fun _ => again
        else if e = .operationCanceled then giveUp .ret
        else again
      .critical fun c =>
        (c, if c.cancelled then giveUp .ret
          else perform (.delay attempt) fun
            | .error .operationCanceled => giveUp .ret
            | .error e => .ret (.error e)
            | .ok _ => reconnectAsync env o fun
                | .error e => caught e
                | .ok _ => receiveFramesAsync env o rounds fun
                    | .error e => caught e
                    | .ok _ => connectionLost again)

def reconnectLoopAsync : Rest :=
  .locked ({ · with state := .reconnecting }) fun _ =>
    attempts env o rounds o.maxReconnectAttempts.toInt.toNat 0

/-- The `finally` of `RunReceiveLoopAsync`. -/
def leaveReceiveLoop : Rest :=
  .critical fun c =>
    (c, if !c.cancelled && o.autoReconnect then reconnectLoopAsync env o rounds
      else (do setState .disconnected; tryComplete : Method Unit) .ret)

/-- `RunReceiveLoopAsync`, on the token of a source that must not have been disposed of. -/
def runReceiveLoop : Rest :=
  .critical fun c =>
    (c, if c.disposed then .ret (.error .objectDisposed)
      else receiveFramesAsync env o rounds fun _ => leaveReceiveLoop env o rounds)

/-! ### The public methods -/

def checkScheme (scheme : Text) : Method Unit :=
  if !o.allowInsecureConnections && equalsIgnoreCase env.toRuntime scheme (utf16 "ws") then
    throw (.invalidOperation
      (utf16 "Insecure WebSocket connections (ws://) are not allowed by default. " ++
        utf16 "Set AllowInsecureConnections = true in CulpeoStreamClientOptions to allow " ++
        utf16 "this in local development environments only."))
  else pure ()

/-- `_lifetimeCts.Token`. -/
def lifetimeToken : Method Unit :=
  .step fun c => (c, if c.disposed then .error .objectDisposed else .ok ())

/-- `ConnectAsync` inside its `try`, up to the start of the loop. -/
def connectInner (scheme : Text) : Method Unit := do
  checkScheme env o scheme
  setState .connecting
  lifetimeToken
  let socket ← createWebSocketAsync
  performHandshakeAsync env o socket false
  setState .established
  let sessionId ← .read fun c => c.sessionId.getD []
  writeAsync (.sessionEstablished sessionId)

/-- `ConnectAsync`, which another call may follow when it fails. -/
def connectAsync (scheme : Text) (c : CulpeoStreamClient) : CulpeoStreamClient × Rest :=
  if c.connectState then
    (c, .ret (.error (.invalidOperation (utf16 "ConnectAsync has already been called."))))
  else
    ({ c with connectState := true }, connectInner env o scheme fun
      | .error e => .locked ({ · with connectState := false }) fun _ => .ret (.error e)
      | .ok _ => .locked ({ · with loopStarted := true }) fun _ => runReceiveLoop env o rounds)

/-- `_lifetimeCts.Cancel`. -/
def cancel : Method Unit :=
  .step fun c =>
    if c.disposed then (c, .error .objectDisposed) else ({ c with cancelled := true }, .ok ())

/-- Wait for the loop task, if there is one. -/
def awaitLoop : Method Unit := do
  if ← .read loopStarted then
    let _ ← (perform .awaitLoop).attempt

end Handlers

def disconnectAsync (c : CulpeoStreamClient) : CulpeoStreamClient × Rest :=
  (c, if c.state = .disconnected then .ret (.ok ())
    else (do
      match ← .read ws with
      | none => pure ()
      | some socket =>
          if ← .await (.socketState socket) ClientAnswer.asIsOpen then
            trySendFrameAsync (buildCloseFrame (utf16 "normal") (utf16 "Client disconnecting."))
      cancel
      setState .disconnected
      awaitLoop : Method Unit) .ret)

def disposeAsync (c : CulpeoStreamClient) : CulpeoStreamClient × Rest :=
  (c, (do
    cancel
    awaitLoop
    match ← .read ws with
    | none => pure ()
    | some socket => perform (.disposeSocket socket)
    .update ({ · with disposed := true })
    tryComplete : Method Unit) .ret)

/-- The frame of `SendMediaAsync`. -/
def mediaFrame (stream : ConfirmedStream) (streamId : Text) (data : Bytes) : CulpeoMessage where
  kind := .media
  body := data
  contentType := some stream.contentType
  streamId := some streamId
  offset := some stream.sendOffset

/-- `stream.SendOffset` after a frame with the offset that was read before it. -/
def advanceSent (offset : Int64) (length : ℕ) (stream : ConfirmedStream) : ConfirmedStream :=
  { stream with
    sendOffset := offset + Int64.ofNat (computeOffsetIncrement stream.toClientStreamState length) }

def sendMediaAsync (streamId : Text) (data : Bytes) (c : CulpeoStreamClient) :
    CulpeoStreamClient × Rest :=
  (c, if c.state ≠ .established then
      .ret (.error (.invalidOperation (utf16 "Cannot send media in state " ++ c.state.name ++
        utf16 ".")))
    else (do
      match ← .read (tryGetStream · streamId) with
      | none => throw (.keyNotFound (utf16 "Stream '" ++ streamId ++ utf16 "' is not registered."))
      | some (ref, stream) =>
          if stream.type = .output then
            throw (.invalidOperation (utf16 "Stream '" ++ streamId ++
              utf16 "' is an output stream; client cannot send media on it."))
          else
            perform .waitSendLock
            (do
              let stream ← .read fun c => (c.streamObjects[ref]?).getD stream
              sendIfOpen .binary (serializeAsync (mediaFrame stream streamId data))
              .update (modifyStream · ref (advanceSent stream.sendOffset data.length)) :
              Method Unit).ensuring (perform .releaseSendLock) : Method Unit) .ret)

/-- The frame of `SendEventAsync`. -/
def eventFrame (eventName jsonBody : Text) : CulpeoMessage where
  kind := .control
  body := if jsonBody.isEmpty then ascii "\x7b\x7d" else Utf8.encode jsonBody
  event := some eventName
  contentType := some (utf16 "application/json")

def sendEventAsync (eventName jsonBody : Text) (c : CulpeoStreamClient) :
    CulpeoStreamClient × Rest :=
  (c, if c.state ≠ .established then
      .ret (.error (.invalidOperation (utf16 "Cannot send event in state " ++ c.state.name ++
        utf16 ".")))
    else if eventName.isEmpty then
      .ret (.error (.argument (utf16 "Event name must not be null or empty.")))
    else if (utf16 "culpeo.").isPrefixOf eventName then
      .ret (.error (.argument
        (utf16 "Application events must not use the reserved 'culpeo.' namespace.")))
    else sendFrameAsync (eventFrame eventName jsonBody) .ret)

inductive ClientCall where
  | connect (scheme : Text)
  | disconnect
  | dispose
  | sendMedia (streamId : Text) (data : Bytes)
  | sendEvent (eventName jsonBody : Text)

/-- The start of a call. -/
def enter (env : Environment) (o : CulpeoStreamClientOptions) (rounds : ℕ) :
    ClientCall → CulpeoStreamClient → CulpeoStreamClient × Rest
  | .connect scheme => connectAsync env o rounds scheme
  | .disconnect => disconnectAsync
  | .dispose => disposeAsync
  | .sendMedia streamId data => sendMediaAsync streamId data
  | .sendEvent eventName jsonBody => sendEventAsync eventName jsonBody

end CulpeoStreamClient

end CulpeoStream.Dotnet
