import CulpeoStream.Lib.Resumption
import CulpeoStream.Message.Chars
import CulpeoStream.Typescript.Streams

/-!
# `session.ts`

`CulpeoClientSession` and `CulpeoServerSession`.  An asynchronous method is a `Prog`: its
stretches between two `await`s are critical sections, since nothing else runs then, and
its external actions are the frames it dispatches, the callbacks it calls and the
promises it waits for.  The answer to an action that is waited for is none when the
promise is rejected.

`Session` has the fields of both classes.  A message is one of the variants of
`CulpeoMessage`; headers whose value is fixed by the type are left out.
-/

namespace CulpeoStream.Typescript

open Message Utf16 Resumption

/-! ### Messages -/

structure InitHeaders where
  authorization : Text
  bufferWindow : Option ℤ := none
  sessionId : Option Text := none
  deriving DecidableEq

structure InitBody where
  version : Text
  streams : List ResumeStreamDeclaration
  deriving DecidableEq

structure InitAckHeaders where
  sessionId : Text
  bufferWindow : Option ℤ := none
  deriving DecidableEq

structure InitAckBody where
  version : Text
  streams : List ConfirmedStreamDeclaration
  deriving DecidableEq

/-- An init-error; the body is empty or lists the supported versions. -/
structure InitErrorFrame where
  code : Code
  reason : Text
  supportedVersions : Option (List Text) := none
  deriving DecidableEq

structure MediaHeaders where
  streamId : Text
  offset : ℤ
  contentType : Text
  timestamp : Option ℤ := none
  deriving DecidableEq

/-- An application event, with the text of its JSON body. -/
structure ApplicationEvent where
  event : Text
  streamId : Option Text := none
  body : Text
  deriving DecidableEq

inductive CulpeoMessage where
  | media (headers : MediaHeaders) (body : Bytes)
  | init (headers : InitHeaders) (body : InitBody)
  | initAck (headers : InitAckHeaders) (body : InitAckBody)
  | initError (frame : InitErrorFrame)
  | ping (ts : ℤ)
  | pong (ts serverTs : ℤ)
  | authRefresh (nonce : Text)
  | authResponse (authorization nonce : Text)
  | close (code : Code) (reason : Text)
  | application (event : ApplicationEvent)
  deriving DecidableEq

inductive SessionState where
  | uninitialized
  | initializing
  | established
  | closed
  deriving DecidableEq, Repr

/-! ### Sessions -/

/-- The mutable fields of a session. -/
structure Session where
  registry : StreamRegistry
  stateValue : SessionState := .uninitialized
  sessionIdValue : Option Text := none
  bufferWindowValue : ℤ := 0
  versionValue : Text := utf16 "0.3"
  closeSent : Bool := false
  pendingPings : List (ℤ × ℤ) := []
  /-- Client: the last init-error, and the versions it listed. -/
  lastInitError : Option InitErrorFrame := none
  supportedVersionsFromError : Option (List Text) := none
  /-- Server: how many ids `generateId` has been asked for. -/
  generated : ℕ := 0
  receivedPingTimestampsMs : List ℤ := []
  pendingAuthNonce : Option Text := none
  authChallengeIssuedAt : Option ℤ := none

/-- The callbacks that are set. -/
structure Callbacks where
  onRtt : Bool := false
  onNotification : Bool := false
  refreshAuthToken : Bool := false

structure ServerSessionOptions where
  supportedVersions : List Text := [utf16 "0.3"]
  /-- The ids that `generateId` returns, one after the other. -/
  generateId : ℕ → Text
  resumeSnapshot : Option SessionSnapshot := none
  disconnectedAtMs : Option ℤ := none
  maxBufferWindowMs : ℤ := 30000
  authChallengeTimeoutMs : ℤ := 30000

/-- `new CulpeoClientSession`, which checks its streams. -/
def Session.createClient (streams : List ResumeStreamDeclaration) (version : Text) :
    Except CulpeoError Session := do
  validateStreamDeclarations (streams.map ResumeStreamDeclaration.toStreamDeclaration)
    maxStreamCount
  return {
    registry := { localRole := .client, plannedStreams := streams }
    versionValue := version }

/-- `new CulpeoServerSession`. -/
def Session.createServer : Session where
  registry := { localRole := .server }

inductive Notification where
  | initAck (headers : InitAckHeaders) (body : InitAckBody)
  | initError (frame : InitErrorFrame)
  | media (headers : MediaHeaders) (body : Bytes)
  | application (event : ApplicationEvent)
  | close (code : Code) (reason : Text)
  deriving DecidableEq

/-- What a session does to the outside.  `turn` is an `await` for nothing. -/
inductive Output where
  | send (frame : CulpeoMessage)
  | notify (notification : Notification)
  | onRtt (ts serverTs rttMicros : ℤ)
  | refreshAuthToken
  | turn
  deriving DecidableEq

/-- How a call can fail: with an error of its own, or with a rejected promise. -/
inductive Failure where
  | error (e : CulpeoError)
  | rejected
  deriving DecidableEq, Repr

abbrev Result := Except Failure Unit

abbrev Rest := Prog Session Output (Option Text) Result

/-- The end of a call. -/
def done : Rest := .ret (.ok ())

def fail (e : CulpeoError) : Rest := .ret (.error (.error e))

/-- `await this.dispatch(frame)`. -/
def dispatch (frame : CulpeoMessage) (next : Rest) : Rest :=
  .call (.send frame) fun
    | some _ => next
    | none => .ret (.error .rejected)

def notify (callbacks : Callbacks) (notification : Notification) (next : Rest) : Rest :=
  if callbacks.onNotification then .call (.notify notification) fun _ => next else next

/-- A notification that is the last thing that a call does. -/
theorem exec_notify_done (callbacks : Callbacks) (notification : Notification)
    (answers : ℕ → Option Text) (s : Session) :
    ((notify callbacks notification done).exec answers s).state = s := by
  unfold notify
  split
  · rfl
  · rfl

/-! ### Methods of both sessions -/

def close (code : Code) (reason : Text) (next : Rest) : Rest :=
  .critical fun s =>
    if s.stateValue = .closed then (s, next)
    else if s.closeSent then ({ s with stateValue := .closed }, next)
    else
      ({ s with stateValue := .closed, closeSent := true }, dispatch (.close code reason) next)

def failWithClose (code : Code) (reason : Text) : Rest :=
  close code reason (fail ⟨code, reason⟩)

def createSnapshot (now : ℤ) (s : Session) : Except CulpeoError SessionSnapshot :=
  match s.sessionIdValue with
  | none => .error (protocolError
      (utf16 "Cannot snapshot a session before it has a session identifier."))
  | some sessionId => do
      let snapshot ← s.registry.snapshot sessionId s.versionValue s.bufferWindowValue
      return { snapshot with disconnectedAtMs := some (now.tdiv 1000) }

def sendMedia (rt : Runtime) (streamId : Text) (body : Bytes) (timestamp : Option ℤ) : Rest :=
  .critical fun s =>
    if s.stateValue ≠ .established then
      (s, fail (protocolError (utf16 "The session is not established.")))
    else
      let tracked := s.registry.trackSend rt streamId body.length
      ({ s with registry := tracked.1 },
        match tracked.2 with
        | .error e => fail e
        | .ok (contentType, offset) =>
            dispatch (.media { streamId, offset, contentType, timestamp } body) done)

def handleMedia (rt : Runtime) (callbacks : Callbacks) (headers : MediaHeaders) (body : Bytes)
    (s : Session) : Session × Rest :=
  match s.registry.trackReceive rt headers.streamId headers.offset headers.contentType
      body.length with
  | .error e => (s, fail e)
  | .ok registry => ({ s with registry }, notify callbacks (.media headers body) done)

def handlePing (now ts : ℤ) : Rest := dispatch (.pong ts now) done

def handlePong (callbacks : Callbacks) (now ts serverTs : ℤ) (s : Session) : Session × Rest :=
  match s.pendingPings.lookup ts with
  | none => (s, done)
  | some startedAt =>
      ({ s with pendingPings := s.pendingPings.filter fun entry => entry.1 ≠ ts },
        if callbacks.onRtt then .call (.onRtt ts serverTs (now - startedAt)) fun _ => done
        else done)

def handleClose (callbacks : Callbacks) (code : Code) (reason : Text) : Rest :=
  notify callbacks (.close code reason) <| .critical fun s =>
    if s.closeSent then ({ s with stateValue := .closed }, done)
    else
      ({ s with closeSent := true },
        dispatch (.close code reason) <|
          .critical fun s => ({ s with stateValue := .closed }, done))

def handleApplication (callbacks : Callbacks) (event : ApplicationEvent) (s : Session) :
    Session × Rest :=
  if event.streamId.any fun streamId => !s.registry.has streamId then
    (s, fail (protocolError (utf16 "Unknown stream identifier.")))
  else if (utf16 "culpeo.").isPrefixOf event.event then (s, done)
  else (s, notify callbacks (.application event) done)

/-- The frame is not allowed in an established session. -/
def invalidInState : Rest :=
  failWithClose .protocolError (utf16 "Received a frame that is invalid in the current state.")

/-! ### The client -/

structure StartOptions where
  authorization : Text
  bufferWindowMs : ℤ
  resumeFrom : Option SessionSnapshot := none

def start (options : StartOptions) : Rest :=
  .critical fun s =>
    if s.stateValue ≠ .uninitialized then
      (s, fail (protocolError (utf16 "Session start may only be called once.")))
    else
      ({ s with
          bufferWindowValue := options.bufferWindowMs
          sessionIdValue := options.resumeFrom.map SessionSnapshot.sessionId
          stateValue := .initializing },
        dispatch
          (.init
            { authorization := options.authorization
              bufferWindow := some options.bufferWindowMs
              sessionId := options.resumeFrom.map SessionSnapshot.sessionId }
            { version := s.versionValue
              streams := s.registry.buildInitStreams options.resumeFrom })
          done)

def handleInitAck (callbacks : Callbacks) (headers : InitAckHeaders) (body : InitAckBody)
    (s : Session) : Session × Rest :=
  match s.registry.confirmFromAck body.streams with
  | .error e => (s, fail e)
  | .ok registry =>
      ({ s with
          registry
          sessionIdValue := some headers.sessionId
          bufferWindowValue := headers.bufferWindow.getD s.bufferWindowValue
          versionValue := body.version
          stateValue := .established },
        notify callbacks (.initAck headers body) done)

def handleInitError (callbacks : Callbacks) (frame : InitErrorFrame) (s : Session) :
    Session × Rest :=
  ({ s with
      lastInitError := some frame
      supportedVersionsFromError := frame.supportedVersions
      stateValue := .closed },
    notify callbacks (.initError frame) done)

def handleAuthRefresh (callbacks : Callbacks) (nonce : Text) : Rest :=
  if !callbacks.refreshAuthToken then
    failWithClose .authExpired (utf16 "Credential refresh failed.")
  else
    .call .refreshAuthToken fun
      | none => failWithClose .authExpired (utf16 "Credential refresh failed.")
      | some token => dispatch (.authResponse (utf16 "Bearer " ++ token) nonce) done

/-- A frame that reaches a client whose session is established. -/
def clientEstablished (rt : Runtime) (callbacks : Callbacks) (now : ℤ) (frame : CulpeoMessage)
    (s : Session) : Session × Rest :=
  match frame with
  | .media headers body => handleMedia rt callbacks headers body s
  | .ping ts => (s, handlePing now ts)
  | .pong ts serverTs => handlePong callbacks now ts serverTs s
  | .authRefresh nonce => (s, handleAuthRefresh callbacks nonce)
  | .close code reason => (s, handleClose callbacks code reason)
  | .init _ _ | .initAck _ _ | .initError _ | .authResponse _ _ => (s, invalidInState)
  | .application event => handleApplication callbacks event s

/-- A frame that reaches a client. -/
def clientFrame (rt : Runtime) (callbacks : Callbacks) (now : ℤ) (frame : CulpeoMessage)
    (s : Session) : Session × Rest :=
  match s.stateValue, frame with
  | .closed, _ => (s, fail (protocolError (utf16 "Closed sessions cannot receive more frames.")))
  | .initializing, .initAck headers body => handleInitAck callbacks headers body s
  | .initializing, .initError frame => handleInitError callbacks frame s
  | .initializing, _ =>
      (s, failWithClose .protocolError (utf16 "Expected culpeo.init-ack or culpeo.init-error."))
  | .uninitialized, _ =>
      (s, failWithClose .protocolError (utf16 "Client session is not ready for frames."))
  | .established, frame => clientEstablished rt callbacks now frame s

/-- `CulpeoClientSession.receive`. -/
def clientReceive (rt : Runtime) (callbacks : Callbacks) (now : ℤ) (frame : CulpeoMessage) :
    Rest :=
  .critical (clientFrame rt callbacks now frame)

/-! ### The server -/

/-- A fresh id for every requested stream, from the `k`-th one on. -/
def nameStreams (generateId : ℕ → Text) :
    ℕ → List ResumeStreamDeclaration → List ConfirmedStreamDeclaration
  | _, [] => []
  | k, stream :: rest =>
      { stream.toStreamDeclaration with id := generateId k } :: nameStreams generateId (k + 1) rest

def declarationsDiffer : CulpeoError :=
  invalidStreams (utf16 "Resumption stream declarations do not match the existing session.")

/-- The loop of `buildServerConfirmedStreams`: every requested stream takes the first
remaining one of the session with the same declaration.  The streams that remain at the
end are returned as well. -/
def resumeStreams :
    List ConfirmedStreamDeclaration → List ResumeStreamDeclaration →
      Except CulpeoError (List ConfirmedStreamDeclaration × List ConfirmedStreamDeclaration)
  | remaining, [] => .ok ([], remaining)
  | remaining, stream :: rest =>
      match remaining.findIdx? fun candidate =>
          candidate.toStreamDeclaration = stream.toStreamDeclaration with
      | none => .error declarationsDiffer
      | some index =>
          match remaining[index]? with
          | none => .error declarationsDiffer
          | some matched =>
              let currentOffset := matched.resumeOffset.getD 0
              let requestedOffset := stream.resumeOffset.getD currentOffset
              if currentOffset < requestedOffset then .error declarationsDiffer
              else
                (resumeStreams (remaining.eraseIdx index) rest).map fun resumed =>
                  ({ matched with resumeOffset := some requestedOffset } :: resumed.1, resumed.2)

def buildServerConfirmedStreams (requestedStreams : List ResumeStreamDeclaration)
    (generateId : ℕ → Text) (k : ℕ) (resumeSnapshot : Option SessionSnapshot) :
    Except CulpeoError (List ConfirmedStreamDeclaration) :=
  match resumeSnapshot with
  | none => .ok (nameStreams generateId k requestedStreams)
  | some snapshot =>
      if requestedStreams.length ≠ snapshot.streams.length then .error declarationsDiffer
      else
        match resumeStreams snapshot.streams requestedStreams with
        | .error e => .error e
        | .ok (confirmed, remaining) =>
            if remaining.isEmpty then .ok confirmed else .error declarationsDiffer

def sendInitErrorAndClose (callbacks : Callbacks) (frame : InitErrorFrame) : Rest :=
  notify callbacks (.initError frame) <| dispatch (.initError frame) <|
    .critical fun s => ({ s with stateValue := .closed }, done)

/-- The checks on the `Session-Id` of an init that asks for resumption. -/
def mayResume (options : ServerSessionOptions) (now : ℤ) (sessionId : Text) : Bool :=
  match options.resumeSnapshot with
  | none => false
  | some snapshot =>
      snapshot.sessionId == sessionId &&
        match options.disconnectedAtMs <|> snapshot.disconnectedAtMs with
        | none => true
        | some disconnectedAtMs =>
            !(snapshot.bufferWindowMs == 0 ||
              disconnectedAtMs + snapshot.bufferWindowMs < now.tdiv 1000)

/-- The checks on an init before its streams are confirmed. -/
def checkInit (options : ServerSessionOptions) (now : ℤ) (headers : InitHeaders)
    (body : InitBody) : Except InitErrorFrame Unit :=
  if (trim headers.authorization).isEmpty then
    .error { code := .unauthorized, reason := utf16 "Authorization is required." }
  else
    match validateStreamDeclarations
        (body.streams.map ResumeStreamDeclaration.toStreamDeclaration) maxStreamCount with
    | .error e => .error { code := e.code, reason := e.message }
    | .ok () =>
        if !options.supportedVersions.contains body.version then
          .error
            { code := .unsupportedVersion, reason := utf16 "Protocol version not supported."
              supportedVersions := some options.supportedVersions }
        else if headers.sessionId.any fun sessionId => !mayResume options now sessionId then
          .error { code := .invalidSession, reason := utf16 "Session cannot be resumed." }
        else .ok ()

/-- The window that the server grants. -/
def grantBufferWindow (options : ServerSessionOptions) (requested : Option ℤ) : ℤ :=
  if requested.getD 0 = 0 then 0
  else min (requested.getD 0) (max 0 options.maxBufferWindowMs)

/-- Acknowledge an init with these streams. -/
def acceptInit (options : ServerSessionOptions) (callbacks : Callbacks) (headers : InitHeaders)
    (body : InitBody) (sessionId : Text) (streams : List ConfirmedStreamDeclaration)
    (s : Session) : Session × Rest :=
  match s.registry.confirmForServer streams with
  | .error e => (s, fail e)
  | .ok registry =>
      let bufferWindow := grantBufferWindow options headers.bufferWindow
      let ackHeaders : InitAckHeaders := { sessionId, bufferWindow := some bufferWindow }
      let ackBody : InitAckBody := { version := body.version, streams }
      ({ s with
          registry
          sessionIdValue := some sessionId
          bufferWindowValue := bufferWindow
          versionValue := body.version },
        dispatch (.initAck ackHeaders ackBody) <| .critical fun s =>
          ({ s with stateValue := .established },
            notify callbacks (.initAck ackHeaders ackBody) done))

def handleInit (options : ServerSessionOptions) (callbacks : Callbacks) (now : ℤ)
    (headers : InitHeaders) (body : InitBody) (s : Session) : Session × Rest :=
  match checkInit options now headers body with
  | .error frame =>
      ({ s with stateValue := .initializing }, sendInitErrorAndClose callbacks frame)
  | .ok () =>
      -- A resumption keeps its id; a fresh session draws one before its streams do.
      let sessionId := headers.sessionId.getD (options.generateId s.generated)
      let k := if headers.sessionId.isSome then s.generated else s.generated + 1
      match buildServerConfirmedStreams body.streams options.generateId k
          options.resumeSnapshot with
      | .error e =>
          ({ s with stateValue := .initializing, generated := k },
            sendInitErrorAndClose callbacks { code := e.code, reason := e.message })
      | .ok streams =>
          let drawn := if options.resumeSnapshot.isSome then k else k + streams.length
          acceptInit options callbacks headers body sessionId streams
            { s with stateValue := .initializing, generated := drawn }

/-- Pings beyond five within a second are dropped. -/
def handleIncomingPing (now ts : ℤ) (s : Session) : Session × Rest :=
  let nowMs := now.tdiv 1000
  let recent := s.receivedPingTimestampsMs.dropWhile fun t => 1000 ≤ nowMs - t
  if 5 ≤ recent.length then ({ s with receivedPingTimestampsMs := recent }, done)
  else ({ s with receivedPingTimestampsMs := recent ++ [nowMs] }, handlePing now ts)

def handleAuthResponse (authorization nonce : Text) (s : Session) : Session × Rest :=
  if s.pendingAuthNonce = some nonce ∧ !(trim authorization).isEmpty then
    ({ s with pendingAuthNonce := none, authChallengeIssuedAt := none }, done)
  else (s, failWithClose .unauthorized (utf16 "Authentication challenge failed."))

def checkTimeouts (options : ServerSessionOptions) (now : ℤ) (next : Rest) : Rest :=
  .critical fun s =>
    match s.pendingAuthNonce, s.authChallengeIssuedAt with
    | some _, some issuedAt =>
        if max 1 options.authChallengeTimeoutMs * 1000 < now - issuedAt then
          (s, failWithClose .authExpired (utf16 "Authentication challenge timed out."))
        else (s, next)
    | _, _ => (s, next)

/-- A frame that reaches a server whose session is established. -/
def serverEstablished (rt : Runtime) (callbacks : Callbacks) (now : ℤ) (frame : CulpeoMessage)
    (s : Session) : Session × Rest :=
  match frame with
  | .media headers body => handleMedia rt callbacks headers body s
  | .ping ts => handleIncomingPing now ts s
  | .pong ts serverTs => handlePong callbacks now ts serverTs s
  | .authResponse authorization nonce => handleAuthResponse authorization nonce s
  | .close code reason => (s, handleClose callbacks code reason)
  | .init _ _ | .initAck _ _ | .initError _ | .authRefresh _ => (s, invalidInState)
  | .application event => handleApplication callbacks event s

/-- A frame that reaches a server. -/
def serverFrame (rt : Runtime) (options : ServerSessionOptions) (callbacks : Callbacks)
    (now : ℤ) (frame : CulpeoMessage) (s : Session) : Session × Rest :=
  match s.stateValue, frame with
  | .closed, _ => (s, fail (protocolError (utf16 "Closed sessions cannot receive more frames.")))
  | .uninitialized, .init headers body => handleInit options callbacks now headers body s
  | .uninitialized, _ =>
      (s, failWithClose .protocolError (utf16 "The first frame must be culpeo.init."))
  | .initializing, _ =>
      (s, failWithClose .protocolError (utf16 "Server session is not ready for frames."))
  | .established, frame => serverEstablished rt callbacks now frame s

/-- `CulpeoServerSession.receive`. -/
def serverReceive (rt : Runtime) (options : ServerSessionOptions) (callbacks : Callbacks)
    (now : ℤ) (frame : CulpeoMessage) : Rest :=
  checkTimeouts options now <| .call .turn fun _ =>
    .critical (serverFrame rt options callbacks now frame)

end CulpeoStream.Typescript
