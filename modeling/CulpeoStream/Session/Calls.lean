import CulpeoStream.Session.Init

/-!
# The public calls of a session

The remaining handlers of `session.cpp`, the dispatch of `process_control_frame`,
and `process_media_frame`, `send_media`, `send_auth_refresh`, `send_ping` and
`close`.

A handler is a function `Impl → Impl × Rest`: its first critical section, and what
the call does after it.  `enter` starts a public call, so that `Resumption.run`
interleaves any number of them, and `perform` runs one call to its end.
-/

namespace CulpeoStream.Session

open Message Resumption

/-! ### Control events -/

def pongHeaders : List HeaderField :=
  [field .event (ascii "culpeo.pong"), field .contentType (ascii "application/json")]

/-- The rate limit of `handle_ping`: the window and its count, and whether this ping
is within the limit. -/
def countPing (config : SessionConfig) (now : ℤ) (s : Impl) : Impl × Bool :=
  if 1000 ≤ elapsedMs now s.pingWindowStart then
    ({ s with pingWindowStart := now, pingsInWindow := 1 }, true)
  else
    ({ s with pingsInWindow := s.pingsInWindow + 1 },
      decide (s.pingsInWindow + 1 ≤ config.maxPingRatePerSecond))

def handlePing (setup : Setup) (amb : Ambient) (f : ParsedHeadersView) (s : Impl) :
    Impl × Rest :=
  if s.state ≠ .established then (s, .ret (.error .wrongState))
  else if !(countPing setup.config amb.steadyNow s).2 then
    ((countPing setup.config amb.steadyNow s).1, .ret (.error .pingRateExceeded))
  else
    -- A malformed body is answered as if its `ts` were zero.
    let ts := (((setup.json.parse f.body).bind (·.at? (ascii "ts"))).bind Json.getInt64).getD 0
    ((countPing setup.config amb.steadyNow s).1,
      reply pongHeaders (buildPongBody ts.toInt amb.nowUs))

/-- Forget the outstanding ping. -/
def resetPing (s : Impl) : Impl :=
  { s with pendingPingNonce := none, pendingPingSendTs := none }

def handlePong (setup : Setup) (amb : Ambient) (f : ParsedHeadersView) (s : Impl) :
    Impl × Rest :=
  if s.state ≠ .established then (s, .ret (.error .wrongState))
  else
    match s.pendingPingNonce with
    | none => (s, .ret (.ok ()))
    | some nonce =>
        match ((setup.json.parse f.body).bind (·.at? (ascii "nonce"))).bind Json.getUint64 with
        | none => (resetPing s, .ret (.ok ()))
        | some echoed =>
            if echoed = nonce ∧ setup.callbacks.onRtt then
              (resetPing s,
                .call (.onRtt (amb.nowUs - s.pendingPingSendTs.getD amb.nowUs)) fun _ =>
                  .ret (.ok ()))
            else (resetPing s, .ret (.ok ()))

/-- The critical section after `on_auth_response` has rejected the new token. -/
def afterAuthRejected (s : Impl) : Impl × Rest :=
  if s.state = .closed then (s, .ret (.error .authFailed))
  else (transitionToClosed s,
    abort (ascii "auth-expired") (ascii "New credentials rejected") .authFailed)

def handleAuthResponse (setup : Setup) (amb : Ambient) (f : ParsedHeadersView) (s : Impl) :
    Impl × Rest :=
  if s.state ≠ .established then (s, .ret (.error .wrongState))
  else if !s.authMgr.pending then
    (s, closeAfterSend (ascii "protocol-error") (ascii "Unexpected culpeo.auth-response")
      .protocolError)
  else
    match ((setup.json.parse f.body).bind (·.at? (ascii "nonce"))).bind Json.getString with
    | none =>
        ({ s with authMgr := s.authMgr.clear },
          closeAfterSend (ascii "unauthorized") (ascii "Invalid auth-response body") .jsonError)
    | some echoed =>
        match s.authMgr.validateAndConsume amb.steadyNow echoed
            setup.config.authRefreshTimeoutS with
        | (.error e, authMgr) =>
            ({ s with authMgr },
              closeAfterSend (ascii "auth-expired")
                (if e = .nonceExpired then ascii "Auth-refresh nonce expired"
                  else ascii "Nonce mismatch") e)
        | (.ok (), authMgr) =>
            if setup.callbacks.onAuthResponse then
              ({ s with authMgr },
                .call (.onAuthResponse (bearerToken f.authorization)) fun tokenOk =>
                  if tokenOk then .ret (.ok ()) else .critical afterAuthRejected)
            else ({ s with authMgr }, .ret (.ok ()))

def handleClose (setup : Setup) (f : ParsedHeadersView) (s : Impl) : Impl × Rest :=
  if s.state = .closed then (s, .ret (.ok ()))
  else
    (transitionToClosed s,
      farewell setup.callbacks (f.code.getD (ascii "normal"))
        (f.reason.getD (ascii "Connection closed")))

/-! ### `process_control_frame` -/

def missingEvent (s : Impl) : Impl × Rest :=
  match s.state with
  | .established =>
      (transitionToClosed s,
        abort (ascii "protocol-error") (ascii "Control frame missing Event header")
          .protocolError)
  | .uninitialized | .initializing =>
      ({ s with state := .initializing }, rejectInit
        { code := ascii "protocol-error", reason := ascii "Control frame missing Event header"
          error := .protocolError })
  | .closed => (s, .ret (.error .protocolError))

def invalidEventName (s : Impl) : Impl × Rest :=
  if s.state = .established then
    (transitionToClosed s,
      abort (ascii "protocol-error") (ascii "Invalid event name syntax") .invalidEventName)
  else
    (transitionToClosed s,
      sendInitErrorAndClose (ascii "protocol-error") (ascii "Invalid event name syntax")
        emptyObject <| .ret (.error .invalidEventName))

/-- The dispatch on a well-formed event name. -/
def dispatch (setup : Setup) (amb : Ambient) (f : ParsedHeadersView) (event : Bytes)
    (s : Impl) : Impl × Rest :=
  if s.state = .uninitialized ∧ event ≠ ascii "culpeo.init" then
    ({ s with state := .initializing }, rejectInit
      { code := ascii "protocol-error", reason := ascii "Expected culpeo.init as first frame"
        error := .protocolError })
  else if event = ascii "culpeo.init" then handleInit setup amb f s
  else if event = ascii "culpeo.ping" then handlePing setup amb f s
  else if event = ascii "culpeo.pong" then handlePong setup amb f s
  else if event = ascii "culpeo.auth-response" then handleAuthResponse setup amb f s
  else if event = ascii "culpeo.close" then handleClose setup f s
  -- Application events and future protocol events are ignored.
  else (s, .ret (.ok ()))

def processControlFrame (setup : Setup) (amb : Ambient) (f : ParsedHeadersView) (s : Impl) :
    Impl × Rest :=
  if f.frameType ≠ .control then (s, .ret (.error .protocolError))
  else
    match f.event with
    | none => missingEvent s
    | some event =>
        if !isValidEventName event then invalidEventName s else dispatch setup amb f event s

/-! ### `process_media_frame` -/

/-- The reason text and the error of a media frame that closes the session. -/
structure MediaFault where
  reason : Bytes
  error : Error
  deriving DecidableEq

/-- The error of a check on a media frame, with the text sent to the peer. -/
def faulty {α : Type} (reason : Bytes) : Except Error α → Except MediaFault α
  | .ok a => .ok a
  | .error e => .error ⟨reason, e⟩

/-- A header that a media frame must carry. -/
def required (reason : Bytes) : Option Bytes → Except MediaFault Bytes
  | some value => .ok value
  | none => .error ⟨reason, .protocolError⟩

def checkContentType (stream : StreamInfo) (contentType : Bytes) : Except MediaFault Unit :=
  if contentTypeMatches stream.contentType contentType then .ok ()
  else .error ⟨ascii "Content-Type mismatch", .contentTypeMismatch⟩

/-- The optional `Timestamp` header, zero when it is absent. -/
def parseTimestamp (header : Option Bytes) : Except MediaFault UInt64 :=
  match header with
  | none => .ok 0
  | some text => faulty (ascii "Invalid Timestamp header") (parseUint64 text)

/-- The checks on a media frame of an established session, in the order of the
source: the stream after the advance, and the timestamp. -/
def acceptMedia (registry : StreamRegistry) (f : ParsedHeadersView) :
    Except MediaFault (StreamInfo × UInt64) := do
  let streamId ← required (ascii "Media frame missing Stream-Id") f.streamId
  let stream ← faulty (ascii "Invalid stream direction") (registry.validateClientSend streamId)
  let offset ← required (ascii "Media frame missing Offset") f.offset
  let offsetParsed ← faulty (ascii "Invalid Offset header") (parseUint64 offset)
  faulty (ascii "Offset mismatch") (checkOffset stream offsetParsed)
  let contentType ← required (ascii "Media frame missing Content-Type") f.contentType
  checkContentType stream contentType
  let timestampUs ← parseTimestamp f.timestamp
  let advanced ← faulty (ascii "Offset overflow") (advanceOffset stream f.body.length.toUInt64)
  return (advanced, timestampUs)

def processMediaFrame (setup : Setup) (f : ParsedHeadersView) (s : Impl) : Impl × Rest :=
  if f.frameType ≠ .media then (s, .ret (.error .protocolError))
  else if s.state = .uninitialized then
    ({ s with state := .initializing }, rejectInit
      { code := ascii "protocol-error", reason := ascii "Media frame before culpeo.init"
        error := .wrongState })
  else if s.state ≠ .established then (s, .ret (.error .wrongState))
  else
    match acceptMedia s.registry f with
    | .error fault =>
        (transitionToClosed s, abort (ascii "protocol-error") fault.reason fault.error)
    | .ok (stream, timestampUs) =>
        ({ s with registry := s.registry.update stream },
          if setup.callbacks.onMediaReceived then
            .call (.onMediaReceived stream timestampUs f.body) fun _ => .ret (.ok ())
          else .ret (.ok ()))

/-! ### Server-initiated calls -/

/-- The headers of an outgoing media frame on a stream at its current offset. -/
def mediaHeaders (streamId : Bytes) (stream : StreamInfo) (timestampUs : UInt64) :
    List HeaderField :=
  [field .streamId streamId, field .offset (decimal stream.offset.toNat),
    field .contentType stream.contentType, field .timestamp (decimal timestampUs.toNat)]

def sendMedia (streamId payload : Bytes) (timestampUs : UInt64) (s : Impl) : Impl × Rest :=
  if s.state ≠ .established then (s, .ret (.error .wrongState))
  else
    match s.registry.validateServerSend streamId with
    | .error e => (s, .ret (.error e))
    | .ok stream =>
        match advanceOffset stream payload.length.toUInt64 with
        | .error e => (s, .ret (.error e))
        | .ok advanced =>
            ({ s with registry := s.registry.update advanced },
              handOver (mediaHeaders streamId stream timestampUs) payload)

def sendAuthRefresh (setup : Setup) (amb : Ambient) (s : Impl) : Impl × Rest :=
  if s.state ≠ .established then (s, .ret (.error .wrongState))
  else
    match s.authMgr.generate amb setup.config.minAuthRefreshIntervalS with
    | (.error e, authMgr) => ({ s with authMgr }, .ret (.error e))
    | (.ok nonceHex, authMgr) =>
        ({ s with authMgr },
          reply [field .event (ascii "culpeo.auth-refresh"),
              field .contentType (ascii "application/json")]
            (buildAuthRefreshBody setup.json nonceHex))

def sendPing (amb : Ambient) (s : Impl) : Impl × Rest :=
  if s.state ≠ .established then (s, .ret (.error .wrongState))
  else
    ({ s with
        pendingPingNonce := some (generateU64Nonce amb)
        pendingPingSendTs := some amb.nowUs },
      reply [field .event (ascii "culpeo.ping"), field .contentType (ascii "application/json")]
        (buildPingBody (generateU64Nonce amb) amb.nowUs))

/-- `Session::close`, which returns nothing; its result is taken to be success. -/
def close (setup : Setup) (code reason : Bytes) (s : Impl) : Impl × Rest :=
  if s.state = .closed then (s, .ret (.ok ()))
  else (transitionToClosed s, farewell setup.callbacks code reason)

/-! ### Calls -/

/-- A public call with its arguments. -/
inductive Call where
  | processControlFrame (f : ParsedHeadersView)
  | processMediaFrame (f : ParsedHeadersView)
  | sendMedia (streamId payload : Bytes) (timestampUs : UInt64)
  | sendAuthRefresh
  | sendPing
  | close (code reason : Bytes)
  deriving DecidableEq

/-- A public call, and what it reads from its surroundings. -/
structure Invocation where
  call : Call
  ambient : Ambient := {}

/-- The first critical section of a call, and the rest of it. -/
def enter (setup : Setup) (inv : Invocation) (s : Impl) : Impl × Rest :=
  match inv.call with
  | .processControlFrame f => processControlFrame setup inv.ambient f s
  | .processMediaFrame f => processMediaFrame setup f s
  | .sendMedia streamId payload timestampUs => sendMedia streamId payload timestampUs s
  | .sendAuthRefresh => sendAuthRefresh setup inv.ambient s
  | .sendPing => sendPing inv.ambient s
  | .close code reason => close setup code reason s

/-- One call from its beginning to its end, with nothing else going on. -/
def perform (setup : Setup) (inv : Invocation) (answers : ℕ → Bool) (s : Impl) :
    Outcome Impl Output Result :=
  (enter setup inv s).2.exec answers (enter setup inv s).1

end CulpeoStream.Session
