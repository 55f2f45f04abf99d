import CulpeoStream.Lib.Resumption
import CulpeoStream.Session.Helpers

/-!
# The session object

`Session::Impl` of `session.cpp`, and the pieces its handlers are put together
from.  A handler runs with the mutex held; what it does after it has released the
mutex, including the critical sections it enters again, is the *rest* of the call,
a `Resumption.Prog` whose external actions are transport calls and callbacks.

Every action is answered by a Boolean: the verdict of an authentication callback,
and for `send_binary` whether it returned normally.  No other answer is looked at.

The endings at the bottom are the ways in which a handler finishes.  Their names
are used by every handler, and their effect is described once, in
`Session.Endings`.
-/

namespace CulpeoStream.Session

open Message Resumption

/-- What a session is constructed with, and the JSON library it is linked with. -/
structure Setup where
  json : JsonLib
  callbacks : SessionCallbacks := {}
  config : SessionConfig := {}
  priorState : Option PersistedSessionState := none

/-- The mutable fields of `Session::Impl`. -/
structure Impl where
  state : SessionState := .uninitialized
  sessionIdStr : Bytes := []
  negotiatedVersion : Bytes := []
  negotiatedBufferWindowMs : UInt32 := 0
  isResumedSession : Bool := false
  registry : StreamRegistry
  authMgr : AuthRefreshManager := {}
  pingWindowStart : ℤ := 0
  pingsInWindow : UInt32 := 0
  pendingPingNonce : Option UInt64 := none
  pendingPingSendTs : Option ℤ := none
  deriving DecidableEq

/-- A session as constructed. -/
def Impl.initial (setup : Setup) : Impl where
  registry := { maxStreams := setup.config.maxStreams }

/-- The result of a public call. -/
abbrev Result := Except Error Unit

/-- What a call still has to do. -/
abbrev Rest := Prog Impl Output Bool Result

def transitionToClosed (s : Impl) : Impl :=
  { s with state := .closed, authMgr := s.authMgr.clear }

@[simp] theorem transitionToClosed_state (s : Impl) : (transitionToClosed s).state = .closed :=
  rfl

@[simp] theorem transitionToClosed_sessionIdStr (s : Impl) :
    (transitionToClosed s).sessionIdStr = s.sessionIdStr := rfl

@[simp] theorem transitionToClosed_registry (s : Impl) :
    (transitionToClosed s).registry = s.registry := rfl

@[simp] theorem transitionToClosed_isResumedSession (s : Impl) :
    (transitionToClosed s).isResumedSession = s.isResumedSession := rfl

/-! ### Frames -/

/-- A reserved header of an outgoing frame. -/
def field (r : Reserved) (value : Bytes) : HeaderField :=
  ⟨r.headerName, value⟩

/-- `serialize_frame`, keeping the frame next to its bytes. -/
def makeFrame (frameType : FrameType) (headers : List HeaderField) (body : Bytes) :
    Option WireFrame :=
  match h : serializeFrame frameType headers body with
  | .ok bytes => some ⟨frameType, headers, body, bytes, h⟩
  | .error _ => none

/-- `send_text_frame_noexcept`: a frame that cannot be serialized is not sent. -/
def sendTextFrame (headers : List HeaderField) (body : Bytes) (next : Rest) : Rest :=
  match makeFrame .control headers body with
  | some frame => .call (.sendText frame) fun _ => next
  | none => next

def closeTransport (culpeoCode reason : Bytes) (next : Rest) : Rest :=
  .call (.closeTransport (toWsCloseCode culpeoCode) reason) fun _ => next

/-- The headers of a frame that ends a session. -/
def endHeaders (event code reason : Bytes) : List HeaderField :=
  [field .event event, field .code code, field .reason reason,
    field .contentType (ascii "application/json")]

def sendInitErrorAndClose (code reason body : Bytes) (next : Rest) : Rest :=
  sendTextFrame (endHeaders (ascii "culpeo.init-error") code reason) body
    (closeTransport code reason next)

def sendCloseFrame (code reason : Bytes) (next : Rest) : Rest :=
  sendTextFrame (endHeaders (ascii "culpeo.close") code reason) emptyObject next

/-! ### Endings -/

/-- Why a handshake is refused: what the peer is told, and what the caller gets. -/
structure Rejection where
  code : Bytes
  reason : Bytes
  body : Bytes := emptyObject
  error : Error
  deriving DecidableEq

/-- Send the init-error, close the transport, and only then close the session. -/
def rejectInit (r : Rejection) : Rest :=
  sendInitErrorAndClose r.code r.reason r.body <|
    .locked transitionToClosed fun _ => .ret (.error r.error)

/-- The session is closed already; tell the peer. -/
def abort (code reason : Bytes) (e : Error) : Rest :=
  sendCloseFrame code reason <| closeTransport code reason <| .ret (.error e)

/-- Tell the peer first and close the session afterwards. -/
def closeAfterSend (code reason : Bytes) (e : Error) : Rest :=
  sendCloseFrame code reason <| closeTransport code reason <|
    .locked transitionToClosed fun _ => .ret (.error e)

/-- An orderly end, announced to the peer and to the application. -/
def farewell (callbacks : SessionCallbacks) (code reason : Bytes) : Rest :=
  sendCloseFrame code reason <| closeTransport code reason <|
    if callbacks.onClose then .call (.onClose code reason) fun _ => .ret (.ok ()) else .ret (.ok ())

/-- Send one text frame and return. -/
def reply (headers : List HeaderField) (body : Bytes) : Rest :=
  sendTextFrame headers body <| .ret (.ok ())

/-- Hand a media frame to the transport and return. -/
def handOver (headers : List HeaderField) (payload : Bytes) : Rest :=
  match makeFrame .media headers payload with
  | none => .ret (.error .transportError)
  | some frame =>
      .call (.sendBinary frame) fun sent => .ret (if sent then .ok () else .error .transportError)

/-! ### Inspection -/

def sessionId (s : Impl) : Option Bytes :=
  if s.sessionIdStr.isEmpty then none else some s.sessionIdStr

def streams (s : Impl) : List StreamInfo := s.registry.snapshot

def exportState (s : Impl) (now : ℤ) : Option PersistedSessionState :=
  if s.sessionIdStr.isEmpty then none
  else some
    { sessionId := s.sessionIdStr
      streams := s.registry.snapshot
      bufferWindowMs := s.negotiatedBufferWindowMs
      disconnectedAt := now }

end CulpeoStream.Session
