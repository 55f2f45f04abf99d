import CulpeoStream.Session.Impl

/-!
# The handshake

`handle_init` and `handle_resumption_locked`.  The body is read and the version
negotiated before the authentication callback, which runs without the mutex;
afterwards only `closed` is checked again.  What follows the callback is `completeInit`,
one critical section that either refuses the handshake or establishes the session.

A refusal is a `Rejection`, so the checks are ordinary functions into
`Except Rejection`, in the order of the source.
-/

namespace CulpeoStream.Session

open Message Resumption

/-! ### The body of `culpeo.init` -/

def invalidStreamsJson : Rejection where
  code := ascii "protocol-error"
  reason := ascii "Invalid streams JSON"
  error := .jsonError

/-- An accessor of the JSON library inside the block that catches every exception. -/
def orThrow {α : Type} (r : Rejection) : Option α → Except Rejection α
  | some a => .ok a
  | none => .error r

def invalidStreams (reason : Bytes) : Rejection where
  code := ascii "invalid-streams"
  reason := reason
  error := .invalidStreams

/-- An optional member, `fallback` when it is absent. -/
def optionalMember {α : Type} (s : Json) (key : Bytes) (get : Json → Option α) (fallback : α) :
    Except Rejection α :=
  match s.at? key with
  | none => .ok fallback
  | some j => orThrow invalidStreamsJson (get j)

/-- One turn of the loop over the declared streams. -/
def parseDeclaration (s : Json) : Except Rejection StreamDeclaration := do
  let contentType ← orThrow invalidStreamsJson ((s.at? (ascii "content_type")).bind Json.getString)
  let typeStr ← orThrow invalidStreamsJson ((s.at? (ascii "type")).bind Json.getString)
  let direction ← orThrow (invalidStreams (ascii "Invalid stream type"))
    (parseStreamDirection typeStr)
  let purpose ← optionalMember s (ascii "purpose") Json.getString []
  let hintId ← optionalMember s (ascii "id") Json.getString []
  let resumeOffset ← optionalMember s (ascii "resume_offset") Json.getUint64 0
  let offsetType ← orThrow (invalidStreams (ascii "Stream missing required offset_type field"))
    (s.at? (ascii "offset_type"))
  let otStr ← orThrow invalidStreamsJson offsetType.getString
  let ot ← orThrow (invalidStreams (ascii "Unrecognised offset_type value"))
    (parseOffsetType otStr)
  return { contentType, direction, purpose, hintId, resumeOffset
           hasResumeOffset := s.contains (ascii "resume_offset"), offsetType := some ot }

def parseDeclarations (body : Json) : Except Rejection (List StreamDeclaration) := do
  let streamsArr ← orThrow invalidStreamsJson (body.at? (ascii "streams"))
  streamsArr.elements.mapM parseDeclaration

/-- The parts of the body that are read before authentication: the whole value, and
the version, which has to be a supported one. -/
def parseInitBody (setup : Setup) (body : Bytes) : Except Rejection (Json × Bytes) := do
  let bodyJson ← orThrow
    { code := ascii "protocol-error", reason := ascii "Invalid JSON body", error := .jsonError }
    (setup.json.parse body)
  let clientVersion ← orThrow
    { code := ascii "protocol-error", reason := ascii "Missing version field", error := .jsonError }
    ((bodyJson.at? (ascii "version")).bind Json.getString)
  if setup.config.supportedVersions.contains clientVersion then
    return (bodyJson, clientVersion)
  else
    throw { code := ascii "unsupported-version", reason := ascii "Protocol version not supported"
            body := buildInitErrorBody setup.json setup.config.supportedVersions
            error := .versionUnsupported }

/-! ### Establishing -/

/-- The window the client asks for, capped; the default when it does not ask or asks
badly. -/
def negotiateBufferWindow (config : SessionConfig) (requested : Option Bytes) : UInt32 :=
  match requested with
  | none => config.defaultBufferWindowMs
  | some text =>
      match parseUint64 text with
      | .ok n => (min n config.maxBufferWindowMs.toUInt64).toUInt32
      | .error _ => config.defaultBufferWindowMs

/-- What a successful handshake settles. -/
structure Establishment where
  sessionId : Bytes
  version : Bytes
  bufferWindowMs : UInt32
  resumption : Bool
  registry : StreamRegistry
  deriving DecidableEq

/-- The headers of the init-ack. -/
def initAckHeaders (e : Establishment) : List HeaderField :=
  [field .event (ascii "culpeo.init-ack"), field .sessionId e.sessionId,
    field .bufferWindow (decimal e.bufferWindowMs.toNat),
    field .contentType (ascii "application/json")]

def initAckBody (json : JsonLib) (e : Establishment) : Bytes :=
  buildInitAckBody json e.version e.registry.snapshot e.resumption

/-- `finalize_established_locked`. -/
def finalizeEstablished (setup : Setup) (e : Establishment) (s : Impl) : Impl × Rest :=
  ({ s with
      sessionIdStr := e.sessionId
      negotiatedVersion := e.version
      negotiatedBufferWindowMs := e.bufferWindowMs
      isResumedSession := e.resumption
      registry := e.registry
      state := .established },
    reply (initAckHeaders e) (initAckBody setup.json e))

/-! ### Resumption -/

def invalidSession (reason : Bytes) : Rejection where
  code := ascii "invalid-session"
  reason := reason
  error := .sessionExpired

/-- Milliseconds between two time points, truncated. -/
def elapsedMs (now since : ℤ) : ℤ := (now - since).tdiv 1000000

/-- One turn of the loop over the persisted streams: the stream with its offset moved
to the one its declaration asks for. -/
def restoreStream (decls : List StreamDeclaration) (stream : StreamInfo) :
    Except Rejection StreamInfo :=
  match decls.find? fun d => d.direction = stream.direction ∧
      d.contentType = stream.contentType ∧ d.purpose = stream.purpose with
  | none => .error (invalidStreams (ascii "Cannot match all streams in resumption"))
  | some d =>
      if !d.hasResumeOffset then .ok stream
      else if stream.offset < d.resumeOffset then
        .error (invalidStreams (ascii "resume_offset exceeds server offset"))
      else .ok { stream with offset := d.resumeOffset }

/-- `handle_resumption_locked` up to the point where the session is established.  The
registry is only touched on success. -/
def handleResumption (setup : Setup) (amb : Ambient) (f : ParsedHeadersView) (sid : Bytes)
    (decls : List StreamDeclaration) (version : Bytes) (registry : StreamRegistry) :
    Except Rejection Establishment :=
  match setup.priorState with
  | none => .error (invalidSession (ascii "Session not found"))
  | some ps =>
      if sid ≠ ps.sessionId then .error (invalidSession (ascii "Session ID mismatch"))
      else if 0 < ps.bufferWindowMs ∧
          (ps.bufferWindowMs.toNat : ℤ) < elapsedMs amb.steadyNow ps.disconnectedAt then
        .error (invalidSession (ascii "Session expired"))
      else if decls.length ≠ ps.streams.length then
        .error (invalidStreams (ascii "Stream set does not match original session"))
      else
        match ps.streams.mapM (restoreStream decls) with
        | .error r => .error r
        | .ok restored => .ok
            { sessionId := ps.sessionId
              version
              bufferWindowMs := negotiateBufferWindow setup.config f.bufferWindow
              resumption := true
              registry := registry.registerFromPersisted restored }

/-! ### Fresh sessions -/

def serverError (reason : Bytes) (error : Error) : Rejection where
  code := ascii "server-error"
  reason := reason
  error := error

/-- The fresh path of `handle_init`.  A refusal comes with the registry as the failed
registration leaves it. -/
def handleFresh (setup : Setup) (amb : Ambient) (f : ParsedHeadersView)
    (decls : List StreamDeclaration) (version : Bytes) (registry : StreamRegistry) :
    Except (Rejection × StreamRegistry) Establishment :=
  match validateDeclarations decls setup.config.maxStreams with
  | .error e => .error
      ({ code := ascii "invalid-streams"
         reason := if e = .maxStreamsExceeded then ascii "Too many streams"
           else ascii "Stream declarations invalid"
         error := e }, registry)
  | .ok () =>
      match registry.registerFromDeclarations amb decls with
      | (.error e, registry) =>
          .error (serverError (ascii "Failed to allocate streams") e, registry)
      | (.ok (), registry) =>
          match generateCsprngId amb decls.length 16 with
          | .error e => .error (serverError (ascii "Failed to generate session ID") e, registry)
          | .ok sid => .ok
              { sessionId := sid
                version
                bufferWindowMs := negotiateBufferWindow setup.config f.bufferWindow
                resumption := false
                registry }

/-! ### `handle_init` -/

/-- The handshake from the stream declarations on, in one critical section. -/
def completeInit (setup : Setup) (amb : Ambient) (f : ParsedHeadersView) (bodyJson : Json)
    (version : Bytes) (s : Impl) : Impl × Rest :=
  match parseDeclarations bodyJson with
  | .error r => (s, rejectInit r)
  | .ok decls =>
      match f.sessionId with
      | some sid =>
          match handleResumption setup amb f sid decls version s.registry with
          | .error r => (s, rejectInit r)
          | .ok e => finalizeEstablished setup e s
      | none =>
          match handleFresh setup amb f decls version s.registry with
          | .error (r, registry) => ({ s with registry }, rejectInit r)
          | .ok e => finalizeEstablished setup e s

/-- The critical section after `on_auth_validate` has answered. -/
def afterAuthValidate (setup : Setup) (amb : Ambient) (f : ParsedHeadersView) (bodyJson : Json)
    (version : Bytes) (authOk : Bool) (s : Impl) : Impl × Rest :=
  if s.state = .closed then (s, .ret (.error .authFailed))
  else if !authOk then
    (s, rejectInit
      { code := ascii "unauthorized", reason := ascii "Credentials invalid", error := .authFailed })
  else completeInit setup amb f bodyJson version s

def handleInit (setup : Setup) (amb : Ambient) (f : ParsedHeadersView) (s : Impl) : Impl × Rest :=
  if s.state ≠ .uninitialized then
    ({ s with state := .initializing }, rejectInit
      { code := ascii "protocol-error"
        reason := ascii "culpeo.init received after session established"
        error := .protocolError })
  else
    let s := { s with state := .initializing }
    match parseInitBody setup f.body with
    | .error r => (s, rejectInit r)
    | .ok (bodyJson, version) =>
        if setup.callbacks.onAuthValidate then
          (s, .call (.onAuthValidate (bearerToken f.authorization)) fun authOk =>
            .critical (afterAuthValidate setup amb f bodyJson version authOk))
        else completeInit setup amb f bodyJson version s

end CulpeoStream.Session
