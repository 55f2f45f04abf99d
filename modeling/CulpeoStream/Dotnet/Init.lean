import CulpeoStream.Lib.Decimal
import CulpeoStream.Dotnet.Json

/-!
# The handshake of `CulpeoSession.cs`

`HandleInitialFrame` with everything it calls: the reading of the init body, the stride of
a PCM stream, the check of the declarations, and the creation or resumption of a session.

`ResumeSession` changes the streams of the session one declaration at a time, and keeps
what it has changed when a later declaration is refused.
-/

namespace CulpeoStream.Dotnet

open Message Search Utf16

/-- A refusal of stream declarations. -/
def invalidStreams (reason : Text) : Exn :=
  .protocolValidation (utf16 "invalid-streams") reason

/-! ### The init body -/

structure StreamInitDeclaration where
  contentType : Text
  type : CulpeoStreamType
  purpose : Option Text
  idHint : Option Text
  resumeOffset : Option Int64
  offsetType : OffsetType
  deriving DecidableEq, Repr

structure InitRequest where
  version : Text
  streams : List StreamInitDeclaration
  deriving DecidableEq, Repr

def InitRequest.isResumption (init : InitRequest) : Bool :=
  init.streams.any fun stream =>
    stream.resumeOffset.isSome || !isNullOrWhiteSpace stream.idHint

def tryParseStreamType (value : Text) : Option CulpeoStreamType :=
  if value = utf16 "input" then some .input
  else if value = utf16 "output" then some .output
  else if value = utf16 "duplex" then some .duplex
  else none

def streamTypeToString : CulpeoStreamType → Text
  | .input => utf16 "input"
  | .output => utf16 "output"
  | .duplex => utf16 "duplex"

def tryParseOffsetType (value : Text) : Option OffsetType :=
  if value = utf16 "time" then some .time
  else if value = utf16 "byte" then some .byte
  else if value = utf16 "message" then some .message
  else none

def offsetTypeToString : OffsetType → Text
  | .time => utf16 "time"
  | .byte => utf16 "byte"
  | .message => utf16 "message"

/-- The check on the content type and the type of a declaration. -/
def checkStreamType (contentType typeValue : Option Text) :
    Except Exn (Text × CulpeoStreamType) :=
  match contentType, typeValue.bind tryParseStreamType with
  | some contentType, some type =>
      if isNullOrWhiteSpace (some contentType) then
        .error (invalidStreams
          (utf16 "Each stream must declare content_type and a valid type."))
      else .ok (contentType, type)
  | _, _ =>
      .error (invalidStreams (utf16 "Each stream must declare content_type and a valid type."))

def checkOffsetType (offsetTypeValue : Option Text) : Except Exn OffsetType :=
  match offsetTypeValue.bind tryParseOffsetType with
  | some offsetType => .ok offsetType
  | none =>
      .error (invalidStreams
        (utf16 "Each stream must declare a valid offset_type (one of: time, byte, message)."))

/-- One turn of the loop of `ParseInitBody`. -/
def parseStream (item : JsonElement) : Except Exn StreamInitDeclaration := do
  let contentTypeValue ← item.stringProperty (utf16 "content_type")
  let typeValue ← item.stringProperty (utf16 "type")
  let (contentType, type) ← checkStreamType contentTypeValue typeValue
  let offsetTypeValue ← item.stringProperty (utf16 "offset_type")
  let offsetType ← checkOffsetType offsetTypeValue
  let resumeOffset ← item.int64Property (utf16 "resume_offset")
  let purpose ← item.stringProperty (utf16 "purpose")
  let idHint ← item.stringProperty (utf16 "id")
  return { contentType, type, purpose, idHint, resumeOffset, offsetType }

def checkVersion (version : Option Text) : Except Exn Text :=
  if isNullOrWhiteSpace version then
    .error (protocolError (utf16 "culpeo.init must include version."))
  else .ok (version.getD [])

/-- The `streams` property, which must be an array. -/
def streamItems (root : JsonElement) : Except Exn (List JsonElement) := do
  match ← root.tryGetProperty (utf16 "streams") with
  | some (.array items) => return items
  | _ => .error (invalidStreams (utf16 "culpeo.init must include streams."))

def parseInitBody (env : Environment) (body : Bytes) : Except Exn InitRequest := do
  let root ← env.parseBody body
  let versionValue ← root.stringProperty (utf16 "version")
  let version ← checkVersion versionValue
  let items ← streamItems root
  let streams ← items.mapM parseStream
  return { version, streams }

/-! ### PCM strides -/

/-- The white space that `int.TryParse` skips. -/
def isParseSpace (c : UInt16) : Bool := (0x0009 ≤ c && c ≤ 0x000D) || c == 0x0020

def isDigit (c : UInt16) : Bool := unit '0' ≤ c && c ≤ unit '9'

/-- `int.TryParse` with `NumberStyles.Integer`: white space, a sign, digits, white space and
trailing null characters. -/
def tryParseInt (raw : Text) : Option ℤ :=
  let unspaced := raw.dropWhile isParseSpace
  let signed := unspaced.head?.any fun c => c = unit '+' || c = unit '-'
  let digits := (if signed then unspaced.drop 1 else unspaced).takeWhile isDigit
  let trailing := (if signed then unspaced.drop 1 else unspaced).dropWhile isDigit
  let n := Decimal.value (digits.map fun d => (d - unit '0').toNat)
  let value : ℤ := if unspaced.head? = some (unit '-') then -n else n
  if digits.isEmpty || !(trailing.dropWhile isParseSpace).all (· = 0) then none
  else if value < -2 ^ 31 ∨ 2 ^ 31 ≤ value then none
  else some value

/-- A parameter of a PCM content type, with what was required of it. -/
def requirePcmParam (rt : Runtime) (parsed : ParsedContentType) (name : Text) (ok : ℤ → Bool) :
    Except Exn { value : ℤ // ok value = true } :=
  match (tryGetValue rt parsed.parameters name).bind tryParseInt with
  | some value =>
      if h : ok value = true then .ok ⟨value, h⟩
      else .error (protocolError
        (utf16 "PCM streams must declare a valid '" ++ name ++ utf16 "' parameter."))
  | none => .error (protocolError
      (utf16 "PCM streams must declare a valid '" ++ name ++ utf16 "' parameter."))

theorem stride_pos {channels bits : ℤ} (hchannels : decide (1 ≤ channels) = true)
    (hbits : decide (0 < bits ∧ bits % 8 = 0) = true) : 0 < (channels * (bits / 8)).toNat := by
  have hchannels := of_decide_eq_true hchannels
  have hbits := of_decide_eq_true hbits
  have hpos : 0 < channels * (bits / 8) := Int.mul_pos (by omega) (by omega)
  omega

/-- The bytes of one sample of all channels. -/
def getRequiredPcmStride (rt : Runtime) (contentType : Text) :
    Except Exn { stride : ℕ // 0 < stride } :=
  match tryParseContentType rt contentType with
  | none => .error (protocolError (utf16 "Offset type 'time' requires an audio/pcm content type "
      ++ utf16 "with valid rate, channels, and bits parameters."))
  | some parsed =>
      if !equalsIgnoreCase rt parsed.mediaType (utf16 "audio/pcm") then
        .error (protocolError (utf16 "Offset type 'time' requires an audio/pcm content type "
          ++ utf16 "with valid rate, channels, and bits parameters."))
      else do
        let channels ← requirePcmParam rt parsed (utf16 "channels") fun v => 1 ≤ v
        let bits ← requirePcmParam rt parsed (utf16 "bits") fun v => 0 < v ∧ v % 8 = 0
        let _ ← requirePcmParam rt parsed (utf16 "rate") fun v => 0 < v
        -- The product is checked.
        if 2 ^ 31 ≤ channels.1 * (bits.1 / 8) then .error .overflow
        else .ok ⟨(channels.1 * (bits.1 / 8)).toNat, stride_pos channels.2 bits.2⟩

/-- `new StreamState`. -/
def StreamState.create (rt : Runtime) (id contentType : Text) (type : CulpeoStreamType)
    (purpose : Option Text) (currentOffset : Int64) (offsetType : OffsetType) :
    Except Exn StreamState :=
  if h : offsetType = .time then
    match getRequiredPcmStride rt contentType with
    | .error ex => .error ex
    | .ok stride =>
        .ok
          { id, contentType, type, purpose, offsetType, currentOffset
            pcmStride := some stride.1
            stride_pos := fun _ => ⟨stride.1, stride.2, rfl⟩ }
  else
    .ok { id, contentType, type, purpose, offsetType, currentOffset
          stride_pos := fun htime => absurd htime h }

theorem StreamState.create_ok {rt : Runtime} {id contentType : Text} {type : CulpeoStreamType}
    {purpose : Option Text} {currentOffset : Int64} {offsetType : OffsetType}
    {stream : StreamState}
    (h : create rt id contentType type purpose currentOffset offsetType = .ok stream) :
    stream.id = id ∧ stream.contentType = contentType := by
  unfold create at h
  split at h
  · split at h
    · cases h
    · cases h
      exact ⟨rfl, rfl⟩
  · cases h
    exact ⟨rfl, rfl⟩

/-! ### Declarations -/

/-- The purposes within one type: all present, none twice. -/
def validatePurposes : List Text → List StreamInitDeclaration → Except Exn Unit
  | _, [] => .ok ()
  | purposes, stream :: rest =>
      if isNullOrWhiteSpace stream.purpose || purposes.contains (stream.purpose.getD []) then
        .error (invalidStreams
          (utf16 "Stream purposes must be present and unique within a type."))
      else validatePurposes (stream.purpose.getD [] :: purposes) rest

/-- The streams of one type; a single one needs no purpose. -/
def validateGroup (streams : List StreamInitDeclaration) (type : CulpeoStreamType) :
    Except Exn Unit :=
  let group := streams.filter fun stream => stream.type = type
  if group.length < 2 then .ok () else validatePurposes [] group

def validateStreamDeclarations (streams : List StreamInitDeclaration) (maxStreamCount : Int32) :
    Except Exn Unit :=
  if streams.isEmpty then
    .error (invalidStreams (utf16 "At least one stream must be declared."))
  else if maxStreamCount.toInt < streams.length then
    .error (invalidStreams (utf16 "A maximum of " ++ utf16 (toString maxStreamCount)
      ++ utf16 " streams may be declared."))
  else (streams.map StreamInitDeclaration.type).eraseDups.forM (validateGroup streams)

def matchesStream (rt : Runtime) (stream : StreamState) (declaration : StreamInitDeclaration) :
    Bool :=
  stream.type = declaration.type && stream.offsetType = declaration.offsetType
    && contentTypesMatch rt stream.contentType declaration.contentType
    && stream.purpose = declaration.purpose

/-- The stream of the session that a declaration means: the one with its id hint, or else the
first one that is not taken yet and matches. -/
def findExistingStream (rt : Runtime) (snapshot : SessionSnapshot)
    (declaration : StreamInitDeclaration) (matched : List Text) : Option StreamState :=
  let available (stream : StreamState) : Bool :=
    !matched.contains stream.id && matchesStream rt stream declaration
  let hinted :=
    if isNullOrWhiteSpace declaration.idHint then none
    else (snapshot.stream (declaration.idHint.getD [])).filter available
  hinted <|> snapshot.streams.find? available

/-! ### Sessions -/

/-- `TimeSpan.FromMilliseconds`. -/
def milliseconds (n : Int32) : Ticks := n.toInt * 10000

/-- The offset of the first frame that is not older than the cutoff.  The checkpoints before
it are removed. -/
def StreamState.earliestSince (stream : StreamState) (cutoff : Ticks) : StreamState × Int64 :=
  let checkpoints := stream.checkpoints.filter fun checkpoint =>
    !(checkpoint.recordedAt < cutoff)
  ({ stream with checkpoints },
    match checkpoints with
    | [] => stream.currentOffset
    | checkpoint :: _ => checkpoint.offset)

def StreamState.getEarliestAvailableOffset (stream : StreamState) (window now : Ticks) :
    Except Exn (StreamState × Int64) :=
  match minusSpan now window with
  | .error ex => .error ex
  | .ok cutoff => .ok (stream.earliestSince cutoff)

namespace StreamState

theorem getEarliestAvailableOffset_of_inCalendar {stream : StreamState} {window now : Ticks}
    (h : InCalendar (now - window)) :
    stream.getEarliestAvailableOffset window now = .ok (stream.earliestSince (now - window)) := by
  rw [getEarliestAvailableOffset, minusSpan, if_pos h]

theorem getEarliestAvailableOffset_ok {stream : StreamState} {window now : Ticks}
    {looked : StreamState × Int64} (h : stream.getEarliestAvailableOffset window now = .ok looked) :
    InCalendar (now - window) ∧ looked = stream.earliestSince (now - window) := by
  unfold getEarliestAvailableOffset minusSpan at h
  by_cases hrange : InCalendar (now - window)
  · rw [if_pos hrange] at h
    cases h
    exact ⟨hrange, rfl⟩
  · rw [if_neg hrange] at h
    cases h

end StreamState

/-- The dictionary of the streams of a new session. -/
def createStreams (rt : Runtime) (random : ℕ → ℕ → UInt8) :
    ℕ → List StreamState → List StreamInitDeclaration → Except Exn (List StreamState)
  | _, streams, [] => .ok streams
  | k, streams, declaration :: rest => do
      let stream ← StreamState.create rt (generateOpaqueId (random k) 8) declaration.contentType
        declaration.type declaration.purpose 0 declaration.offsetType
      -- `ToDictionary` throws on a second entry with the same key.
      if streams.any fun other => other.id = stream.id then .error .argument
      else createStreams rt random (k + 1) (streams ++ [stream]) rest

def createNewSession (rt : Runtime) (s : Surroundings) (options : CulpeoSessionOptions)
    (init : InitRequest) (bufferWindow : Int32) : Except Exn SessionSnapshot := do
  validateStreamDeclarations init.streams options.maxStreamCount
  let sessionId ← generateIdOfLength (s.random 0) options.sessionIdByteLength
  let streams ← createStreams rt s.random 1 [] init.streams
  return {
    sessionId
    bufferWindowMs := bufferWindow
    streams
    sessionStartedAt := s.clock 1 }

/-- `Math.Max`. -/
def mathMax (a b : Int64) : Int64 := if a ≤ b then b else a

/-- One turn of the loop of `ResumeSession`, for a declaration and the stream it means. -/
def resumeStream (window now : Ticks) (declaration : StreamInitDeclaration)
    (existing : StreamState) : Except Exn StreamState :=
  let requestedOffset := declaration.resumeOffset.getD existing.currentOffset
  if existing.currentOffset < requestedOffset then
    .error (invalidStreams (utf16 "resume_offset cannot exceed the current stream offset."))
  else
    match existing.getEarliestAvailableOffset window now with
    | .error ex => .error ex
    | .ok earliest =>
        .ok { earliest.1 with confirmedResumeOffset := mathMax requestedOffset earliest.2 }

/-- The offset that a declaration asks for. -/
def requestedOffset (declaration : StreamInitDeclaration) (existing : StreamState) : Int64 :=
  declaration.resumeOffset.getD existing.currentOffset

/-- The offset that `ResumeSession` confirms for a declaration and the stream it means. -/
def confirmed (window now : Ticks) (declaration : StreamInitDeclaration)
    (existing : StreamState) : Int64 :=
  mathMax (requestedOffset declaration existing) (existing.earliestSince (now - window)).2

/-- A stream as the loop leaves it. -/
def confirmStream (window now : Ticks) (declaration : StreamInitDeclaration)
    (existing : StreamState) : StreamState :=
  { (existing.earliestSince (now - window)).1 with
    confirmedResumeOffset := confirmed window now declaration existing }

@[simp] theorem confirmStream_id (window now : Ticks) (declaration : StreamInitDeclaration)
    (existing : StreamState) :
    (confirmStream window now declaration existing).id = existing.id := rfl

/-- **One stream** is refused for the offset that is asked for, and the loop fails when its
window reaches back behind the first point in time. -/
theorem resumeStream_eq (window now : Ticks) (declaration : StreamInitDeclaration)
    (existing : StreamState) :
    resumeStream window now declaration existing =
      if existing.currentOffset < requestedOffset declaration existing then
        .error (invalidStreams (utf16 "resume_offset cannot exceed the current stream offset."))
      else if InCalendar (now - window) then .ok (confirmStream window now declaration existing)
      else .error .argumentOutOfRange := by
  unfold resumeStream StreamState.getEarliestAvailableOffset minusSpan
  by_cases hrange : InCalendar (now - window)
  · rw [if_pos hrange, if_pos hrange]
    rfl
  · rw [if_neg hrange, if_neg hrange]
    rfl

theorem resumeStream_ok {window now : Ticks} {declaration : StreamInitDeclaration}
    {existing resumed : StreamState}
    (h : resumeStream window now declaration existing = .ok resumed) :
    InCalendar (now - window) ∧ resumed = confirmStream window now declaration existing := by
  rw [resumeStream_eq] at h
  split at h
  · cases h
  · split at h
    · rename_i hrange
      cases h
      exact ⟨hrange, rfl⟩
    · cases h

/-- The loop of `ResumeSession`: the session as it leaves it, and whether it got to its
end.  The `k`-th reading of the clock is the one for the first declaration. -/
def resumeStreams (rt : Runtime) (clock : ℕ → Ticks) (window : Ticks) :
    ℕ → List Text → SessionSnapshot → List StreamInitDeclaration →
      SessionSnapshot × Except Exn Unit
  | _, _, snapshot, [] => (snapshot, .ok ())
  | k, matched, snapshot, declaration :: rest =>
      match findExistingStream rt snapshot declaration matched with
      | none => (snapshot, .error (invalidStreams
          (utf16 "Resumption stream declarations do not match the existing session.")))
      | some existing =>
          match resumeStream window (clock k) declaration existing with
          | .error ex => (snapshot, .error ex)
          | .ok resumed =>
              resumeStreams rt clock window (k + 1) (resumed.id :: matched)
                (snapshot.putStream resumed) rest

/-- `GetSession`: the session, and where it is. -/
def CulpeoSessionServer.getSession (server : CulpeoSessionServer) (sessionId : Text) :
    Option (ℕ × SessionSnapshot) :=
  (server.sessions.lookup sessionId).bind fun ref =>
    (server.snapshots[ref]?).map fun snapshot => (ref, snapshot)

def CulpeoSessionServer.removeSession (server : CulpeoSessionServer) (sessionId : Text) :
    CulpeoSessionServer :=
  { server with sessions := server.sessions.filter fun entry => entry.1 ≠ sessionId }

/-- Whether the session has been without a connection for longer than its window. -/
def SessionSnapshot.expired (snapshot : SessionSnapshot) (now : Ticks) : Bool :=
  snapshot.disconnectedAt.any fun disconnectedAt =>
    milliseconds snapshot.bufferWindowMs < now - disconnectedAt

/-- A refusal to resume. -/
def invalidSession (reason : Text) : Exn :=
  .protocolValidation (utf16 "invalid-session") reason

/-- The session as `ResumeSession` changed it. -/
def CulpeoSessionServer.putSnapshot (server : CulpeoSessionServer) (ref : ℕ)
    (snapshot : SessionSnapshot) : CulpeoSessionServer :=
  { server with snapshots := server.snapshots.set ref snapshot }

def resumeSession (rt : Runtime) (s : Surroundings) (server : CulpeoSessionServer)
    (sessionId : Text) (init : InitRequest) (bufferWindow : Int32) :
    CulpeoSessionServer × Except Exn (ℕ × SessionSnapshot) :=
  match validateStreamDeclarations init.streams server.options.maxStreamCount with
  | .error ex => (server, .error ex)
  | .ok () =>
      match server.getSession sessionId with
      | none => (server, .error (invalidSession (utf16 "Session does not exist.")))
      | some (ref, existing) =>
          if existing.expired (s.clock 1) then
            (server.removeSession sessionId,
              .error (invalidSession (utf16 "Session has expired.")))
          else
            let resumed := resumeStreams rt s.clock (milliseconds bufferWindow) 2 [] existing
              init.streams
            match resumed.2 with
            | .error ex => (server.putSnapshot ref resumed.1, .error ex)
            | .ok () =>
                let snapshot :=
                  { resumed.1 with bufferWindowMs := bufferWindow, disconnectedAt := none }
                (server.putSnapshot ref snapshot, .ok (ref, snapshot))

/-! ### The answer -/

/-- The entry of a stream in an init-ack. -/
def streamEntry (resumption : Bool) (stream : StreamState) : JsonElement :=
  .named ([(utf16 "id", .string (some stream.id)),
      (utf16 "content_type", .string (some stream.contentType)),
      (utf16 "type", .string (some (streamTypeToString stream.type))),
      (utf16 "offset_type", .string (some (offsetTypeToString stream.offsetType)))] ++
    (if isNullOrWhiteSpace stream.purpose then []
      else [(utf16 "purpose", .string stream.purpose)]) ++
    if resumption then [(utf16 "resume_offset", .number (some stream.confirmedResumeOffset))]
      else [])

/-- The entries of an init-ack. -/
def initAckEntries (snapshot : SessionSnapshot) (resumption : Bool) : List JsonElement :=
  snapshot.streams.map (streamEntry resumption)

/-- The body of an init-ack. -/
def initAckDocument (snapshot : SessionSnapshot) (version : Text) (resumption : Bool) :
    JsonElement :=
  .named [(utf16 "version", .string (some version)),
    (utf16 "streams", .array (initAckEntries snapshot resumption))]

def createInitAckFrame (env : Environment) (snapshot : SessionSnapshot) (version : Text)
    (bufferWindow : Int32) (resumption : Bool) : CulpeoMessage where
  kind := .control
  body := env.serialize (initAckDocument snapshot version resumption)
  event := some (utf16 "culpeo.init-ack")
  contentType := some (utf16 "application/json")
  sessionId := some snapshot.sessionId
  bufferWindow := some bufferWindow

/-- The bytes of an error's body, an empty object unless one is given. -/
def initErrorFrame (code reason : Text) (body : Option Bytes) : CulpeoMessage where
  kind := .control
  body := body.getD (ascii "\x7b\x7d")
  event := some (utf16 "culpeo.init-error")
  contentType := some (utf16 "application/json")
  code := some code
  reason := some reason

namespace Endpoint

def closeWithInitError (e : Endpoint) (code reason : Text) (body : Option Bytes) :
    Endpoint × Except Exn CulpeoProcessResult :=
  (e.setState .closed, .ok ⟨[initErrorFrame code reason body], true, some code, .closed⟩)

/-- The `catch` of `HandleInitialFrame`: other exceptions leave the method. -/
def refuseInit (e : Endpoint) : Exn → Endpoint × Except Exn CulpeoProcessResult
  | .protocolValidation code reason => e.closeWithInitError code reason none
  | ex => (e, .error ex)

/-- The window that is granted. -/
def negotiateBufferWindow (options : CulpeoSessionOptions) (requested : Option Int32) : Int32 :=
  let nonnegative := if requested.getD options.maxBufferWindowMs < 0 then 0
    else requested.getD options.maxBufferWindowMs
  if nonnegative < options.maxBufferWindowMs then nonnegative else options.maxBufferWindowMs

/-- The session of an init, new or resumed. -/
def openSession (env : Environment) (s : Surroundings) (server : CulpeoSessionServer)
    (sessionId : Option Text) (init : InitRequest) (bufferWindow : Int32) :
    CulpeoSessionServer × Except Exn (ℕ × SessionSnapshot) :=
  if isNullOrWhiteSpace sessionId then
    match createNewSession env.toRuntime s server.options init bufferWindow with
    | .error ex => (server, .error ex)
    | .ok snapshot =>
        ({ server with snapshots := server.snapshots ++ [snapshot] },
          .ok (server.snapshots.length, snapshot))
  else resumeSession env.toRuntime s server (sessionId.getD []) init bufferWindow

/-- The end of `HandleInitialFrame`: the connection holds the session. -/
def establish (env : Environment) (e : Endpoint) (ref : ℕ) (snapshot : SessionSnapshot)
    (init : InitRequest) (bufferWindow : Int32) : Endpoint × Except Exn CulpeoProcessResult :=
  ({ server := e.server.saveSession snapshot.sessionId ref
     connection := { e.connection with snapshot := some ref, state := .established } },
    .ok ⟨[createInitAckFrame env snapshot init.version bufferWindow init.isResumption], false,
      none, .established⟩)

/-- The body of an init-error that lists the versions of the server. -/
def supportedVersionsBody (env : Environment) (versions : List Text) : Bytes :=
  env.serialize (.named [(utf16 "supported_versions",
    .array (versions.map fun version => .string (some version)))])

/-- `HandleInitialFrame` from the negotiation of the window on. -/
def acceptInit (env : Environment) (s : Surroundings) (e : Endpoint) (frame : CulpeoMessage)
    (init : InitRequest) : Endpoint × Except Exn CulpeoProcessResult :=
  let bufferWindow := negotiateBufferWindow e.server.options frame.bufferWindow
  let opened := openSession env s e.server frame.sessionId init bufferWindow
  let e := { e with server := opened.1 }
  match opened.2 with
  | .error ex => e.refuseInit ex
  | .ok (ref, snapshot) => e.establish env ref snapshot init bufferWindow

def handleInitialFrame (env : Environment) (s : Surroundings) (e : Endpoint)
    (frame : CulpeoMessage) : Endpoint × Except Exn CulpeoProcessResult :=
  if frame.kind ≠ .control ∨ frame.event ≠ some (utf16 "culpeo.init") then
    let closed := e.closeWithCloseFrame (s.clock 1) (utf16 "protocol-error")
      (utf16 "The first frame must be culpeo.init.")
    (closed.1, .ok closed.2)
  else
    let e := e.setState .initializing
    if isNullOrWhiteSpace frame.authorization then
      e.closeWithInitError (utf16 "unauthorized") (utf16 "Authorization is required.") none
    else
      match parseInitBody env frame.body with
      | .error ex => e.refuseInit ex
      | .ok init =>
          if !e.server.options.supportedVersions.contains init.version then
            e.closeWithInitError (utf16 "unsupported-version")
              (utf16 "Protocol version not supported")
              (some (supportedVersionsBody env e.server.options.supportedVersions))
          else e.acceptInit env s frame init

end Endpoint

end CulpeoStream.Dotnet
