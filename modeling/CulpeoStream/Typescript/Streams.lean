import CulpeoStream.Typescript.Offsets

/-!
# `streams.ts`

The checks on stream declarations, and the `StreamRegistry` of a session: the streams
that were planned, the streams that were confirmed, and their offsets.

The union types of the source (`StreamDirection`, `OffsetType`) are enumerations.  What
comes from JSON is a `RawStreamDeclaration`, and the checks for other strings make a
declaration of it (`checkDeclaration`).
-/

namespace CulpeoStream.Typescript

open Utf16

inductive EndpointRole where
  | client
  | server
  deriving DecidableEq, Repr

inductive StreamDirection where
  | input
  | output
  | duplex
  deriving DecidableEq, Repr

/-- The texts of the two union types. -/
def StreamDirection.text : StreamDirection → Text
  | input => utf16 "input"
  | output => utf16 "output"
  | duplex => utf16 "duplex"

def OffsetType.text : OffsetType → Text
  | time => utf16 "time"
  | byte => utf16 "byte"
  | message => utf16 "message"

structure StreamDeclaration where
  contentType : Text
  type : StreamDirection
  offsetType : OffsetType
  purpose : Option Text := none
  deriving DecidableEq, Repr

structure ResumeStreamDeclaration extends StreamDeclaration where
  id : Option Text := none
  resumeOffset : Option ℤ := none
  deriving DecidableEq, Repr

structure ConfirmedStreamDeclaration extends StreamDeclaration where
  id : Text
  resumeOffset : Option ℤ := none
  deriving DecidableEq, Repr

structure SessionSnapshot where
  version : Text
  sessionId : Text
  bufferWindowMs : ℤ
  disconnectedAtMs : Option ℤ := none
  streams : List ConfirmedStreamDeclaration
  deriving DecidableEq, Repr

def normalizeContentType (rt : Runtime) (contentType : Text) : Text :=
  rt.toLowerCase (trim contentType)

def logicalKey (stream : StreamDeclaration) : Text :=
  stream.type.text ++ utf16 ":" ++ stream.purpose.getD [] ++ utf16 ":" ++ stream.contentType
    ++ utf16 ":" ++ stream.offsetType.text

/-! ### Validation -/

/-- A refusal of stream declarations. -/
def invalidStreams (message : Text) : CulpeoError := ⟨.invalidStreams, message⟩

/-- The purposes within one type: all present, none twice. -/
def validatePurposes (type : StreamDirection) :
    List Text → List StreamDeclaration → Except CulpeoError Unit
  | _, [] => .ok ()
  | seen, stream :: rest =>
      match stream.purpose with
      | none => .error (invalidStreams
          (utf16 "Streams of type " ++ type.text ++ utf16 " require unique purpose values."))
      | some purpose =>
          if (trim purpose).isEmpty then
            .error (invalidStreams
              (utf16 "Streams of type " ++ type.text ++ utf16 " require unique purpose values."))
          else if purpose ∈ seen then
            .error (invalidStreams (utf16 "Duplicate purpose values are not allowed for type "
              ++ type.text ++ utf16 "."))
          else validatePurposes type (purpose :: seen) rest

/-- The streams of one type; a single one needs no purpose. -/
def validateGroup (streams : List StreamDeclaration) (type : StreamDirection) :
    Except CulpeoError Unit :=
  let group := streams.filter fun stream => stream.type = type
  if group.length < 2 then .ok () else validatePurposes type [] group

def validateStreamDeclarations (streams : List StreamDeclaration) (maxStreamCount : ℕ) :
    Except CulpeoError Unit :=
  if streams.isEmpty then .error (invalidStreams (utf16 "At least one stream must be declared."))
  else if maxStreamCount < streams.length then
    .error (invalidStreams (utf16 "Maximum of " ++ utf16 (toString maxStreamCount)
      ++ utf16 " streams per session."))
  else if streams.any fun stream => (trim stream.contentType).isEmpty then
    .error (invalidStreams (utf16 "Each stream must declare a content_type."))
  else
    -- The types in the order in which they first occur.
    (streams.map StreamDeclaration.type).eraseDups.forM (validateGroup streams)

/-- A declaration whose type and offset type are strings that have not been checked. -/
structure RawStreamDeclaration where
  contentType : Text
  type : Text
  offsetType : Text
  purpose : Option Text := none
  deriving DecidableEq, Repr

def assertValidDirection (type : Text) : Except CulpeoError StreamDirection :=
  if type = utf16 "input" then .ok .input
  else if type = utf16 "output" then .ok .output
  else if type = utf16 "duplex" then .ok .duplex
  else .error (invalidStreams (utf16 "Stream types must be input, output, or duplex."))

/-- The check on `offset_type`. -/
def checkOffsetType (offsetType : Text) : Except CulpeoError OffsetType :=
  if offsetType = utf16 "time" then .ok .time
  else if offsetType = utf16 "byte" then .ok .byte
  else if offsetType = utf16 "message" then .ok .message
  else .error (invalidStreams (utf16 "Invalid or missing offset_type '" ++ offsetType
    ++ utf16 "'. Must be 'time', 'byte', or 'message'."))

/-- One turn of the loop over the streams. -/
def checkDeclaration (stream : RawStreamDeclaration) : Except CulpeoError StreamDeclaration :=
  if (trim stream.contentType).isEmpty then
    .error (invalidStreams (utf16 "Each stream must declare a content_type."))
  else do
    let type ← assertValidDirection stream.type
    let offsetType ← checkOffsetType stream.offsetType
    return { contentType := stream.contentType, type, offsetType, purpose := stream.purpose }

/-- `validateStreamDeclarations` on declarations whose strings have not been checked. -/
def validateRawDeclarations (streams : List RawStreamDeclaration) (maxStreamCount : ℕ) :
    Except CulpeoError Unit :=
  if streams.isEmpty then .error (invalidStreams (utf16 "At least one stream must be declared."))
  else if maxStreamCount < streams.length then
    .error (invalidStreams (utf16 "Maximum of " ++ utf16 (toString maxStreamCount)
      ++ utf16 " streams per session."))
  else do
    let checked ← streams.mapM checkDeclaration
    (checked.map StreamDeclaration.type).eraseDups.forM (validateGroup checked)

def allowsSender (streamType : StreamDirection) (sender : EndpointRole) : Bool :=
  match streamType, sender with
  | .duplex, _ => true
  | .input, .client => true
  | .output, .server => true
  | _, _ => false

/-! ### The registry -/

/-- The limit on the number of streams that every caller leaves at its default. -/
def maxStreamCount : ℕ := 16

structure StreamRegistry where
  localRole : EndpointRole
  plannedStreams : List ResumeStreamDeclaration := []
  offsets : OffsetTracker := {}
  confirmedStreams : Text → Option ConfirmedStreamDeclaration := fun _ => none
  confirmedOrder : List ConfirmedStreamDeclaration := []

namespace StreamRegistry

/-- The loop of `buildInitStreams`: every planned stream takes the first one of the
snapshot that is still available and has its logical key. -/
def matchSnapshot :
    List ConfirmedStreamDeclaration → List ResumeStreamDeclaration → List ResumeStreamDeclaration
  | _, [] => []
  | available, stream :: rest =>
      match available.findIdx? fun candidate =>
          logicalKey candidate.toStreamDeclaration = logicalKey stream.toStreamDeclaration with
      | none => stream :: matchSnapshot available rest
      | some index =>
          match available[index]? with
          | none => stream :: matchSnapshot available rest
          | some matched =>
              { stream with
                  id := some matched.id
                  resumeOffset := some (matched.resumeOffset.getD 0) }
                :: matchSnapshot (available.eraseIdx index) rest

def buildInitStreams (registry : StreamRegistry) (snapshot : Option SessionSnapshot) :
    List ResumeStreamDeclaration :=
  match snapshot with
  | none => registry.plannedStreams
  | some snapshot => matchSnapshot snapshot.streams registry.plannedStreams

/-- One turn of the loop of `confirm`: register the stream, and seed its offsets on
resumption. -/
def registerStream (tracker : OffsetTracker) (stream : ConfirmedStreamDeclaration) :
    Except CulpeoError OffsetTracker :=
  let registered := tracker.register stream.id (stream.resumeOffset.getD 0)
  match stream.resumeOffset with
  | none => .ok registered
  | some offset => registered.seedResumeOffset stream.id offset

/-- The `Map` of confirmed streams that the loop fills. -/
def streamMap (streams : List ConfirmedStreamDeclaration) :
    Text → Option ConfirmedStreamDeclaration :=
  streams.foldl (fun confirmed stream => Function.update confirmed stream.id (some stream))
    fun _ => none

def confirm (registry : StreamRegistry) (streams : List ConfirmedStreamDeclaration) :
    Except CulpeoError StreamRegistry := do
  validateStreamDeclarations (streams.map ConfirmedStreamDeclaration.toStreamDeclaration)
    maxStreamCount
  let offsets ← streams.foldlM registerStream registry.offsets
  return { registry with offsets, confirmedStreams := streamMap streams, confirmedOrder := streams }

def confirmFromAck (registry : StreamRegistry) (streams : List ConfirmedStreamDeclaration) :
    Except CulpeoError StreamRegistry :=
  if streams.length ≠ registry.plannedStreams.length then
    .error (protocolError (utf16 "Server acknowledged an unexpected stream count."))
  else registry.confirm streams

def confirmForServer (registry : StreamRegistry) (streams : List ConfirmedStreamDeclaration) :
    Except CulpeoError StreamRegistry :=
  registry.confirm streams

def get (registry : StreamRegistry) (streamId : Text) :
    Except CulpeoError ConfirmedStreamDeclaration :=
  match registry.confirmedStreams streamId with
  | some stream => .ok stream
  | none => .error (protocolError (utf16 "Unknown stream identifier."))

/-- The registry as `trackSend` leaves it, and the content type and offset of the frame. -/
def trackSend (rt : Runtime) (registry : StreamRegistry) (streamId : Text) (payloadLength : ℕ) :
    StreamRegistry × Except CulpeoError (Text × ℤ) :=
  match registry.get streamId with
  | .error e => (registry, .error e)
  | .ok stream =>
      if !allowsSender stream.type registry.localRole then
        (registry, .error (protocolError (utf16 "Media direction is invalid for this stream.")))
      else
        let allocated := registry.offsets.allocate rt streamId stream.offsetType payloadLength
          stream.contentType
        ({ registry with offsets := allocated.1 },
          allocated.2.map fun offset => (stream.contentType, offset))

/-- The other end. -/
def remoteRole (registry : StreamRegistry) : EndpointRole :=
  match registry.localRole with
  | .client => .server
  | .server => .client

def trackReceive (rt : Runtime) (registry : StreamRegistry) (streamId : Text) (offset : ℤ)
    (contentType : Text) (payloadLength : ℕ) : Except CulpeoError StreamRegistry := do
  let stream ← registry.get streamId
  if !allowsSender stream.type registry.remoteRole then
    throw (protocolError (utf16 "Media direction is invalid for this stream."))
  if normalizeContentType rt contentType ≠ normalizeContentType rt stream.contentType then
    throw (protocolError
      (utf16 "Media frame content type does not match stream declaration."))
  let increment ← computeOffsetIncrement rt stream.offsetType payloadLength stream.contentType
  let offsets ← registry.offsets.recordReceived streamId offset increment
  return { registry with offsets }

def has (registry : StreamRegistry) (streamId : Text) : Bool :=
  (registry.confirmedStreams streamId).isSome

/-- The confirmed streams with the offsets to resume from. -/
def getConfirmedStreams (registry : StreamRegistry) :
    Except CulpeoError (List ConfirmedStreamDeclaration) :=
  registry.confirmedOrder.mapM fun stream => do
    let resumeOffset ← registry.offsets.getResumeOffset stream.id
    return { stream with resumeOffset := some resumeOffset }

def snapshot (registry : StreamRegistry) (sessionId version : Text) (bufferWindowMs : ℤ) :
    Except CulpeoError SessionSnapshot := do
  let streams ← registry.getConfirmedStreams
  return { sessionId, version, bufferWindowMs, streams }

end StreamRegistry

end CulpeoStream.Typescript
