import CulpeoStream.Lib.Binary64
import CulpeoStream.Lib.Numeral
import CulpeoStream.Message.TextHeaders
import CulpeoStream.Typescript.Session

/-!
# `message.ts`

The codec of the TypeScript library, without a parser backend.  A message is a `Frame`: one
variant for each of the types in `types.ts`, over a type `J` of JSON values.  The bodies of
control frames are not looked at here, so they are all of type `J`; a header whose value is
fixed by the type is left out.

`JSON` and `toLowerCase` come from the runtime.  A `number` is the integer it holds:
`parseInt` rounds to a double, and `String` writes an integer below `10^21` in decimal.  A
limit is an integer: a fractional limit admits what the integer below it admits, and an
infinite one what a large integer does.
-/

namespace CulpeoStream.Typescript

open Message Search Utf16

/-- What the runtime contributes to the codec. -/
structure Platform (J : Type) extends Runtime where
  jsonStringify : J → Text
  /-- None when it throws. -/
  jsonParse : Text → Option J
  /-- Whether a value is an object: not null and not an array. -/
  isJsonObject : J → Bool

/-- What the codec throws. -/
inductive Thrown where
  | culpeo (error : CulpeoError)
  | jsonSyntax
  deriving DecidableEq

def throwProtocolError {α : Type} (message : String) : Except Thrown α :=
  .error (.culpeo (protocolError (utf16 message)))

/-! ### Frames -/

inductive KnownProtocolEvent where
  | init
  | initAck
  | initError
  | ping
  | pong
  | authRefresh
  | authResponse
  | close
  deriving DecidableEq, Repr

namespace KnownProtocolEvent

def text : KnownProtocolEvent → Text
  | init => utf16 "culpeo.init"
  | initAck => utf16 "culpeo.init-ack"
  | initError => utf16 "culpeo.init-error"
  | ping => utf16 "culpeo.ping"
  | pong => utf16 "culpeo.pong"
  | authRefresh => utf16 "culpeo.auth-refresh"
  | authResponse => utf16 "culpeo.auth-response"
  | close => utf16 "culpeo.close"

/-- The `switch` on the name of an event. -/
def ofText (event : Text) : Option KnownProtocolEvent :=
  [init, initAck, initError, ping, pong, authRefresh, authResponse, close].find?
    fun known => known.text = event

end KnownProtocolEvent

structure ApplicationEventHeaders where
  event : Text
  contentType : Option Text := none
  streamId : Option Text := none
  deriving DecidableEq

/-- An application event is none of those that the protocol knows. -/
structure ApplicationEventMessage (J : Type) where
  event : Text
  headers : ApplicationEventHeaders
  body : J
  unknown : KnownProtocolEvent.ofText event = none

/-- `CulpeoMessage`. -/
inductive Frame (J : Type) where
  | media (headers : MediaHeaders) (body : Bytes)
  | init (headers : InitHeaders) (body : J)
  | initAck (headers : InitAckHeaders) (body : J)
  | initError (code reason : Text) (body : J)
  | ping (body : J)
  | pong (body : J)
  | authRefresh (body : J)
  | authResponse (authorization : Text) (body : J)
  | close (code reason : Text) (body : J)
  | application (message : ApplicationEventMessage J)

/-! ### Header lines -/

structure ParseLimits where
  maxHeaderBlockSize : ℤ := 8192
  maxHeaderCount : ℤ := 64
  maxHeaderNameLength : ℤ := 256
  maxHeaderValueLength : ℤ := 4096

/-- `TextDecoder.decode`, which drops a byte order mark at the start. -/
def textDecode (bytes : Bytes) : Text :=
  match Utf8.decode bytes with
  | [] => []
  | u :: rest => if u = 0xFEFF then rest else u :: rest

def reservedHeaders : List Text :=
  [utf16 "event", utf16 "content-type", utf16 "authorization", utf16 "session-id",
    utf16 "stream-id", utf16 "offset", utf16 "timestamp", utf16 "buffer-window", utf16 "reason",
    utf16 "code"]

def findHeaderBoundary (bytes : Bytes) (maxHeaderBlockSize : ℤ) : Except Thrown ℕ :=
  let searchLength := min (bytes.length : ℤ) (maxHeaderBlockSize + 4)
  match find crlfcrlf (bytes.take searchLength.toNat) with
  | some index => .ok index
  | none =>
      if maxHeaderBlockSize < bytes.length then
        throwProtocolError "Header block exceeds maximum size"
      else throwProtocolError "Frame headers must terminate with CRLF CRLF"

/-- A `Map` from the names of headers to their values. -/
abbrev Headers := Text → Option Text

/-- The variables of a loop over headers. -/
structure HeaderState where
  headers : Headers := fun _ => none
  seenReservedHeaders : List Text := []
  lineCount : ℕ := 0

/-- `forbiddenHeaderCharacters.test`. -/
def hasForbidden (s : Text) : Bool := s.any isForbiddenUnit

/-- The checks on a header, and its entry in the `Map`. -/
def addHeader (limits : ParseLimits) (name value : Text) (state : HeaderState) :
    Except Thrown HeaderState :=
  if limits.maxHeaderNameLength < name.length then
    throwProtocolError "Header name exceeds maximum length"
  else if limits.maxHeaderValueLength < value.length then
    throwProtocolError "Header value exceeds maximum length"
  else if hasForbidden name || hasForbidden value then
    throwProtocolError "Header name/value contains forbidden character"
  else
    let headers := Function.update state.headers name (some value)
    if reservedHeaders.contains name then
      if state.seenReservedHeaders.contains name then
        .error (.culpeo (protocolError (utf16 "Duplicate reserved header: " ++ name)))
      else
        .ok { state with headers, seenReservedHeaders := name :: state.seenReservedHeaders }
    else .ok { state with headers }

/-- One turn of the loop of `parseHeaderLines`. -/
def parseHeaderLine (rt : Runtime) (limits : ParseLimits) (state : HeaderState) (line : Text) :
    Except Thrown HeaderState :=
  let lineCount := state.lineCount + 1
  if limits.maxHeaderCount < lineCount then throwProtocolError "Header count exceeds maximum"
  else
    match find [unit ':'] line with
    | none | some 0 => throwProtocolError "Malformed header line."
    | some separator =>
        let name := rt.toLowerCase (trim (line.take separator))
        let value := trim (line.drop (separator + 1))
        addHeader limits name value { state with lineCount }

/-- The lines of a header text. -/
def linesOf (headerText : Text) : List Text :=
  if headerText.isEmpty then [] else splitOn (utf16 "\r\n") headerText

def parseHeaderLines (rt : Runtime) (headerText : Text) (limits : ParseLimits) :
    Except Thrown Headers :=
  ((linesOf headerText).foldlM (parseHeaderLine rt limits) {}).map HeaderState.headers

/-- `extractHeaders` without a backend: the headers, and where the body begins. -/
def extractHeaders (rt : Runtime) (bytes : Bytes) (parseLimits : ParseLimits) :
    Except Thrown (Headers × ℕ) := do
  let headerBoundary ← findHeaderBoundary bytes parseLimits.maxHeaderBlockSize
  let headers ← parseHeaderLines rt (textDecode (bytes.take headerBoundary)) parseLimits
  return (headers, headerBoundary + 4)

/-! ### Parsing -/

def parseNumber (headers : Headers) (name : Text) : Except Thrown (Option ℤ) :=
  match headers name with
  | none => .ok none
  | some value =>
      match parseInt value with
      | none => .error (.culpeo (protocolError
          (utf16 "Header " ++ name ++ utf16 " must be an integer.")))
      | some parsed =>
          if Binary64.overflow ≤ parsed.natAbs then
            .error (.culpeo (protocolError
              (utf16 "Header " ++ name ++ utf16 " must be an integer.")))
          else .ok (some (Binary64.roundInt parsed))

variable {J : Type}

def parseJsonObject (platform : Platform J) (bytes : Bytes) : Except Thrown J :=
  let bodyText := if bytes.isEmpty then utf16 "\x7b\x7d" else textDecode bytes
  match platform.jsonParse bodyText with
  | none => .error .jsonSyntax
  | some parsed =>
      if platform.isJsonObject parsed then .ok parsed
      else throwProtocolError "Control frame bodies must be JSON objects."

def parseControlFrame (headers : Headers) (body : J) : Except Thrown (Frame J) :=
  match headers (utf16 "event") with
  | none => throwProtocolError "Control frames require an Event header."
  | some event =>
      match h : KnownProtocolEvent.ofText event with
      | some .init => do
          let authorization := (headers (utf16 "authorization")).getD []
          let bufferWindow ← parseNumber headers (utf16 "buffer-window")
          let sessionId := headers (utf16 "session-id")
          return .init { authorization, bufferWindow, sessionId } body
      | some .initAck =>
          match headers (utf16 "session-id") with
          | none => throwProtocolError "culpeo.init-ack requires Session-Id."
          | some sessionId => do
              let bufferWindow ← parseNumber headers (utf16 "buffer-window")
              return .initAck { sessionId, bufferWindow } body
      | some .initError =>
          match headers (utf16 "code"), headers (utf16 "reason") with
          | some code, some reason => .ok (.initError code reason body)
          | _, _ => throwProtocolError "culpeo.init-error requires Code and Reason."
      | some .ping => .ok (.ping body)
      | some .pong => .ok (.pong body)
      | some .authRefresh => .ok (.authRefresh body)
      | some .authResponse => .ok (.authResponse ((headers (utf16 "authorization")).getD []) body)
      | some .close =>
          match headers (utf16 "code"), headers (utf16 "reason") with
          | some code, some reason => .ok (.close code reason body)
          | _, _ => throwProtocolError "culpeo.close requires Code and Reason."
      | none =>
          let contentType := headers (utf16 "content-type")
          let streamId := headers (utf16 "stream-id")
          .ok (.application
            { event, headers := { event, contentType, streamId }, body, unknown := h })

def parseMediaFrame (headers : Headers) (body : Bytes) : Except Thrown (Frame J) := do
  let streamId := headers (utf16 "stream-id")
  let offset ← parseNumber headers (utf16 "offset")
  let contentType := headers (utf16 "content-type")
  match streamId, offset, contentType with
  | some streamId, some offset, some contentType =>
      let timestamp ← parseNumber headers (utf16 "timestamp")
      return .media { streamId, offset, contentType, timestamp } body
  | _, _, _ =>
      throwProtocolError "Media frames require Stream-Id, Offset, and Content-Type headers."

inductive TransportMessageType where
  | text
  | binary
  deriving DecidableEq, Repr

/-- What `parseFrame` takes and `serializeFrame` gives: a string or bytes. -/
inductive FrameData where
  | text (data : Text)
  | binary (data : Bytes)
  deriving DecidableEq, Repr

namespace FrameData

def toUint8Array : FrameData → Bytes
  | text data => Utf8.encode data
  | binary data => data

def frameType : FrameData → TransportMessageType
  | text _ => .text
  | binary _ => .binary

end FrameData

/-- `parseFrame`, behind the extraction of the headers. -/
def parseBody (platform : Platform J) (headers : Headers) (bodyBytes : Bytes)
    (frameType : TransportMessageType) : Except Thrown (Frame J) :=
  match frameType with
  | .binary => parseMediaFrame headers bodyBytes
  | .text => do parseControlFrame headers (← parseJsonObject platform bodyBytes)

def parseFrame (platform : Platform J) (input : FrameData) (frameType : TransportMessageType)
    (parseLimits : ParseLimits) : Except Thrown (Frame J) := do
  let bytes := input.toUint8Array
  let (headers, bodyOffset) ← extractHeaders platform.toRuntime bytes parseLimits
  parseBody platform headers (bytes.drop bodyOffset) frameType

/-! ### Serializing -/

/-- A header that is written when there is a value for it. -/
def optionalHeader (name : Text) (value : Option Text) : List TextHeader :=
  match value with
  | none => []
  | some value => [⟨name, value⟩]

def jsonContentType : TextHeader := ⟨utf16 "Content-Type", utf16 "application/json"⟩

def eventHeader (event : KnownProtocolEvent) : TextHeader := ⟨utf16 "Event", event.text⟩

/-- `String` of a number. -/
def stringOf (n : ℤ) : Text := Numeral.decimalInt n

def frameToHeaders : Frame J → List TextHeader
  | .media headers _ =>
      [⟨utf16 "Stream-Id", headers.streamId⟩, ⟨utf16 "Offset", stringOf headers.offset⟩,
        ⟨utf16 "Content-Type", headers.contentType⟩]
        ++ optionalHeader (utf16 "Timestamp") (headers.timestamp.map stringOf)
  | .init headers _ =>
      [eventHeader .init, ⟨utf16 "Authorization", headers.authorization⟩, jsonContentType]
        ++ optionalHeader (utf16 "Session-Id") headers.sessionId
        ++ optionalHeader (utf16 "Buffer-Window") (headers.bufferWindow.map stringOf)
  | .initAck headers _ =>
      [eventHeader .initAck, ⟨utf16 "Session-Id", headers.sessionId⟩, jsonContentType]
        ++ optionalHeader (utf16 "Buffer-Window") (headers.bufferWindow.map stringOf)
  | .initError code reason _ =>
      [eventHeader .initError, ⟨utf16 "Code", code⟩, ⟨utf16 "Reason", reason⟩]
  | .ping _ => [eventHeader .ping, jsonContentType]
  | .pong _ => [eventHeader .pong, jsonContentType]
  | .authRefresh _ => [eventHeader .authRefresh, jsonContentType]
  | .authResponse authorization _ =>
      [eventHeader .authResponse, ⟨utf16 "Authorization", authorization⟩, jsonContentType]
  | .close code reason _ =>
      [eventHeader .close, ⟨utf16 "Code", code⟩, ⟨utf16 "Reason", reason⟩]
  | .application message =>
      [⟨utf16 "Event", message.event⟩]
        ++ optionalHeader (utf16 "Stream-Id") message.headers.streamId
        ++ optionalHeader (utf16 "Content-Type") message.headers.contentType

def serializeTextFrame (platform : Platform J) (frame : Frame J) (body : J) : FrameData :=
  .text ((frameToHeaders frame).flatMap TextHeader.line ++ utf16 "\r\n"
    ++ platform.jsonStringify body)

/-- `serializeRawFrame` without a backend. -/
def serializeRawFrame (headerPairs : List TextHeader) (body : Bytes) : Bytes :=
  Utf8.encode (headerPairs.flatMap TextHeader.line ++ utf16 "\r\n") ++ body

def serializeFrame (platform : Platform J) (frame : Frame J) : FrameData :=
  match frame with
  | .media _ body => .binary (serializeRawFrame (frameToHeaders frame) body)
  | .init _ body | .initAck _ body | .initError _ _ body | .ping body | .pong body
  | .authRefresh body | .authResponse _ body | .close _ _ body =>
      serializeTextFrame platform frame body
  | .application message => serializeTextFrame platform frame message.body

end CulpeoStream.Typescript
