import Mathlib.Algebra.Group.Nat.Defs
import CulpeoStream.Lib.Search
import CulpeoStream.Message.Chars

/-!
# The frame codec of `libculpeo-message`

`parseHeaders` and `serializeFrame` follow `message.cpp`: the truncated search
for the terminator, the line loop with its cursor `lineStart` and its counter
`headerCount`, the dispatch of a line to one of the ten reserved slots, and the
encoder that writes into a caller's buffer.

The loop carries a fuel argument; `parseHeaders` starts it with the size of the
header block, and since every turn moves `lineStart` by at least two the loop
always ends by its own condition.

`size_t` is the 64-bit one of the hosts that run the session layer.  The only
addition of the decoder that can leave its range is the one on the configured
limit, and it is written with its wrap-around.
-/

namespace CulpeoStream.Message

open Search

inductive FrameType where
  | control
  | media
  deriving DecidableEq, Repr

inductive Error where
  | missingHeaderTerminator
  | headerBlockTooLarge
  | invalidHeaderLine
  | invalidHeaderName
  | invalidHeaderValue
  | duplicateHeader
  | invalidContentType
  | invalidNumericParameter
  | missingContentTypeParameter
  | bufferTooSmall
  deriving DecidableEq, Repr

structure ParseLimits where
  maxHeaderBlockBytes : ℕ := 8192
  maxHeaderValueBytes : ℕ := 4096
  maxHeaderCount : ℕ := 64
  deriving DecidableEq, Repr

/-- `HeaderFieldView`. -/
structure HeaderField where
  name : Bytes
  value : Bytes
  deriving DecidableEq, Repr

/-- The reserved headers, in the order of `kReservedHeaderNames`. -/
inductive Reserved where
  | event
  | contentType
  | authorization
  | sessionId
  | streamId
  | offset
  | timestamp
  | bufferWindow
  | reason
  | code
  deriving DecidableEq, Repr

def Reserved.headerName : Reserved → Bytes
  | .event => ascii "Event"
  | .contentType => ascii "Content-Type"
  | .authorization => ascii "Authorization"
  | .sessionId => ascii "Session-Id"
  | .streamId => ascii "Stream-Id"
  | .offset => ascii "Offset"
  | .timestamp => ascii "Timestamp"
  | .bufferWindow => ascii "Buffer-Window"
  | .reason => ascii "Reason"
  | .code => ascii "Code"

def kReservedHeaderNames : List Reserved :=
  [.event, .contentType, .authorization, .sessionId, .streamId, .offset, .timestamp,
    .bufferWindow, .reason, .code]

structure ParsedHeadersView where
  frameType : FrameType
  frame : Bytes
  headerBlock : Bytes
  body : Bytes
  event : Option Bytes := none
  contentType : Option Bytes := none
  authorization : Option Bytes := none
  sessionId : Option Bytes := none
  streamId : Option Bytes := none
  offset : Option Bytes := none
  timestamp : Option Bytes := none
  bufferWindow : Option Bytes := none
  reason : Option Bytes := none
  code : Option Bytes := none
  deriving DecidableEq, Repr

namespace ParsedHeadersView

/-- The slot that `set_if_reserved` picks for a reserved header. -/
def slot (parsed : ParsedHeadersView) : Reserved → Option Bytes
  | .event => parsed.event
  | .contentType => parsed.contentType
  | .authorization => parsed.authorization
  | .sessionId => parsed.sessionId
  | .streamId => parsed.streamId
  | .offset => parsed.offset
  | .timestamp => parsed.timestamp
  | .bufferWindow => parsed.bufferWindow
  | .reason => parsed.reason
  | .code => parsed.code

def setSlot (parsed : ParsedHeadersView) (value : Bytes) : Reserved → ParsedHeadersView
  | .event => { parsed with event := some value }
  | .contentType => { parsed with contentType := some value }
  | .authorization => { parsed with authorization := some value }
  | .sessionId => { parsed with sessionId := some value }
  | .streamId => { parsed with streamId := some value }
  | .offset => { parsed with offset := some value }
  | .timestamp => { parsed with timestamp := some value }
  | .bufferWindow => { parsed with bufferWindow := some value }
  | .reason => { parsed with reason := some value }
  | .code => { parsed with code := some value }

@[simp] theorem slot_setSlot (parsed : ParsedHeadersView) (value : Bytes) (r q : Reserved) :
    (parsed.setSlot value r).slot q = if q = r then some value else parsed.slot q := by
  cases r <;> cases q <;> rfl

@[simp] theorem setSlot_frameType (parsed : ParsedHeadersView) (value : Bytes)
    (r : Reserved) : (parsed.setSlot value r).frameType = parsed.frameType := by
  cases r <;> rfl

@[simp] theorem setSlot_frame (parsed : ParsedHeadersView) (value : Bytes)
    (r : Reserved) : (parsed.setSlot value r).frame = parsed.frame := by
  cases r <;> rfl

@[simp] theorem setSlot_headerBlock (parsed : ParsedHeadersView) (value : Bytes)
    (r : Reserved) : (parsed.setSlot value r).headerBlock = parsed.headerBlock := by
  cases r <;> rfl

@[simp] theorem setSlot_body (parsed : ParsedHeadersView) (value : Bytes)
    (r : Reserved) : (parsed.setSlot value r).body = parsed.body := by
  cases r <;> rfl

end ParsedHeadersView

/-- Line separator. -/
def crlf : Bytes := [ch '\r', ch '\n']

/-- Header terminator. -/
def crlfcrlf : Bytes := [ch '\r', ch '\n', ch '\r', ch '\n']

/-! ### Decoding -/

/-- The first reserved header whose name is the given one up to ASCII case. -/
def reservedOf (name : Bytes) : Option Reserved :=
  kReservedHeaderNames.find? fun r => iequalsAscii name r.headerName

def setIfReserved (name value : Bytes) (parsed : ParsedHeadersView) :
    Except Error ParsedHeadersView :=
  match reservedOf name with
  | none => .ok parsed
  | some r =>
      if (parsed.slot r).isSome then .error .duplicateHeader
      else .ok (parsed.setSlot value r)

/-- One turn of the line loop, once the line is cut out. -/
def parseLine (limits : ParseLimits) (line : Bytes) (parsed : ParsedHeadersView) :
    Except Error ParsedHeadersView :=
  if line.isEmpty then .error .invalidHeaderLine
  else
    match find [ch ':'] line with
    | none => .error .invalidHeaderLine
    | some separator =>
        let name := line.take separator
        let value := trimAscii (line.drop (separator + 1))
        if !validHeaderName name then .error .invalidHeaderName
        else if limits.maxHeaderValueBytes < value.length || !validHeaderValue value then
          .error .invalidHeaderValue
        else setIfReserved name value parsed

def parseLines (limits : ParseLimits) (headerBlock : Bytes) :
    ℕ → ℕ → ℕ → ParsedHeadersView → Except Error ParsedHeadersView
  | 0, _, _, parsed => .ok parsed
  | fuel + 1, lineStart, headerCount, parsed =>
      if lineStart < headerBlock.length then
        if limits.maxHeaderCount ≤ headerCount then .error .headerBlockTooLarge
        else
          let lineEnd := ((find crlf (headerBlock.drop lineStart)).map (· + lineStart)).getD
            headerBlock.length
          let line := (headerBlock.drop lineStart).take (lineEnd - lineStart)
          match parseLine limits line parsed with
          | .error e => .error e
          | .ok parsed => parseLines limits headerBlock fuel (lineEnd + 2) (headerCount + 1) parsed
      else .ok parsed

def parseHeaders (frameType : FrameType) (frame : Bytes) (limits : ParseLimits) :
    Except Error ParsedHeadersView :=
  let searchLimit := (limits.maxHeaderBlockBytes + 4) % 2 ^ 64
  let searchLength := if frame.length < searchLimit then frame.length else searchLimit
  match find crlfcrlf (frame.take searchLength) with
  | none =>
      if limits.maxHeaderBlockBytes < frame.length then .error .headerBlockTooLarge
      else .error .missingHeaderTerminator
  | some terminator =>
      if limits.maxHeaderBlockBytes < terminator then .error .headerBlockTooLarge
      else
        let headerBlock := frame.take terminator
        parseLines limits headerBlock headerBlock.length 0 0
          { frameType, frame, headerBlock, body := frame.drop (terminator + 4) }

/-! ### Encoding -/

def serializedFrameSize (headers : List HeaderField) (bodySize : ℕ) : ℕ :=
  headers.foldl (fun size header => size + (header.name.length + 2 + header.value.length + 2))
    (2 + bodySize)

/-- The caller's buffer and the write cursor of `serialize_frame_to_buffer`. -/
structure Writer where
  output : Bytes
  cursor : ℕ
  deriving DecidableEq, Repr

/-- `write_bytes`: copy `data` to the cursor and move past it. -/
def Writer.writeBytes (w : Writer) (data : Bytes) : Writer where
  output := w.output.take w.cursor ++ data ++ w.output.drop (w.cursor + data.length)
  cursor := w.cursor + data.length

def writeHeaders : List HeaderField → Writer → Except Error Writer
  | [], w => .ok w
  | header :: rest, w =>
      if !validHeaderName header.name then .error .invalidHeaderName
      else if !validHeaderValue header.value then .error .invalidHeaderValue
      else
        writeHeaders rest
          ((((w.writeBytes header.name).writeBytes (ascii ": ")).writeBytes
            header.value).writeBytes crlf)

/-- The buffer and the number of bytes written.  The source reports the frame type
only to refuse values outside the enumeration. -/
def serializeFrameToBuffer (_frameType : FrameType) (headers : List HeaderField)
    (body : Bytes) (output : Bytes) : Except Error Writer :=
  let required := serializedFrameSize headers body.length
  if output.length < required then .error .bufferTooSmall
  else
    match writeHeaders headers { output, cursor := 0 } with
    | .error e => .error e
    | .ok w =>
        let w := w.writeBytes crlf
        .ok (if body.isEmpty then w else w.writeBytes body)

def serializeFrame (frameType : FrameType) (headers : List HeaderField) (body : Bytes) :
    Except Error Bytes :=
  let output := List.replicate (serializedFrameSize headers body.length) 0
  match serializeFrameToBuffer frameType headers body output with
  | .error e => .error e
  | .ok w => .ok (w.output.take w.cursor)

end CulpeoStream.Message
