import CulpeoStream.Dotnet.Session
import CulpeoStream.Lib.Numeral
import CulpeoStream.Lib.Utf8
import CulpeoStream.Message.Grammar

/-!
# `CulpeoMessageParser.cs` and `CulpeoMessageSerializer.cs`

The codec of the C# library.  The local variables of `ParseAsync` are the fields of the
message under construction; the ten members of its `ReservedHeader` are those of
`Message.Reserved`.

Limits are natural numbers; the search limit is computed without overflow.  A number is read
with `NumberStyles.Integer` and the invariant culture: white space, a sign, digits, white
space, and then zero characters.
-/

namespace CulpeoStream.Dotnet

open Message Search Utf16

structure ParseLimits where
  maxHeaderBlockSize : ℕ := 8192
  maxHeaderCount : ℕ := 64
  maxHeaderNameLength : ℕ := 256
  maxHeaderValueLength : ℕ := 4096

/-- What `ParseAsync` throws. -/
inductive ParseExn where
  | format (message : Text)
  | overflow (message : Text)
  deriving DecidableEq, Repr

/-! ### Headers -/

/-- `Ascii.EqualsIgnoreCase`: bytes that are not ASCII equal nothing. -/
def equalsIgnoreCaseAscii (left right : Bytes) : Bool :=
  left.all (· < 0x80) && right.all (· < 0x80) && iequalsAscii left right

def tryMapHeader (name : Bytes) : Option Reserved :=
  kReservedHeaderNames.find? fun header => equalsIgnoreCaseAscii name header.headerName

/-- The name of the member of `ReservedHeader`. -/
def memberName : Reserved → Text
  | .event => utf16 "Event"
  | .contentType => utf16 "ContentType"
  | .authorization => utf16 "Authorization"
  | .sessionId => utf16 "SessionId"
  | .streamId => utf16 "StreamId"
  | .offset => utf16 "Offset"
  | .timestamp => utf16 "Timestamp"
  | .bufferWindow => utf16 "BufferWindow"
  | .reason => utf16 "Reason"
  | .code => utf16 "Code"

/-- A byte in the format `X2`. -/
def hexByte (b : UInt8) : Text :=
  [b.toNat / 16, b.toNat % 16].map fun d => (if d < 10 then 48 + d else 55 + d).toUInt16

def isForbidden (b : UInt8) : Bool := b == ch '\r' || b == ch '\n' || b == 0

def validateNoForbiddenBytes (span : Bytes) (fieldKind : Text) : Except ParseExn Unit :=
  match span.find? isForbidden with
  | none => .ok ()
  | some forbiddenByte => .error (.format (utf16 "Header " ++ fieldKind
      ++ utf16 " contains forbidden byte 0x" ++ hexByte forbiddenByte ++ utf16 "."))

/-! ### Numbers -/

/-- The white space around a number. -/
def isNumberSpace (c : UInt16) : Bool := (0x0009 ≤ c && c ≤ 0x000D) || c == 0x0020

/-- The integer that a text denotes, if it has the form of one. -/
def integerOf (value : Text) : Option ℤ :=
  match value.dropWhile isNumberSpace with
  | [] => none
  | c :: rest =>
      let unsigned := if c = unit '+' ∨ c = unit '-' then rest else c :: rest
      let digits := unsigned.takeWhile Numeral.isDigit
      let tail := (unsigned.dropWhile Numeral.isDigit).dropWhile isNumberSpace
      if digits.isEmpty || !tail.all (· == 0) then none
      else some (if c = unit '-' then -(Numeral.natValue digits : ℤ) else Numeral.natValue digits)

/-- The integer in a range of the form `-bound ≤ n < bound`. -/
def parseInteger (bound : ℤ) (type : Text) (decoded : Text) : Except ParseExn ℤ :=
  match integerOf decoded with
  | none => .error (.format (utf16 "The input string '" ++ decoded
      ++ utf16 "' was not in a correct format."))
  | some n =>
      if -bound ≤ n ∧ n < bound then .ok n
      else .error (.overflow (utf16 "Value was either too large or too small for an " ++ type
        ++ utf16 "."))

/-- `long.Parse`. -/
def parseLong (decoded : Text) : Except ParseExn Int64 :=
  (parseInteger (2 ^ 63) (utf16 "Int64") decoded).map Int64.ofInt

/-- `int.Parse`. -/
def parseInt (decoded : Text) : Except ParseExn Int32 :=
  (parseInteger (2 ^ 31) (utf16 "Int32") decoded).map Int32.ofInt

/-! ### `ParseAsync` -/

/-- The `switch` on the header. -/
def assignHeader (message : CulpeoMessage) (header : Reserved) (decoded : Text) :
    Except ParseExn CulpeoMessage :=
  match header with
  | .event => .ok { message with event := some decoded }
  | .contentType => .ok { message with contentType := some decoded }
  | .authorization => .ok { message with authorization := some decoded }
  | .sessionId => .ok { message with sessionId := some decoded }
  | .streamId => .ok { message with streamId := some decoded }
  | .offset => (parseLong decoded).map fun n => { message with offset := some n }
  | .timestamp => (parseLong decoded).map fun n => { message with timestamp := some n }
  | .bufferWindow => (parseInt decoded).map fun n => { message with bufferWindow := some n }
  | .reason => .ok { message with reason := some decoded }
  | .code => .ok { message with code := some decoded }

structure ParseState where
  message : CulpeoMessage
  seenHeaders : List Reserved := []
  headerCount : ℕ := 0

/-- One turn of the line loop, once the line is cut out. -/
def parseLine (limits : ParseLimits) (line : Bytes) (state : ParseState) :
    Except ParseExn ParseState :=
  if line.isEmpty then .ok state
  else
    let headerCount := state.headerCount + 1
    if limits.maxHeaderCount < headerCount then
      .error (.format (utf16 "Frame exceeds maximum header count of "
        ++ Numeral.decimal limits.maxHeaderCount ++ utf16 "."))
    else
      match find [ch ':'] line with
      | none | some 0 => .error (.format (utf16 "Frame header is malformed."))
      | some colonIndex => do
          let name := line.take colonIndex
          let value := trimAscii (line.drop (colonIndex + 1))
          if limits.maxHeaderNameLength < name.length then
            throw (.format (utf16 "Header name exceeds maximum length of "
              ++ Numeral.decimal limits.maxHeaderNameLength ++ utf16 "."))
          if limits.maxHeaderValueLength < value.length then
            throw (.format (utf16 "Header value exceeds maximum length of "
              ++ Numeral.decimal limits.maxHeaderValueLength ++ utf16 "."))
          validateNoForbiddenBytes name (utf16 "name")
          validateNoForbiddenBytes value (utf16 "value")
          match tryMapHeader name with
          | none => return { state with headerCount }
          | some header =>
              if header ∈ state.seenHeaders then
                throw (.format (utf16 "Duplicate reserved header: " ++ memberName header
                  ++ utf16 "."))
              let message ← assignHeader state.message header (Utf8.decode value)
              return { message, seenHeaders := header :: state.seenHeaders, headerCount }

def parseLines (limits : ParseLimits) (headerBlock : Bytes) :
    ℕ → ℕ → ParseState → Except ParseExn ParseState
  | 0, _, state => .ok state
  | fuel + 1, start, state =>
      if start < headerBlock.length then
        let remaining := headerBlock.drop start
        let lineLength := (find crlf remaining).getD remaining.length
        match parseLine limits (remaining.take lineLength) state with
        | .error e => .error e
        | .ok state => parseLines limits headerBlock fuel (start + (lineLength + 2)) state
      else .ok state

def parseAsync (limits : ParseLimits) (frameBytes : Bytes) (kind : CulpeoMessageKind) :
    Except ParseExn CulpeoMessage :=
  let searchSpan :=
    if limits.maxHeaderBlockSize + 4 < frameBytes.length then
      frameBytes.take (limits.maxHeaderBlockSize + 4)
    else frameBytes
  match find crlfcrlf searchSpan with
  | none => .error (.format
      (if limits.maxHeaderBlockSize < frameBytes.length then
        utf16 "Header block exceeds maximum size."
      else utf16 "Frame header terminator was not found."))
  | some terminatorIndex =>
      if limits.maxHeaderBlockSize < terminatorIndex then
        .error (.format (utf16 "Header block exceeds maximum size."))
      else
        let headerBlock := frameBytes.take terminatorIndex
        let body := frameBytes.drop (terminatorIndex + 4)
        (parseLines limits headerBlock headerBlock.length 0 { message := { kind, body } }).map
          ParseState.message

/-! ### `SerializeAsync` -/

/-- `AppendHeader`, which skips a null or empty value. -/
def appendHeader (builder : Text) (name : Text) (value : Option Text) : Text :=
  if (value.getD []).isEmpty then builder
  else builder ++ name ++ utf16 ": " ++ value.getD [] ++ utf16 "\r\n"

def serializeAsync (frame : CulpeoMessage) : Bytes :=
  let body := if frame.kind = .control ∧ frame.body = [] then ascii "\x7b\x7d" else frame.body
  let builder : Text := []
  let builder := appendHeader builder (utf16 "Event") frame.event
  let builder := appendHeader builder (utf16 "Content-Type") frame.contentType
  let builder := appendHeader builder (utf16 "Authorization") frame.authorization
  let builder := appendHeader builder (utf16 "Session-Id") frame.sessionId
  let builder := appendHeader builder (utf16 "Stream-Id") frame.streamId
  let builder := match frame.offset with
    | none => builder
    | some offset => appendHeader builder (utf16 "Offset") (some (Numeral.decimalInt offset.toInt))
  let builder := match frame.timestamp with
    | none => builder
    | some timestamp =>
        appendHeader builder (utf16 "Timestamp") (some (Numeral.decimalInt timestamp.toInt))
  let builder := match frame.bufferWindow with
    | none => builder
    | some bufferWindow =>
        appendHeader builder (utf16 "Buffer-Window") (some (Numeral.decimalInt bufferWindow.toInt))
  let builder := appendHeader builder (utf16 "Reason") frame.reason
  let builder := appendHeader builder (utf16 "Code") frame.code
  Utf8.encode (builder ++ utf16 "\r\n") ++ body

end CulpeoStream.Dotnet
