import CulpeoStream.Message.Headers

/-!
# Content types in `libculpeo-message`

`parse_content_type` and the decimal readers it uses.  The parameter loop of the
source moves a cursor from one semicolon to the next and stops when the cursor
reaches the end of the value; `segments` lists the stretches such a loop visits,
so an empty last stretch is not among them.
-/

namespace CulpeoStream.Message

open Search

/-- The stretches visited by `while (cursor < size)` with the cursor jumping behind
the next separator: the pieces between separators, without an empty last one. -/
def segments (sep : UInt8) (value : Bytes) : List Bytes :=
  let pieces := splitOn [sep] value
  if pieces.getLast? = some [] then pieces.dropLast else pieces

def parseU32 (value : Bytes) : Except Error UInt32 :=
  if value.isEmpty then .error .invalidNumericParameter
  -- Leading zeros, as in "016000", are refused.
  else if 1 < value.length ∧ value.head? = some (ch '0') then .error .invalidContentType
  else go value 0
where
  go : Bytes → UInt32 → Except Error UInt32
    | [], parsed => .ok parsed
    | c :: rest, parsed =>
        if c < ch '0' ∨ ch '9' < c then .error .invalidNumericParameter
        else
          let digit := (c - ch '0').toUInt32
          if (0xFFFFFFFF - digit) / 10 < parsed then .error .invalidNumericParameter
          else go rest (parsed * 10 + digit)

def parseU16 (value : Bytes) : Except Error UInt16 :=
  match parseU32 value with
  | .error e => .error e
  | .ok parsed =>
      if 0xFFFF < parsed then .error .invalidNumericParameter else .ok parsed.toUInt16

structure AudioPcmContentType where
  rate : UInt32
  channels : UInt16
  bits : UInt16
  deriving DecidableEq, Repr

inductive ParsedContentType where
  | applicationJson
  | audioPcm (pcm : AudioPcmContentType)
  | audioOpus
  | audioAac
  | unknown (type subtype : Bytes)
  deriving DecidableEq, Repr

/-- The optional parameters collected by the loop. -/
structure PcmParameters where
  rate : Option UInt32 := none
  channels : Option UInt16 := none
  bits : Option UInt16 := none
  deriving DecidableEq, Repr

/-- One turn of the parameter loop. -/
def pcmParameter (acc : PcmParameters) (segment : Bytes) : Except Error PcmParameters :=
  let parameter := trimAscii segment
  if parameter.isEmpty then .error .invalidContentType
  else
    match find [ch '='] parameter with
    | none => .error .invalidContentType
    | some eq =>
        let key := trimAscii (parameter.take eq)
        let numericValue := trimAscii (parameter.drop (eq + 1))
        if !validHeaderName key then .error .invalidContentType
        else if iequalsAscii key (ascii "rate") then
          if acc.rate.isSome then .error .invalidContentType
          else (parseU32 numericValue).map fun n => { acc with rate := some n }
        else if iequalsAscii key (ascii "channels") then
          if acc.channels.isSome then .error .invalidContentType
          else (parseU16 numericValue).map fun n => { acc with channels := some n }
        else if iequalsAscii key (ascii "bits") then
          if acc.bits.isSome then .error .invalidContentType
          else (parseU16 numericValue).map fun n => { acc with bits := some n }
        else .ok acc

/-- The semantic constraints on the collected parameters. -/
def PcmParameters.finish (p : PcmParameters) : Except Error ParsedContentType :=
  match p.rate, p.channels, p.bits with
  | some rate, some channels, some bits =>
      if channels = 0 then .error .invalidContentType
      else if bits = 0 ∨ bits % 8 ≠ 0 then .error .invalidContentType
      else .ok (.audioPcm { rate, channels, bits })
  | _, _, _ => .error .missingContentTypeParameter

def parseContentType (raw : Bytes) : Except Error ParsedContentType :=
  let value := trimAscii raw
  if value.isEmpty then .error .invalidContentType
  else
    let firstSeparator := find [ch ';'] value
    let mediaType := trimAscii (value.take (firstSeparator.getD value.length))
    match find [ch '/'] mediaType with
    | none => .error .invalidContentType
    | some slash =>
        let type := trimAscii (mediaType.take slash)
        let subtype := trimAscii (mediaType.drop (slash + 1))
        if !validHeaderName type || !validHeaderName subtype then .error .invalidContentType
        else if iequalsAscii type (ascii "application") && iequalsAscii subtype (ascii "json") then
          .ok .applicationJson
        else if iequalsAscii type (ascii "audio") && iequalsAscii subtype (ascii "opus") then
          .ok .audioOpus
        else if iequalsAscii type (ascii "audio") && iequalsAscii subtype (ascii "aac") then
          .ok .audioAac
        else if !iequalsAscii type (ascii "audio") || !iequalsAscii subtype (ascii "pcm") then
          .ok (.unknown type subtype)
        else
          let cursor := (firstSeparator.map (· + 1)).getD value.length
          match (segments (ch ';') (value.drop cursor)).foldlM pcmParameter {} with
          | .error e => .error e
          | .ok p => p.finish

end CulpeoStream.Message
