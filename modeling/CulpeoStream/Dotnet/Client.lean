import CulpeoStream.Dotnet.Init

/-!
# Offsets in `CulpeoStreamClient`

How far a frame moves the offset of a stream in the client.  The client reads the parameters of
a PCM stream itself, and it refuses nothing: where it cannot read them it counts octets.
-/

namespace CulpeoStream.Dotnet

open Utf16

/-- `ClientStreamState`, as far as its offsets go. -/
structure ClientStreamState where
  offsetType : OffsetType
  pcmBytesPerSample : Option Int32 := none
  deriving DecidableEq, Repr

/-- A parameter that `int.TryParse` reads. -/
def pcmParam (rt : Runtime) (parsed : ParsedContentType) (name : Text) : Option ℤ :=
  (tryGetValue rt parsed.parameters name).bind tryParseInt

def computePcmBytesPerSample (rt : Runtime) (contentType : Text) (offsetType : OffsetType) :
    Option Int32 :=
  if offsetType ≠ .time then none
  else
    match tryParseContentType rt contentType with
    | none => none
    | some parsed =>
        if !equalsIgnoreCase rt parsed.mediaType (utf16 "audio/pcm") then none
        else
          match pcmParam rt parsed (utf16 "channels"), pcmParam rt parsed (utf16 "bits") with
          | some channels, some bits =>
              if channels ≤ 0 ∨ bits ≤ 0 then none
              -- The product is not checked.
              else some (Int32.ofInt (channels * (bits / 8)))
          | _, _ => none

/-- The stream of a client for a declaration. -/
def ClientStreamState.create (rt : Runtime) (contentType : Text) (offsetType : OffsetType) :
    ClientStreamState :=
  { offsetType, pcmBytesPerSample := computePcmBytesPerSample rt contentType offsetType }

def computeOffsetIncrement (stream : ClientStreamState) (payloadLength : ℕ) : ℕ :=
  match stream.offsetType with
  | .message => 1
  | .byte => payloadLength
  | .time =>
      match stream.pcmBytesPerSample with
      | some n => if 0 < n.toInt then payloadLength / n.toInt.toNat else payloadLength
      | none => payloadLength

end CulpeoStream.Dotnet
