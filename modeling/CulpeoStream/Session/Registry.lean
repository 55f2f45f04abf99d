import CulpeoStream.Lib.Table
import CulpeoStream.Message.ContentType
import CulpeoStream.Session.OffsetTracker

/-!
# The stream registry

`stream_registry.cpp`.  The `unordered_map` from ids to streams is a list of
streams in which `emplace` keeps the first stream of an id; the order in which the
map is iterated is unspecified, and nothing below depends on the order of the list
except the text of an init-ack.

The lemmas at the end say what an update of one stream does to the lookup of
another, which is all the session needs to know about the map.
-/

namespace CulpeoStream.Session

open Message

def parseStreamDirection (s : Bytes) : Option StreamDirection :=
  if s = ascii "input" then some .input
  else if s = ascii "output" then some .output
  else if s = ascii "duplex" then some .duplex
  else none

def streamDirectionToString : StreamDirection → Bytes
  | .input => ascii "input"
  | .output => ascii "output"
  | .duplex => ascii "duplex"

def parseOffsetType (s : Bytes) : Option OffsetType :=
  if s = ascii "time" then some .time
  else if s = ascii "byte" then some .byte
  else if s = ascii "message" then some .message
  else none

def offsetTypeToString : OffsetType → Bytes
  | .time => ascii "time"
  | .byte => ascii "byte"
  | .message => ascii "message"

def codecFromContentType (ct : Bytes) : StreamCodec :=
  match parseContentType ct with
  | .ok (.audioPcm _) => .pcm
  | .ok .audioOpus => .opus
  | .ok .audioAac => .aac
  | _ => .other

def hexChar (nibble : UInt8) : UInt8 :=
  (ascii "0123456789abcdef").getD nibble.toNat 0

/-- Lower-case hexadecimal text of a buffer. -/
def bytesToHex (bytes : Bytes) : Bytes :=
  bytes.flatMap fun b : UInt8 => [hexChar ((b >>> 4) &&& 0x0f), hexChar (b &&& 0x0f)]

/-- `generate_csprng_id` on the `k`-th draw of the call. -/
def generateCsprngId (amb : Ambient) (k lenBytes : ℕ) : Except Error Bytes :=
  match amb.secureRandom k (min lenBytes 32) with
  | none => .error .transportError
  | some buf => .ok (bytesToHex buf)

/-! ### Validation of declarations -/

/-- The two checks made on one direction when it occurs more than once. -/
def purposesValid (purposes : List Bytes) : Bool :=
  purposes.length ≤ 1 || (purposes.all (fun p => !p.isEmpty) && purposes.Nodup)

def validateDeclarations (decls : List StreamDeclaration) (maxStreams : UInt32) :
    Except Error Unit :=
  if decls.isEmpty then .error .invalidStreams
  else if maxStreams.toNat < decls.length then .error .maxStreamsExceeded
  else if decls.any fun decl => decl.contentType.isEmpty || decl.offsetType.isNone then
    .error .invalidStreams
  else if [StreamDirection.input, .output, .duplex].all fun dir =>
      purposesValid ((decls.filter fun decl => decl.direction = dir).map (·.purpose)) then .ok ()
  else .error .invalidStreams

/-! ### The map -/

structure StreamRegistry where
  maxStreams : UInt32
  streams : List StreamInfo := []
  deriving DecidableEq, Repr

namespace StreamRegistry

def find (reg : StreamRegistry) (id : Bytes) : Option StreamInfo :=
  reg.streams.find? fun s => s.id = id

/-- `streams_.emplace`: a second stream of the same id is dropped. -/
def emplace (reg : StreamRegistry) (info : StreamInfo) : StreamRegistry :=
  if (reg.find info.id).isSome then reg else { reg with streams := reg.streams ++ [info] }

/-- Write through the pointer returned by `find_mutable`. -/
def update (reg : StreamRegistry) (info : StreamInfo) : StreamRegistry :=
  { reg with streams := reg.streams.map fun s => if s.id = info.id then info else s }

def snapshot (reg : StreamRegistry) : List StreamInfo := reg.streams

def clear (reg : StreamRegistry) : StreamRegistry := { reg with streams := [] }

/-- The stream registered for a declaration under a fresh id. -/
def infoOfDeclaration (decl : StreamDeclaration) (id : Bytes) : StreamInfo where
  id := id
  contentType := decl.contentType
  direction := decl.direction
  purpose := decl.purpose
  offset := 0
  codec := codecFromContentType decl.contentType
  offsetType := decl.offsetType.getD .message
  pcmParams :=
    match parseContentType decl.contentType with
    | .ok (.audioPcm pcm) => some { rate := pcm.rate, channels := pcm.channels, bits := pcm.bits }
    | _ => none

/-- The loop of `register_from_declarations` from draw `k` on, with the registry as
it stands when the loop ends or fails. -/
def registerFrom (amb : Ambient) :
    ℕ → List StreamDeclaration → StreamRegistry → Except Error Unit × StreamRegistry
  | _, [], reg => (.ok (), reg)
  | k, decl :: rest, reg =>
      match generateCsprngId amb k 8 with
      | .error e => (.error e, reg)
      | .ok id => registerFrom amb (k + 1) rest (reg.emplace (infoOfDeclaration decl id))

def registerFromDeclarations (reg : StreamRegistry) (amb : Ambient)
    (decls : List StreamDeclaration) : Except Error Unit × StreamRegistry :=
  registerFrom amb 0 decls reg.clear

def registerFromPersisted (reg : StreamRegistry) (persisted : List StreamInfo) :
    StreamRegistry :=
  persisted.foldl emplace reg.clear

def validateServerSend (reg : StreamRegistry) (streamId : Bytes) : Except Error StreamInfo :=
  match reg.find streamId with
  | none => .error .streamNotFound
  | some s => if s.direction = .input then .error .invalidDirection else .ok s

def validateClientSend (reg : StreamRegistry) (streamId : Bytes) : Except Error StreamInfo :=
  match reg.find streamId with
  | none => .error .streamNotFound
  | some s => if s.direction = .output then .error .invalidDirection else .ok s

/-! ### Lookups -/

theorem find_id {reg : StreamRegistry} {id : Bytes} {info : StreamInfo}
    (h : reg.find id = some info) : info.id = id := by
  simpa using List.find?_some h

/-- An update is seen by the lookup of its own id and by no other. -/
theorem find_update {reg : StreamRegistry} {info : StreamInfo} {id : Bytes} :
    (reg.update info).find id =
      if id = info.id then (reg.find id).map fun _ => info else reg.find id :=
  Table.find?_replace StreamInfo.id info id reg.streams

/-- Updating one stream is not seen by the others. -/
theorem find_update_of_ne {reg : StreamRegistry} {info : StreamInfo} {id : Bytes}
    (h : id ≠ info.id) : (reg.update info).find id = reg.find id := by
  rw [find_update, if_neg h]

/-- A stream that is there is updated in place. -/
theorem find_update_self {reg : StreamRegistry} {id : Bytes} {info info' : StreamInfo}
    (h : reg.find id = some info) (hid : info'.id = info.id) :
    (reg.update info').find id = some info' := by
  have hself : id = info'.id := by rw [hid, find_id h]
  rw [find_update, if_pos hself, h, Option.map_some]

/-- What registration adds are the streams of the declarations. -/
theorem mem_registerFrom {amb : Ambient} {decls : List StreamDeclaration} :
    ∀ {k : ℕ} {reg : StreamRegistry}, ∀ s ∈ (registerFrom amb k decls reg).2.streams,
      s ∈ reg.streams ∨ ∃ decl ∈ decls, ∃ id, s = infoOfDeclaration decl id := by
  induction decls with
  | nil => intro k reg s hs; exact .inl hs
  | cons decl rest ih =>
      intro k reg s hs
      rw [registerFrom] at hs
      cases hid : generateCsprngId amb k 8 with
      | error e =>
          rw [hid] at hs
          exact .inl hs
      | ok id =>
          rw [hid] at hs
          rcases ih s hs with hs | ⟨d, hd, hinfo⟩
          · rw [emplace] at hs
            split at hs
            · exact .inl hs
            · rcases List.mem_append.mp hs with hold | hnew
              · exact .inl hold
              · exact .inr ⟨decl, List.mem_cons_self, id, List.mem_singleton.mp hnew⟩
          · exact .inr ⟨d, List.mem_cons_of_mem decl hd, hinfo⟩

/-- Every stream registered from declarations starts at offset zero. -/
theorem registerFrom_offset {amb : Ambient} {decls : List StreamDeclaration} {k : ℕ}
    {reg : StreamRegistry} (h : ∀ s ∈ reg.streams, s.offset = 0) :
    ∀ s ∈ (registerFrom amb k decls reg).2.streams, s.offset = 0 := by
  intro s hs
  rcases mem_registerFrom s hs with hs | ⟨decl, -, id, rfl⟩
  · exact h s hs
  · rfl

/-- A stream that is there after an update was there before, or is the updated one. -/
theorem mem_update {reg : StreamRegistry} {info s : StreamInfo}
    (h : s ∈ (reg.update info).streams) : s ∈ reg.streams ∨ s = info := by
  obtain ⟨old, hold, rfl⟩ := List.mem_map.mp h
  split
  · exact .inr rfl
  · exact .inl hold

end StreamRegistry

end CulpeoStream.Session
