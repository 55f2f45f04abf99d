import CulpeoStream.Session.AuthRefresh

/-!
# Helpers of `session.cpp`

The small parsers of the session layer, the JSON bodies it builds, and the mapping
of close codes.
-/

namespace CulpeoStream.Session

open Message Search

def parseUint64 (sv : Bytes) : Except Error UInt64 :=
  if sv.isEmpty then .error .protocolError
  else if 1 < sv.length ∧ sv.head? = some (ch '0') then .error .protocolError
  else
    match fromCharsU64 sv with
    | none => .error .protocolError
    | some (result, consumed) =>
        if consumed ≠ sv.length then .error .protocolError else .ok result.toUInt64

/-- `parse_uint64` inverts `std::to_string`. -/
theorem parseUint64_decimal (n : UInt64) : parseUint64 (decimal n.toNat) = .ok n := by
  have hne : (decimal n.toNat).isEmpty = false := by simpa using decimal_ne_nil n.toNat
  have hzero : ¬ (1 < (decimal n.toNat).length ∧ (decimal n.toNat).head? = some (ch '0')) := by
    rintro ⟨hlen, hhead⟩
    cases hd : decimal n.toNat with
    | nil => simp [hd] at hlen
    | cons c rest =>
        rw [hd, List.head?_cons, Option.some.injEq] at hhead
        rw [hd, List.length_cons] at hlen
        refine decimal_head_ne_zero hd ?_ hhead
        rintro rfl
        simp at hlen
  rw [parseUint64, if_neg (by simp [hne]), if_neg hzero, fromCharsU64_decimal n.toNat_lt]
  simp

/-- **What `parse_uint64` accepts** is what `std::to_string` prints. -/
theorem parseUint64_ok_iff {sv : Bytes} {n : UInt64} :
    parseUint64 sv = .ok n ↔ sv = decimal n.toNat := by
  refine ⟨fun h => ?_, fun h => h ▸ parseUint64_decimal n⟩
  rw [parseUint64] at h
  split at h
  · cases h
  · rename_i hempty
    split at h
    · cases h
    · rename_i hzero
      have hne : sv ≠ [] := fun hnil => hempty (by rw [hnil]; rfl)
      obtain ⟨c, rest, rfl⟩ := List.exists_cons_of_ne_nil hne
      rw [fromCharsU64] at h
      split at h
      · cases h
      · rename_i result consumed hread
        split at h
        · cases h
        · rename_i hall
          cases h
          split at hread
          · cases hread
          · split at hread
            · rename_i hlt
              cases hread
              -- all characters were consumed, so all of them are digits
              have hdigits : (c :: rest).takeWhile isDigit = c :: rest :=
                (List.takeWhile_prefix isDigit).eq_of_length (not_not.mp hall)
              rw [hdigits] at hlt ⊢
              have hnat : ∀ m < 2 ^ 64, m.toUInt64.toNat = m := fun m hm =>
                UInt64.toNat_ofNat_of_lt' hm
              rw [hnat _ hlt]
              refine (decimal_value (List.takeWhile_eq_self_iff.mp hdigits) fun hc => ?_).symm
              by_contra hrest
              refine hzero ⟨?_, by rw [hc]; rfl⟩
              rw [List.length_cons]
              have hpos := List.length_pos_iff.mpr hrest
              omega
            · cases hread

def isValidEventName (name : Bytes) : Bool :=
  if name.isEmpty then false
  else if name.head?.any isBlank || name.getLast?.any isBlank then false
  else if (find [ch '.'] name).isNone then false
  -- No consecutive dots, then no leading or trailing dot.
  else if (find [ch '.', ch '.'] name).isSome then false
  else !(name.head? == some (ch '.') || name.getLast? == some (ch '.'))

/-! ### Content-Type comparison -/

/-- A parameter of a content type, name and value trimmed. -/
structure CtParam where
  name : Bytes
  value : Bytes
  deriving DecidableEq, Repr

/-- The parameter in one segment; none when it is blank or has no `=`. -/
def ctParam (segment : Bytes) : Option CtParam :=
  let seg := trimAscii segment
  if seg.isEmpty then none
  else (find [ch '='] seg).map fun eq =>
    { name := trimAscii (seg.take eq), value := trimAscii (seg.drop (eq + 1)) }

/-- The `parse` lambda of `content_type_matches`: the trimmed type/subtype and at most
sixteen parameters. -/
def ctParse (ct : Bytes) : Option (Bytes × List CtParam) :=
  match find [ch ';'] ct with
  | none => some (trimAscii ct, [])
  | some semi =>
      match (segments (ch ';') (ct.drop (semi + 1))).mapM ctParam with
      | none => none
      | some params =>
          if 16 < params.length then none else some (trimAscii (ct.take semi), params)

def contentTypeMatches (declared received : Bytes) : Bool :=
  match ctParse declared, ctParse received with
  | some (dTs, dParams), some (rTs, rParams) =>
      iequalsAscii dTs rTs && dParams.length == rParams.length &&
        dParams.all fun d => rParams.any fun r =>
          iequalsAscii d.name r.name && d.value == r.value
  | _, _ => false

/-! ### Bodies -/

/-- The body `{}`. -/
def emptyObject : Bytes := ascii "\x7b\x7d"

/-- The entry of one stream in an init-ack, its members in key order. -/
def initAckEntry (isResumption : Bool) (s : StreamInfo) : Json :=
  .object <|
    [(ascii "content_type", .string s.contentType), (ascii "id", .string s.id),
      (ascii "offset_type", .string (offsetTypeToString s.offsetType))] ++
    (if s.purpose.isEmpty then [] else [(ascii "purpose", .string s.purpose)]) ++
    (if isResumption then [(ascii "resume_offset", .unsigned s.offset)] else []) ++
    [(ascii "type", .string (streamDirectionToString s.direction))]

/-- The value that `build_init_ack_body` dumps. -/
def initAckValue (version : Bytes) (streams : List StreamInfo) (isResumption : Bool) : Json :=
  .object
    [(ascii "streams", .array (streams.map (initAckEntry isResumption))),
      (ascii "version", .string version)]

def buildInitAckBody (json : JsonLib) (version : Bytes) (streams : List StreamInfo)
    (isResumption : Bool) : Bytes :=
  json.dump (initAckValue version streams isResumption)

theorem isValid_streamDirectionToString (direction : StreamDirection) :
    Utf8.IsValid (streamDirectionToString direction) := by
  cases direction <;> decide

theorem isValid_offsetTypeToString (offsetType : OffsetType) :
    Utf8.IsValid (offsetTypeToString offsetType) := by
  cases offsetType <;> decide

/-- The keys are, and so are the names of the directions and the offset types. -/
theorem isUtf8_initAckEntry (isResumption : Bool) (s : StreamInfo) :
    (initAckEntry isResumption s).IsUtf8 ↔ s.IsUtf8 := by
  have hkeys : Utf8.IsValid (ascii "content_type") ∧ Utf8.IsValid (ascii "id") ∧
      Utf8.IsValid (ascii "offset_type") ∧ Utf8.IsValid (ascii "purpose") ∧
      Utf8.IsValid (ascii "resume_offset") ∧ Utf8.IsValid (ascii "type") := by decide
  obtain ⟨hcontent, hid, hoffset, hpurpose, hresume, htype⟩ := hkeys
  have hnumber : (Json.unsigned s.offset).IsUtf8 := fun _ hmem => absurd hmem List.not_mem_nil
  unfold initAckEntry
  rw [isUtf8_object]
  constructor
  · intro h
    refine ⟨isUtf8_string.mp (h (ascii "id", .string s.id) (by simp)).2,
      isUtf8_string.mp (h (ascii "content_type", .string s.contentType) (by simp)).2, ?_⟩
    cases hempty : s.purpose.isEmpty with
    | true =>
        rw [List.isEmpty_iff.mp hempty]
        exact ⟨[], rfl⟩
    | false => exact isUtf8_string.mp (h (ascii "purpose", .string s.purpose) (by simp [hempty])).2
  · intro h member hmember
    simp only [List.mem_append, List.mem_cons, List.not_mem_nil, or_false] at hmember
    obtain (((rfl | rfl | rfl) | hmem) | hmem) | rfl := hmember
    · exact ⟨hcontent, isUtf8_string.mpr h.contentType⟩
    · exact ⟨hid, isUtf8_string.mpr h.id⟩
    · exact ⟨hoffset, isUtf8_string.mpr (isValid_offsetTypeToString _)⟩
    · split at hmem
      · exact absurd hmem List.not_mem_nil
      · cases List.mem_singleton.mp hmem
        exact ⟨hpurpose, isUtf8_string.mpr h.purpose⟩
    · split at hmem
      · cases List.mem_singleton.mp hmem
        exact ⟨hresume, hnumber⟩
      · exact absurd hmem List.not_mem_nil
    · exact ⟨htype, isUtf8_string.mpr (isValid_streamDirectionToString _)⟩

theorem isUtf8_initAckValue {version : Bytes} {streams : List StreamInfo} {isResumption : Bool} :
    (initAckValue version streams isResumption).IsUtf8 ↔
      Utf8.IsValid version ∧ ∀ stream ∈ streams, stream.IsUtf8 := by
  have hkeys : Utf8.IsValid (ascii "streams") ∧ Utf8.IsValid (ascii "version") := by decide
  have hstreams : (Json.array (streams.map (initAckEntry isResumption))).IsUtf8 ↔
      ∀ stream ∈ streams, stream.IsUtf8 := by
    rw [isUtf8_array, List.forall_mem_map]
    exact forall₂_congr fun stream _ => isUtf8_initAckEntry isResumption stream
  rw [initAckValue, isUtf8_object, List.forall_mem_cons, List.forall_mem_singleton, hstreams,
    isUtf8_string, and_iff_right hkeys.1, and_iff_right hkeys.2, and_comm]

/-- The value that `build_init_error_body` dumps. -/
def initErrorValue (supportedVersions : List Bytes) : Json :=
  .object [(ascii "supported_versions", .array (supportedVersions.map .string))]

def buildInitErrorBody (json : JsonLib) (supportedVersions : List Bytes) : Bytes :=
  json.dump (initErrorValue supportedVersions)

def buildPongBody (originalTs serverTs : ℤ) : Bytes :=
  ascii "\x7b\"ts\":" ++ decimalInt originalTs ++ ascii ",\"server_ts\":" ++
    decimalInt serverTs ++ ascii "\x7d"

def buildAuthRefreshBody (json : JsonLib) (nonceHex : Bytes) : Bytes :=
  json.dump <| .object [(ascii "nonce", .string nonceHex)]

def buildPingBody (nonce : UInt64) (sendTs : ℤ) : Bytes :=
  ascii "\x7b\"nonce\":" ++ decimal nonce.toNat ++ ascii ",\"server_ts\":" ++
    decimalInt sendTs ++ ascii "\x7d"

/-- The WebSocket status code of a CulpeoStream close code. -/
def toWsCloseCode (culpeoCode : Bytes) : ℕ :=
  if culpeoCode = ascii "normal" then 1000
  else if culpeoCode = ascii "unauthorized" ∨ culpeoCode = ascii "auth-expired" ∨
      culpeoCode = ascii "auth-failed" then 1008
  else if culpeoCode = ascii "server-shutdown" ∨ culpeoCode = ascii "idle-timeout" then 1001
  else 1002

/-- The bytes of the random buffer read as a little-endian integer. -/
def littleEndian (buf : Bytes) : ℕ :=
  buf.foldr (fun b acc => b.toNat + 256 * acc) 0

/-- `generate_u64_nonce`: zero when the CSPRNG fails, never zero otherwise. -/
def generateU64Nonce (amb : Ambient) : UInt64 :=
  match amb.secureRandom 0 8 with
  | none => 0
  | some buf => if littleEndian buf = 0 then 1 else (littleEndian buf).toUInt64

/-- The token of an `Authorization` header, empty unless it starts with `Bearer `. -/
def bearerToken (authorization : Option Bytes) : Bytes :=
  match authorization with
  | none => []
  | some value =>
      if (ascii "Bearer ").isPrefixOf value then value.drop (ascii "Bearer ").length else []

end CulpeoStream.Session
