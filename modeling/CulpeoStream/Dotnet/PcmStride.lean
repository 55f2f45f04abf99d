import CulpeoStream.Dotnet.Client
import CulpeoStream.Dotnet.Letters
import CulpeoStream.Message.PcmFields

/-!
# PCM strides in C#

What `TryParseContentType` makes of a content type that C++ reads as PCM: the same parameters
with the same values, unless two of them have one name (`tryParseContentType_pcm`).  The server
requires in addition that nothing stands around the slash of `audio/pcm` and that the rate is
positive and fits into an `int`
(`getRequiredPcmStride_plain`, `plain_of_getRequiredPcmStride`).
-/

namespace CulpeoStream.Dotnet

open Message Search Strip Utf16

theorem spaces_isWhiteSpace : Spaces isWhiteSpace where
  space := by decide
  tab := by decide
  other := by
    have htoken : ∀ n : Fin 256, isTokenChar (UInt8.ofNat n) = true →
        isWhiteSpace (UInt8.ofNat n).toUInt16 = false := by decide +kernel
    intro c hc hblank
    rcases hc with hc | hc | rfl
    · rw [hblank] at hc
      cases hc
    · have htoken := htoken ⟨c.toNat, c.toNat_lt⟩
      rw [UInt8.ofNat_toNat] at htoken
      exact htoken hc
    · decide

/-- The entries of a dictionary that come from parameters. -/
def entriesOf (fields : List (Bytes × Bytes)) : List (Text × Text) :=
  fields.map fun field =>
    ((trimAscii field.1).map UInt8.toUInt16, trim (Utf8.decode field.2))

theorem trim_name {u : Bytes} (h : validHeaderName (trimAscii u) = true) :
    trim (Utf8.decode u) = (trimAscii u).map UInt8.toUInt16 :=
  spaces_isWhiteSpace.strip_decode (isMediaChar_of_validName h)

/-- What is left of a string is not white space. -/
theorem isNullOrWhiteSpace_trim {t : Text} (h : trim t ≠ []) :
    isNullOrWhiteSpace (some (trim t)) = false :=
  Bool.eq_false_iff.mpr (mt (isNullOrWhiteSpace_trim_iff t).mp h)

section Parse

variable {rt : Runtime} (hrt : UppersAscii rt)
include hrt

theorem equalsIgnoreCase_name {u key : Bytes} (hu : ∀ c ∈ u, IsMediaChar c)
    (hkey : ∀ c ∈ key, IsMediaChar c) :
    equalsIgnoreCase rt (u.map UInt8.toUInt16) (key.map UInt8.toUInt16) = true ↔
      u.map toLowerAscii = key.map toLowerAscii :=
  equalsIgnoreCase_wide hrt (fun c hc => toNat_lt_of_isMediaChar (hu c hc))
    fun c hc => toNat_lt_of_isMediaChar (hkey c hc)

/-- Looking up a name. -/
theorem tryGetValue_entriesOf {fields : List (Bytes × Bytes)}
    (hfields : ∀ field ∈ fields, validHeaderName (trimAscii field.1) = true) {key : Bytes}
    (hkey : ∀ c ∈ key, IsMediaChar c) :
    tryGetValue rt (entriesOf fields) (key.map UInt8.toUInt16) =
      (fieldsNamed (key.map toLowerAscii) fields).head?.map fun field =>
        trim (Utf8.decode field.2) := by
  have hfind : fields.find? (fun field => equalsIgnoreCase rt
      ((trimAscii field.1).map UInt8.toUInt16) (key.map UInt8.toUInt16)) =
        (fieldsNamed (key.map toLowerAscii) fields).head? := by
    rw [fieldsNamed, ← List.head?_filter]
    refine congrArg List.head? (List.filter_congr fun field hfield => ?_)
    have hequals := equalsIgnoreCase_name hrt (isMediaChar_of_validName (hfields field hfield)) hkey
    rw [Bool.eq_iff_iff, hequals, decide_eq_true_eq, fieldName]
  rw [tryGetValue, entriesOf, List.find?_map, Option.map_map, ← hfind]
  rfl

/-- One parameter is added, unless its name was there. -/
theorem addParameter_field {fields : List (Bytes × Bytes)} {u : Bytes} (v : Bytes)
    (hfields : ∀ field ∈ fields, validHeaderName (trimAscii field.1) = true) (hu : ch '=' ∉ u)
    (hname : validHeaderName (trimAscii u) = true) :
    addParameter rt (entriesOf fields) (trim (Utf8.decode (u ++ ch '=' :: v))) =
      if fieldName (u, v) ∈ fields.map fieldName then none
      else some (entriesOf (fields ++ [(u, v)])) := by
  have hkeyName : isNullOrWhiteSpace (some ((trimAscii u).map UInt8.toUInt16)) = false := by
    rw [← trim_name hname]
    refine isNullOrWhiteSpace_trim ?_
    rw [trim_name hname]
    exact fun hnil => (validHeaderName_iff.mp hname).1 (List.map_eq_nil_iff.mp hnil)
  have htext : Utf8.decode (u ++ ch '=' :: v) = Utf8.decode u ++ unit '=' :: Utf8.decode v :=
    Utf8.decode_append_ascii (by decide) u v
  have hnot : unit '=' ∉ Utf8.decode u := fun hmem => hu (Utf8.mem_of_mem_decode (by decide) hmem)
  obtain ⟨k, hfind, hkey, hvalue⟩ := exists_find_strip
    (show isWhiteSpace (unit '=') = false by decide) hnot (Utf8.decode v)
  have hfind' : find [unit '='] (trim (Utf8.decode u ++ unit '=' :: Utf8.decode v)) = some k :=
    hfind
  have hkey' : trim ((trim (Utf8.decode u ++ unit '=' :: Utf8.decode v)).take k) =
      (trimAscii u).map UInt8.toUInt16 := hkey.trans (trim_name hname)
  have hvalue' : trim ((trim (Utf8.decode u ++ unit '=' :: Utf8.decode v)).drop (k + 1)) =
      trim (Utf8.decode v) := hvalue
  have hknown : (tryGetValue rt (entriesOf fields) ((trimAscii u).map UInt8.toUInt16)).isSome =
      true ↔ fieldName (u, v) ∈ fields.map fieldName := by
    rw [tryGetValue_entriesOf hrt hfields (isMediaChar_of_validName hname), Option.isSome_map,
      List.isSome_head?, List.mem_map]
    constructor
    · intro hne
      obtain ⟨field, hfield⟩ := List.exists_mem_of_ne_nil _ hne
      obtain ⟨hmem, hnamed⟩ := List.mem_filter.mp hfield
      exact ⟨field, hmem, of_decide_eq_true hnamed⟩
    · rintro ⟨field, hmem, hnamed⟩ hnil
      exact List.filter_eq_nil_iff.mp hnil field hmem (decide_eq_true hnamed)
  rw [htext, addParameter, hfind']
  dsimp only
  rw [hkey', hvalue', hkeyName, Bool.false_or]
  by_cases hmem : fieldName (u, v) ∈ fields.map fieldName
  · rw [if_pos hmem, if_pos (hknown.mpr hmem)]
  · rw [if_neg hmem, if_neg (mt hknown.mp hmem), entriesOf, entriesOf, List.map_append]
    rfl

/-- **The dictionary.**  It holds all parameters, unless two of them have one name. -/
theorem foldlM_addParameter_pieces {pieces : List Bytes} {fields : List (Bytes × Bytes)}
    (hpieces : ∀ piece ∈ pieces, ValidPiece piece)
    (hfields : ∀ field ∈ fields, validHeaderName (trimAscii field.1) = true)
    (hnodup : (fields.map fieldName).Nodup) :
    ((pieces.map fun piece => trim (Utf8.decode piece)).filter (!·.isEmpty)).foldlM
        (addParameter rt) (entriesOf fields) =
      if ((fields ++ pieces.filterMap paramField).map fieldName).Nodup then
        some (entriesOf (fields ++ pieces.filterMap paramField))
      else none := by
  induction pieces generalizing fields with
  | nil =>
      rw [List.filterMap_nil, List.append_nil, if_pos hnodup]
      rfl
  | cons piece pieces ih =>
      rw [List.forall_mem_cons] at hpieces
      rw [List.map_cons]
      rcases hpieces.1 with hblank | ⟨u, v, rfl, hu, hname⟩
      · have hempty : trim (Utf8.decode piece) = [] := spaces_isWhiteSpace.strip_blank hblank
        have hnot : ch '=' ∉ piece := fun hmem =>
          absurd (strip_eq_nil_iff.mp hblank _ hmem) (by decide)
        rw [hempty, List.filter_cons_of_neg (by decide),
          List.filterMap_cons_none (paramField_eq_none hnot)]
        exact ih hpieces.2 hfields hnodup
      · have hne : trim (Utf8.decode (u ++ ch '=' :: v)) ≠ [] := by
          intro hnil
          have hwhite : isWhiteSpace (unit '=') = true := by
            refine strip_eq_nil_iff.mp hnil _ ?_
            rw [Utf8.decode_append_ascii (by decide)]
            exact List.mem_append_right _ List.mem_cons_self
          exact absurd hwhite (by decide)
        rw [List.filter_cons_of_pos (by simpa using hne), List.foldlM_cons,
          addParameter_field hrt v hfields hu hname,
          List.filterMap_cons_some (paramField_append hu v)]
        by_cases hmem : fieldName (u, v) ∈ fields.map fieldName
        · rw [if_pos hmem, if_neg]
          · rfl
          · rw [List.map_append, List.map_cons]
            intro hall
            exact (List.nodup_append.mp hall).2.2 _ hmem _ List.mem_cons_self rfl
        · have hassoc : fields ++ (u, v) :: pieces.filterMap paramField =
              (fields ++ [(u, v)]) ++ pieces.filterMap paramField := by simp
          rw [if_neg hmem, hassoc]
          refine ih hpieces.2 ?_ ?_
          · simp only [List.forall_mem_append, List.forall_mem_cons]
            exact ⟨hfields, hname, nofun⟩
          · rw [List.map_append, List.map_singleton, List.nodup_append]
            refine ⟨hnodup, List.nodup_singleton _, fun a ha b hb => ?_⟩
            rw [List.mem_singleton.mp hb]
            exact fun heq => hmem (heq ▸ ha)

theorem tryParseContentType_pcm {raw : Bytes} {pcm : AudioPcmContentType} (h : PcmText raw pcm) :
    tryParseContentType rt (Utf8.decode raw) =
      if ((paramFields raw).map fieldName).Nodup then
        some ⟨(mediaTypeOf raw).map UInt8.toUInt16, entriesOf (paramFields raw)⟩
      else none := by
  have hsplit : splitOn [unit ';'] (Utf8.decode raw) =
      (splitOn [ch ';'] raw).map Utf8.decode := @splitOn_decode_mark (ch ';') (by decide) raw
  have hpieces := h.pieces
  have hmedia := h.media
  have hne := h.media_ne_nil
  rw [paramFields, mediaTypeOf] at *
  cases hraw : splitOn [ch ';'] raw with
  | nil =>
      rw [hraw] at hne
      exact absurd rfl hne
  | cons first rest =>
      rw [hraw] at hsplit hpieces hmedia hne
      rw [List.headD_cons] at *
      rw [List.tail_cons] at *
      have hfirst : trim (Utf8.decode first) = (trimAscii first).map UInt8.toUInt16 :=
        spaces_isWhiteSpace.strip_decode hmedia
      have hfirstNe : trim (Utf8.decode first) ≠ [] := by
        rw [hfirst]
        exact fun hnil => hne (List.map_eq_nil_iff.mp hnil)
      have hparts : ((splitOn [unit ';'] (Utf8.decode raw)).map trim).filter (!·.isEmpty) =
          trim (Utf8.decode first) ::
            (rest.map fun piece => trim (Utf8.decode piece)).filter (!·.isEmpty) := by
        rw [hsplit, List.map_cons, List.map_cons, List.filter_cons_of_pos (by simpa using hfirstNe),
          List.map_map]
        rfl
      have hfold := @foldlM_addParameter_pieces rt hrt rest [] hpieces (List.forall_mem_nil _)
        List.nodup_nil
      rw [tryParseContentType, hparts]
      dsimp only
      rw [isNullOrWhiteSpace_trim hfirstNe, if_neg Bool.false_ne_true,
        show ([] : List (Text × Text)) = entriesOf [] from rfl, hfold, List.nil_append]
      split
      · rw [Option.map_some, hfirst]
      · rfl

/-- The value of a parameter that counts. -/
theorem tryGetValue_pcm {raw : Bytes} {pcm : AudioPcmContentType} (h : PcmText raw pcm)
    (k : PcmKey) : ∃ x, IsNumeral x (k.value pcm) ∧
      tryGetValue rt (entriesOf (paramFields raw)) (k.text.map UInt8.toUInt16) =
        some (x.map UInt8.toUInt16) := by
  obtain ⟨field, hnamed, hnumeral⟩ := h.param k
  have hkey : ∀ c ∈ k.text, IsMediaChar c := by
    refine isMediaChar_of_validName ?_
    cases k <;> decide
  have hlower : k.text.map toLowerAscii = k.text := by cases k <;> decide
  refine ⟨trimAscii field.2, hnumeral, ?_⟩
  rw [tryGetValue_entriesOf hrt h.names hkey, hlower, hnamed, List.head?_cons, Option.map_some]
  exact congrArg some (spaces_isWhiteSpace.strip_decode hnumeral.isMediaChar)

end Parse

/-! ### Numerals -/

theorem tryParseInt_numeral {x : Bytes} {n : ℕ} (h : IsNumeral x n) :
    tryParseInt (x.map UInt8.toUInt16) = if n < 2 ^ 31 then some (n : ℤ) else none := by
  have hdigit : ∀ u ∈ x.map UInt8.toUInt16, isDigit u = true := by
    intro u hu
    obtain ⟨c, hc, rfl⟩ := List.mem_map.mp hu
    exact (digit_wide (h.digits c hc)).1
  have htake : (x.map UInt8.toUInt16).takeWhile isDigit = x.map UInt8.toUInt16 :=
    List.takeWhile_eq_self_iff.mpr hdigit
  have hdrop : (x.map UInt8.toUInt16).dropWhile isDigit = [] :=
    List.dropWhile_eq_nil_iff.mpr hdigit
  have hvalue := h.value_wide
  obtain ⟨c, rest, rfl⟩ := List.exists_cons_of_ne_nil h.ne_nil
  obtain ⟨-, hplus, hminus, -⟩ := digit_wide (h.digits c List.mem_cons_self)
  have hspace : ((c :: rest).map UInt8.toUInt16).dropWhile isParseSpace =
      (c :: rest).map UInt8.toUInt16 := by
    have hall : ∀ d : Fin 10, isParseSpace (UInt8.ofNat (48 + d)).toUInt16 = false := by decide
    obtain ⟨hlow, hhigh⟩ := h.digits c List.mem_cons_self
    have hc := hall ⟨c.toNat - 48, by omega⟩
    rw [Nat.add_sub_cancel' hlow, UInt8.ofNat_toNat] at hc
    rw [List.map_cons, List.dropWhile_cons_of_neg (Bool.eq_false_iff.mp hc)]
  have hhead : ((c :: rest).map UInt8.toUInt16).head? = some c.toUInt16 := rfl
  have hsigned : ((c :: rest).map UInt8.toUInt16).head?.any
      (fun c => c = unit '+' || c = unit '-') = false := by
    rw [hhead, Option.any_some, Bool.or_eq_false_iff]
    exact ⟨decide_eq_false hplus, decide_eq_false hminus⟩
  have hpositive : ((c :: rest).map UInt8.toUInt16).head? ≠ some (unit '-') := by
    rw [hhead]
    exact fun heq => hminus (Option.some.inj heq)
  have hnonempty : ((c :: rest).map UInt8.toUInt16).isEmpty = false := rfl
  unfold tryParseInt
  rw [hspace]
  dsimp only
  rw [hsigned, if_neg Bool.false_ne_true, if_neg hpositive, htake, hdrop, hvalue, hnonempty,
    if_neg (by decide)]
  by_cases hn : n < 2 ^ 31
  · rw [if_pos hn, if_neg (by omega)]
  · rw [if_neg hn, if_pos (by omega)]

/-! ### The server and the client -/

section Stride

variable {rt : Runtime} (hrt : UppersAscii rt) {raw : Bytes} {pcm : AudioPcmContentType}
  (h : PcmText raw pcm)
include hrt h

/-- A parameter of a PCM content type, read as an `int`. -/
theorem parameter_pcm (k : PcmKey) {name : Text} (hname : name = k.text.map UInt8.toUInt16) :
    (tryGetValue rt (entriesOf (paramFields raw)) name).bind tryParseInt =
      if k.value pcm < 2 ^ 31 then some (k.value pcm : ℤ) else none := by
  obtain ⟨x, hnumeral, hvalue⟩ := tryGetValue_pcm hrt h k
  rw [hname, hvalue, Option.bind_some, tryParseInt_numeral hnumeral]

theorem mediaType_pcm :
    equalsIgnoreCase rt ((mediaTypeOf raw).map UInt8.toUInt16) (utf16 "audio/pcm") = true ↔
      (mediaTypeOf raw).map toLowerAscii = ascii "audio/pcm" := by
  have hwide : utf16 "audio/pcm" = (ascii "audio/pcm").map UInt8.toUInt16 := by decide
  have hlower : (ascii "audio/pcm").map toLowerAscii = ascii "audio/pcm" := by decide
  have hmedia : ∀ c ∈ ascii "audio/pcm", IsMediaChar c := by
    have hall : ∀ c ∈ ascii "audio/pcm", isTokenChar c = true ∨ c = ch '/' := by
      decide +kernel
    exact fun c hc => .inr (hall c hc)
  rw [hwide, equalsIgnoreCase_name hrt h.media hmedia, hlower]

theorem requirePcmParam_pcm (k : PcmKey) {name : Text} (hname : name = k.text.map UInt8.toUInt16)
    (media : Text) (ok : ℤ → Bool) (hok : k.value pcm < 2 ^ 31 ∧ ok (k.value pcm) = true) :
    requirePcmParam rt ⟨media, entriesOf (paramFields raw)⟩ name ok =
      .ok ⟨k.value pcm, hok.2⟩ := by
  unfold requirePcmParam
  rw [parameter_pcm hrt h k hname, if_pos hok.1]
  dsimp only
  rw [dif_pos hok.2]

/-- The server takes a plain content type. -/
theorem getRequiredPcmStride_plain (hplain : PlainPcm raw pcm) :
    getRequiredPcmStride rt (Utf8.decode raw) = .ok ⟨pcm.stride, h.stride_pos⟩ := by
  have hchannels := h.channels_pos
  have hbits := h.bits_pos
  have hoctets := h.bits_octets
  have hrate := hplain.rate_pos
  have hchannelsLt := pcm.channels.toNat_lt
  have hbitsLt := pcm.bits.toNat_lt
  have hstride := pcm.stride_lt
  have hproduct := pcm.stride_int
  have hchannelsOk : PcmKey.channels.value pcm < 2 ^ 31 ∧
      decide ((1 : ℤ) ≤ PcmKey.channels.value pcm) = true := by
    rw [PcmKey.value, decide_eq_true_eq]
    omega
  have hbitsOk : PcmKey.bits.value pcm < 2 ^ 31 ∧
      decide (0 < (PcmKey.bits.value pcm : ℤ) ∧ (PcmKey.bits.value pcm : ℤ) % 8 = 0) = true := by
    rw [PcmKey.value, decide_eq_true_eq]
    omega
  have hrateOk : PcmKey.rate.value pcm < 2 ^ 31 ∧
      decide (0 < (PcmKey.rate.value pcm : ℤ)) = true := by
    rw [PcmKey.value, decide_eq_true_eq]
    exact ⟨hplain.rate_lt, by omega⟩
  unfold getRequiredPcmStride
  rw [tryParseContentType_pcm hrt h, if_pos hplain.names]
  dsimp only
  rw [(mediaType_pcm hrt h).mpr hplain.media, if_neg (by decide),
    requirePcmParam_pcm hrt h .channels (by decide) _ _ hchannelsOk,
    requirePcmParam_pcm hrt h .bits (by decide) _ _ hbitsOk,
    requirePcmParam_pcm hrt h .rate (by decide) _ _ hrateOk]
  show (if (2 : ℤ) ^ 31 ≤ (pcm.channels.toNat : ℤ) * ((pcm.bits.toNat : ℤ) / 8) then _ else
    (Except.ok ⟨((pcm.channels.toNat : ℤ) * ((pcm.bits.toNat : ℤ) / 8)).toNat, _⟩ :
      Except Exn { stride : ℕ // 0 < stride })) = _
  rw [if_neg (by omega)]
  exact congrArg Except.ok (Subtype.ext (congrArg Int.toNat hproduct))

/-- The server refuses all other content types. -/
theorem plain_of_getRequiredPcmStride {stride : { stride : ℕ // 0 < stride }}
    (hstride : getRequiredPcmStride rt (Utf8.decode raw) = .ok stride) : PlainPcm raw pcm := by
  unfold getRequiredPcmStride at hstride
  rw [tryParseContentType_pcm hrt h] at hstride
  split at hstride
  · cases hstride
  rename_i parsed hparsed
  split at hparsed
  · rename_i hnames
    cases hparsed
    split at hstride
    · cases hstride
    rename_i hmedia
    rw [Bool.not_eq_true', Bool.not_eq_false] at hmedia
    obtain ⟨channels, -, hstride⟩ := Checks.exists_of_bind_ok hstride
    obtain ⟨bits, -, hstride⟩ := Checks.exists_of_bind_ok hstride
    obtain ⟨rate, hrate, -⟩ := Checks.exists_of_bind_ok hstride
    unfold requirePcmParam at hrate
    rw [parameter_pcm hrt h .rate (by decide)] at hrate
    split at hrate
    · rename_i value hvalue
      split at hrate
      · rename_i hpositive
        split at hvalue
        · rename_i hlt
          cases hvalue
          rw [decide_eq_true_eq] at hpositive
          exact ⟨(mediaType_pcm hrt h).mp hmedia, hnames, by simpa [PcmKey.value] using hpositive,
            hlt⟩
        · cases hvalue
      · cases hrate
    · cases hrate
  · cases hparsed

/-- The client counts by the same stride. -/
theorem computePcmBytesPerSample_plain (hplain : PlainPcm raw pcm) :
    ∃ n : Int32, computePcmBytesPerSample rt (Utf8.decode raw) .time = some n ∧
      n.toInt = pcm.stride := by
  have hchannels := h.channels_pos
  have hbits := h.bits_pos
  have hchannelsLt := pcm.channels.toNat_lt
  have hbitsLt := pcm.bits.toNat_lt
  have hstride := pcm.stride_lt
  have hproduct := pcm.stride_int
  refine ⟨Int32.ofInt pcm.stride, ?_, ?_⟩
  · unfold computePcmBytesPerSample pcmParam
    rw [tryParseContentType_pcm hrt h, if_pos hplain.names, if_neg (by decide)]
    dsimp only
    rw [(mediaType_pcm hrt h).mpr hplain.media, if_neg (by decide),
      parameter_pcm hrt h .channels (by decide), parameter_pcm hrt h .bits (by decide),
      PcmKey.value, PcmKey.value, if_pos (by omega), if_pos (by omega)]
    dsimp only
    rw [if_neg (by omega), hproduct]
  · exact Int32.toInt_ofInt_of_le (by omega) (by omega)

end Stride

end CulpeoStream.Dotnet
