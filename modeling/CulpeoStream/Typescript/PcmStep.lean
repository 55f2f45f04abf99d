import CulpeoStream.Message.PcmFields
import CulpeoStream.Typescript.RoundTrip

/-!
# PCM steps in TypeScript

What `parsePcmStepBytes` makes of a content type that C++ reads as PCM: where nothing stands
around the slash of `audio/pcm` and the rate is positive, it finds the same number of channels
and the same number of bits (`parsePcmStepBits_pcm`).  A frame of time is then refused exactly
if it ends inside a sample (`computeOffsetIncrement_pcm`).
-/

namespace CulpeoStream.Typescript

open Message Search Strip Utf16

theorem spaces_isSpace : Spaces isSpace where
  space := by decide
  tab := by decide
  other := by
    have htoken : ∀ n : Fin 256, isTokenChar (UInt8.ofNat n) = true →
        isSpace (UInt8.ofNat n).toUInt16 = false := by decide +kernel
    intro c hc hblank
    rcases hc with hc | hc | rfl
    · rw [hblank] at hc
      cases hc
    · have htoken := htoken ⟨c.toNat, c.toNat_lt⟩
      rw [UInt8.ofNat_toNat] at htoken
      exact htoken hc
    · decide

/-! ### Numerals -/

theorem parseInt_numeral {x : Bytes} {n : ℕ} (h : IsNumeral x n) :
    parseInt (x.map UInt8.toUInt16) = some (n : ℤ) := by
  have htake : (x.map UInt8.toUInt16).takeWhile isDigit = x.map UInt8.toUInt16 := by
    refine List.takeWhile_eq_self_iff.mpr fun u hu => ?_
    obtain ⟨c, hc, rfl⟩ := List.mem_map.mp hu
    exact (digit_wide (h.digits c hc)).1
  have hvalue := h.value_wide
  obtain ⟨c, rest, rfl⟩ := List.exists_cons_of_ne_nil h.ne_nil
  obtain ⟨-, hplus, hminus, -⟩ := digit_wide (h.digits c List.mem_cons_self)
  have hspace : isSpace c.toUInt16 = false := by
    refine spaces_isSpace.other c (h.isMediaChar c List.mem_cons_self) ?_
    obtain ⟨hlow, hhigh⟩ := h.digits c List.mem_cons_self
    rw [← Bool.not_eq_true, isBlank_iff]
    omega
  have hnonempty : ((c :: rest).map UInt8.toUInt16).isEmpty = false := rfl
  rw [parseInt, List.map_cons, List.dropWhile_cons_of_neg (Bool.eq_false_iff.mp hspace)]
  dsimp only
  rw [if_neg (not_or.mpr ⟨hplus, hminus⟩), ← List.map_cons, htake, hvalue, hnonempty,
    if_neg Bool.false_ne_true, if_neg hminus]

/-- A positive numeral of 32 bits. -/
theorem parsePositiveInteger_numeral {x : Bytes} {n : ℕ} (h : IsNumeral x n) (hpos : 0 < n)
    (hlt : n < 2 ^ 32) : parsePositiveInteger (some (x.map UInt8.toUInt16)) = some n := by
  have hfinite : (2 : ℤ) ^ 32 ≤ 2 ^ 1024 - 2 ^ 970 := by
    have hsplit : (2 : ℤ) ^ 1024 = 2 ^ 54 * 2 ^ 970 := by rw [← pow_add]
    have hbig : (2 : ℤ) ^ 32 ≤ 2 ^ 970 := pow_le_pow_right₀ (by norm_num) (by norm_num)
    rw [hsplit]
    generalize (2 : ℤ) ^ 970 = rest at hbig ⊢
    omega
  have hn : (n : ℤ) < 2 ^ 32 := by exact_mod_cast hlt
  rw [parsePositiveInteger, Option.bind_some, parseInt_numeral h]
  dsimp only
  rw [if_neg (not_or.mpr ⟨by omega, by omega⟩), Int.toNat_natCast]

/-! ### The parameters -/

/-- The entry that a parameter makes in the `Map`. -/
def parameterEntry (rt : Runtime) (entry : Text) : Option (Text × Text) :=
  match splitOn [unit '='] entry with
  | rawKey :: rawValue :: _ => some (rt.toLowerCase (trim rawKey), trim rawValue)
  | _ => none

theorem contentTypeParameters_eq (rt : Runtime) (entries : List Text) :
    contentTypeParameters rt entries = (entries.filterMap (parameterEntry rt)).reverse := rfl

/-- What a parameter is in UTF-16; its value ends at a second equals sign. -/
def entryOf (field : Bytes × Bytes) : Text × Text :=
  ((fieldName field).map UInt8.toUInt16,
    trim ((splitOn [unit '='] (Utf8.decode field.2)).headD []))

theorem lookup_eq_find (entries : List (Text × Text)) (name : Text) :
    entries.lookup name = (entries.find? fun entry => entry.1 = name).map Prod.snd := by
  induction entries with
  | nil => rfl
  | cons entry entries ih =>
      rw [List.lookup_cons, List.find?_cons]
      by_cases hname : entry.1 = name
      · rw [decide_eq_true hname, hname, beq_self_eq_true]
        rfl
      · rw [decide_eq_false hname, ← ih, beq_eq_false_iff_ne.mpr (Ne.symm hname)]

section Parameters

variable {rt : Runtime} (hrt : LowersAscii rt)
include hrt

/-- The lower case of an ASCII string. -/
theorem toLowerCase_wide {x : Bytes} (hx : ∀ c ∈ x, IsMediaChar c) :
    rt.toLowerCase (x.map UInt8.toUInt16) = (x.map toLowerAscii).map UInt8.toUInt16 := by
  rw [hrt _ fun u hu => ?_, map_lowerAscii_map]
  obtain ⟨c, hc, rfl⟩ := List.mem_map.mp hu
  rw [UInt8.toNat_toUInt16]
  exact toNat_lt_of_isMediaChar (hx c hc)

theorem parameterEntry_field {u : Bytes} (hu : ch '=' ∉ u) (v : Bytes)
    (hname : validHeaderName (trimAscii u) = true) :
    parameterEntry rt (Utf8.decode (u ++ ch '=' :: v)) = some (entryOf (u, v)) := by
  have htext : Utf8.decode (u ++ ch '=' :: v) = Utf8.decode u ++ unit '=' :: Utf8.decode v :=
    Utf8.decode_append_ascii (by decide) u v
  have hnot : unit '=' ∉ Utf8.decode u := fun hmem => hu (Utf8.mem_of_mem_decode (by decide) hmem)
  have hmedia := isMediaChar_of_validName hname
  have hkey : trim (Utf8.decode u) = (trimAscii u).map UInt8.toUInt16 :=
    spaces_isSpace.strip_decode hmedia
  rw [parameterEntry, htext, splitOn_mark hnot, entryOf, fieldName]
  cases hsplit : splitOn [unit '='] (Utf8.decode v) with
  | nil => exact absurd hsplit (splitOn_mark_ne_nil _ _)
  | cons value rest =>
      dsimp only
      rw [hkey, toLowerCase_wide hrt hmedia, List.headD_cons]

theorem filterMap_parameterEntry {pieces : List Bytes}
    (hpieces : ∀ piece ∈ pieces, ValidPiece piece) :
    (pieces.map Utf8.decode).filterMap (parameterEntry rt) =
      (pieces.filterMap paramField).map entryOf := by
  induction pieces with
  | nil => rfl
  | cons piece pieces ih =>
      rw [List.forall_mem_cons] at hpieces
      rw [List.map_cons]
      rcases hpieces.1 with hblank | ⟨u, v, rfl, hu, hname⟩
      · have hnot : ch '=' ∉ piece := fun hmem =>
          absurd (strip_eq_nil_iff.mp hblank _ hmem) (by decide)
        have hnone : parameterEntry rt (Utf8.decode piece) = none := by
          rw [parameterEntry, splitOn_mark_none fun hmem =>
            hnot (Utf8.mem_of_mem_decode (by decide) hmem)]
        rw [List.filterMap_cons_none hnone, List.filterMap_cons_none (paramField_eq_none hnot)]
        exact ih hpieces.2
      · rw [List.filterMap_cons_some (parameterEntry_field hrt hu v hname),
          List.filterMap_cons_some (paramField_append hu v), List.map_cons, ih hpieces.2]

variable {raw : Bytes} {pcm : AudioPcmContentType} (h : PcmText raw pcm)
include h

/-- The value of a parameter that counts. -/
theorem lookup_pcm (k : PcmKey) : ∃ x, IsNumeral x (k.value pcm) ∧
    (contentTypeParameters rt ((splitOn [unit ';'] (Utf8.decode raw)).tail)).lookup
      (k.text.map UInt8.toUInt16) = some (x.map UInt8.toUInt16) := by
  obtain ⟨field, hnamed, hnumeral⟩ := h.param k
  have hsplit : splitOn [unit ';'] (Utf8.decode raw) =
      (splitOn [ch ';'] raw).map Utf8.decode := @splitOn_decode_mark (ch ';') (by decide) raw
  have hfilter : (paramFields raw).reverse.filter (fun f => decide
      ((entryOf f).1 = k.text.map UInt8.toUInt16)) = [field] := by
    have hnames : (paramFields raw).filter (fun f => decide
        ((entryOf f).1 = k.text.map UInt8.toUInt16)) = [field] := by
      rw [← hnamed]
      refine List.filter_congr fun f _ => decide_eq_decide.mpr ?_
      exact (List.map_injective_iff.mpr toUInt16_injective).eq_iff
    rw [List.filter_reverse, hnames, List.reverse_singleton]
  -- only digits and blanks stand in the value, so no second equals sign
  have hnot : unit '=' ∉ Utf8.decode field.2 := by
    intro hdecoded
    have hmem : ch '=' ∈ field.2 := Utf8.mem_of_mem_decode (by decide) hdecoded
    obtain ⟨l, r, hl, hr, hx⟩ := exists_strip isBlank field.2
    rw [hx, List.mem_append, List.mem_append] at hmem
    rcases hmem with hmem | hmem | hmem
    · exact absurd (hl _ hmem) (by decide)
    · exact absurd (hnumeral.digits _ hmem) (by decide)
    · exact absurd (hr _ hmem) (by decide)
  refine ⟨trimAscii field.2, hnumeral, ?_⟩
  have hvalue : trim (Utf8.decode field.2) = (trimAscii field.2).map UInt8.toUInt16 :=
    spaces_isSpace.strip_decode hnumeral.isMediaChar
  have hpredicate : ((fun entry : Text × Text => decide (entry.1 = k.text.map UInt8.toUInt16)) ∘
      entryOf) = fun f => decide ((entryOf f).1 = k.text.map UInt8.toUInt16) := rfl
  rw [contentTypeParameters_eq, hsplit, ← List.map_tail, filterMap_parameterEntry hrt h.pieces,
    lookup_eq_find, ← List.map_reverse, List.find?_map, Option.map_map, ← List.head?_filter,
    hpredicate]
  show Option.map _ (((paramFields raw).reverse.filter _).head?) = _
  rw [hfilter, List.head?_cons, Option.map_some, Function.comp_apply, entryOf,
    splitOn_mark_none hnot, List.headD_cons, hvalue]

/-- A parameter of a PCM content type that is positive. -/
theorem parsePositiveInteger_pcm (k : PcmKey) {name : Text}
    (hname : name = k.text.map UInt8.toUInt16) (hpos : 0 < k.value pcm) :
    parsePositiveInteger ((contentTypeParameters rt
      ((splitOn [unit ';'] (Utf8.decode raw)).tail)).lookup name) = some (k.value pcm) := by
  obtain ⟨x, hnumeral, hlookup⟩ := lookup_pcm hrt h k
  have hlt : k.value pcm < 2 ^ 32 := by
    cases k with
    | rate => exact pcm.rate.toNat_lt
    | channels => exact lt_of_lt_of_le pcm.channels.toNat_lt (by decide)
    | bits => exact lt_of_lt_of_le pcm.bits.toNat_lt (by decide)
  rw [hname, hlookup, parsePositiveInteger_numeral hnumeral hpos hlt]

theorem parsePcmStepBits_pcm (hmedia : (mediaTypeOf raw).map toLowerAscii = ascii "audio/pcm")
    (hrate : 0 < pcm.rate.toNat) :
    parsePcmStepBits rt (Utf8.decode raw) = .ok (some (8 * pcm.stride)) := by
  have hbits : 8 * pcm.stride = pcm.channels.toNat * pcm.bits.toNat := by
    rw [AudioPcmContentType.stride, Nat.mul_left_comm,
      Nat.mul_div_cancel' (Nat.dvd_of_mod_eq_zero h.bits_octets)]
  have hsplit : splitOn [unit ';'] (Utf8.decode raw) =
      (splitOn [ch ';'] raw).map Utf8.decode := @splitOn_decode_mark (ch ';') (by decide) raw
  have hvalue := @parsePositiveInteger_pcm rt hrt raw pcm h
  have htype : rt.toLowerCase (trim (Utf8.decode ((splitOn [ch ';'] raw).headD []))) =
      utf16 "audio/pcm" := by
    have htrim : trim (Utf8.decode ((splitOn [ch ';'] raw).headD [])) =
        (mediaTypeOf raw).map UInt8.toUInt16 := spaces_isSpace.strip_decode h.media
    rw [htrim, toLowerCase_wide hrt h.media, hmedia]
    decide
  unfold parsePcmStepBits
  cases hraw : splitOn [ch ';'] raw with
  | nil => exact absurd hraw (splitOn_mark_ne_nil _ _)
  | cons first rest =>
      rw [hraw, List.map_cons] at hsplit
      rw [hraw, List.headD_cons] at htype
      rw [hsplit] at hvalue ⊢
      dsimp only
      rw [if_neg (not_not.mpr htype)]
      rw [List.tail_cons] at hvalue
      rw [hvalue .rate (by decide) hrate, hvalue .channels (by decide) h.channels_pos,
        hvalue .bits (by decide) h.bits_pos, hbits]
      rfl

/-- **A frame of time** is refused exactly if it ends inside a sample. -/
theorem computeOffsetIncrement_pcm
    (hmedia : (mediaTypeOf raw).map toLowerAscii = ascii "audio/pcm")
    (hrate : 0 < pcm.rate.toNat) (n : ℕ) :
    (computeOffsetIncrement rt .time n (Utf8.decode raw)).toOption =
      if pcm.stride ∣ n then some (n / pcm.stride) else none := by
  have hpos := h.stride_pos
  unfold computeOffsetIncrement
  rw [parsePcmStepBits_pcm hrt h hmedia hrate]
  dsimp only
  rw [Nat.mul_mod_mul_left, Nat.mul_div_mul_left _ _ (by decide)]
  by_cases hdvd : pcm.stride ∣ n
  · have hmod := Nat.mod_eq_zero_of_dvd hdvd
    rw [if_neg (by omega), if_pos hdvd]
    rfl
  · have hmod : n % pcm.stride ≠ 0 := fun hzero => hdvd (Nat.dvd_of_mod_eq_zero hzero)
    rw [if_pos (by omega), if_neg hdvd]
    rfl

end Parameters

end CulpeoStream.Typescript
