import Mathlib.Logic.Relation
import CulpeoStream.Message.PcmFields

/-!
# The grammar of `audio/pcm`

Which content types `parse_content_type` reads as PCM: the segments after the media type are
parameters, an empty last one aside, and `rate`, `channels` and `bits` each occur once with a
canonical decimal in their range (`parseContentType_pcm_iff`).  So it does not matter in which
order and with which blanks and letter case they are written, or what else there is
(`parseContentType_audioPcm`).
-/

namespace CulpeoStream.Message

open Search Strip

/-! ### The segments -/

/-- The segments that the loop goes through all have an equals sign. -/
theorem foldlM_pcmParameter_iff {segs : List Bytes} {acc p : PcmParameters} :
    segs.foldlM pcmParameter acc = .ok p ↔
      (∀ s ∈ segs, ch '=' ∈ s) ∧ (segs.filterMap paramField).foldlM putField acc = .ok p := by
  induction segs generalizing acc with
  | nil => exact ⟨fun h => ⟨nofun, h⟩, fun h => h.2⟩
  | cons s segs ih =>
      rw [List.foldlM_cons, List.forall_mem_cons]
      by_cases hmem : ch '=' ∈ s
      · obtain ⟨u, v, rfl, hu⟩ := List.eq_append_cons_of_mem hmem
        rw [pcmParameter_append hu, List.filterMap_cons_some (paramField_append hu v),
          List.foldlM_cons]
        constructor
        · intro h
          obtain ⟨acc', hput, hrest⟩ := Checks.exists_of_bind_ok h
          obtain ⟨hmems, hfold⟩ := ih.mp hrest
          exact ⟨⟨hmem, hmems⟩, Checks.bind_ok hput hfold⟩
        · rintro ⟨⟨-, hmems⟩, h⟩
          obtain ⟨acc', hput, hrest⟩ := Checks.exists_of_bind_ok h
          exact Checks.bind_ok hput (ih.mpr ⟨hmems, hrest⟩)
      · rw [pcmParameter_none hmem]
        exact iff_of_false nofun fun h => hmem h.1.1

/-- The last segment does not count when it is empty. -/
def withoutEmptyLast (segs : List Bytes) : List Bytes :=
  if segs.getLast?.map trimAscii = some [] then segs.dropLast else segs

/-- The segments after the media type. -/
def segmentsOf (raw : Bytes) : List Bytes := (splitOn [ch ';'] raw).tail

theorem pcmParameter_congr {s s' : Bytes} (h : trimAscii s = trimAscii s')
    (acc : PcmParameters) : pcmParameter acc s = pcmParameter acc s' := by
  rw [pcmParameter, pcmParameter, h]

theorem foldlM_pcmParameter_congr {segs segs' : List Bytes}
    (h : segs.map trimAscii = segs'.map trimAscii) (acc : PcmParameters) :
    segs.foldlM pcmParameter acc = segs'.foldlM pcmParameter acc := by
  induction segs generalizing segs' acc with
  | nil =>
      rw [List.map_nil, eq_comm, List.map_eq_nil_iff] at h
      rw [h]
  | cons s segs ih =>
      cases segs' with
      | nil => cases h
      | cons s' segs' =>
          obtain ⟨hs, hsegs⟩ := List.cons.inj h
          rw [List.foldlM_cons, List.foldlM_cons, pcmParameter_congr hs]
          exact congrArg _ (funext fun acc' => ih hsegs acc')

theorem map_withoutEmptyLast (segs : List Bytes) :
    (withoutEmptyLast segs).map trimAscii =
      if (segs.map trimAscii).getLast? = some [] then (segs.map trimAscii).dropLast
      else segs.map trimAscii := by
  unfold withoutEmptyLast
  rw [List.getLast?_map]
  split
  · rw [List.map_dropLast]
  · rfl

/-- The last piece of a text ends it. -/
theorem last_splitOn {mark : UInt8} {x l : Bytes} (h : (splitOn [mark] x).getLast? = some l) :
    l <:+ x := by
  induction x using mark_induction mark with
  | single x hx =>
      rw [splitOn_mark_none hx] at h
      cases h
      exact List.suffix_rfl
  | cons y r hy ih =>
      rw [splitOn_mark hy, List.getLast?_cons, Option.some.injEq] at h
      have hne := splitOn_mark_ne_nil mark r
      rw [List.getLast?_eq_some_getLast hne, Option.getD_some] at h
      exact (ih (by rw [List.getLast?_eq_some_getLast hne, h])).trans
        ((List.suffix_cons mark r).trans (List.suffix_append y _))

/-- In a text that does not end with a blank, an empty last piece has no characters. -/
theorem segments_eq {x : Bytes} (hlast : ∀ c ∈ x.getLast?, isBlank c = false) :
    segments (ch ';') x = withoutEmptyLast (splitOn [ch ';'] x) := by
  unfold segments withoutEmptyLast
  dsimp only
  have hne := splitOn_mark_ne_nil (ch ';') x
  obtain ⟨l, hl⟩ : ∃ l, (splitOn [ch ';'] x).getLast? = some l :=
    ⟨_, List.getLast?_eq_some_getLast hne⟩
  have hiff : l = [] ↔ trimAscii l = [] := by
    constructor
    · rintro rfl
      rfl
    · intro hblank
      by_contra hnil
      obtain ⟨c, hc⟩ : ∃ c, l.getLast? = some c := ⟨_, List.getLast?_eq_some_getLast hnil⟩
      have hend : x.getLast? = some c := by
        obtain ⟨y, rfl⟩ := last_splitOn hl
        rw [List.getLast?_append, hc]
        rfl
      have hb := strip_eq_nil_iff.mp hblank c (List.mem_of_getLast? hc)
      rw [hlast c hend] at hb
      cases hb
  rw [hl, Option.map_some]
  simp only [Option.some.injEq, hiff]






/-! ### Reading -/

/-- The media type is `audio/pcm`, up to case and to the blanks around its parts. -/
def IsAudioPcm (raw : Bytes) : Prop :=
  ∃ u v, (splitOn [ch ';'] raw).headD [] = u ++ ch '/' :: v ∧ ch '/' ∉ u ∧
    (trimAscii u).map toLowerAscii = ascii "audio" ∧
    (trimAscii v).map toLowerAscii = ascii "pcm"

/-- A segment with an equals sign behind a token. -/
def IsParameter (s : Bytes) : Prop :=
  ∃ u v, s = u ++ ch '=' :: v ∧ ch '=' ∉ u ∧ validHeaderName (trimAscii u) = true

/-- The content type with these numbers. -/
def pcmOf (numbers : PcmKey → ℕ) : AudioPcmContentType where
  rate := .ofNat (numbers .rate)
  channels := .ofNat (numbers .channels)
  bits := .ofNat (numbers .bits)

/-- **The grammar of the parameters of `audio/pcm`.**  The segments are parameters, each of the
three that count occurs once, and its value is a canonical decimal. -/
structure PcmGrammar (segs : List Bytes) (numbers : PcmKey → ℕ) : Prop where
  parameters : ∀ s ∈ withoutEmptyLast segs, IsParameter s
  values : ∀ k, valuesOf k ((withoutEmptyLast segs).filterMap paramField) = [decimal (numbers k)]
  lt : ∀ k, numbers k < k.bound
  channels_pos : 0 < numbers .channels
  bits_pos : 0 < numbers .bits
  bits_octets : numbers .bits % 8 = 0

/-- The constraints on what was collected. -/
theorem finish_iff {p : PcmParameters} {r : ParsedContentType} :
    p.finish = .ok r ↔ ∃ numbers : PcmKey → ℕ, (∀ k : PcmKey, k.read p = some (numbers k)) ∧
      0 < numbers .channels ∧ 0 < numbers .bits ∧ numbers .bits % 8 = 0 ∧
      r = .audioPcm (pcmOf numbers) := by
  have hpos : ∀ n : UInt16, n = 0 ↔ n.toNat = 0 := fun n => UInt16.toNat_inj.symm
  have hmod : ∀ n : UInt16, n % 8 = 0 ↔ n.toNat % 8 = 0 := by
    intro n
    have height : (8 : UInt16).toNat = 8 := by decide
    rw [hpos, UInt16.toNat_mod, height]
  constructor
  · intro h
    unfold PcmParameters.finish at h
    split at h
    · rename_i rate channels bits hrate hchannels hbits
      split at h
      · cases h
      rename_i hc
      split at h
      · cases h
      rename_i hb
      cases h
      rw [not_or, not_not, hpos, hmod] at hb
      rw [hpos] at hc
      refine ⟨PcmKey.value ⟨rate, channels, bits⟩, ?_, Nat.pos_of_ne_zero hc,
        Nat.pos_of_ne_zero hb.1, hb.2, ?_⟩
      · rintro (_ | _ | _)
        · rw [PcmKey.read, hrate]
          rfl
        · rw [PcmKey.read, hchannels]
          rfl
        · rw [PcmKey.read, hbits]
          rfl
      · simp only [pcmOf, PcmKey.value, UInt32.ofNat_toNat, UInt16.ofNat_toNat]
    · cases h
  · rintro ⟨numbers, hread, hc, hb, hoctets, rfl⟩
    obtain ⟨rate, hrate, hraten⟩ := Option.map_eq_some_iff.mp (hread .rate)
    obtain ⟨channels, hchannels, hchannelsn⟩ := Option.map_eq_some_iff.mp (hread .channels)
    obtain ⟨bits, hbits, hbitsn⟩ := Option.map_eq_some_iff.mp (hread .bits)
    unfold PcmParameters.finish
    rw [hrate, hchannels, hbits]
    dsimp only
    rw [if_neg (by rw [hpos]; omega), if_neg (by rw [not_or, not_not, hpos, hmod]; omega)]
    simp only [pcmOf, ← hraten, ← hchannelsn, ← hbitsn, UInt32.ofNat_toNat, UInt16.ofNat_toNat]

theorem isTokenChar_toLowerAscii (c : UInt8) : isTokenChar (toLowerAscii c) = isTokenChar c := by
  have hall : ∀ n : Fin 256, isTokenChar (toLowerAscii (UInt8.ofNat n)) =
      isTokenChar (UInt8.ofNat n) := by decide +kernel
  have hc := hall ⟨c.toNat, c.toNat_lt⟩
  rwa [UInt8.ofNat_toNat] at hc

/-- Whether a name is a token does not depend on the case of its letters. -/
theorem validHeaderName_congr {x y : Bytes} (h : x.map toLowerAscii = y.map toLowerAscii) :
    validHeaderName x = true ↔ validHeaderName y = true := by
  have hlower : ∀ z : Bytes, validHeaderName z = true ↔
      z.map toLowerAscii ≠ [] ∧ ∀ c ∈ z.map toLowerAscii, isTokenChar c = true := by
    intro z
    rw [validHeaderName_iff, List.forall_mem_map]
    simp only [isTokenChar_toLowerAscii, ne_eq, List.map_eq_nil_iff]
  rw [hlower, hlower, h]

/-- A content type without a semicolon has no segments. -/
theorem tail_of_none {raw : Bytes} (h : find [ch ';'] (trimAscii raw) = none) :
    (splitOn [ch ';'] raw).tail = [] := by
  have hpieces : (splitOn [ch ';'] (trimAscii raw)).map trimAscii =
      (splitOn [ch ';'] raw).map trimAscii :=
    map_strip_splitOn (show isBlank (ch ';') = false by decide) raw
  rw [splitOn_of_find_none h, List.map_singleton] at hpieces
  obtain ⟨first, hsplit, -⟩ := List.map_eq_singleton_iff.mp hpieces.symm
  rw [hsplit]
  rfl

/-- Which way a content type with this media type takes. -/
theorem parseContentType_of_isAudioPcm {raw : Bytes} (h : IsAudioPcm raw) :
    parseContentType raw =
      match (withoutEmptyLast (segmentsOf raw)).foldlM pcmParameter {} with
      | .error e => .error e
      | .ok p => p.finish := by
  obtain ⟨u, v, hhead, hu, haudio, hpcm⟩ := h
  have hmediaType : mediaTypeOf raw = trimAscii (u ++ ch '/' :: v) := by rw [mediaTypeOf, hhead]
  have hmedia : mediaTypeOf raw = trimAscii ((trimAscii raw).take
      ((find [ch ';'] (trimAscii raw)).getD (trimAscii raw).length)) := by
    cases hsemi : find [ch ';'] (trimAscii raw) with
    | none => rw [mediaTypeOf_none hsemi, Option.getD_none, List.take_length]
    | some t => rw [(mediaTypeOf_some hsemi).1, Option.getD_some]
  obtain ⟨k, hfind, htype, hsubtype⟩ := exists_find_strip
    (show isBlank (ch '/') = false by decide) hu v
  have hfind' : find [ch '/'] (mediaTypeOf raw) = some k := by rw [hmediaType]; exact hfind
  have htype' : trimAscii ((mediaTypeOf raw).take k) = trimAscii u := by
    rw [hmediaType]; exact htype
  have hsubtype' : trimAscii ((mediaTypeOf raw).drop (k + 1)) = trimAscii v := by
    rw [hmediaType]; exact hsubtype
  have hvalid : ∀ {x name : Bytes}, x.map toLowerAscii = name → name.map toLowerAscii = name →
      validHeaderName name = true → validHeaderName x = true := by
    intro x name hx hname hv
    exact (validHeaderName_congr (hx.trans hname.symm)).mpr hv
  have hu' := hvalid haudio (by decide) (by decide)
  have hv' := hvalid hpcm (by decide) (by decide)
  have hequals : ∀ (x name : Bytes), iequalsAscii x name =
      (x.map toLowerAscii == name.map toLowerAscii) := fun _ _ => rfl
  have hne : (trimAscii raw).isEmpty = false := by
    rw [List.isEmpty_eq_false_iff]
    intro hnil
    rw [hnil, find_mark_none List.not_mem_nil] at hmedia
    rw [hmedia] at hfind'
    cases hfind'
  have hsegments : ∀ acc : PcmParameters,
      (segments (ch ';') ((trimAscii raw).drop
        (((find [ch ';'] (trimAscii raw)).map (· + 1)).getD (trimAscii raw).length))).foldlM
          pcmParameter acc = (withoutEmptyLast (segmentsOf raw)).foldlM pcmParameter acc := by
    intro acc
    cases hsemi : find [ch ';'] (trimAscii raw) with
    | none =>
        rw [Option.map_none, Option.getD_none, List.drop_length, segmentsOf, tail_of_none hsemi]
        rfl
    | some t =>
        rw [Option.map_some, Option.getD_some, segments_eq fun c hc => ?_]
        · refine foldlM_pcmParameter_congr ?_ acc
          rw [map_withoutEmptyLast, map_withoutEmptyLast, segmentsOf, (mediaTypeOf_some hsemi).2]
        · obtain ⟨y, hy⟩ := List.drop_suffix (t + 1) (trimAscii raw)
          have hlast : c ∈ (trimAscii raw).getLast? := by
            rw [← hy, List.getLast?_append, Option.mem_def.mp hc]
            rfl
          exact strip_last hlast
  unfold parseContentType
  dsimp only
  rw [hne, if_neg Bool.false_ne_true, ← hmedia, hfind']
  dsimp only
  rw [htype', hsubtype', hu', hv', hsegments]
  simp only [hequals, haudio, hpcm]
  rfl

/-- The segments are parameters when each has an equals sign and a token before the first. -/
theorem forall_isParameter_iff {segs : List Bytes} :
    (∀ s ∈ segs, IsParameter s) ↔ (∀ s ∈ segs, ch '=' ∈ s) ∧
      ∀ field ∈ segs.filterMap paramField, validHeaderName (trimAscii field.1) = true := by
  constructor
  · intro h
    refine ⟨fun s hs => ?_, fun field hfield => ?_⟩
    · obtain ⟨u, v, rfl, -⟩ := h s hs
      simp
    · obtain ⟨s, hs, hparam⟩ := List.mem_filterMap.mp hfield
      obtain ⟨u, v, rfl, hu, hvalid⟩ := h s hs
      rw [paramField_append hu, Option.some.injEq] at hparam
      rw [← hparam]
      exact hvalid
  · rintro ⟨hmem, hvalid⟩ s hs
    obtain ⟨u, v, rfl, hu⟩ := List.eq_append_cons_of_mem (hmem s hs)
    exact ⟨u, v, rfl, hu, hvalid (u, v) (List.mem_filterMap.mpr ⟨_, hs, paramField_append hu v⟩)⟩

/-- **Reading `audio/pcm`.**  Exactly the content types of the grammar are read, and the result
carries their numbers. -/
theorem parseContentType_pcm_iff {raw : Bytes} (h : IsAudioPcm raw) {r : ParsedContentType} :
    parseContentType raw = .ok r ↔
      ∃ numbers, PcmGrammar (segmentsOf raw) numbers ∧ r = .audioPcm (pcmOf numbers) := by
  have hfinish : parseContentType raw = .ok r ↔ ∃ p : PcmParameters,
      (withoutEmptyLast (segmentsOf raw)).foldlM pcmParameter {} = .ok p ∧ p.finish = .ok r := by
    rw [parseContentType_of_isAudioPcm h]
    cases hfold : (withoutEmptyLast (segmentsOf raw)).foldlM pcmParameter {} with
    | error e => exact iff_of_false nofun fun ⟨p, hp, _⟩ => nomatch hp
    | ok p => exact ⟨fun h => ⟨p, rfl, h⟩, fun ⟨p', hp, h⟩ => Except.ok.inj hp ▸ h⟩
  rw [hfinish]
  have hnone : ∀ k : PcmKey, k.read {} = none := by
    rintro (_ | _ | _)
    · rfl
    · rfl
    · rfl
  constructor
  · rintro ⟨p, hfold, hr⟩
    obtain ⟨numbers, hread, hc, hb, hoctets, rfl⟩ := finish_iff.mp hr
    obtain ⟨hmem, hfold⟩ := foldlM_pcmParameter_iff.mp hfold
    obtain ⟨hvalid, hkeys⟩ := foldlM_putField_iff.mp hfold
    have hvalues : ∀ k : PcmKey, numbers k < k.bound ∧
        valuesOf k ((withoutEmptyLast (segmentsOf raw)).filterMap paramField) =
          [decimal (numbers k)] := by
      intro k
      obtain ⟨-, hkept⟩ | ⟨-, n, hlt, hvalue, hn⟩ := hkeys k
      · exact nomatch (hread k).symm.trans (hkept.trans (hnone k))
      · cases (hread k).symm.trans hn
        exact ⟨hlt, hvalue⟩
    exact ⟨numbers, ⟨forall_isParameter_iff.mpr ⟨hmem, hvalid⟩, fun k => (hvalues k).2,
      fun k => (hvalues k).1, hc, hb, hoctets⟩, rfl⟩
  · rintro ⟨numbers, hgrammar, rfl⟩
    obtain ⟨hmem, hvalid⟩ := forall_isParameter_iff.mp hgrammar.parameters
    have hread : ∃ p : PcmParameters, ∀ k : PcmKey, k.read p = some (numbers k) := by
      refine ⟨⟨some (.ofNat (numbers .rate)), some (.ofNat (numbers .channels)),
        some (.ofNat (numbers .bits))⟩, ?_⟩
      rintro (_ | _ | _)
      · exact congrArg some (UInt32.toNat_ofNat_of_lt' (hgrammar.lt .rate))
      · exact congrArg some (UInt16.toNat_ofNat_of_lt' (hgrammar.lt .channels))
      · exact congrArg some (UInt16.toNat_ofNat_of_lt' (hgrammar.lt .bits))
    obtain ⟨p, hp⟩ := hread
    refine ⟨p, foldlM_pcmParameter_iff.mpr ⟨hmem, foldlM_putField_iff.mpr ⟨hvalid, fun k => ?_⟩⟩,
      finish_iff.mpr ⟨numbers, hp, hgrammar.channels_pos, hgrammar.bits_pos,
        hgrammar.bits_octets, rfl⟩⟩
    exact .inr ⟨hnone k, numbers k, hgrammar.lt k, hgrammar.values k, hp k⟩

/-! ### Other ways to write the parameters -/

/-- One way to write the segments, and another one. -/
inductive Variation : List Bytes → List Bytes → Prop
  /-- The parameters in another order. -/
  | permute {segs segs' : List Bytes} (h : segs.Perm segs')
      (hsegs : ∀ s ∈ segs, trimAscii s ≠ []) : Variation segs segs'
  /-- Blanks at the semicolons. -/
  | blanks (before after : List Bytes) {s s' : Bytes} (h : trimAscii s = trimAscii s') :
      Variation (before ++ s :: after) (before ++ s' :: after)
  /-- Another case of the key, and blanks at the equals sign. -/
  | rewrite (before after : List Bytes) {u u' v v' : Bytes} (hu : ch '=' ∉ u) (hu' : ch '=' ∉ u')
      (hkey : (trimAscii u).map toLowerAscii = (trimAscii u').map toLowerAscii)
      (hvalue : trimAscii v = trimAscii v') :
      Variation (before ++ (u ++ ch '=' :: v) :: after) (before ++ (u' ++ ch '=' :: v') :: after)
  /-- One more parameter, with another key. -/
  | insert (before after : List Bytes) {u v : Bytes} (hu : ch '=' ∉ u)
      (hvalid : validHeaderName (trimAscii u) = true)
      (hother : ∀ k : PcmKey, fieldName (u, v) ≠ k.text)
      (hbefore : after = [] → ∀ s ∈ before.getLast?, trimAscii s ≠ []) :
      Variation (before ++ after) (before ++ (u ++ ch '=' :: v) :: after)
  /-- An empty last segment. -/
  | finish {segs : List Bytes} {s : Bytes} (h : trimAscii s = [])
      (hsegs : ∀ s ∈ segs.getLast?, trimAscii s ≠ []) : Variation segs (segs ++ [s])

/-- What a segment says: its key in lower case, and its value. -/
def reading (s : Bytes) : Option (Bytes × Bytes) :=
  (paramField s).map fun field => (fieldName field, trimAscii field.2)

theorem reading_append {u : Bytes} (hu : ch '=' ∉ u) (v : Bytes) :
    reading (u ++ ch '=' :: v) = some ((trimAscii u).map toLowerAscii, trimAscii v) := by
  rw [reading, paramField_append hu]
  rfl

theorem valuesOf_eq (k : PcmKey) (segs : List Bytes) :
    valuesOf k (segs.filterMap paramField) =
      (segs.filterMap reading).filterMap fun pair =>
        if pair.1 = k.text then some pair.2 else none := by
  induction segs with
  | nil => rfl
  | cons s segs ih =>
      cases hs : paramField s with
      | none =>
          have hreading : reading s = none := by rw [reading, hs]; rfl
          rw [List.filterMap_cons_none hs, List.filterMap_cons_none hreading, ih]
      | some field =>
          have hreading : reading s = some (fieldName field, trimAscii field.2) := by
            rw [reading, hs]
            rfl
          rw [List.filterMap_cons_some hs, List.filterMap_cons_some hreading, valuesOf_cons,
            List.filterMap_cons, ih]
          split
          · rfl
          · rfl

/-- Two segments that say the same. -/
structure SameSegment (s s' : Bytes) : Prop where
  blank : trimAscii s = [] ↔ trimAscii s' = []
  parameter : IsParameter s ↔ IsParameter s'
  reading : reading s = reading s'

theorem isParameter_append {u v : Bytes} (hu : ch '=' ∉ u) :
    IsParameter (u ++ ch '=' :: v) ↔ validHeaderName (trimAscii u) = true := by
  constructor
  · rintro ⟨u', v', heq, hu', hvalid⟩
    obtain ⟨rfl, -⟩ := append_mark_inj hu hu' heq
    exact hvalid
  · exact fun h => ⟨u, v, rfl, hu, h⟩

theorem trim_append_ne_nil (u v : Bytes) : trimAscii (u ++ ch '=' :: v) ≠ [] := by
  intro hnil
  have hall := strip_eq_nil_iff.mp hnil (ch '=') (by simp)
  exact absurd hall (by decide)

theorem sameSegment_rewrite {u u' v v' : Bytes} (hu : ch '=' ∉ u) (hu' : ch '=' ∉ u')
    (hkey : (trimAscii u).map toLowerAscii = (trimAscii u').map toLowerAscii)
    (hvalue : trimAscii v = trimAscii v') :
    SameSegment (u ++ ch '=' :: v) (u' ++ ch '=' :: v') where
  blank := iff_of_false (trim_append_ne_nil u v) (trim_append_ne_nil u' v')
  parameter := by
    rw [isParameter_append hu, isParameter_append hu']
    exact validHeaderName_congr hkey
  reading := by rw [reading_append hu, reading_append hu', hkey, hvalue]

theorem mem_trimAscii_iff {c : UInt8} (hc : isBlank c = false) {s : Bytes} :
    c ∈ trimAscii s ↔ c ∈ s := by
  refine ⟨fun h => trimAscii_subset s h, fun h => ?_⟩
  obtain ⟨l, r, hl, hr, hs⟩ := exists_strip isBlank s
  rw [hs, List.mem_append, List.mem_append] at h
  obtain h | h | h := h
  · rw [hl c h] at hc
    cases hc
  · exact h
  · rw [hr c h] at hc
    cases hc

theorem sameSegment_blanks {s s' : Bytes} (h : trimAscii s = trimAscii s') : SameSegment s s' := by
  have hequals : isBlank (ch '=') = false := by decide
  by_cases hmem : ch '=' ∈ s
  · have hmem' : ch '=' ∈ s' := by
      rw [← mem_trimAscii_iff hequals, ← h]
      exact (mem_trimAscii_iff hequals).mpr hmem
    obtain ⟨u, v, rfl, hu⟩ := List.eq_append_cons_of_mem hmem
    obtain ⟨u', v', rfl, hu'⟩ := List.eq_append_cons_of_mem hmem'
    obtain ⟨k, hfind, hkey, hvalue⟩ := exists_find_strip hequals hu v
    obtain ⟨k', hfind', hkey', hvalue'⟩ := exists_find_strip hequals hu' v'
    have hstrip : strip isBlank (u ++ ch '=' :: v) = strip isBlank (u' ++ ch '=' :: v') := h
    rw [hstrip] at hfind hkey hvalue
    cases hfind.symm.trans hfind'
    exact sameSegment_rewrite hu hu' (congrArg _ (hkey.symm.trans hkey'))
      (hvalue.symm.trans hvalue')
  · have hmem' : ch '=' ∉ s' := by
      rw [← mem_trimAscii_iff hequals, ← h]
      exact fun hin => hmem ((mem_trimAscii_iff hequals).mp hin)
    have hnot : ∀ {t : Bytes}, ch '=' ∉ t → ¬ IsParameter t := by
      rintro t ht ⟨u, v, rfl, -⟩
      exact ht (by simp)
    refine ⟨by rw [h], iff_of_false (hnot hmem) (hnot hmem'), ?_⟩
    rw [reading, reading, paramField_eq_none hmem, paramField_eq_none hmem']

/-! ### The last segment -/

theorem withoutEmptyLast_eq_self {segs : List Bytes}
    (h : ∀ s ∈ segs.getLast?, trimAscii s ≠ []) : withoutEmptyLast segs = segs := by
  refine if_neg fun hlast => ?_
  obtain ⟨s, hs, hblank⟩ := Option.map_eq_some_iff.mp hlast
  exact h s hs hblank

theorem withoutEmptyLast_concat {s : Bytes} (h : trimAscii s = []) (segs : List Bytes) :
    withoutEmptyLast (segs ++ [s]) = segs := by
  rw [withoutEmptyLast, List.getLast?_concat, Option.map_some, if_pos (congrArg some h),
    List.dropLast_concat]

theorem withoutEmptyLast_append (before : List Bytes) {after : List Bytes} (h : after ≠ []) :
    withoutEmptyLast (before ++ after) = before ++ withoutEmptyLast after := by
  unfold withoutEmptyLast
  rw [List.getLast?_append_of_ne_nil _ h]
  split
  · rw [List.dropLast_append_of_ne_nil h]
  · rfl

/-- Two lists of segments that say the same, in whatever order. -/
structure Alike (segs segs' : List Bytes) : Prop where
  parameters : (∀ s ∈ segs, IsParameter s) ↔ ∀ s ∈ segs', IsParameter s
  values : ∀ k, (valuesOf k (segs.filterMap paramField)).Perm
    (valuesOf k (segs'.filterMap paramField))

theorem Alike.refl (segs : List Bytes) : Alike segs segs := ⟨Iff.rfl, fun _ => .refl _⟩

theorem Alike.grammar {segs segs' : List Bytes}
    (h : Alike (withoutEmptyLast segs) (withoutEmptyLast segs')) (numbers : PcmKey → ℕ) :
    PcmGrammar segs numbers ↔ PcmGrammar segs' numbers := by
  have hvalues : ∀ k, valuesOf k ((withoutEmptyLast segs).filterMap paramField) =
      [decimal (numbers k)] ↔ valuesOf k ((withoutEmptyLast segs').filterMap paramField) =
      [decimal (numbers k)] := by
    intro k
    rw [← List.perm_singleton, ← List.perm_singleton]
    exact ⟨(h.values k).symm.trans, (h.values k).trans⟩
  exact ⟨fun g => ⟨h.parameters.mp g.parameters, fun k => (hvalues k).mp (g.values k), g.lt,
      g.channels_pos, g.bits_pos, g.bits_octets⟩,
    fun g => ⟨h.parameters.mpr g.parameters, fun k => (hvalues k).mpr (g.values k), g.lt,
      g.channels_pos, g.bits_pos, g.bits_octets⟩⟩

theorem alike_perm {segs segs' : List Bytes} (h : segs.Perm segs') : Alike segs segs' where
  parameters := by simp only [h.mem_iff]
  values k := by
    rw [valuesOf_eq, valuesOf_eq]
    exact (h.filterMap reading).filterMap _

theorem alike_replace {s s' : Bytes} (h : SameSegment s s') (before after : List Bytes) :
    Alike (before ++ s :: after) (before ++ s' :: after) where
  parameters := by
    simp only [List.forall_mem_append, List.forall_mem_cons, h.parameter]
  values k := by
    have hreading : (before ++ s :: after).filterMap reading =
        (before ++ s' :: after).filterMap reading := by
      simp only [List.filterMap_append, List.filterMap_cons, h.reading]
    rw [valuesOf_eq, valuesOf_eq, hreading]

/-- A segment is replaced by one that says the same. -/
theorem SameSegment.grammar {s s' : Bytes} (h : SameSegment s s') (before after : List Bytes)
    (numbers : PcmKey → ℕ) :
    PcmGrammar (before ++ s :: after) numbers ↔ PcmGrammar (before ++ s' :: after) numbers := by
  refine Alike.grammar ?_ numbers
  cases after with
  | cons t after =>
      have hsplit : ∀ x : Bytes, withoutEmptyLast (before ++ x :: t :: after) =
          before ++ x :: withoutEmptyLast (t :: after) := by
        intro x
        rw [List.append_cons, withoutEmptyLast_append _ (List.cons_ne_nil t after),
          ← List.append_cons]
      rw [hsplit, hsplit]
      exact alike_replace h before _
  | nil =>
      by_cases hblank : trimAscii s = []
      · rw [withoutEmptyLast_concat hblank, withoutEmptyLast_concat (h.blank.mp hblank)]
        exact .refl before
      · have hself : ∀ {x : Bytes}, trimAscii x ≠ [] →
            withoutEmptyLast (before ++ [x]) = before ++ [x] := by
          intro x hx
          refine withoutEmptyLast_eq_self fun y hy => ?_
          rw [List.getLast?_concat, Option.mem_some_iff] at hy
          rwa [← hy]
        rw [hself hblank, hself (mt h.blank.mpr hblank)]
        exact alike_replace h before []

/-- **Variations say the same.** -/
theorem Variation.grammar {segs segs' : List Bytes} (h : Variation segs segs')
    (numbers : PcmKey → ℕ) : PcmGrammar segs numbers ↔ PcmGrammar segs' numbers := by
  cases h with
  | permute h hsegs =>
      refine Alike.grammar ?_ numbers
      have hself : ∀ {l : List Bytes}, (∀ s ∈ l, trimAscii s ≠ []) → withoutEmptyLast l = l :=
        fun hl => withoutEmptyLast_eq_self fun s hs => hl s (List.mem_of_getLast? hs)
      rw [hself hsegs, hself fun s hs => hsegs s (h.mem_iff.mpr hs)]
      exact alike_perm h
  | blanks before after h => exact (sameSegment_blanks h).grammar before after numbers
  | rewrite before after hu hu' hkey hvalue =>
      exact (sameSegment_rewrite hu hu' hkey hvalue).grammar before after numbers
  | @insert before after u v hu hvalid hother hbefore =>
      refine Alike.grammar ?_ numbers
      have hinsert : ∀ l : List Bytes, Alike (before ++ l) (before ++ (u ++ ch '=' :: v) :: l) := by
        refine fun l => ⟨?_, fun k => ?_⟩
        · simp only [List.forall_mem_append, List.forall_mem_cons, isParameter_append hu, hvalid,
            true_and]
        · have hskip : (if (trimAscii u).map toLowerAscii = k.text then some (trimAscii v)
              else none) = none := if_neg (hother k)
          have hreading : (before ++ (u ++ ch '=' :: v) :: l).filterMap reading =
              before.filterMap reading ++
                ((trimAscii u).map toLowerAscii, trimAscii v) :: l.filterMap reading := by
            rw [List.filterMap_append, List.filterMap_cons_some (reading_append hu v)]
          rw [valuesOf_eq, valuesOf_eq, hreading, List.filterMap_append, List.filterMap_append,
            List.filterMap_append, List.filterMap_cons]
          dsimp only
          rw [hskip]
      cases after with
      | nil =>
          have hlast : withoutEmptyLast (before ++ [u ++ ch '=' :: v]) =
              before ++ [u ++ ch '=' :: v] := by
            refine withoutEmptyLast_eq_self fun y hy => ?_
            rw [List.getLast?_concat, Option.mem_some_iff] at hy
            rw [← hy]
            exact trim_append_ne_nil u v
          rw [hlast, List.append_nil, withoutEmptyLast_eq_self (hbefore rfl)]
          have hend := hinsert []
          rwa [List.append_nil] at hend
      | cons t after =>
          rw [withoutEmptyLast_append _ (List.cons_ne_nil t after), List.append_cons,
            withoutEmptyLast_append _ (List.cons_ne_nil t after), ← List.append_cons]
          exact hinsert _
  | finish h hsegs =>
      refine Alike.grammar ?_ numbers
      rw [withoutEmptyLast_eq_self hsegs, withoutEmptyLast_concat h]
      exact .refl _

theorem grammar_of_eqvGen {segs segs' : List Bytes} (h : Relation.EqvGen Variation segs segs')
    (numbers : PcmKey → ℕ) : PcmGrammar segs numbers ↔ PcmGrammar segs' numbers := by
  induction h with
  | rel segs segs' h => exact h.grammar numbers
  | refl segs => exact Iff.rfl
  | symm segs segs' _ ih => exact ih.symm
  | trans segs segs' segs'' _ _ ih ih' => exact ih.trans ih'

/-- **`parse_content_type` on `audio/pcm`**: it reads exactly the content types of the grammar,
with their numbers, and what it reads is the same however the parameters are written. -/
theorem parseContentType_audioPcm (raw : Bytes) (h : IsAudioPcm raw) :
    (∀ r, parseContentType raw = .ok r ↔
        ∃ numbers, PcmGrammar (segmentsOf raw) numbers ∧ r = .audioPcm (pcmOf numbers)) ∧
      ∀ raw', IsAudioPcm raw' →
        Relation.EqvGen Variation (segmentsOf raw) (segmentsOf raw') →
          (parseContentType raw').toOption = (parseContentType raw).toOption := by
  refine ⟨fun r => parseContentType_pcm_iff h, fun raw' h' hvariation => ?_⟩
  have hsame : ∀ r, parseContentType raw' = .ok r ↔ parseContentType raw = .ok r := by
    intro r
    rw [parseContentType_pcm_iff h, parseContentType_pcm_iff h']
    simp only [grammar_of_eqvGen hvariation]
  cases hraw : parseContentType raw with
  | ok r => rw [(hsame r).mpr hraw]
  | error e =>
      cases hraw' : parseContentType raw' with
      | ok r => exact nomatch hraw.symm.trans ((hsame r).mp hraw')
      | error e' => rfl

/-- Two ways to write one content type. -/
theorem parseContentType_audioPcm_example :
    (parseContentType (ascii "audio/pcm;rate=16000;bits=16;channels=1")).toOption =
      (parseContentType (ascii "Audio/PCM ; channels=1; bits=16;rate=16000")).toOption := by
  have hpcm : ∀ u v rest : Bytes, (splitOn [ch ';'] (u ++ ch '/' :: v ++ rest)).headD [] =
      u ++ ch '/' :: v → ch '/' ∉ u → (trimAscii u).map toLowerAscii = ascii "audio" →
      (trimAscii v).map toLowerAscii = ascii "pcm" → IsAudioPcm (u ++ ch '/' :: v ++ rest) :=
    fun u v rest hhead hu haudio hpcm => ⟨u, v, hhead, hu, haudio, hpcm⟩
  refine (parseContentType_audioPcm _ ?_).2 _ ?_ ?_
  · exact hpcm (ascii "Audio") (ascii "PCM ") (ascii "; channels=1; bits=16;rate=16000")
      (by decide) (by decide) (by decide) (by decide)
  · exact hpcm (ascii "audio") (ascii "pcm") (ascii ";rate=16000;bits=16;channels=1")
      (by decide) (by decide) (by decide) (by decide)
  · refine .trans _ [ascii " channels=1", ascii "bits=16", ascii "rate=16000"] _
      (.rel _ _ (.blanks [ascii " channels=1"] [ascii "rate=16000"] (by decide))) ?_
    refine .trans _ [ascii "channels=1", ascii "bits=16", ascii "rate=16000"] _
      (.rel _ _ (.blanks [] [ascii "bits=16", ascii "rate=16000"] (by decide))) ?_
    exact .rel _ _ (.permute (List.reverse_perm _).symm (by decide))

end CulpeoStream.Message
