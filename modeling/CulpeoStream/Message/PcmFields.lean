import CulpeoStream.Lib.Checks
import CulpeoStream.Lib.Decimal
import CulpeoStream.Message.ContentType
import CulpeoStream.Message.Decoded
import CulpeoStream.Message.Numerals

/-!
# PCM content types

What a content type looks like that `parse_content_type` accepts as PCM, seen from the pieces
between its semicolons: each piece after the first is blank or a parameter, and of the three
parameters that count each occurs once, with a numeral for its value (`pcmText_of_parse`).
-/

namespace CulpeoStream.Message

open Search Strip

/-- A parameter cut at its first equals sign. -/
def paramField (piece : Bytes) : Option (Bytes × Bytes) :=
  (find [ch '='] piece).map fun eq => (piece.take eq, piece.drop (eq + 1))

/-- The parameters of a content type. -/
def paramFields (raw : Bytes) : List (Bytes × Bytes) :=
  (splitOn [ch ';'] raw).tail.filterMap paramField

/-- The name of a parameter in lower case. -/
def fieldName (field : Bytes × Bytes) : Bytes := (trimAscii field.1).map toLowerAscii

/-- The parameters of a name. -/
def fieldsNamed (name : Bytes) (fields : List (Bytes × Bytes)) : List (Bytes × Bytes) :=
  fields.filter fun field => fieldName field = name

/-- What stands before the first semicolon. -/
def mediaTypeOf (raw : Bytes) : Bytes := trimAscii ((splitOn [ch ';'] raw).headD [])

theorem fieldsNamed_cons (name : Bytes) (field : Bytes × Bytes) (fields : List (Bytes × Bytes)) :
    fieldsNamed name (field :: fields) =
      if fieldName field = name then field :: fieldsNamed name fields
      else fieldsNamed name fields := by
  rw [fieldsNamed, List.filter_cons]
  simp only [decide_eq_true_eq]
  rfl

theorem paramField_eq_none {piece : Bytes} (h : ch '=' ∉ piece) : paramField piece = none := by
  rw [paramField, find_mark_none h]
  rfl

theorem paramField_append {u : Bytes} (hu : ch '=' ∉ u) (v : Bytes) :
    paramField (u ++ ch '=' :: v) = some (u, v) := by
  rw [paramField, find_mark hu, Option.map_some, List.take_left, ← List.drop_drop, List.drop_left]
  rfl

/-! ### Numerals -/

/-- A string of digits and the number it stands for. -/
structure IsNumeral (x : Bytes) (n : ℕ) : Prop where
  ne_nil : x ≠ []
  digits : ∀ c ∈ x, 48 ≤ c.toNat ∧ c.toNat ≤ 57
  value : Decimal.value (x.map fun c => c.toNat - 48) = n

theorem le_foldl_digits (ds : List ℕ) (n : ℕ) :
    n ≤ ds.foldl (fun acc d => acc * 10 + d) n := by
  induction ds generalizing n with
  | nil => exact le_rfl
  | cons d ds ih =>
      rw [List.foldl_cons]
      exact le_trans (by omega) (ih _)

theorem isDigit_iff {c : UInt8} : isDigit c = true ↔ 48 ≤ c.toNat ∧ c.toNat ≤ 57 := by
  have hzero : (ch '0').toNat = 48 := by decide
  have hnine : (ch '9').toNat = 57 := by decide
  rw [isDigit, Bool.and_eq_true, decide_eq_true_eq, decide_eq_true_eq, UInt8.le_iff_toNat_le,
    UInt8.le_iff_toNat_le, hzero, hnine]

/-- The loop of `parse_u32`, which stops when the number no longer fits. -/
theorem parseU32_go_iff {x : Bytes} {parsed n : UInt32} :
    parseU32.go x parsed = .ok n ↔ (∀ c ∈ x, isDigit c = true) ∧
      (x.map digitValue).foldl (fun acc d => acc * 10 + d) parsed.toNat = n.toNat := by
  induction x generalizing parsed with
  | nil =>
      rw [parseU32.go, Except.ok.injEq, List.map_nil, List.foldl_nil, UInt32.toNat_inj]
      exact ⟨fun h => ⟨nofun, h⟩, fun h => h.2⟩
  | cons c rest ih =>
      rw [parseU32.go, List.forall_mem_cons, isDigit_iff, List.map_cons, List.foldl_cons]
      have hzero : (ch '0').toNat = 48 := by decide
      have hnine : (ch '9').toNat = 57 := by decide
      have hmax : (0xFFFFFFFF : UInt32).toNat = 2 ^ 32 - 1 := by decide
      have hten : (10 : UInt32).toNat = 10 := by decide
      split
      · rename_i hdigit
        rw [UInt8.lt_iff_toNat_lt, UInt8.lt_iff_toNat_lt, hzero, hnine] at hdigit
        exact iff_of_false nofun fun h => by omega
      · rename_i hdigit
        rw [not_or, UInt8.lt_iff_toNat_lt, UInt8.lt_iff_toNat_lt, hzero, hnine] at hdigit
        have hc : ((c - ch '0').toUInt32).toNat = digitValue c := by
          rw [digitValue, UInt8.toNat_toUInt32, UInt8.toNat_sub_of_le _ _ (by
            rw [UInt8.le_iff_toNat_le, hzero]
            omega), hzero]
        have hvalue : digitValue c < 10 := by
          rw [digitValue]
          omega
        have hsub : ((0xFFFFFFFF : UInt32) - (c - ch '0').toUInt32).toNat =
            2 ^ 32 - 1 - digitValue c := by
          rw [UInt32.toNat_sub_of_le _ _ (by
            rw [UInt32.le_iff_toNat_le, hmax, hc]
            omega), hmax, hc]
        dsimp only
        split
        · -- What is read so far is too large, and more digits do not make it smaller.
          rename_i hroom
          rw [UInt32.lt_iff_toNat_lt, UInt32.toNat_div, hsub, hten] at hroom
          refine iff_of_false nofun fun h => ?_
          have hle := le_foldl_digits (rest.map digitValue) (parsed.toNat * 10 + digitValue c)
          have hlt := n.toNat_lt
          omega
        · rename_i hroom
          rw [UInt32.lt_iff_toNat_lt, UInt32.toNat_div, hsub, hten] at hroom
          have hnext : (parsed * 10 + (c - ch '0').toUInt32).toNat =
              parsed.toNat * 10 + digitValue c := by
            rw [UInt32.toNat_add, UInt32.toNat_mul, hten, hc]
            omega
          rw [ih, hnext]
          exact ⟨fun h => ⟨⟨by omega, h.1⟩, h.2⟩, fun h => ⟨h.1.2, h.2⟩⟩

/-- **`parse_u32`** reads the canonical decimals below `2 ^ 32`. -/
theorem parseU32_iff {x : Bytes} {n : UInt32} : parseU32 x = .ok n ↔ x = decimal n.toNat := by
  rw [parseU32]
  cases x with
  | nil => exact iff_of_false nofun fun h => decimal_ne_nil _ h.symm
  | cons c rest =>
      rw [if_neg (by simp)]
      split
      · rename_i hlead
        refine iff_of_false nofun fun h => ?_
        have hrest : rest ≠ [] := by
          rintro rfl
          exact absurd hlead.1 (by simp)
        exact decimal_head_ne_zero h.symm hrest (Option.some.inj hlead.2)
      · rename_i hlead
        have hzero : c = ch '0' → rest = [] := by
          rintro rfl
          by_contra hrest
          exact hlead ⟨by
            rw [List.length_cons]
            have := List.length_pos_of_ne_nil hrest
            omega, rfl⟩
        rw [parseU32_go_iff]
        constructor
        · rintro ⟨hdigits, hvalue⟩
          rw [← hvalue]
          exact (decimal_value hdigits hzero).symm
        · intro h
          refine ⟨fun d hd => isDigit_of_mem_decimal (h ▸ hd), ?_⟩
          rw [h, map_digitValue_decimal]
          exact Decimal.value_digits _

theorem parseU16_iff {x : Bytes} {n : UInt16} : parseU16 x = .ok n ↔ x = decimal n.toNat := by
  have hmax : (0xFFFF : UInt32).toNat = 65535 := by decide
  rw [parseU16]
  cases hparsed : parseU32 x with
  | error e =>
      refine iff_of_false nofun fun h => ?_
      have hok : parseU32 x = .ok n.toUInt32 := parseU32_iff.mpr (by rwa [UInt16.toNat_toUInt32])
      exact nomatch hparsed.symm.trans hok
  | ok parsed =>
      rw [parseU32_iff] at hparsed
      dsimp only
      split
      · rename_i hlarge
        rw [UInt32.lt_iff_toNat_lt, hmax] at hlarge
        refine iff_of_false nofun fun h => ?_
        have hsame := decimal_injective (hparsed.symm.trans h)
        have hlt := n.toNat_lt
        omega
      · rename_i hsmall
        rw [UInt32.lt_iff_toNat_lt, hmax] at hsmall
        have hsize : parsed.toUInt16.toNat = parsed.toNat := by
          rw [UInt32.toNat_toUInt16]
          omega
        rw [Except.ok.injEq, ← UInt16.toNat_inj, hsize, hparsed, decimal_injective.eq_iff]

theorem isNumeral_decimal (n : ℕ) : IsNumeral (decimal n) n where
  ne_nil := decimal_ne_nil n
  digits _ hc := isDigit_iff.mp (isDigit_of_mem_decimal hc)
  value := (congrArg Decimal.value (map_digitValue_decimal n)).trans (Decimal.value_digits n)

/-! ### The parameters -/

/-- One turn of the parameter loop, for a parameter that has been cut. -/
def putField (acc : PcmParameters) (field : Bytes × Bytes) : Except Error PcmParameters :=
  let key := trimAscii field.1
  let numericValue := trimAscii field.2
  if !validHeaderName key then .error .invalidContentType
  else if iequalsAscii key (ascii "rate") then
    if acc.rate.isSome then .error .invalidContentType
    else (parseU32 numericValue).map fun n => { acc with rate := some n }
  else if iequalsAscii key (ascii "channels") then
    if acc.channels.isSome then .error .invalidContentType
    else (parseU16 numericValue).map fun n => { acc with channels := some n }
  else if iequalsAscii key (ascii "bits") then
    if acc.bits.isSome then .error .invalidContentType
    else (parseU16 numericValue).map fun n => { acc with bits := some n }
  else .ok acc

theorem pcmParameter_append {u : Bytes} (hu : ch '=' ∉ u) (v : Bytes) (acc : PcmParameters) :
    pcmParameter acc (u ++ ch '=' :: v) = putField acc (u, v) := by
  obtain ⟨k, hfind, hname, hvalue⟩ := exists_find_strip
    (show isBlank (ch '=') = false by decide) hu v
  have hne : (trimAscii (u ++ ch '=' :: v)).isEmpty = false := by
    rw [List.isEmpty_eq_false_iff]
    intro hnil
    have hall := strip_eq_nil_iff.mp hnil (ch '=') (by simp)
    exact absurd hall (by decide)
  have hfind' : find [ch '='] (trimAscii (u ++ ch '=' :: v)) = some k := hfind
  have hname' : trimAscii ((trimAscii (u ++ ch '=' :: v)).take k) = trimAscii u := hname
  have hvalue' : trimAscii ((trimAscii (u ++ ch '=' :: v)).drop (k + 1)) = trimAscii v := hvalue
  rw [pcmParameter, hne, if_neg Bool.false_ne_true, hfind']
  dsimp only
  rw [hname', hvalue', putField]

theorem pcmParameter_none {piece : Bytes} (h : ch '=' ∉ piece) (acc : PcmParameters) :
    pcmParameter acc piece = .error .invalidContentType := by
  have hnot : ch '=' ∉ trimAscii piece := fun hmem => h (trimAscii_subset piece hmem)
  rw [pcmParameter, find_mark_none hnot]
  dsimp only
  split <;> rfl

/-- The three parameters that count. -/
inductive PcmKey where
  | rate
  | channels
  | bits
  deriving DecidableEq, Repr

namespace PcmKey

def text : PcmKey → Bytes
  | rate => ascii "rate"
  | channels => ascii "channels"
  | bits => ascii "bits"

def read (p : PcmParameters) : PcmKey → Option ℕ
  | rate => p.rate.map UInt32.toNat
  | channels => p.channels.map UInt16.toNat
  | bits => p.bits.map UInt16.toNat

/-- The value that a content type gives to a parameter. -/
def value (pcm : AudioPcmContentType) : PcmKey → ℕ
  | rate => pcm.rate.toNat
  | channels => pcm.channels.toNat
  | bits => pcm.bits.toNat

theorem text_injective : ∀ k k' : PcmKey, k.text = k'.text → k = k' := by
  rintro (_ | _ | _) (_ | _ | _) h
  all_goals first | rfl | exact absurd h (by decide)

theorem iequalsAscii_text (k : PcmKey) (field : Bytes × Bytes) :
    iequalsAscii (trimAscii field.1) k.text = true ↔ fieldName field = k.text := by
  have hlower : k.text.map toLowerAscii = k.text := by cases k <;> decide
  rw [iequalsAscii, beq_iff_eq, hlower, fieldName]

end PcmKey

namespace PcmKey

/-- The values of a parameter are below this. -/
def bound : PcmKey → ℕ
  | rate => 2 ^ 32
  | channels => 2 ^ 16
  | bits => 2 ^ 16

/-- The parameter is read and set. -/
def put (acc : PcmParameters) (numericValue : Bytes) : PcmKey → Except Error PcmParameters
  | rate => (parseU32 numericValue).map fun n => { acc with rate := some n }
  | channels => (parseU16 numericValue).map fun n => { acc with channels := some n }
  | bits => (parseU16 numericValue).map fun n => { acc with bits := some n }

/-- The parameters are what is read of them. -/
theorem read_injective {p p' : PcmParameters} (h : ∀ k : PcmKey, k.read p = k.read p') :
    p = p' := by
  obtain ⟨rate, channels, bits⟩ := p
  obtain ⟨rate', channels', bits'⟩ := p'
  have hrate : rate = rate' := Option.map_injective (fun _ _ => UInt32.toNat_inj.mp) (h .rate)
  have hchannels : channels = channels' :=
    Option.map_injective (fun _ _ => UInt16.toNat_inj.mp) (h .channels)
  have hbits : bits = bits' := Option.map_injective (fun _ _ => UInt16.toNat_inj.mp) (h .bits)
  rw [hrate, hchannels, hbits]

/-- Every parameter can be set to a number that is in its range. -/
theorem exists_read (acc : PcmParameters) {n : ℕ} (k : PcmKey) (h : n < k.bound) :
    ∃ acc' : PcmParameters, k.read acc' = some n ∧
      ∀ k' : PcmKey, k' ≠ k → k'.read acc' = k'.read acc := by
  cases k with
  | rate =>
      refine ⟨{ acc with rate := some (.ofNat n) }, congrArg some (UInt32.toNat_ofNat_of_lt' h), ?_⟩
      rintro (_ | _ | _) hk
      · exact absurd rfl hk
      · rfl
      · rfl
  | channels =>
      refine ⟨{ acc with channels := some (.ofNat n) },
        congrArg some (UInt16.toNat_ofNat_of_lt' h), ?_⟩
      rintro (_ | _ | _) hk
      · rfl
      · exact absurd rfl hk
      · rfl
  | bits =>
      refine ⟨{ acc with bits := some (.ofNat n) }, congrArg some (UInt16.toNat_ofNat_of_lt' h), ?_⟩
      rintro (_ | _ | _) hk
      · rfl
      · rfl
      · exact absurd rfl hk

/-- A parameter is set to a canonical decimal that is in its range. -/
theorem put_iff {acc acc' : PcmParameters} {x : Bytes} (k : PcmKey) :
    k.put acc x = .ok acc' ↔
      (∃ n < k.bound, x = decimal n ∧ k.read acc' = some n) ∧
        ∀ k', k' ≠ k → k'.read acc' = k'.read acc := by
  cases k with
  | rate =>
      rw [put, Checks.map_ok_iff]
      constructor
      · rintro ⟨n, hn, rfl⟩
        refine ⟨⟨n.toNat, n.toNat_lt, parseU32_iff.mp hn, rfl⟩, ?_⟩
        rintro (_ | _ | _) hk
        · exact absurd rfl hk
        · rfl
        · rfl
      · rintro ⟨⟨n, hlt, hx, hread⟩, hothers⟩
        have hn : (UInt32.ofNat n).toNat = n := UInt32.toNat_ofNat_of_lt' hlt
        refine ⟨.ofNat n, parseU32_iff.mpr (by rw [hx, hn]), read_injective ?_⟩
        rintro (_ | _ | _)
        · exact (congrArg some hn).trans hread.symm
        · exact (hothers .channels nofun).symm
        · exact (hothers .bits nofun).symm
  | channels =>
      rw [put, Checks.map_ok_iff]
      constructor
      · rintro ⟨n, hn, rfl⟩
        refine ⟨⟨n.toNat, n.toNat_lt, parseU16_iff.mp hn, rfl⟩, ?_⟩
        rintro (_ | _ | _) hk
        · rfl
        · exact absurd rfl hk
        · rfl
      · rintro ⟨⟨n, hlt, hx, hread⟩, hothers⟩
        have hn : (UInt16.ofNat n).toNat = n := UInt16.toNat_ofNat_of_lt' hlt
        refine ⟨.ofNat n, parseU16_iff.mpr (by rw [hx, hn]), read_injective ?_⟩
        rintro (_ | _ | _)
        · exact (hothers .rate nofun).symm
        · exact (congrArg some hn).trans hread.symm
        · exact (hothers .bits nofun).symm
  | bits =>
      rw [put, Checks.map_ok_iff]
      constructor
      · rintro ⟨n, hn, rfl⟩
        refine ⟨⟨n.toNat, n.toNat_lt, parseU16_iff.mp hn, rfl⟩, ?_⟩
        rintro (_ | _ | _) hk
        · rfl
        · rfl
        · exact absurd rfl hk
      · rintro ⟨⟨n, hlt, hx, hread⟩, hothers⟩
        have hn : (UInt16.ofNat n).toNat = n := UInt16.toNat_ofNat_of_lt' hlt
        refine ⟨.ofNat n, parseU16_iff.mpr (by rw [hx, hn]), read_injective ?_⟩
        rintro (_ | _ | _)
        · exact (hothers .rate nofun).symm
        · exact (hothers .channels nofun).symm
        · exact (congrArg some hn).trans hread.symm

end PcmKey

/-- The parameter that a name stands for. -/
def keyOf (field : Bytes × Bytes) : Option PcmKey :=
  if fieldName field = PcmKey.rate.text then some .rate
  else if fieldName field = PcmKey.channels.text then some .channels
  else if fieldName field = PcmKey.bits.text then some .bits
  else none

theorem keyOf_eq_some_iff {field : Bytes × Bytes} {k : PcmKey} :
    keyOf field = some k ↔ fieldName field = k.text := by
  have hne : ∀ k' k'' : PcmKey, k' ≠ k'' → k'.text ≠ k''.text :=
    fun k' k'' hne h => hne (PcmKey.text_injective k' k'' h)
  unfold keyOf
  split
  · rename_i h
    rw [h, Option.some.injEq]
    exact ⟨congrArg PcmKey.text, PcmKey.text_injective _ _⟩
  · split
    · rename_i h
      rw [h, Option.some.injEq]
      exact ⟨congrArg PcmKey.text, PcmKey.text_injective _ _⟩
    · split
      · rename_i h
        rw [h, Option.some.injEq]
        exact ⟨congrArg PcmKey.text, PcmKey.text_injective _ _⟩
      · refine iff_of_false nofun fun h => ?_
        cases k with
        | rate => contradiction
        | channels => contradiction
        | bits => contradiction

/-- One turn of the loop, by the parameter. -/
theorem putField_eq (acc : PcmParameters) (field : Bytes × Bytes) :
    putField acc field =
      if !validHeaderName (trimAscii field.1) then .error .invalidContentType
      else
        match keyOf field with
        | none => .ok acc
        | some k =>
            if (k.read acc).isSome then .error .invalidContentType
            else k.put acc (trimAscii field.2) := by
  unfold putField
  dsimp only
  split
  · rfl
  · split
    · rename_i hrate
      have hkey := (PcmKey.iequalsAscii_text .rate field).mp hrate
      have hset : (PcmKey.rate.read acc).isSome = acc.rate.isSome := Option.isSome_map
      rw [keyOf_eq_some_iff.mpr hkey]
      simp only [hset]
      rfl
    · split
      · rename_i hchannels
        have hkey := (PcmKey.iequalsAscii_text .channels field).mp hchannels
        have hset : (PcmKey.channels.read acc).isSome = acc.channels.isSome := Option.isSome_map
        rw [keyOf_eq_some_iff.mpr hkey]
        simp only [hset]
        rfl
      · split
        · rename_i hbits
          have hkey := (PcmKey.iequalsAscii_text .bits field).mp hbits
          have hset : (PcmKey.bits.read acc).isSome = acc.bits.isSome := Option.isSome_map
          rw [keyOf_eq_some_iff.mpr hkey]
          simp only [hset]
          rfl
        · rename_i hrate hchannels hbits
          have hnone : keyOf field = none := by
            refine Option.eq_none_iff_forall_ne_some.mpr fun k hk => ?_
            have hkey := (PcmKey.iequalsAscii_text k field).mpr (keyOf_eq_some_iff.mp hk)
            cases k with
            | rate => exact hrate hkey
            | channels => exact hchannels hkey
            | bits => exact hbits hkey
          rw [hnone]

theorem putField_iff {acc acc' : PcmParameters} {field : Bytes × Bytes} :
    putField acc field = .ok acc' ↔ validHeaderName (trimAscii field.1) = true ∧ ∀ k : PcmKey,
      (fieldName field = k.text → k.read acc = none ∧
        ∃ n < k.bound, trimAscii field.2 = decimal n ∧ k.read acc' = some n) ∧
      (fieldName field ≠ k.text → k.read acc' = k.read acc) := by
  rw [putField_eq]
  split
  · rename_i hinvalid
    rw [Bool.not_eq_true'] at hinvalid
    exact iff_of_false nofun fun h => Bool.false_ne_true (hinvalid.symm.trans h.1)
  · rename_i hvalid
    rw [Bool.not_eq_true', Bool.not_eq_false] at hvalid
    rw [and_iff_right hvalid]
    cases hkey : keyOf field with
    | none =>
        have hne : ∀ k : PcmKey, fieldName field ≠ k.text := by
          intro k hk
          exact nomatch hkey.symm.trans (keyOf_eq_some_iff.mpr hk)
        rw [Except.ok.injEq]
        constructor
        · rintro rfl k
          exact ⟨fun hk => absurd hk (hne k), fun _ => rfl⟩
        · exact fun h => PcmKey.read_injective fun k => ((h k).2 (hne k)).symm
    | some k =>
        have hname := keyOf_eq_some_iff.mp hkey
        have hothers : ∀ k' : PcmKey, fieldName field = k'.text ↔ k' = k := fun k' =>
          ⟨fun h => PcmKey.text_injective _ _ (h.symm.trans hname), fun h => h ▸ hname⟩
        dsimp only
        split
        · rename_i hset
          refine iff_of_false nofun fun h => ?_
          rw [((h k).1 hname).1] at hset
          cases hset
        · rename_i hfree
          rw [Option.not_isSome_iff_eq_none] at hfree
          rw [PcmKey.put_iff]
          constructor
          · rintro ⟨hvalue, hsame⟩ k'
            refine ⟨fun h => ?_, fun h => hsame k' (mt (hothers k').mpr h)⟩
            obtain rfl := (hothers k').mp h
            exact ⟨hfree, hvalue⟩
          · exact fun h => ⟨((h k).1 hname).2, fun k' hk' => (h k').2 (mt (hothers k').mp hk')⟩

/-- The trimmed values of a parameter. -/
def valuesOf (k : PcmKey) (fields : List (Bytes × Bytes)) : List Bytes :=
  (fieldsNamed k.text fields).map fun field => trimAscii field.2

theorem valuesOf_cons (k : PcmKey) (field : Bytes × Bytes) (fields : List (Bytes × Bytes)) :
    valuesOf k (field :: fields) =
      if fieldName field = k.text then trimAscii field.2 :: valuesOf k fields
      else valuesOf k fields := by
  rw [valuesOf, fieldsNamed_cons]
  split
  · rfl
  · rfl

/-- **The loop.**  Every name is a token, and each parameter that counts is set once at most. -/
theorem foldlM_putField_iff {fields : List (Bytes × Bytes)} {acc p : PcmParameters} :
    fields.foldlM putField acc = .ok p ↔
      (∀ field ∈ fields, validHeaderName (trimAscii field.1) = true) ∧ ∀ k : PcmKey,
        (valuesOf k fields = [] ∧ k.read p = k.read acc) ∨
          (k.read acc = none ∧ ∃ n < k.bound, valuesOf k fields = [decimal n] ∧
            k.read p = some n) := by
  induction fields generalizing acc with
  | nil =>
      rw [List.foldlM_nil]
      constructor
      · intro h
        cases h
        exact ⟨nofun, fun k => .inl ⟨rfl, rfl⟩⟩
      · rintro ⟨-, h⟩
        refine congrArg Except.ok (PcmKey.read_injective fun k => ?_)
        obtain ⟨-, hread⟩ | ⟨-, n, -, hvalues, -⟩ := h k
        · exact hread.symm
        · cases hvalues
  | cons field fields ih =>
      rw [List.foldlM_cons, List.forall_mem_cons]
      constructor
      · intro h
        obtain ⟨acc', hput, hrest⟩ := Checks.exists_of_bind_ok h
        obtain ⟨hvalid, hkeys⟩ := putField_iff.mp hput
        obtain ⟨hvalids, hrest⟩ := ih.mp hrest
        refine ⟨⟨hvalid, hvalids⟩, fun k => ?_⟩
        rw [valuesOf_cons]
        by_cases hname : fieldName field = k.text
        · obtain ⟨hnone, n, hlt, hvalue, hread⟩ := (hkeys k).1 hname
          rw [if_pos hname]
          obtain ⟨hvalues, hkept⟩ | ⟨hfree, -⟩ := hrest k
          · rw [hvalues, hvalue]
            exact .inr ⟨hnone, n, hlt, rfl, hkept.trans hread⟩
          · exact nomatch hfree.symm.trans hread
        · rw [if_neg hname, ← (hkeys k).2 hname]
          exact hrest k
      · rintro ⟨⟨hvalid, hvalids⟩, hkeys⟩
        simp only [valuesOf_cons] at hkeys
        cases hkey : keyOf field with
        | none =>
            have hne : ∀ k : PcmKey, fieldName field ≠ k.text := fun k hk =>
              nomatch hkey.symm.trans (keyOf_eq_some_iff.mpr hk)
            have hput : putField acc field = .ok acc :=
              putField_iff.mpr ⟨hvalid, fun k => ⟨fun hk => absurd hk (hne k), fun _ => rfl⟩⟩
            refine Checks.bind_ok hput (ih.mpr ⟨hvalids, fun k => ?_⟩)
            have hk := hkeys k
            rwa [if_neg (hne k)] at hk
        | some k =>
            have hname := keyOf_eq_some_iff.mp hkey
            have hsame : ∀ k' : PcmKey, fieldName field = k'.text → k' = k := fun k' hk' =>
              PcmKey.text_injective _ _ (hk'.symm.trans hname)
            have hk := hkeys k
            rw [if_pos hname] at hk
            obtain ⟨hnil, -⟩ | ⟨hnone, n, hlt, hvalues, hread⟩ := hk
            · cases hnil
            obtain ⟨hvalue, hvalues⟩ := List.cons.inj hvalues
            obtain ⟨acc', hset, hothers⟩ := PcmKey.exists_read acc k hlt
            have hput : putField acc field = .ok acc' := by
              refine putField_iff.mpr ⟨hvalid, fun k' => ⟨fun hk' => ?_, fun hk' => ?_⟩⟩
              · rw [hsame k' hk']
                exact ⟨hnone, n, hlt, hvalue, hset⟩
              · exact hothers k' fun heq => hk' (heq ▸ hname)
            refine Checks.bind_ok hput (ih.mpr ⟨hvalids, fun k' => ?_⟩)
            by_cases hk' : k' = k
            · rw [hk']
              exact .inl ⟨hvalues, hread.trans hset.symm⟩
            · have hrest := hkeys k'
              rwa [if_neg (mt (hsame k') hk'), ← hothers k' hk'] at hrest

/-! ### The pieces -/

/-- One piece: nothing is left of it when it is trimmed, or it is a parameter. -/
def stepPiece (acc : PcmParameters) (piece : Bytes) : Except Error PcmParameters :=
  if trimAscii piece = [] then .ok acc else pcmParameter acc piece

/-- A piece that is blank or has an equals sign behind a valid name. -/
def ValidPiece (piece : Bytes) : Prop :=
  trimAscii piece = [] ∨
    ∃ u v, piece = u ++ ch '=' :: v ∧ ch '=' ∉ u ∧ validHeaderName (trimAscii u) = true

theorem foldlM_stepPiece {pieces : List Bytes} {acc p : PcmParameters}
    (h : pieces.foldlM stepPiece acc = .ok p) :
    (∀ piece ∈ pieces, ValidPiece piece) ∧
      (pieces.filterMap paramField).foldlM putField acc = .ok p := by
  induction pieces generalizing acc with
  | nil => exact ⟨nofun, h⟩
  | cons piece pieces ih =>
      rw [List.foldlM_cons] at h
      obtain ⟨acc', hstep, hrest⟩ := Checks.exists_of_bind_ok h
      obtain ⟨hvalid, hfold⟩ := ih hrest
      rw [List.forall_mem_cons]
      by_cases hblank : trimAscii piece = []
      · rw [stepPiece, if_pos hblank] at hstep
        cases hstep
        have hnot : ch '=' ∉ piece := fun hmem =>
          absurd (strip_eq_nil_iff.mp hblank _ hmem) (by decide)
        rw [List.filterMap_cons_none (paramField_eq_none hnot)]
        exact ⟨⟨.inl hblank, hvalid⟩, hfold⟩
      · rw [stepPiece, if_neg hblank] at hstep
        by_cases hmem : ch '=' ∈ piece
        · obtain ⟨u, v, rfl, hu⟩ := List.eq_append_cons_of_mem hmem
          rw [pcmParameter_append hu] at hstep
          rw [List.filterMap_cons_some (paramField_append hu v), List.foldlM_cons, hstep]
          exact ⟨⟨.inr ⟨u, v, rfl, hu, (putField_iff.mp hstep).1⟩, hvalid⟩, hfold⟩
        · rw [pcmParameter_none hmem] at hstep
          cases hstep

theorem stepPiece_congr {piece piece' : Bytes} (h : trimAscii piece = trimAscii piece')
    (acc : PcmParameters) : stepPiece acc piece = stepPiece acc piece' := by
  rw [stepPiece, stepPiece, pcmParameter, pcmParameter, h]

theorem foldlM_stepPiece_congr {pieces pieces' : List Bytes}
    (h : pieces.map trimAscii = pieces'.map trimAscii) (acc : PcmParameters) :
    pieces.foldlM stepPiece acc = pieces'.foldlM stepPiece acc := by
  induction pieces generalizing pieces' acc with
  | nil =>
      rw [List.map_nil, eq_comm, List.map_eq_nil_iff] at h
      rw [h]
  | cons piece pieces ih =>
      cases pieces' with
      | nil => cases h
      | cons piece' pieces' =>
          obtain ⟨hpiece, hpieces⟩ := List.cons.inj h
          rw [List.foldlM_cons, List.foldlM_cons, stepPiece_congr hpiece]
          exact congrArg _ (funext fun acc' => ih hpieces acc')

/-- The loop over the segments goes through the pieces; a last piece without characters makes
no difference. -/
theorem foldlM_segments {value : Bytes} {acc p : PcmParameters}
    (h : (segments (ch ';') value).foldlM pcmParameter acc = .ok p) :
    (splitOn [ch ';'] value).foldlM stepPiece acc = .ok p := by
  have hstep : ∀ {pieces : List Bytes} {acc : PcmParameters},
      pieces.foldlM pcmParameter acc = .ok p → pieces.foldlM stepPiece acc = .ok p := by
    intro pieces
    induction pieces with
    | nil => exact fun h => h
    | cons piece pieces ih =>
        intro acc h
        rw [List.foldlM_cons] at h ⊢
        obtain ⟨acc', hput, hrest⟩ := Checks.exists_of_bind_ok h
        have hne : trimAscii piece ≠ [] := by
          intro hnil
          rw [pcmParameter, hnil] at hput
          cases hput
        rw [stepPiece, if_neg hne, hput]
        exact ih hrest
  rw [segments] at h
  split at h
  · rename_i hlast
    obtain ⟨pieces, hpieces⟩ := List.getLast?_eq_some_iff.mp hlast
    rw [hpieces, List.dropLast_concat] at h
    rw [hpieces, List.foldlM_append, hstep h]
    rfl
  · exact hstep h

/-- The characters of a media type. -/
def IsMediaChar (c : UInt8) : Prop := isBlank c = true ∨ isTokenChar c = true ∨ c = ch '/'

/-- **PCM.**  What a content type is that is read as PCM. -/
structure PcmText (raw : Bytes) (pcm : AudioPcmContentType) : Prop where
  media : ∀ c ∈ mediaTypeOf raw, IsMediaChar c
  media_ne_nil : mediaTypeOf raw ≠ []
  pieces : ∀ piece ∈ (splitOn [ch ';'] raw).tail, ValidPiece piece
  param : ∀ k : PcmKey, ∃ field, fieldsNamed k.text (paramFields raw) = [field] ∧
    IsNumeral (trimAscii field.2) (k.value pcm)
  channels_pos : 0 < pcm.channels.toNat
  bits_pos : 0 < pcm.bits.toNat
  bits_octets : pcm.bits.toNat % 8 = 0

/-- The pieces of a content type that has no semicolon. -/
theorem mediaTypeOf_none {raw : Bytes} (h : find [ch ';'] (trimAscii raw) = none) :
    mediaTypeOf raw = trimAscii (trimAscii raw) := by
  have hpieces : (splitOn [ch ';'] (trimAscii raw)).map trimAscii =
      (splitOn [ch ';'] raw).map trimAscii :=
    map_strip_splitOn (show isBlank (ch ';') = false by decide) raw
  rw [splitOn_of_find_none h, List.map_singleton] at hpieces
  obtain ⟨first, hsplit, hfirst⟩ := List.map_eq_singleton_iff.mp hpieces.symm
  rw [mediaTypeOf, hsplit]
  exact hfirst

/-- The pieces of a content type with a semicolon. -/
theorem mediaTypeOf_some {raw : Bytes} {t : ℕ} (h : find [ch ';'] (trimAscii raw) = some t) :
    mediaTypeOf raw = trimAscii ((trimAscii raw).take t) ∧
      (splitOn [ch ';'] raw).tail.map trimAscii =
        (splitOn [ch ';'] ((trimAscii raw).drop (t + 1))).map trimAscii := by
  have hpieces : (splitOn [ch ';'] (trimAscii raw)).map trimAscii =
      (splitOn [ch ';'] raw).map trimAscii :=
    map_strip_splitOn (show isBlank (ch ';') = false by decide) raw
  rw [splitOn_of_find_some (List.cons_ne_nil _ _) h, List.map_cons] at hpieces
  obtain ⟨first, rest, hsplit, hfirst, hrest⟩ := List.map_eq_cons_iff.mp hpieces.symm
  rw [mediaTypeOf, hsplit]
  exact ⟨hfirst, hrest⟩

theorem chars_of_validName {x : Bytes} (h : validHeaderName (trimAscii x) = true) :
    ∀ c ∈ x, isBlank c = true ∨ isTokenChar c = true := by
  obtain ⟨l, r, hl, hr, hx⟩ := exists_strip isBlank x
  rw [hx]
  simp only [List.forall_mem_append]
  exact ⟨fun c hc => .inl (hl c hc), fun c hc => .inr ((validHeaderName_iff.mp h).2 c hc),
    fun c hc => .inl (hr c hc)⟩

/-- A type and a subtype that are names. -/
theorem media_of_valid {media : Bytes} {slash : ℕ} (hslash : find [ch '/'] media = some slash)
    (htype : validHeaderName (trimAscii (media.take slash)) = true)
    (hsubtype : validHeaderName (trimAscii (media.drop (slash + 1))) = true) :
    media ≠ [] ∧ ∀ c ∈ media, IsMediaChar c := by
  have hmedia := (find_eq_some_iff.mp hslash).split
  refine ⟨fun hnil => ?_, fun c hc => ?_⟩
  · rw [hnil] at hslash
    cases hslash
  · rw [hmedia, List.mem_append, List.mem_append, List.mem_singleton] at hc
    rcases hc with hc | hc | hc
    · exact (chars_of_validName htype c hc).imp_right .inl
    · exact .inr (.inr hc)
    · exact (chars_of_validName hsubtype c hc).imp_right .inl

/-- What the three parameters have to be. -/
theorem finish_ok {p : PcmParameters} {pcm : AudioPcmContentType}
    (h : p.finish = .ok (.audioPcm pcm)) :
    (∀ k : PcmKey, k.read p = some (k.value pcm)) ∧ 0 < pcm.channels.toNat ∧
      0 < pcm.bits.toNat ∧ pcm.bits.toNat % 8 = 0 := by
  obtain ⟨rate, channels, bits⟩ := p
  cases rate with
  | none => cases h
  | some rate =>
      cases channels with
      | none => cases h
      | some channels =>
          cases bits with
          | none => cases h
          | some bits =>
              rw [PcmParameters.finish] at h
              dsimp only at h
              split at h
              · cases h
              rename_i hchannels
              split at h
              · cases h
              rename_i hbits
              cases h
              have hnonzero : ∀ n : UInt16, n ≠ 0 → 0 < n.toNat := by
                intro n hn
                rw [Nat.pos_iff_ne_zero]
                exact fun hzero => hn (UInt16.toNat_inj.mp hzero)
              rw [not_or, not_not] at hbits
              have height : (8 : UInt16).toNat = 8 := by decide
              have hmod := congrArg UInt16.toNat hbits.2
              rw [UInt16.toNat_mod, height] at hmod
              refine ⟨fun k => ?_, hnonzero _ hchannels, hnonzero _ hbits.1, hmod⟩
              cases k with
              | rate => rfl
              | channels => rfl
              | bits => rfl

theorem pcmText_of_parse {raw : Bytes} {pcm : AudioPcmContentType}
    (h : parseContentType raw = .ok (.audioPcm pcm)) : PcmText raw pcm := by
  have hmedia : mediaTypeOf raw = trimAscii ((trimAscii raw).take
      ((find [ch ';'] (trimAscii raw)).getD (trimAscii raw).length)) := by
    cases hsemi : find [ch ';'] (trimAscii raw) with
    | none => rw [mediaTypeOf_none hsemi, Option.getD_none, List.take_length]
    | some t => rw [(mediaTypeOf_some hsemi).1, Option.getD_some]
  unfold parseContentType at h
  dsimp only at h
  rw [← hmedia] at h
  split at h
  · cases h
  split at h
  · cases h
  rename_i slash hslash
  split at h
  · cases h
  rename_i hvalid
  rw [Bool.or_eq_true, Bool.not_eq_true', Bool.not_eq_true', not_or, Bool.not_eq_false,
    Bool.not_eq_false] at hvalid
  split at h
  · cases h
  split at h
  · cases h
  split at h
  · cases h
  split at h
  · cases h
  split at h
  · cases h
  rename_i p hfold
  obtain ⟨hread, hchannels, hbits, hoctets⟩ := finish_ok h
  have htail : (splitOn [ch ';'] raw).tail.foldlM stepPiece {} = .ok p := by
    cases hsemi : find [ch ';'] (trimAscii raw) with
    | none =>
        -- without parameters there is no rate
        rw [hsemi, Option.map_none, Option.getD_none, List.drop_length] at hfold
        cases hfold
        cases hread .rate
    | some t =>
        rw [hsemi] at hfold
        rw [foldlM_stepPiece_congr (mediaTypeOf_some hsemi).2]
        exact foldlM_segments hfold
  obtain ⟨hpieces, hfields⟩ := foldlM_stepPiece htail
  obtain ⟨hne, hchars⟩ := media_of_valid hslash hvalid.1 hvalid.2
  refine ⟨hchars, hne, hpieces, fun k => ?_, hchannels, hbits, hoctets⟩
  rcases (foldlM_putField_iff.mp hfields).2 k with ⟨-, hnone⟩ | ⟨-, n, -, hvalues, hsome⟩
  · rw [hread k] at hnone
    cases k <;> cases hnone
  · obtain rfl : k.value pcm = n := Option.some.inj ((hread k).symm.trans hsome)
    obtain ⟨field, hnamed, hvalue⟩ := List.map_eq_singleton_iff.mp hvalues
    exact ⟨field, hnamed, hvalue ▸ isNumeral_decimal _⟩

/-- A PCM content type that needs nothing from its reader: nothing stands around the slash, no
name occurs twice, and the rate is positive and fits into 31 bits. -/
structure PlainPcm (raw : Bytes) (pcm : AudioPcmContentType) : Prop where
  media : (mediaTypeOf raw).map toLowerAscii = ascii "audio/pcm"
  names : ((paramFields raw).map fieldName).Nodup
  rate_pos : 0 < pcm.rate.toNat
  rate_lt : pcm.rate.toNat < 2 ^ 31

/-- The octets of one sample of all channels. -/
def AudioPcmContentType.stride (pcm : AudioPcmContentType) : ℕ :=
  pcm.channels.toNat * (pcm.bits.toNat / 8)

theorem PcmText.stride_pos {raw : Bytes} {pcm : AudioPcmContentType} (h : PcmText raw pcm) :
    0 < pcm.stride := by
  have hbits := h.bits_pos
  have hoctets := h.bits_octets
  exact Nat.mul_pos h.channels_pos (by omega)

theorem AudioPcmContentType.stride_lt (pcm : AudioPcmContentType) : pcm.stride < 2 ^ 31 := by
  have hchannels := pcm.channels.toNat_lt
  have hbits := pcm.bits.toNat_lt
  have hmul : pcm.stride ≤ 65535 * 8191 :=
    Nat.mul_le_mul (by omega) (by omega)
  omega

/-- The stride among the integers. -/
theorem AudioPcmContentType.stride_int (pcm : AudioPcmContentType) :
    (pcm.channels.toNat : ℤ) * ((pcm.bits.toNat : ℤ) / 8) = pcm.stride := by
  rw [stride, Nat.cast_mul, Int.natCast_ediv]
  rfl

/-- The names of the parameters are tokens. -/
theorem PcmText.names {raw : Bytes} {pcm : AudioPcmContentType} (h : PcmText raw pcm) :
    ∀ field ∈ paramFields raw, validHeaderName (trimAscii field.1) = true := by
  intro field hfield
  obtain ⟨piece, hpiece, hparam⟩ := List.mem_filterMap.mp hfield
  rcases h.pieces piece hpiece with hblank | ⟨u, v, rfl, hu, hname⟩
  · have hnot : ch '=' ∉ piece := fun hmem =>
      absurd (strip_eq_nil_iff.mp hblank _ hmem) (by decide)
    rw [paramField_eq_none hnot] at hparam
    cases hparam
  · rw [paramField_append hu] at hparam
    cases hparam
    exact hname

/-! ### Read as text -/

open Utf16

/-- A notion of white space that has `SP` and `HTAB` in it and none of the other characters of
a media type. -/
structure Spaces (isSpace : UInt16 → Bool) : Prop where
  space : isSpace (unit ' ') = true
  tab : isSpace (unit '\t') = true
  other : ∀ c, IsMediaChar c → isBlank c = false → isSpace c.toUInt16 = false

theorem toNat_lt_of_isMediaChar {c : UInt8} (h : IsMediaChar c) : c.toNat < 0x80 := by
  have htoken : ∀ n : Fin 256, isTokenChar (UInt8.ofNat n) = true →
      (UInt8.ofNat n).toNat < 0x80 := by decide +kernel
  rcases h with h | h | rfl
  · rcases (isBlank_iff c).mp h with h | h <;> omega
  · have hc := htoken ⟨c.toNat, c.toNat_lt⟩
    rw [UInt8.ofNat_toNat] at hc
    exact hc h
  · decide

/-- **Trimming as text.**  Where the octets that are left are those of a media type, the text
that is left is the same. -/
theorem Spaces.strip_decode {isSpace : UInt16 → Bool} (h : Spaces isSpace) {raw : Bytes}
    (hraw : ∀ c ∈ trimAscii raw, IsMediaChar c) :
    strip isSpace (Utf8.decode raw) = (trimAscii raw).map UInt8.toUInt16 := by
  rw [Message.strip_decode h.space h.tab,
    Utf8.decode_ascii fun c hc => toNat_lt_of_isMediaChar (hraw c hc)]
  refine strip_eq_self (fun u hu => ?_) fun u hu => ?_
  · rw [List.head?_map] at hu
    obtain ⟨c, hc, rfl⟩ := Option.mem_map.mp hu
    exact h.other c (hraw c (List.mem_of_mem_head? hc)) (strip_head hc)
  · rw [List.getLast?_map] at hu
    obtain ⟨c, hc, rfl⟩ := Option.mem_map.mp hu
    exact h.other c (hraw c (List.mem_of_mem_getLast? hc)) (strip_last hc)

theorem isMediaChar_of_validName {x : Bytes} (h : validHeaderName x = true) :
    ∀ c ∈ x, IsMediaChar c := fun c hc => .inr (.inl ((validHeaderName_iff.mp h).2 c hc))

theorem IsNumeral.isMediaChar {x : Bytes} {n : ℕ} (h : IsNumeral x n) :
    ∀ c ∈ x, IsMediaChar c := by
  intro c hc
  have hzero : (ch '0').toNat = 48 := by decide
  have hnine : (ch '9').toNat = 57 := by decide
  obtain ⟨hlow, hhigh⟩ := h.digits c hc
  have hdigit : (ch '0' ≤ c && c ≤ ch '9') = true := by
    rw [Bool.and_eq_true, decide_eq_true_eq, decide_eq_true_eq, UInt8.le_iff_toNat_le,
      UInt8.le_iff_toNat_le, hzero, hnine]
    exact ⟨hlow, hhigh⟩
  refine .inr (.inl ?_)
  rw [isTokenChar, hdigit]
  rfl

/-- A digit in UTF-16. -/
theorem digit_wide {c : UInt8} (h : 48 ≤ c.toNat ∧ c.toNat ≤ 57) :
    (unit '0' ≤ c.toUInt16 && c.toUInt16 ≤ unit '9') = true ∧ c.toUInt16 ≠ unit '+' ∧
      c.toUInt16 ≠ unit '-' ∧ (c.toUInt16 - unit '0').toNat = c.toNat - 48 := by
  obtain ⟨hlow, hhigh⟩ := h
  have hall : ∀ n : Fin 10, (unit '0' ≤ (UInt8.ofNat (48 + n)).toUInt16 &&
      (UInt8.ofNat (48 + n)).toUInt16 ≤ unit '9') = true ∧
      (UInt8.ofNat (48 + n)).toUInt16 ≠ unit '+' ∧ (UInt8.ofNat (48 + n)).toUInt16 ≠ unit '-' ∧
        ((UInt8.ofNat (48 + n)).toUInt16 - unit '0').toNat = n := by decide
  have hc := hall ⟨c.toNat - 48, by omega⟩
  rw [Nat.add_sub_cancel' hlow, UInt8.ofNat_toNat] at hc
  exact hc

/-- The value of a numeral in UTF-16. -/
theorem IsNumeral.value_wide {x : Bytes} {n : ℕ} (h : IsNumeral x n) :
    Decimal.value ((x.map UInt8.toUInt16).map fun d => (d - unit '0').toNat) = n := by
  rw [List.map_map, ← h.value]
  exact congrArg Decimal.value
    (List.map_congr_left fun c hc => (digit_wide (h.digits c hc)).2.2.2)

/-- Nothing is left of a blank piece. -/
theorem Spaces.strip_blank {isSpace : UInt16 → Bool} (h : Spaces isSpace) {raw : Bytes}
    (hraw : trimAscii raw = []) : strip isSpace (Utf8.decode raw) = [] := by
  rw [Message.strip_decode h.space h.tab, hraw]
  rfl

end CulpeoStream.Message
