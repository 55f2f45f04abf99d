import CulpeoStream.Lib.FloorSums
import CulpeoStream.Session.Usability

/-!
# Offsets of time and frame sizing

On a stream whose offset counts time, a frame moves the offset by its length over the
number of bytes of a sample in all channels, rounded down.  So a payload that is split into
frames moves it by a sum of such quotients, and two splittings agree exactly if the
remainders of their frames have the same sum (`time_offset_splitting_iff`).
-/

namespace CulpeoStream.Session

open FloorSums Message

/-- The number of bytes of a sample over all channels. -/
def PcmParams.stride (params : PcmParams) : ℕ := params.channels.toNat * (params.bits.toNat / 8)

/-- `advance_offset` for some frames one after another. -/
def advanceFrames (stream : StreamInfo) : List Bytes → Except Error StreamInfo
  | [] => .ok stream
  | body :: bodies =>
      match advanceOffset stream body.length.toUInt64 with
      | .error e => .error e
      | .ok advanced => advanceFrames advanced bodies

/-- A stream whose offset counts time, with valid PCM parameters. -/
structure StreamInfo.Timed (stream : StreamInfo) (params : PcmParams) : Prop where
  offsetType : stream.offsetType = .time
  pcmParams : stream.pcmParams = some params
  usable : params.Usable

theorem PcmParams.Usable.stride_pos {params : PcmParams} (h : params.Usable) :
    0 < params.stride := by
  obtain ⟨hchannels, hbits, haligned⟩ := h
  have hmultiple := congrArg UInt16.toNat haligned
  have hc : params.channels.toNat ≠ 0 := fun h => hchannels (UInt16.toNat_inj.mp h)
  have hb : params.bits.toNat ≠ 0 := fun h => hbits (UInt16.toNat_inj.mp h)
  simp at hmultiple
  exact Nat.mul_pos (by omega) (by omega)

/-- The increment of a frame, as a quotient of natural numbers. -/
theorem computePcmIncrement_stride {params : PcmParams} (h : params.Usable) (frameBytes : UInt64) :
    ∃ n, computePcmIncrement frameBytes params = .ok n ∧
      n.toNat = frameBytes.toNat / params.stride := by
  have hstride := bytesPerFrameSample_ne_zero h
  have hc := params.channels.toNat_lt
  have hb := params.bits.toNat_lt
  have hsmall : params.channels.toNat * (params.bits.toNat / 8) < 2 ^ 64 := by
    calc params.channels.toNat * (params.bits.toNat / 8)
        ≤ 2 ^ 16 * 2 ^ 16 := Nat.mul_le_mul (by omega) (by omega)
      _ < 2 ^ 64 := by decide
  have hnat : (params.channels.toUInt64 * (params.bits.toUInt32 / 8).toUInt64).toNat =
      params.stride := by
    rw [UInt64.toNat_mul, UInt16.toNat_toUInt64, UInt32.toNat_toUInt64, UInt32.toNat_div,
      UInt16.toNat_toUInt32]
    exact Nat.mod_eq_of_lt hsmall
  refine ⟨frameBytes / (params.channels.toUInt64 * (params.bits.toUInt32 / 8).toUInt64), ?_, ?_⟩
  · obtain ⟨hchannels, hbits, haligned⟩ := h
    unfold computePcmIncrement
    rw [if_neg (not_or.mpr ⟨hchannels, hbits⟩), if_neg (not_not.mpr haligned)]
    simp only [hstride, if_false]
  · rw [UInt64.toNat_div, hnat]

section Timed

variable {stream : StreamInfo} {params : PcmParams} (h : stream.Timed params)
include h

theorem increment_timed {body : Bytes} (hbody : body.length < 2 ^ 64) :
    increment stream body = body.length / params.stride ∧
      ∃ n, frameIncrement stream body.length.toUInt64 = .ok n := by
  obtain ⟨n, hn, hnat⟩ := computePcmIncrement_stride h.usable body.length.toUInt64
  have hframe : frameIncrement stream body.length.toUInt64 = .ok n := by
    unfold frameIncrement
    rw [h.offsetType, h.pcmParams]
    exact hn
  refine ⟨?_, n, hframe⟩
  unfold increment
  rw [hframe]
  show n.toNat = _
  rw [hnat, Nat.toUInt64_eq, UInt64.toNat_ofNat_of_lt' hbody]

/-- What an advance leaves as it was. -/
theorem StreamInfo.Timed.advance {advanced : StreamInfo} {body : Bytes}
    (hadvance : advanceOffset stream body.length.toUInt64 = .ok advanced) :
    advanced.Timed params := by
  have hstream := (advanceOffset_ok hadvance).2
  constructor
  · rw [hstream]
    exact h.offsetType
  · rw [hstream]
    exact h.pcmParams
  · exact h.usable

omit h in
/-- Frames that are accepted move the offset by the sum of their quotients. -/
theorem advanceFrames_ok : ∀ {bodies : List Bytes} {stream final : StreamInfo},
    stream.Timed params → (∀ body ∈ bodies, body.length < 2 ^ 64) →
    advanceFrames stream bodies = .ok final →
      final.offset.toNat =
        stream.offset.toNat + quotients params.stride (bodies.map List.length) := by
  intro bodies
  induction bodies with
  | nil =>
      intro stream final _ _ hok
      cases hok
      rfl
  | cons body bodies ih =>
      intro stream final h hsize hok
      rw [advanceFrames] at hok
      cases hadvance : advanceOffset stream body.length.toUInt64 with
      | error e =>
          rw [hadvance] at hok
          cases hok
      | ok advanced =>
          rw [hadvance] at hok
          have hrest := ih (h.advance hadvance)
            (fun b hb => hsize b (List.mem_cons_of_mem body hb)) hok
          have hfirst := (advanceOffset_ok hadvance).1
          rw [(increment_timed h (hsize body List.mem_cons_self)).1] at hfirst
          rw [hrest, hfirst, List.map_cons, quotients_cons]
          omega

omit h in
/-- Frames are accepted as long as the offset does not overflow. -/
theorem exists_advanceFrames : ∀ {bodies : List Bytes} {stream : StreamInfo},
    stream.Timed params → (∀ body ∈ bodies, body.length < 2 ^ 64) →
    stream.offset.toNat + quotients params.stride (bodies.map List.length) < 2 ^ 64 →
      ∃ final, advanceFrames stream bodies = .ok final := by
  intro bodies
  induction bodies with
  | nil => exact fun {stream} _ _ _ => ⟨stream, rfl⟩
  | cons body bodies ih =>
      intro stream h hsize hroom
      rw [List.map_cons, quotients_cons] at hroom
      obtain ⟨hincrement, hframe⟩ := increment_timed h (hsize body List.mem_cons_self)
      obtain ⟨advanced, hadvance⟩ := (advanceOffset_isOk_iff (by omega)).mpr hframe
      have hfirst := (advanceOffset_ok hadvance).1
      obtain ⟨final, hfinal⟩ := ih (h.advance hadvance)
        (fun b hb => hsize b (List.mem_cons_of_mem body hb)) (by omega)
      refine ⟨final, ?_⟩
      rw [advanceFrames, hadvance]
      exact hfinal

/-! ### Splittings of a payload -/

omit h in
theorem length_le_of_flatten {bodies : List Bytes} {payload : Bytes}
    (hflatten : bodies.flatten = payload) :
    (bodies.map List.length).sum = payload.length ∧
      ∀ body ∈ bodies, body.length ≤ payload.length := by
  subst hflatten
  refine ⟨List.length_flatten.symm, fun body hbody => ?_⟩
  exact (List.sublist_flatten_of_mem hbody).length_le

omit h in
/-- A payload in frames of one byte. -/
theorem flatten_singletons (payload : Bytes) :
    (payload.map fun b => [b]).flatten = payload ∧
      (payload.map fun b => [b]).map List.length = List.replicate payload.length 1 := by
  refine ⟨List.flatMap_singleton' payload, ?_⟩
  rw [List.map_map]
  exact List.map_const'

/-- **Frame sizing.**  Two splittings of a payload that are accepted lead to the same offset
exactly if the remainders of their frames have the same sum.  They all do only if a sample
is one byte, or the payload shorter than a sample, or no offset is left. -/
theorem time_offset_splitting_iff {payload : Bytes} (hsize : payload.length < 2 ^ 64) :
    (∀ xs ys a b, xs.flatten = payload → ys.flatten = payload →
      advanceFrames stream xs = .ok a → advanceFrames stream ys = .ok b →
        (a.offset = b.offset ↔ remainders params.stride (xs.map List.length) =
          remainders params.stride (ys.map List.length))) ∧
    ((∀ xs ys a b, xs.flatten = payload → ys.flatten = payload →
      advanceFrames stream xs = .ok a → advanceFrames stream ys = .ok b →
        a.offset = b.offset) ↔
      params.stride = 1 ∨ payload.length < params.stride ∨
        stream.offset.toNat = 2 ^ 64 - 1) := by
  have hpos := h.usable.stride_pos
  have hoffset : ∀ {xs a}, xs.flatten = payload → advanceFrames stream xs = .ok a →
      a.offset.toNat = stream.offset.toNat + quotients params.stride (xs.map List.length) :=
    fun hxs ha => advanceFrames_ok h
      (fun body hbody => Nat.lt_of_le_of_lt ((length_le_of_flatten hxs).2 body hbody) hsize) ha
  have hpair : ∀ xs ys a b, xs.flatten = payload → ys.flatten = payload →
      advanceFrames stream xs = .ok a → advanceFrames stream ys = .ok b →
        (a.offset = b.offset ↔ remainders params.stride (xs.map List.length) =
          remainders params.stride (ys.map List.length)) := by
    intro xs ys a b hxs hys ha hb
    have htotal : (xs.map List.length).sum = (ys.map List.length).sum :=
      (length_le_of_flatten hxs).1.trans (length_le_of_flatten hys).1.symm
    rw [← quotients_eq_iff hpos htotal, ← UInt64.toNat_inj, hoffset hxs ha, hoffset hys hb]
    omega
  refine ⟨hpair, ?_, ?_⟩
  · intro hall
    by_contra hnot
    obtain ⟨hone, hshort, hroom⟩ : params.stride ≠ 1 ∧ ¬ payload.length < params.stride ∧
        stream.offset.toNat ≠ 2 ^ 64 - 1 := by simpa only [not_or] using hnot
    have hlt := stream.offset.toNat_lt
    -- frames of one byte count nothing, and one sample before them counts one
    obtain ⟨hxs, hxslen⟩ := flatten_singletons payload
    obtain ⟨hrest, hrestlen⟩ := flatten_singletons (payload.drop params.stride)
    have hys : (payload.take params.stride ::
        (payload.drop params.stride).map fun b => [b]).flatten = payload := by
      rw [List.flatten_cons, hrest, List.take_append_drop]
    have hfirst : (payload.take params.stride).length = params.stride :=
      List.length_take_of_le (Nat.le_of_not_lt hshort)
    have hxsq : quotients params.stride ((payload.map fun b => [b]).map List.length) = 0 := by
      rw [hxslen]
      exact quotients_replicate_one (by omega) _
    have hysq : quotients params.stride ((payload.take params.stride ::
        (payload.drop params.stride).map fun b => [b]).map List.length) = 1 := by
      rw [List.map_cons, quotients_cons, hfirst, Nat.div_self hpos, hrestlen,
        quotients_replicate_one (by omega)]
    have hsmall : ∀ {bodies : List Bytes}, bodies.flatten = payload →
        ∀ body ∈ bodies, body.length < 2 ^ 64 := fun hflatten body hbody =>
      Nat.lt_of_le_of_lt ((length_le_of_flatten hflatten).2 body hbody) hsize
    obtain ⟨a, ha⟩ := exists_advanceFrames h (hsmall hxs) (by rw [hxsq]; omega)
    obtain ⟨b, hb⟩ := exists_advanceFrames h (hsmall hys) (by rw [hysq]; omega)
    have hequal := congrArg UInt64.toNat (hall _ _ a b hxs hys ha hb)
    rw [hoffset hxs ha, hoffset hys hb, hxsq, hysq] at hequal
    omega
  · intro hcases xs ys a b hxs hys ha hb
    have hzero : ∀ {zs c}, zs.flatten = payload → advanceFrames stream zs = .ok c →
        params.stride ≠ 1 → quotients params.stride (zs.map List.length) = 0 := by
      intro zs c hzs hc hone
      rcases hcases with hstride | hshort | hfull
      · exact absurd hstride hone
      · have hle := quotients_le hpos (zs.map List.length)
        rw [(length_le_of_flatten hzs).1, Nat.div_eq_of_lt hshort] at hle
        omega
      · have hc' := hoffset hzs hc
        have hlt := c.offset.toNat_lt
        omega
    by_cases hone : params.stride = 1
    · rw [hpair xs ys a b hxs hys ha hb, hone]
      have hnone : ∀ lengths : List ℕ, remainders 1 lengths = 0 := by
        intro lengths
        induction lengths with
        | nil => rfl
        | cons x lengths ih => rw [remainders_cons, ih, Nat.mod_one]
      rw [hnone, hnone]
    · rw [← UInt64.toNat_inj, hoffset hxs ha, hoffset hys hb, hzero hxs ha hone,
        hzero hys hb hone]

end Timed

/-- A stream of 16-bit samples in one channel. -/
def monoStream : StreamInfo where
  id := ascii "s"
  contentType := ascii "audio/pcm;rate=16000;channels=1;bits=16"
  direction := .input
  purpose := []
  offset := 0
  codec := .pcm
  pcmParams := some { rate := 16000, channels := 1, bits := 16 }
  offsetType := .time

theorem monoStream_timed : monoStream.Timed { rate := 16000, channels := 1, bits := 16 } where
  offsetType := rfl
  pcmParams := rfl
  usable := by unfold PcmParams.Usable; decide

/-- Four bytes in frames of two, and in frames of one and three. -/
theorem time_offset_splitting_iff_mono :
    ∃ a b, advanceFrames monoStream [[1, 2], [3, 4]] = .ok a ∧
      advanceFrames monoStream [[1], [2, 3, 4]] = .ok b ∧
      (a.offset = b.offset ↔ remainders 2 [2, 2] = remainders 2 [1, 3]) :=
  ⟨_, _, rfl, rfl,
    (@time_offset_splitting_iff _ _ monoStream_timed [1, 2, 3, 4] (by decide)).1
      [[1, 2], [3, 4]] [[1], [2, 3, 4]] _ _ rfl rfl rfl rfl⟩

/-- **One sample in one frame or in two**: the offset moves by one, or not at all. -/
theorem time_offset_depends_on_frames :
    ∃ a b, advanceFrames monoStream [[1, 2]] = .ok a ∧
      advanceFrames monoStream [[1], [2]] = .ok b ∧ a.offset = 1 ∧ b.offset = 0 :=
  ⟨_, _, rfl, rfl, by decide, by decide⟩

end CulpeoStream.Session
