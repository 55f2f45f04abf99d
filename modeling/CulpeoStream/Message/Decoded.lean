import CulpeoStream.Lib.Strip
import CulpeoStream.Message.TextHeaders

/-!
# Header blocks read as text

The TypeScript parser decodes the header block and cuts the text; the others cut the bytes
and decode the pieces.  Both see the same lines (`splitOn_decode`) and the same names and
values in a line (`find_colon_decode`), since the separators are ASCII.
-/

namespace CulpeoStream.Message

open Search Strip Utf16

/-- The line separator in UTF-16. -/
def crlfText : Text := [unit '\r', unit '\n']

theorem decode_append_crlf (l r : Bytes) :
    Utf8.decode (l ++ (crlf ++ r)) = Utf8.decode l ++ (crlfText ++ Utf8.decode r) := by
  have hbytes : l ++ (crlf ++ r) = l ++ ch '\r' :: ([] ++ ch '\n' :: r) := by simp [crlf]
  rw [hbytes, Utf8.decode_append_ascii (by decide), Utf8.decode_append_ascii (by decide)]
  rfl

/-- A separator in the text was read from a separator. -/
theorem exists_of_decode_crlf {block : Bytes} {u v : Text}
    (h : Utf8.decode block = u ++ (crlfText ++ v)) :
    ∃ l r, block = l ++ (crlf ++ r) ∧ Utf8.decode l = u ∧ Utf8.decode r = v := by
  have hcr : Utf8.decode block = u ++ unit '\r' :: ([] ++ unit '\n' :: v) := h
  obtain ⟨l, tail, rfl, hl, htail⟩ := Utf8.exists_of_decode_eq (by decide) hcr
  obtain ⟨gap, r, rfl, hgap, hr⟩ := Utf8.exists_of_decode_eq (by decide) htail
  have hnil : gap = [] := by
    by_contra hne
    exact Utf8.decode_ne_nil hne hgap
  subst hnil
  exact ⟨l, r, rfl, hl, hr⟩

theorem find_decode_none {block : Bytes} (h : find crlf block = none) :
    find crlfText (Utf8.decode block) = none := by
  cases hfind : find crlfText (Utf8.decode block) with
  | none => rfl
  | some i =>
      obtain ⟨l, r, hblock, -⟩ := exists_of_decode_crlf (find_eq_some_iff.mp hfind).split
      obtain ⟨t, -, ht⟩ := exists_find_append crlf l r
      rw [hblock, ht] at h
      cases h

theorem find_decode_some {block : Bytes} {t : ℕ} (h : find crlf block = some t) :
    find crlfText (Utf8.decode block) = some (Utf8.decode (block.take t)).length := by
  have hocc := find_eq_some_iff.mp h
  have hle : t ≤ block.length := hocc.2.1
  have hsplit := hocc.split
  have hcrlf : crlf.length = 2 := rfl
  rw [hcrlf] at hsplit
  have htext : Utf8.decode block = Utf8.decode (block.take t) ++
      (crlfText ++ Utf8.decode (block.drop (t + 2))) := by
    conv_lhs => rw [hsplit]
    rw [decode_append_crlf]
  obtain ⟨i, hi, hfind⟩ := exists_find_append crlfText (Utf8.decode (block.take t))
    (Utf8.decode (block.drop (t + 2)))
  rw [← htext] at hfind
  have htaken := find_eq_some_iff.mp hfind
  obtain ⟨l, r, hblock, hl, -⟩ := exists_of_decode_crlf htaken.split
  -- The separator read there is not before the first one of the block.
  obtain ⟨t', ht', hfind'⟩ := exists_find_append crlf l r
  rw [← hblock, h, Option.some.injEq] at hfind'
  subst hfind'
  have hlen : (Utf8.decode l).length = i := by
    have hend := htaken.add_length_le
    rw [hl, List.length_take]
    omega
  have hprefix : l.take t = block.take t := by rw [hblock, List.take_append_of_le_length ht']
  have hrest : l.drop t ++ (crlf ++ r) = crlf ++ block.drop (t + 2) := by
    have hcut := congrArg (List.drop t) hsplit
    rw [hblock, List.drop_append_of_le_length ht', ← hblock, List.drop_left' (by
      rw [List.length_take]
      omega)] at hcut
    exact hcut
  rw [hfind, Option.some.injEq]
  cases hgap : l.drop t with
  | nil =>
      have hall : l = block.take t := by
        rw [← hprefix, List.take_of_length_le (List.drop_eq_nil_iff.mp hgap)]
      rw [← hlen, hall]
  | cons c gap =>
      have hc : c = ch '\r' := by
        rw [hgap] at hrest
        simpa [crlf] using congrArg List.head? hrest
      have hlong : Utf8.decode l = Utf8.decode (block.take t) ++ unit '\r' :: Utf8.decode gap := by
        have hl' : l = block.take t ++ ch '\r' :: gap := by
          rw [← hprefix, ← hc, ← hgap, List.take_append_drop]
        conv_lhs => rw [hl']
        exact Utf8.decode_append_ascii (by decide) _ _
      have := congrArg List.length hlong
      rw [List.length_append, List.length_cons] at this
      omega

/-- **The lines of the text are the lines of the block.** -/
theorem splitOn_decode (block : Bytes) :
    splitOn crlfText (Utf8.decode block) = (splitOn crlf block).map Utf8.decode := by
  induction h : block.length using Nat.strong_induction_on generalizing block with
  | _ n ih =>
      cases hfind : find crlf block with
      | none =>
          rw [splitOn_of_find_none hfind, splitOn_of_find_none (find_decode_none hfind)]
          rfl
      | some t =>
          have hocc := find_eq_some_iff.mp hfind
          have hend := hocc.add_length_le
          have hcrlf : crlf.length = 2 := rfl
          have htwo : crlfText.length = 2 := rfl
          have htext : Utf8.decode block = Utf8.decode (block.take t) ++
              (crlfText ++ Utf8.decode (block.drop (t + 2))) := by
            conv_lhs => rw [hocc.split]
            rw [decode_append_crlf]
            rfl
          have hrest : (Utf8.decode block).drop ((Utf8.decode (block.take t)).length + 2) =
              Utf8.decode (block.drop (t + 2)) := by
            rw [htext, ← List.drop_drop, List.drop_left, ← htwo, List.drop_left]
          have htake : (Utf8.decode block).take (Utf8.decode (block.take t)).length =
              Utf8.decode (block.take t) := by
            rw [htext, List.take_left]
          rw [splitOn_of_find_some (by simp [crlf]) hfind,
            splitOn_of_find_some (by simp [crlfText]) (find_decode_some hfind), List.map_cons,
            htake, htwo, hcrlf, hrest,
            ih _ (by rw [← h, List.length_drop]; omega) (block.drop (t + 2)) rfl]

/-! ### One line -/

/-- The colon of a line and of its text. -/
theorem find_colon_decode (line : Bytes) :
    (find [ch ':'] line = none ∧ find [unit ':'] (Utf8.decode line) = none) ∨
      ∃ name raw, line = name ++ ch ':' :: raw ∧ find [ch ':'] line = some name.length ∧
        Utf8.decode line = Utf8.decode name ++ unit ':' :: Utf8.decode raw ∧
        find [unit ':'] (Utf8.decode line) = some (Utf8.decode name).length := by
  by_cases hmem : ch ':' ∈ line
  · obtain ⟨name, raw, rfl, hname⟩ := List.eq_append_cons_of_mem hmem
    refine .inr ⟨name, raw, rfl, find_colon hname, Utf8.decode_append_ascii (by decide) _ _, ?_⟩
    have htext : unit ':' ∉ Utf8.decode name := fun hmem =>
      hname (Utf8.mem_of_mem_decode (by decide) hmem)
    have hself : find [unit ':'] (unit ':' :: Utf8.decode raw) = some 0 := find_self_append
    have hdecode : Utf8.decode (name ++ ch ':' :: raw) =
        Utf8.decode name ++ unit ':' :: Utf8.decode raw := Utf8.decode_append_ascii (by decide) _ _
    rw [hdecode, find_append_of_head_notMem htext, hself]
    simp
  · have htext : unit ':' ∉ Utf8.decode line := fun hmem' =>
      hmem (Utf8.mem_of_mem_decode (by decide) hmem')
    refine .inl ⟨?_, ?_⟩
    · have hskip : find [ch ':'] (line ++ []) = (find [ch ':'] []).map (· + line.length) :=
        find_append_of_head_notMem hmem
      rw [List.append_nil] at hskip
      rw [hskip]
      rfl
    · have hskip : find [unit ':'] (Utf8.decode line ++ []) =
          (find [unit ':'] []).map (· + (Utf8.decode line).length) :=
        find_append_of_head_notMem htext
      rw [List.append_nil] at hskip
      rw [hskip]
      rfl

/-- A text is cut at an ASCII mark where its octets are. -/
theorem splitOn_decode_mark {mark : UInt8} (hmark : mark.toNat < 0x80) (bytes : Bytes) :
    splitOn [mark.toUInt16] (Utf8.decode bytes) = (splitOn [mark] bytes).map Utf8.decode := by
  have hnot : ∀ {l : Bytes}, mark ∉ l → mark.toUInt16 ∉ Utf8.decode l := by
    intro l hl hmem
    have hwide : mark.toUInt16.toNat < 0x80 := by rwa [UInt8.toNat_toUInt16]
    have hoctet := Utf8.mem_of_mem_decode hwide hmem
    rw [UInt8.toUInt8_toUInt16] at hoctet
    exact hl hoctet
  induction bytes using mark_induction mark with
  | single l hl =>
      rw [splitOn_mark_none hl, splitOn_mark_none (hnot hl)]
      rfl
  | cons l r hl ih =>
      rw [Utf8.decode_append_ascii hmark, splitOn_mark (hnot hl), ih, splitOn_mark hl,
        List.map_cons]

/-! ### Blanks -/

/-- What `trim_ascii` removes is removed from the text as well, where `SP` and `HTAB` count as
white space. -/
theorem strip_decode {isSpace : UInt16 → Bool} (hspace : isSpace (unit ' ') = true)
    (htab : isSpace (unit '\t') = true) (raw : Bytes) :
    strip isSpace (Utf8.decode raw) = strip isSpace (Utf8.decode (trimAscii raw)) := by
  have hascii : ∀ blank : Bytes, (∀ b ∈ blank, isBlank b = true) →
      (∀ b ∈ blank, b.toNat < 0x80) ∧ ∀ u ∈ blank.map UInt8.toUInt16, isSpace u = true := by
    intro blank hblank
    refine ⟨fun b hb => ?_, fun u hu => ?_⟩
    · have := (isBlank_iff b).mp (hblank b hb)
      omega
    · obtain ⟨b, hb, rfl⟩ := List.mem_map.mp hu
      have hb := hblank b hb
      rw [isBlank, Bool.or_eq_true, beq_iff_eq, beq_iff_eq] at hb
      obtain rfl | rfl := hb
      · exact hspace
      · exact htab
  obtain ⟨l, r, hl, hr, hraw⟩ := exists_strip isBlank raw
  obtain ⟨hfront, hfrontUnits⟩ := hascii l hl
  obtain ⟨hback, hbackUnits⟩ := hascii r hr
  conv_lhs => rw [hraw]
  rw [Utf8.decode_ascii_append hfront, Utf8.decode_append_of_ascii hback,
    strip_append_left hfrontUnits, strip_append_right hbackUnits]
  rfl

/-! ### Letters -/

theorem toLowerAscii_toUInt16 (c : UInt8) :
    (toLowerAscii c).toUInt16 = lowerAscii c.toUInt16 := by
  have hall : ∀ n : Fin 256, (toLowerAscii (UInt8.ofNat n)).toUInt16 =
      lowerAscii (UInt8.ofNat n).toUInt16 := by decide +kernel
  have hc := hall ⟨c.toNat, c.toNat_lt⟩
  rwa [UInt8.ofNat_toNat] at hc

theorem toUInt16_injective : Function.Injective UInt8.toUInt16 := by
  intro b c hbc
  have hnat := congrArg UInt16.toNat hbc
  rw [UInt8.toNat_toUInt16, UInt8.toNat_toUInt16] at hnat
  exact UInt8.toNat_inj.mp hnat

/-- The lower case of a string of octets. -/
theorem map_lowerAscii_map (bytes : Bytes) :
    (bytes.map UInt8.toUInt16).map lowerAscii = (bytes.map toLowerAscii).map UInt8.toUInt16 := by
  rw [List.map_map, List.map_map]
  exact List.map_congr_left fun c _ => (toLowerAscii_toUInt16 c).symm

end CulpeoStream.Message
