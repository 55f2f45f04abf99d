import CulpeoStream.Lib.Utf8

/-!
# Cutting UTF-8

A valid sequence of octets can be cut in front of every octet that does not continue a character,
and nowhere else (`isValid_take_iff`), and it stays valid when ASCII characters are replaced by
others (`IsValid.map_ascii`).
-/

namespace Utf8

/-- The octet continues a character. -/
def isContinuation (b : UInt8) : Bool := 0x80 ≤ b.toNat && b.toNat < 0xC0

theorem isValid_nil : IsValid [] := ⟨[], rfl⟩

theorem IsValid.octets_append {bytes : List UInt8} (h : IsValid bytes) (c : Char) :
    IsValid (octets c ++ bytes) := by
  obtain ⟨cs, rfl⟩ := h
  exact ⟨c :: cs, rfl⟩

theorem isContinuation_toUInt8 {n : ℕ} (h : n < 256) :
    isContinuation n.toUInt8 = (decide (0x80 ≤ n) && decide (n < 0xC0)) := by
  rw [isContinuation, toUInt8_toNat_of_lt h]

/-- A character begins with an octet that continues none, and its other octets continue it. -/
theorem octets_cases (c : Char) : ∃ b rest, octets c = b :: rest ∧ isContinuation b = false ∧
    ∀ d ∈ rest, isContinuation d = true := by
  have hvalid := toNat_lt_or c
  have hfirst : ∀ n, n < 0x80 ∨ 0xC0 ≤ n → n < 256 → isContinuation n.toUInt8 = false := by
    intro n hn hlt
    rw [isContinuation_toUInt8 hlt, Bool.and_eq_false_iff, decide_eq_false_iff_not,
      decide_eq_false_iff_not]
    omega
  have hlater : ∀ n, n < 0x40 → isContinuation (0x80 + n).toUInt8 = true := by
    intro n hn
    rw [isContinuation_toUInt8 (by omega), Bool.and_eq_true, decide_eq_true_eq,
      decide_eq_true_eq]
    omega
  unfold octets
  dsimp only
  split
  · exact ⟨_, [], rfl, hfirst _ (by omega) (by omega), List.forall_mem_nil _⟩
  split
  · exact ⟨_, _, rfl, hfirst _ (by omega) (by omega),
      List.forall_mem_singleton.mpr (hlater _ (by omega))⟩
  split
  · exact ⟨_, _, rfl, hfirst _ (by omega) (by omega), List.forall_mem_cons.mpr
      ⟨hlater _ (by omega), List.forall_mem_singleton.mpr (hlater _ (by omega))⟩⟩
  · exact ⟨_, _, rfl, hfirst _ (by omega) (by omega), List.forall_mem_cons.mpr
      ⟨hlater _ (by omega), List.forall_mem_cons.mpr
        ⟨hlater _ (by omega), List.forall_mem_singleton.mpr (hlater _ (by omega))⟩⟩⟩

/-- What follows a valid sequence within a valid one is valid. -/
theorem isValid_of_append {xs ys : List UInt8} (h : IsValid (xs ++ ys)) (hxs : IsValid xs) :
    IsValid ys := by
  obtain ⟨cs, hcs⟩ := h
  obtain ⟨ds, rfl⟩ := hxs
  have hdecode : ∀ (ds : List Char) ys, decodeChars (ds.flatMap octets ++ ys) =
      ds ++ decodeChars ys := by
    intro ds ys
    induction ds with
    | nil => rfl
    | cons d ds ih =>
        rw [List.flatMap_cons, List.append_assoc, decodeChars_octets_append, ih, List.cons_append]
  have hsame : cs = ds ++ decodeChars ys := by
    rw [← hdecode, hcs, decodeChars_flatMap_octets]
  have hwritten : ds.flatMap octets ++ ys =
      ds.flatMap octets ++ (decodeChars ys).flatMap octets := by
    rw [hcs, ← List.flatMap_append, ← hsame]
  exact ⟨decodeChars ys, List.append_cancel_left hwritten⟩

theorem IsValid.head {b : UInt8} {rest : List UInt8} (h : IsValid (b :: rest)) :
    isContinuation b = false := by
  obtain ⟨cs, hcs⟩ := h
  cases cs with
  | nil => cases hcs
  | cons c cs =>
      obtain ⟨first, later, hoctets, hfirst, -⟩ := octets_cases c
      rw [List.flatMap_cons, hoctets, List.cons_append] at hcs
      rw [(List.cons.inj hcs).1]
      exact hfirst

/-- **Where a valid sequence can be cut**: not in front of an octet that continues a
character. -/
theorem isValid_take_iff {bytes : List UInt8} (h : IsValid bytes) (n : ℕ) :
    IsValid (bytes.take n) ↔ ∀ b ∈ bytes[n]?, isContinuation b = false := by
  constructor
  · intro htake b hb
    obtain ⟨hn, rfl⟩ := List.getElem?_eq_some_iff.mp hb
    have hrest : IsValid (bytes.drop n) :=
      isValid_of_append ((List.take_append_drop n bytes).symm ▸ h) htake
    rw [List.drop_eq_getElem_cons hn] at hrest
    exact hrest.head
  · obtain ⟨cs, rfl⟩ := h
    intro hcut
    induction cs generalizing n with
    | nil => exact ⟨[], by simp⟩
    | cons c cs ih =>
        rw [List.flatMap_cons] at hcut ⊢
        by_cases hlen : (octets c).length ≤ n
        · -- The cut is behind the first character.
          rw [List.getElem?_append_right hlen] at hcut
          rw [List.take_append, List.take_of_length_le hlen]
          exact (ih _ hcut).octets_append c
        · cases n with
          | zero => exact isValid_nil
          | succ n =>
              obtain ⟨first, later, hoctets, -, hlater⟩ := octets_cases c
              rw [hoctets, List.length_cons] at hlen
              have hn : n < later.length := by omega
              rw [hoctets, List.cons_append, List.getElem?_cons_succ,
                List.getElem?_append_left hn, List.getElem?_eq_getElem hn] at hcut
              have hnot := hcut _ rfl
              rw [hlater _ (List.getElem_mem hn)] at hnot
              cases hnot

/-- ASCII characters can be replaced. -/
theorem IsValid.map_ascii {f : UInt8 → UInt8} (hascii : ∀ b, b.toNat < 0x80 → (f b).toNat < 0x80)
    (hother : ∀ b, 0x80 ≤ b.toNat → f b = b) {bytes : List UInt8} (h : IsValid bytes) :
    IsValid (bytes.map f) := by
  obtain ⟨cs, rfl⟩ := h
  induction cs with
  | nil => exact isValid_nil
  | cons c cs ih =>
      rw [List.flatMap_cons, List.map_append]
      by_cases hc : c.toNat < 0x80
      · have hbyte : c.toNat.toUInt8.toNat = c.toNat := toUInt8_toNat_of_lt (by omega)
        have hnew : (f c.toNat.toUInt8).toNat < 0x80 := hascii _ (by rw [hbyte]; exact hc)
        have hone : (octets c).map f = octets (Char.ofNat (f c.toNat.toUInt8).toNat) := by
          rw [octets_ascii hnew, octets, if_pos hc]
          simp
        rw [hone]
        exact ih.octets_append _
      · have hsame : (octets c).map f = octets c :=
          (List.map_congr_left fun b hb =>
            hother b (octets_not_ascii (by omega) hb)).trans (List.map_id _)
        rw [hsame]
        exact ih.octets_append c

end Utf8
