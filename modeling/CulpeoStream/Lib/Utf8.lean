import Mathlib.Algebra.Group.Nat.Defs
import Mathlib.Data.List.Basic
import CulpeoStream.Lib.Utf16

/-!
# UTF-8

Both .NET and JavaScript keep strings in UTF-16 and exchange UTF-8.  `encode` writes a
text, an unpaired surrogate as U+FFFD, and `decodeChars` reads octets: a sequence that is
not well formed is read as one U+FFFD for each of its maximal prefixes that begin a
well-formed sequence, or else for each octet.

`decode_encode` is the round trip of a well-formed text.  An ASCII octet stands for its
character wherever it occurs (`decode_append_ascii`) and ASCII characters come from
nowhere else (`mem_of_mem_decode`), so that a text may be cut at ASCII separators before or
after it is decoded.
-/

namespace Utf8

open Utf16

/-! ### Writing -/

/-- The octets of a character. -/
def octets (c : Char) : List UInt8 :=
  let v := c.toNat
  if v < 0x80 then [v.toUInt8]
  else if v < 0x800 then [(0xC0 + v / 64).toUInt8, (0x80 + v % 64).toUInt8]
  else if v < 0x10000 then
    [(0xE0 + v / 4096).toUInt8, (0x80 + v / 64 % 64).toUInt8, (0x80 + v % 64).toUInt8]
  else
    [(0xF0 + v / 262144).toUInt8, (0x80 + v / 4096 % 64).toUInt8,
      (0x80 + v / 64 % 64).toUInt8, (0x80 + v % 64).toUInt8]

def replacement : Char := Char.ofNat 0xFFFD

def isHigh (u : UInt16) : Bool := 0xD800 ≤ u && u < 0xDC00

def isLow (u : UInt16) : Bool := 0xDC00 ≤ u && u < 0xE000

/-- The character of a code unit that is not half of a pair. -/
def single (u : UInt16) : Char :=
  if isHigh u || isLow u then replacement else Char.ofNat u.toNat

/-- The characters of a text. -/
def chars : Text → List Char
  | [] => []
  | [u] => [single u]
  | u :: v :: rest =>
      if isHigh u && isLow v then
        Char.ofNat (0x10000 + (u.toNat - 0xD800) * 0x400 + (v.toNat - 0xDC00)) :: chars rest
      else single u :: chars (v :: rest)

def encode (t : Text) : List UInt8 := (chars t).flatMap octets

/-- Every surrogate is half of a pair. -/
def WellFormed (t : Text) : Prop := (chars t).flatMap units = t

instance (t : Text) : Decidable (WellFormed t) := inferInstanceAs (Decidable (_ = _))

/-! ### Reading -/

/-- Within a sequence: the bits so far, how many octets must follow the next one, and
where the next one must lie. -/
structure Pending where
  codePoint : ℕ
  more : ℕ
  lower : ℕ := 0x80
  upper : ℕ := 0xBF
  lower_ge : 0x80 ≤ lower := by decide
  /-- What the sequence stands for is not ASCII. -/
  long : 0x80 ≤ (codePoint * 64 + (lower - 0x80)) * 64 ^ more

/-- An octet outside a sequence: the character it gives, and the sequence it begins. -/
def lead (b : UInt8) : List Char × Option Pending :=
  let n := b.toNat
  if n < 0x80 then ([Char.ofNat n], none)
  else if h : 0xC2 ≤ n ∧ n < 0xE0 then
    ([], some { codePoint := n - 0xC0, more := 0, long := by omega })
  else if n = 0xE0 then ([], some { codePoint := 0, more := 1, lower := 0xA0, long := by omega })
  else if n = 0xED then
    ([], some { codePoint := 0xD, more := 1, upper := 0x9F, long := by omega })
  else if h : 0xE1 ≤ n ∧ n < 0xF0 then
    ([], some { codePoint := n - 0xE0, more := 1, long := by omega })
  else if n = 0xF0 then ([], some { codePoint := 0, more := 2, lower := 0x90, long := by omega })
  else if h : 0xF1 ≤ n ∧ n < 0xF4 then
    ([], some { codePoint := n - 0xF0, more := 2, long := by omega })
  else if n = 0xF4 then ([], some { codePoint := 4, more := 2, upper := 0x8F, long := by omega })
  else ([replacement], none)

/-- The character of a code point; the decoder only meets valid ones. -/
def charOf (codePoint : ℕ) : Char :=
  if codePoint.isValidChar then Char.ofNat codePoint else replacement

theorem long_next {codePoint lower more next : ℕ}
    (h : 0x80 ≤ (codePoint * 64 + (lower - 0x80)) * 64 ^ (more + 1))
    (hle : codePoint * 64 + (lower - 0x80) ≤ next) :
    0x80 ≤ (next * 64 + (0x80 - 0x80)) * 64 ^ more := by
  have hnext : (next * 64 + (0x80 - 0x80)) * 64 ^ more = next * 64 ^ (more + 1) := by
    rw [Nat.pow_succ', ← Nat.mul_assoc]
    rfl
  rw [hnext]
  exact h.trans (Nat.mul_le_mul_right _ hle)

/-- The next octet. -/
def step : Option Pending → UInt8 → List Char × Option Pending
  | none, b => lead b
  | some p, b =>
      if h : p.lower ≤ b.toNat ∧ b.toNat ≤ p.upper then
        let codePoint := p.codePoint * 64 + (b.toNat - 0x80)
        match hmore : p.more with
        | 0 => ([charOf codePoint], none)
        | more + 1 => ([], some {
            codePoint, more
            long := long_next (hmore ▸ p.long) (by omega) })
      else (replacement :: (lead b).1, (lead b).2)

def decodeFrom : Option Pending → List UInt8 → List Char
  | none, [] => []
  | some _, [] => [replacement]
  | p, b :: rest => (step p b).1 ++ decodeFrom (step p b).2 rest

def decodeChars (bytes : List UInt8) : List Char := decodeFrom none bytes

def decode (bytes : List UInt8) : Text := (decodeChars bytes).flatMap units

/-! ### The round trip -/

theorem toNat_lt_or (c : Char) : c.toNat < 0xD800 ∨ 0xDFFF < c.toNat ∧ c.toNat < 0x110000 := by
  have hvalid := c.valid
  exact hvalid

theorem toUInt16_toNat_of_lt {n : ℕ} (h : n < 65536) : n.toUInt16.toNat = n := by
  simp [Nat.mod_eq_of_lt h]

theorem toUInt8_toNat_of_lt {n : ℕ} (h : n < 256) : n.toUInt8.toNat = n := by
  simp [Nat.mod_eq_of_lt h]

theorem isHigh_iff (u : UInt16) : isHigh u = true ↔ 0xD800 ≤ u.toNat ∧ u.toNat < 0xDC00 := by
  simp [isHigh, UInt16.le_iff_toNat_le, UInt16.lt_iff_toNat_lt]

theorem isLow_iff (u : UInt16) : isLow u = true ↔ 0xDC00 ≤ u.toNat ∧ u.toNat < 0xE000 := by
  simp [isLow, UInt16.le_iff_toNat_le, UInt16.lt_iff_toNat_lt]

theorem chars_single {u : UInt16} (h : isHigh u = false) (t : Text) :
    chars (u :: t) = single u :: chars t := by
  cases t with
  | nil => rfl
  | cons v rest => simp only [chars, h, Bool.false_and, Bool.false_eq_true, if_false]

/-- The characters of a text that begins with a character. -/
theorem chars_units_append (c : Char) (t : Text) : chars (units c ++ t) = c :: chars t := by
  have hvalid := toNat_lt_or c
  unfold units
  split
  · rename_i hsmall
    have hunit : c.toNat.toUInt16.toNat = c.toNat := toUInt16_toNat_of_lt hsmall
    have hhigh : isHigh c.toNat.toUInt16 = false := by
      rw [Bool.eq_false_iff, Ne, isHigh_iff, hunit]
      omega
    have hlow : isLow c.toNat.toUInt16 = false := by
      rw [Bool.eq_false_iff, Ne, isLow_iff, hunit]
      omega
    rw [List.singleton_append, chars_single hhigh, single, hhigh, hlow, hunit]
    simp
  · rename_i hlarge
    have hfirst : (0xD800 + (c.toNat - 0x10000) / 0x400).toUInt16.toNat =
        0xD800 + (c.toNat - 0x10000) / 0x400 := toUInt16_toNat_of_lt (by omega)
    have hsecond : (0xDC00 + (c.toNat - 0x10000) % 0x400).toUInt16.toNat =
        0xDC00 + (c.toNat - 0x10000) % 0x400 := toUInt16_toNat_of_lt (by omega)
    have hhigh := (isHigh_iff (0xD800 + (c.toNat - 0x10000) / 0x400).toUInt16).mpr
      (by rw [hfirst]; omega)
    have hlow := (isLow_iff (0xDC00 + (c.toNat - 0x10000) % 0x400).toUInt16).mpr
      (by rw [hsecond]; omega)
    have hsum : 0x10000 + (0xD800 + (c.toNat - 0x10000) / 0x400 - 0xD800) * 0x400 +
        (0xDC00 + (c.toNat - 0x10000) % 0x400 - 0xDC00) = c.toNat := by omega
    simp only [List.cons_append, List.nil_append]
    rw [chars, hhigh, hlow, hfirst, hsecond, hsum]
    simp

theorem chars_flatMap_units (cs : List Char) : chars (cs.flatMap units) = cs := by
  induction cs with
  | nil => rfl
  | cons c cs ih => rw [List.flatMap_cons, chars_units_append, ih]

theorem wellFormed_iff {t : Text} : WellFormed t ↔ ∃ cs : List Char, t = cs.flatMap units := by
  constructor
  · intro h
    exact ⟨chars t, h.symm⟩
  · rintro ⟨cs, rfl⟩
    unfold WellFormed
    rw [chars_flatMap_units]

theorem decodeFrom_cons (p : Option Pending) (b : UInt8) (rest : List UInt8) :
    decodeFrom p (b :: rest) = (step p b).1 ++ decodeFrom (step p b).2 rest := by
  cases p <;> rfl

theorem charOf_toNat (c : Char) : charOf c.toNat = c := by
  have hvalid : c.toNat.isValidChar := c.valid
  rw [charOf, if_pos hvalid, Char.ofNat_toNat]

theorem decodeFrom_lead {b : UInt8} {p : Pending} (h : lead b = ([], some p))
    (rest : List UInt8) : decodeChars (b :: rest) = decodeFrom (some p) rest := by
  have hstep : step none b = ([], some p) := h
  rw [decodeChars, decodeFrom_cons, hstep]
  rfl

/-- A continuation octet within a sequence. -/
theorem decodeFrom_more {p : Pending} {more : ℕ} (hmore : p.more = more + 1) {n : ℕ}
    (hlower : p.lower ≤ 0x80 + n) (hupper : 0x80 + n ≤ p.upper) (hn : n < 64)
    (rest : List UInt8) :
    ∃ q : Pending, q.codePoint = p.codePoint * 64 + n ∧ q.more = more ∧ q.lower = 0x80 ∧
      q.upper = 0xBF ∧
      decodeFrom (some p) ((0x80 + n).toUInt8 :: rest) = decodeFrom (some q) rest := by
  have hbyte : (0x80 + n).toUInt8.toNat = 0x80 + n := toUInt8_toNat_of_lt (by omega)
  have hin : p.lower ≤ (0x80 + n).toUInt8.toNat ∧ (0x80 + n).toUInt8.toNat ≤ p.upper := by
    rw [hbyte]
    exact ⟨hlower, hupper⟩
  rw [decodeFrom_cons]
  simp only [step, dif_pos hin]
  split
  · omega
  · rename_i k hk
    refine ⟨_, ?_, ?_, rfl, rfl, rfl⟩
    · dsimp only
      omega
    · dsimp only
      omega

/-- The last octet of a sequence. -/
theorem decodeFrom_last {p : Pending} (hmore : p.more = 0) {n : ℕ}
    (hlower : p.lower ≤ 0x80 + n) (hupper : 0x80 + n ≤ p.upper) (hn : n < 64)
    (rest : List UInt8) :
    decodeFrom (some p) ((0x80 + n).toUInt8 :: rest) =
      charOf (p.codePoint * 64 + n) :: decodeChars rest := by
  have hbyte : (0x80 + n).toUInt8.toNat = 0x80 + n := toUInt8_toNat_of_lt (by omega)
  have hin : p.lower ≤ (0x80 + n).toUInt8.toNat ∧ (0x80 + n).toUInt8.toNat ≤ p.upper := by
    rw [hbyte]
    exact ⟨hlower, hupper⟩
  have hbits : (0x80 + n).toUInt8.toNat - 0x80 = n := by omega
  rw [decodeFrom_cons]
  simp only [step, dif_pos hin]
  split
  · simp only [hbits]
    rfl
  · omega

theorem exists_lead_two {n : ℕ} (hlow : 2 ≤ n) (hn : n < 0x20) :
    ∃ p : Pending, lead (0xC0 + n).toUInt8 = ([], some p) ∧ p.codePoint = n ∧ p.more = 0 ∧
      p.lower = 0x80 ∧ p.upper = 0xBF := by
  have hbyte : (0xC0 + n).toUInt8.toNat = 0xC0 + n := toUInt8_toNat_of_lt (by omega)
  unfold lead
  simp only [hbyte]
  rw [if_neg (by omega), dif_pos (by omega)]
  exact ⟨_, rfl, by dsimp only; omega, rfl, rfl, rfl⟩

theorem exists_lead_three {n : ℕ} (hn : n < 0x10) :
    ∃ p : Pending, lead (0xE0 + n).toUInt8 = ([], some p) ∧ p.codePoint = n ∧ p.more = 1 ∧
      p.lower = (if n = 0 then 0xA0 else 0x80) ∧ p.upper = if n = 0xD then 0x9F else 0xBF := by
  have hbyte : (0xE0 + n).toUInt8.toNat = 0xE0 + n := toUInt8_toNat_of_lt (by omega)
  unfold lead
  simp only [hbyte]
  rw [if_neg (by omega), dif_neg (by omega)]
  split
  · exact ⟨_, rfl, by dsimp only; omega, rfl, by rw [if_pos (by omega)],
      by rw [if_neg (by omega)]⟩
  · split
    · exact ⟨_, rfl, by dsimp only; omega, rfl, by rw [if_neg (by omega)],
        by rw [if_pos (by omega)]⟩
    · rw [dif_pos (by omega)]
      exact ⟨_, rfl, by dsimp only; omega, rfl, by rw [if_neg (by omega)],
        by rw [if_neg (by omega)]⟩

theorem exists_lead_four {n : ℕ} (hn : n < 5) :
    ∃ p : Pending, lead (0xF0 + n).toUInt8 = ([], some p) ∧ p.codePoint = n ∧ p.more = 2 ∧
      p.lower = (if n = 0 then 0x90 else 0x80) ∧ p.upper = if n = 4 then 0x8F else 0xBF := by
  have hbyte : (0xF0 + n).toUInt8.toNat = 0xF0 + n := toUInt8_toNat_of_lt (by omega)
  unfold lead
  simp only [hbyte]
  rw [if_neg (by omega), dif_neg (by omega), if_neg (by omega), if_neg (by omega),
    dif_neg (by omega)]
  split
  · exact ⟨_, rfl, by dsimp only; omega, rfl, by rw [if_pos (by omega)],
      by rw [if_neg (by omega)]⟩
  · split
    · exact ⟨_, rfl, by dsimp only; omega, rfl, by rw [if_neg (by omega)],
        by rw [if_neg (by omega)]⟩
    · rw [if_pos (by omega)]
      exact ⟨_, rfl, by dsimp only; omega, rfl, by rw [if_neg (by omega)],
        by rw [if_pos (by omega)]⟩

/-- An ASCII octet outside a sequence is its character. -/
theorem lead_ascii {b : UInt8} (h : b.toNat < 0x80) : lead b = ([Char.ofNat b.toNat], none) := by
  unfold lead
  rw [if_pos h]

/-- The octets of a character are read as that character. -/
theorem decodeChars_octets_append (c : Char) (rest : List UInt8) :
    decodeChars (octets c ++ rest) = c :: decodeChars rest := by
  have hvalid := toNat_lt_or c
  unfold octets
  simp only
  split
  · rename_i hone
    have hbyte : c.toNat.toUInt8.toNat = c.toNat := toUInt8_toNat_of_lt (by omega)
    have hstep : step none c.toNat.toUInt8 = ([c], none) := by
      rw [step, lead_ascii (by omega), hbyte, Char.ofNat_toNat]
    rw [List.singleton_append, decodeChars, decodeFrom_cons, hstep]
    rfl
  split
  -- The lead octet, and then the last one.
  · rename_i htwo
    obtain ⟨p, hp, hcode, hmore, hlower, hupper⟩ :=
      exists_lead_two (n := c.toNat / 64) (by omega) (by omega)
    have hsum : c.toNat / 64 * 64 + c.toNat % 64 = c.toNat := by omega
    simp only [List.cons_append, List.nil_append]
    rw [decodeFrom_lead hp, decodeFrom_last hmore (by omega) (by omega) (by omega), hcode, hsum,
      charOf_toNat]
  split
  -- One octet between them.
  · rename_i hthree
    obtain ⟨p, hp, hcode, hmore, hlower, hupper⟩ :=
      exists_lead_three (n := c.toNat / 4096) (by omega)
    obtain ⟨q, hcode', hmore', hlower', hupper', hq⟩ :=
      decodeFrom_more hmore (n := c.toNat / 64 % 64) (by rw [hlower]; split <;> omega)
        (by rw [hupper]; split <;> omega) (by omega) ((0x80 + c.toNat % 64).toUInt8 :: rest)
    have hsum : (c.toNat / 4096 * 64 + c.toNat / 64 % 64) * 64 + c.toNat % 64 = c.toNat := by omega
    simp only [List.cons_append, List.nil_append]
    rw [decodeFrom_lead hp, hq, decodeFrom_last hmore' (by omega) (by omega) (by omega), hcode',
      hcode, hsum, charOf_toNat]
  -- Two octets between them.
  · rename_i hfour
    obtain ⟨p, hp, hcode, hmore, hlower, hupper⟩ :=
      exists_lead_four (n := c.toNat / 262144) (by omega)
    obtain ⟨q, hcode', hmore', hlower', hupper', hq⟩ :=
      decodeFrom_more hmore (n := c.toNat / 4096 % 64) (by rw [hlower]; split <;> omega)
        (by rw [hupper]; split <;> omega) (by omega)
        ((0x80 + c.toNat / 64 % 64).toUInt8 :: (0x80 + c.toNat % 64).toUInt8 :: rest)
    obtain ⟨r, hcode'', hmore'', hlower'', hupper'', hr⟩ :=
      decodeFrom_more hmore' (n := c.toNat / 64 % 64) (by omega) (by omega) (by omega)
        ((0x80 + c.toNat % 64).toUInt8 :: rest)
    have hsum : ((c.toNat / 262144 * 64 + c.toNat / 4096 % 64) * 64 + c.toNat / 64 % 64) * 64 +
        c.toNat % 64 = c.toNat := by omega
    simp only [List.cons_append, List.nil_append]
    rw [decodeFrom_lead hp, hq, hr, decodeFrom_last hmore'' (by omega) (by omega) (by omega),
      hcode'', hcode', hcode, hsum, charOf_toNat]

theorem decodeChars_flatMap_octets (cs : List Char) : decodeChars (cs.flatMap octets) = cs := by
  induction cs with
  | nil => rfl
  | cons c cs ih => rw [List.flatMap_cons, decodeChars_octets_append, ih]

/-- The octets are written for a list of characters. -/
def IsValid (bytes : List UInt8) : Prop := ∃ cs : List Char, bytes = cs.flatMap octets

/-- Valid octets are what is read of them, written again. -/
theorem isValid_iff {bytes : List UInt8} :
    IsValid bytes ↔ bytes = (decodeChars bytes).flatMap octets := by
  refine ⟨?_, fun h => ⟨_, h⟩⟩
  rintro ⟨cs, rfl⟩
  rw [decodeChars_flatMap_octets]

instance decidableIsValid (bytes : List UInt8) : Decidable (IsValid bytes) :=
  decidable_of_iff _ isValid_iff.symm

/-- The octets of a string. -/
def utf8 (s : String) : List UInt8 := s.toList.flatMap octets

theorem utf8_injective : Function.Injective utf8 := by
  intro s t h
  have hchars := congrArg decodeChars h
  rw [utf8, utf8, decodeChars_flatMap_octets, decodeChars_flatMap_octets] at hchars
  exact String.toList_injective hchars

theorem utf16_injective : Function.Injective utf16 := by
  intro s t h
  have hchars := congrArg chars h
  rw [utf16, utf16, chars_flatMap_units, chars_flatMap_units] at hchars
  exact String.toList_injective hchars

/-- A string that is exchanged in UTF-8 is the same string in UTF-16. -/
theorem decode_utf8 (s : String) : decode (utf8 s) = utf16 s := by
  rw [decode, utf8, decodeChars_flatMap_octets, utf16]

/-- **The round trip.** -/
theorem decode_encode {t : Text} (h : WellFormed t) : decode (encode t) = t := by
  unfold decode encode
  rw [decodeChars_flatMap_octets]
  exact h

/-! ### ASCII characters -/

theorem ascii_of_all {t : Text} (h : (t.all fun u => u.toNat < 0x80) = true) :
    ∀ u ∈ t, u.toNat < 0x80 := by
  simpa using h

theorem isHigh_ascii {u : UInt16} (h : u.toNat < 0x80) : isHigh u = false := by
  rw [Bool.eq_false_iff, Ne, isHigh_iff]
  omega

theorem isLow_ascii {u : UInt16} (h : u.toNat < 0x80) : isLow u = false := by
  rw [Bool.eq_false_iff, Ne, isLow_iff]
  omega

theorem single_ascii {u : UInt16} (h : u.toNat < 0x80) : single u = Char.ofNat u.toNat := by
  simp [single, isHigh_ascii h, isLow_ascii h]

theorem toNat_ofNat_ascii {n : ℕ} (h : n < 0x80) : (Char.ofNat n).toNat = n := by
  have hvalid : n.isValidChar := Or.inl (by omega)
  rw [Char.ofNat, dif_pos hvalid]
  rfl

theorem octets_ascii {n : ℕ} (h : n < 0x80) : octets (Char.ofNat n) = [n.toUInt8] := by
  simp only [octets, toNat_ofNat_ascii h]
  rw [if_pos h]

theorem units_ascii {n : ℕ} (h : n < 0x80) : units (Char.ofNat n) = [n.toUInt16] := by
  simp only [units, toNat_ofNat_ascii h]
  rw [if_pos (by omega)]

theorem wellFormed_ascii {t : Text} (h : ∀ u ∈ t, u.toNat < 0x80) : WellFormed t := by
  refine wellFormed_iff.mpr ⟨t.map fun u => Char.ofNat u.toNat, ?_⟩
  induction t with
  | nil => rfl
  | cons u t ih =>
      have hu : u.toNat.toUInt16 = u := by simp
      rw [List.map_cons, List.flatMap_cons, units_ascii (h u (by simp)), hu,
        ← ih fun v hv => h v (by simp [hv])]
      rfl

/-- No pair spans an ASCII character. -/
theorem chars_append_ascii {u : UInt16} (h : u.toNat < 0x80) (s t : Text) :
    chars (s ++ u :: t) = chars s ++ Char.ofNat u.toNat :: chars t := by
  induction s using chars.induct with
  | case1 => rw [List.nil_append, chars_single (isHigh_ascii h), single_ascii h]; rfl
  | case2 v =>
      have hpair : (isHigh v && isLow u) = false := by rw [isLow_ascii h, Bool.and_false]
      have htail : chars (u :: t) = Char.ofNat u.toNat :: chars t := by
        rw [chars_single (isHigh_ascii h), single_ascii h]
      simp [chars, hpair, htail]
  | case3 v w rest hpair ih => simp [chars, hpair, ih]
  | case4 v w rest hpair ih =>
      have hpair' : (isHigh v && isLow w) = false := by simpa using hpair
      have hleft : chars (v :: w :: rest) = single v :: chars (w :: rest) := by
        simp [chars, hpair']
      have hright : chars (v :: w :: (rest ++ u :: t)) =
          single v :: chars (w :: (rest ++ u :: t)) := by
        simp [chars, hpair']
      rw [hleft, List.cons_append, List.cons_append, hright]
      rw [List.cons_append] at ih
      rw [ih, List.cons_append]

theorem encode_append_ascii {u : UInt16} (h : u.toNat < 0x80) (s t : Text) :
    encode (s ++ u :: t) = encode s ++ u.toUInt8 :: encode t := by
  have hunit : u.toNat.toUInt8 = u.toUInt8 := by
    apply UInt8.toNat_inj.mp
    simp
  rw [encode, chars_append_ascii h, List.flatMap_append, List.flatMap_cons, octets_ascii h, hunit]
  rfl

theorem encode_ascii {t : Text} (h : ∀ u ∈ t, u.toNat < 0x80) :
    encode t = t.map UInt16.toUInt8 := by
  induction t with
  | nil => rfl
  | cons u t ih =>
      have hcons : encode ([] ++ u :: t) = encode [] ++ u.toUInt8 :: encode t :=
        encode_append_ascii (h u (by simp)) [] t
      rw [List.nil_append] at hcons
      rw [hcons, ih fun v hv => h v (by simp [hv])]
      rfl

theorem encode_ascii_append {s : Text} (h : ∀ u ∈ s, u.toNat < 0x80) (t : Text) :
    encode (s ++ t) = encode s ++ encode t := by
  induction s with
  | nil => rfl
  | cons u s ih =>
      have hleft : encode ([] ++ u :: (s ++ t)) = encode [] ++ u.toUInt8 :: encode (s ++ t) :=
        encode_append_ascii (h u (by simp)) [] (s ++ t)
      have hright : encode ([] ++ u :: s) = encode [] ++ u.toUInt8 :: encode s :=
        encode_append_ascii (h u (by simp)) [] s
      rw [List.nil_append] at hleft hright
      rw [List.cons_append, hleft, hright, ih fun v hv => h v (by simp [hv])]
      rfl

/-- The octets of a character that is not ASCII are not ASCII. -/
theorem octets_not_ascii {c : Char} (hc : 0x80 ≤ c.toNat) {b : UInt8} (h : b ∈ octets c) :
    0x80 ≤ b.toNat := by
  have hvalid := toNat_lt_or c
  simp only [octets] at h
  rw [if_neg (by omega)] at h
  split at h
  · simp only [List.mem_cons, List.not_mem_nil, or_false] at h
    obtain rfl | rfl := h <;> rw [toUInt8_toNat_of_lt (by omega)] <;> omega
  split at h
  · simp only [List.mem_cons, List.not_mem_nil, or_false] at h
    obtain rfl | rfl | rfl := h <;> rw [toUInt8_toNat_of_lt (by omega)] <;> omega
  · simp only [List.mem_cons, List.not_mem_nil, or_false] at h
    obtain rfl | rfl | rfl | rfl := h <;> rw [toUInt8_toNat_of_lt (by omega)] <;> omega

theorem toNat_replacement : replacement.toNat = 0xFFFD := by decide

theorem toNat_ofNat_valid {n : ℕ} (h : n.isValidChar) : (Char.ofNat n).toNat = n := by
  rw [Char.ofNat, dif_pos h]
  rfl

/-- A code unit that stands for an ASCII character is that character. -/
theorem single_eq_ascii {u : UInt16} (h : (single u).toNat < 0x80) :
    (single u).toNat.toUInt16 = u := by
  unfold single at h ⊢
  split
  · rename_i hsurrogate
    rw [if_pos hsurrogate, toNat_replacement] at h
    omega
  · rename_i hsurrogate
    have hhigh := isHigh_iff u
    have hlow := isLow_iff u
    have hvalid : u.toNat.isValidChar := by
      have hlt := u.toNat_lt
      unfold Nat.isValidChar
      by_cases h1 : isHigh u = true
      · simp [h1] at hsurrogate
      · by_cases h2 : isLow u = true
        · simp [h2] at hsurrogate
        · rw [hhigh] at h1
          rw [hlow] at h2
          omega
    rw [toNat_ofNat_valid hvalid]
    simp

theorem mem_of_mem_chars {t : Text} {c : Char} (hc : c.toNat < 0x80) (h : c ∈ chars t) :
    c.toNat.toUInt16 ∈ t := by
  induction t using chars.induct with
  | case1 => cases h
  | case2 u =>
      obtain rfl : c = single u := by simpa [chars] using h
      rw [single_eq_ascii hc]
      simp
  | case3 u v rest hpair ih =>
      simp only [chars, if_pos hpair, List.mem_cons] at h
      simp only [Bool.and_eq_true, isHigh_iff, isLow_iff] at hpair
      obtain hpaired | hrest := h
      · have hvalid : (0x10000 + (u.toNat - 0xD800) * 0x400 + (v.toNat - 0xDC00)).isValidChar :=
          Or.inr (by omega)
        rw [hpaired, toNat_ofNat_valid hvalid] at hc
        omega
      · simp [ih hrest]
  | case4 u v rest hpair ih =>
      simp only [chars, if_neg hpair, List.mem_cons] at h
      obtain rfl | hrest := h
      · rw [single_eq_ascii hc]
        simp
      · exact List.mem_cons_of_mem _ (ih hrest)

/-- An ASCII octet of a written text is one of its characters. -/
theorem mem_of_mem_encode {t : Text} {b : UInt8} (hb : b.toNat < 0x80) (h : b ∈ encode t) :
    b.toUInt16 ∈ t := by
  obtain ⟨c, hmem, hoctet⟩ := List.mem_flatMap.mp h
  by_cases hc : c.toNat < 0x80
  · have hone : octets c = [c.toNat.toUInt8] := by
      simp only [octets]
      rw [if_pos hc]
    rw [hone, List.mem_singleton] at hoctet
    have hbyte : b.toNat = c.toNat := by rw [hoctet, toUInt8_toNat_of_lt (by omega)]
    have hunit : b.toUInt16 = c.toNat.toUInt16 := by
      rw [← hbyte]
      apply UInt16.toNat_inj.mp
      simp
    rw [hunit]
    exact mem_of_mem_chars hc hmem
  · have := octets_not_ascii (by omega) hoctet
    omega

/-- **Cutting at an ASCII octet.** -/
theorem decodeFrom_append_ascii {b : UInt8} (hb : b.toNat < 0x80) (xs ys : List UInt8)
    (p : Option Pending) :
    decodeFrom p (xs ++ b :: ys) = decodeFrom p xs ++ Char.ofNat b.toNat :: decodeChars ys := by
  induction xs generalizing p with
  | nil =>
      cases p with
      | none =>
          have hstep : step none b = ([Char.ofNat b.toNat], none) := lead_ascii hb
          rw [List.nil_append, decodeFrom_cons, hstep]
          rfl
      | some p =>
          have hout : ¬ (p.lower ≤ b.toNat ∧ b.toNat ≤ p.upper) := by
            have := p.lower_ge
            omega
          rw [List.nil_append, decodeFrom_cons]
          simp only [step, dif_neg hout, lead_ascii hb]
          rfl
  | cons x xs ih => rw [List.cons_append, decodeFrom_cons, decodeFrom_cons, ih, List.append_assoc]

theorem decode_append_ascii {b : UInt8} (hb : b.toNat < 0x80) (xs ys : List UInt8) :
    decode (xs ++ b :: ys) = decode xs ++ b.toUInt16 :: decode ys := by
  have hunit : b.toNat.toUInt16 = b.toUInt16 := by
    apply UInt16.toNat_inj.mp
    simp
  rw [decode, decodeChars, decodeFrom_append_ascii hb, List.flatMap_append, List.flatMap_cons,
    units_ascii hb, hunit]
  rfl

theorem decode_ascii {xs : List UInt8} (h : ∀ b ∈ xs, b.toNat < 0x80) :
    decode xs = xs.map UInt8.toUInt16 := by
  induction xs with
  | nil => rfl
  | cons b xs ih =>
      have hcons : decode ([] ++ b :: xs) = decode [] ++ b.toUInt16 :: decode xs :=
        decode_append_ascii (h b (by simp)) [] xs
      rw [List.nil_append] at hcons
      rw [hcons, ih fun v hv => h v (by simp [hv])]
      rfl

theorem decode_ascii_append {xs : List UInt8} (h : ∀ b ∈ xs, b.toNat < 0x80) (ys : List UInt8) :
    decode (xs ++ ys) = xs.map UInt8.toUInt16 ++ decode ys := by
  induction xs with
  | nil => rfl
  | cons b xs ih =>
      have hcons : decode ([] ++ b :: (xs ++ ys)) = decode [] ++ b.toUInt16 :: decode (xs ++ ys) :=
        decode_append_ascii (h b (by simp)) [] (xs ++ ys)
      rw [List.nil_append] at hcons
      rw [List.cons_append, hcons, ih fun v hv => h v (by simp [hv])]
      rfl

theorem decode_append_of_ascii {ys : List UInt8} (h : ∀ b ∈ ys, b.toNat < 0x80)
    (xs : List UInt8) : decode (xs ++ ys) = decode xs ++ ys.map UInt8.toUInt16 := by
  cases ys with
  | nil => simp
  | cons b ys =>
      have hys : decode ys = ys.map UInt8.toUInt16 := decode_ascii fun v hv => h v (by simp [hv])
      rw [decode_append_ascii (h b (by simp)), hys]
      rfl

theorem charOf_not_ascii {n : ℕ} (h : 0x80 ≤ n) : 0x80 ≤ (charOf n).toNat := by
  unfold charOf
  split
  · rename_i hvalid
    rw [toNat_ofNat_valid hvalid]
    exact h
  · rw [toNat_replacement]
    omega

theorem mem_lead {b : UInt8} {c : Char} (hc : c.toNat < 0x80) (h : c ∈ (lead b).1) :
    c.toNat.toUInt8 = b := by
  by_cases hb : b.toNat < 0x80
  · rw [lead_ascii hb, List.mem_singleton] at h
    subst h
    rw [toNat_ofNat_ascii hb]
    simp
  · unfold lead at h
    simp only [if_neg hb] at h
    split_ifs at h <;> simp only [List.not_mem_nil, List.mem_singleton] at h
    subst h
    rw [toNat_replacement] at hc
    omega

/-- A sequence gives no ASCII character: only an octet by itself does. -/
theorem mem_step {p : Option Pending} {b : UInt8} {c : Char} (hc : c.toNat < 0x80)
    (h : c ∈ (step p b).1) : c.toNat.toUInt8 = b := by
  cases p with
  | none => exact mem_lead hc h
  | some p =>
      have hlong := p.long
      by_cases hin : p.lower ≤ b.toNat ∧ b.toNat ≤ p.upper
      · simp only [step, dif_pos hin] at h
        split at h
        · rename_i hmore
          rw [hmore] at hlong
          have hge := charOf_not_ascii (n := p.codePoint * 64 + (b.toNat - 0x80)) (by omega)
          rw [List.mem_singleton.mp h] at hc
          omega
        · cases h
      · simp only [step, dif_neg hin, List.mem_cons] at h
        obtain rfl | h := h
        · rw [toNat_replacement] at hc
          omega
        · exact mem_lead hc h

theorem mem_decodeFrom {xs : List UInt8} {p : Option Pending} {c : Char} (hc : c.toNat < 0x80)
    (h : c ∈ decodeFrom p xs) : c.toNat.toUInt8 ∈ xs := by
  induction xs generalizing p with
  | nil =>
      cases p with
      | none => cases h
      | some p =>
          obtain rfl : c = replacement := List.mem_singleton.mp h
          rw [toNat_replacement] at hc
          omega
  | cons b xs ih =>
      rw [decodeFrom_cons, List.mem_append] at h
      obtain h | h := h
      · rw [mem_step hc h]
        simp
      · exact List.mem_cons_of_mem _ (ih h)

/-- An ASCII code unit is an ASCII character. -/
theorem eq_of_mem_units {c : Char} {u : UInt16} (hu : u.toNat < 0x80) (h : u ∈ units c) :
    c.toNat = u.toNat := by
  unfold units at h
  split at h
  · rename_i hsmall
    rw [List.mem_singleton] at h
    rw [h, toUInt16_toNat_of_lt hsmall]
  · have hvalid := toNat_lt_or c
    simp only [List.mem_cons, List.not_mem_nil, or_false] at h
    obtain rfl | rfl := h <;> rw [toUInt16_toNat_of_lt (by omega)] at hu <;> omega

/-- An ASCII character of a text was read from its octet. -/
theorem mem_of_mem_decode {xs : List UInt8} {u : UInt16} (hu : u.toNat < 0x80)
    (h : u ∈ decode xs) : u.toUInt8 ∈ xs := by
  obtain ⟨c, hmem, hunit⟩ := List.mem_flatMap.mp h
  have hc := eq_of_mem_units hu hunit
  have hbyte : u.toUInt8 = c.toNat.toUInt8 := by
    apply UInt8.toNat_inj.mp
    simp [hc]
  rw [hbyte]
  exact mem_decodeFrom (by omega) hmem

/-- An octet that is not ASCII begins a sequence or stands for no character. -/
theorem lead_not_ascii {b : UInt8} (h : 0x80 ≤ b.toNat) :
    (∃ p, lead b = ([], some p)) ∨ lead b = ([replacement], none) := by
  unfold lead
  simp only [if_neg (Nat.not_lt.mpr h)]
  split_ifs
  all_goals first
    | exact .inr rfl
    | exact .inl ⟨_, rfl⟩

/-- A sequence gives a character that is not ASCII, however it ends. -/
theorem exists_mem_decodeFrom (xs : List UInt8) :
    ∀ p : Pending, ∃ c ∈ decodeFrom (some p) xs, 0x80 ≤ c.toNat := by
  induction xs with
  | nil =>
      intro p
      exact ⟨replacement, List.mem_singleton.mpr rfl, by rw [toNat_replacement]; omega⟩
  | cons b xs ih =>
      intro p
      have hlong := p.long
      rw [decodeFrom_cons]
      by_cases hin : p.lower ≤ b.toNat ∧ b.toNat ≤ p.upper
      · simp only [step, dif_pos hin]
        split
        · rename_i hmore
          rw [hmore] at hlong
          exact ⟨charOf (p.codePoint * 64 + (b.toNat - 0x80)), by simp,
            charOf_not_ascii (by omega)⟩
        · obtain ⟨c, hc, hge⟩ := ih _
          exact ⟨c, by simpa using hc, hge⟩
      · simp only [step, dif_neg hin]
        exact ⟨replacement, by simp, by rw [toNat_replacement]; omega⟩

theorem units_ne_nil (c : Char) : units c ≠ [] := by
  unfold units
  split <;> simp

/-- What is read from an octet that is not ASCII is not ASCII. -/
theorem exists_mem_decode {b : UInt8} {xs : List UInt8} (hb : 0x80 ≤ b.toNat) (h : b ∈ xs) :
    ∃ u ∈ decode xs, 0x80 ≤ u.toNat := by
  have hchar : ∃ c ∈ decodeChars xs, 0x80 ≤ c.toNat := by
    induction xs with
    | nil => cases h
    | cons x xs ih =>
        rw [decodeChars, decodeFrom_cons]
        by_cases hx : x.toNat < 0x80
        · have hstep : step none x = ([Char.ofNat x.toNat], none) := lead_ascii hx
          obtain rfl | hrest := List.mem_cons.mp h
          · omega
          · obtain ⟨c, hc, hge⟩ := ih hrest
            rw [hstep]
            exact ⟨c, List.mem_cons_of_mem _ hc, hge⟩
        · obtain ⟨p, hp⟩ | hp := lead_not_ascii (Nat.not_lt.mp hx)
          · have hstep : step none x = ([], some p) := hp
            rw [hstep]
            exact exists_mem_decodeFrom xs p
          · have hstep : step none x = ([replacement], none) := hp
            rw [hstep]
            exact ⟨replacement, by simp, by rw [toNat_replacement]; omega⟩
  obtain ⟨c, hc, hge⟩ := hchar
  obtain ⟨u, hu⟩ := List.exists_mem_of_ne_nil _ (units_ne_nil c)
  refine ⟨u, List.mem_flatMap.mpr ⟨c, hc, hu⟩, ?_⟩
  by_contra hlt
  have := eq_of_mem_units (Nat.not_le.mp hlt) hu
  omega

theorem decode_ne_nil {xs : List UInt8} (h : xs ≠ []) : decode xs ≠ [] := by
  obtain ⟨b, rest, rfl⟩ := List.exists_cons_of_ne_nil h
  by_cases hb : b.toNat < 0x80
  · have hcons : decode ([] ++ b :: rest) = decode [] ++ b.toUInt16 :: decode rest :=
      decode_append_ascii hb [] rest
    rw [List.nil_append] at hcons
    rw [hcons]
    simp
  · obtain ⟨u, hu, -⟩ := exists_mem_decode (Nat.not_lt.mp hb) (List.mem_cons_self (l := rest))
    exact List.ne_nil_of_mem hu

/-- **Cutting the text.**  Around an ASCII character a text is what was read before it and
what was read behind it. -/
theorem exists_of_decode_eq {a : UInt16} (ha : a.toNat < 0x80) {v : Text} :
    ∀ {xs : List UInt8} {u : Text}, decode xs = u ++ a :: v →
      ∃ l r, xs = l ++ a.toUInt8 :: r ∧ decode l = u ∧ decode r = v := by
  have hbyte : a.toUInt8.toNat < 0x80 := by
    rw [UInt16.toNat_toUInt8]
    omega
  have hback : a.toUInt8.toUInt16 = a := by
    apply UInt16.toNat_inj.mp
    rw [UInt8.toNat_toUInt16, UInt16.toNat_toUInt8]
    omega
  intro xs
  induction h : xs.length using Nat.strong_induction_on generalizing xs with
  | _ n ih =>
      intro u hxs
      have hmem : a.toUInt8 ∈ xs := mem_of_mem_decode ha (by rw [hxs]; simp)
      -- The first octet of this kind.
      obtain ⟨p, q, rfl, hp⟩ := List.eq_append_cons_of_mem hmem
      rw [decode_append_ascii hbyte, hback] at hxs
      obtain ⟨w, hu, hq⟩ | ⟨w, hp', hv⟩ := List.append_eq_append_iff.mp hxs
      · cases w with
        | nil =>
            rw [List.nil_append, List.cons.injEq] at hq
            exact ⟨p, q, rfl, by simpa using hu.symm, hq.2⟩
        | cons c w =>
            rw [List.cons_append, List.cons.injEq] at hq
            obtain ⟨rfl, hq⟩ := hq
            obtain ⟨l, r, rfl, hl, hr⟩ := ih q.length (by simp at h; omega) rfl hq
            refine ⟨p ++ a.toUInt8 :: l, r, by simp, ?_, hr⟩
            rw [decode_append_ascii hbyte, hback, hl, hu]
      · cases w with
        | nil =>
            rw [List.nil_append, List.cons.injEq] at hv
            exact ⟨p, q, rfl, by simpa using hp', hv.2.symm⟩
        | cons c w =>
            rw [List.cons_append, List.cons.injEq] at hv
            obtain ⟨rfl, -⟩ := hv
            exact absurd (mem_of_mem_decode ha (by rw [hp']; simp)) hp

end Utf8
