import CulpeoStream.Dotnet.Letters
import CulpeoStream.Lib.Parameters
import CulpeoStream.Session.Helpers
import CulpeoStream.Typescript.RoundTrip
import CulpeoStream.Typescript.Streams

/-!
# The three comparisons of content types

`content_type_matches` in C++ and `ContentTypesMatch` in C# compare content types by their
parts, as the specification has it (`cpp_matches_iff`, `dotnet_matches_iff`).  TypeScript
compares the whole strings in lower case, so it tells apart what is written in another order or
with other spaces, and it does not tell apart values that differ in the case of letters
(`typescript_matches_iff`).  It agrees with the others exactly on the pairs for which neither
makes a difference (`content_types_agree_iff`).
-/

namespace CulpeoStream

open Message Search Utf16 Parameters

/-! ### Content types as they are written -/

/-- The characters between the tokens of a content type. -/
def contentTypeMarks : Marks UInt8 where
  semicolon := ch ';'
  equals := ch '='
  space := ch ' '
  word c := isTokenChar c = true ∨ c = ch '/'
  not_semicolon := by decide
  not_equals := by decide
  not_space := by decide
  semicolon_ne_equals := by decide
  semicolon_ne_space := by decide
  equals_ne_space := by decide

/-- A content type of tokens, with at most sixteen parameters whose names differ beyond the
case of letters. -/
structure WrittenContentType where
  type : Bytes
  subtype : Bytes
  params : List (Param UInt8)
  validType : validHeaderName type = true
  validSubtype : validHeaderName subtype = true
  validParams : ∀ p ∈ params, validHeaderName p.name = true ∧ validHeaderName p.value = true
  few : params.length ≤ 16
  distinct : (params.map fun p => p.name.map toLowerAscii).Nodup

namespace WrittenContentType

variable (a b : WrittenContentType)

def mediaType : Bytes := a.type ++ ch '/' :: a.subtype

/-- The octets of a content type. -/
def text : Bytes := contentTypeMarks.write a.mediaType a.params

/-- The content type as a string of UTF-16. -/
def wide : Text := a.text.map UInt8.toUInt16

/-- The parameters, the case of the names aside. -/
def entries : List (Bytes × Bytes) := a.params.map fun p => (p.name.map toLowerAscii, p.value)

/-- The names of the parameters in their order, the case aside. -/
def names : List Bytes := a.params.map fun p => p.name.map toLowerAscii

def values : List Bytes := a.params.map Param.value

def spaces : List (ℕ × ℕ × ℕ × ℕ) := a.params.map Param.spaces

/-- The same type and subtype, the case aside. -/
def SameMediaType : Prop := a.mediaType.map toLowerAscii = b.mediaType.map toLowerAscii

/-- The relation of the specification: the parameters are compared as sets, names without
regard to case and values exactly. -/
def Same : Prop := SameMediaType a b ∧ ∀ entry, entry ∈ a.entries ↔ entry ∈ b.entries

variable {a b}

theorem word_of_valid {x : Bytes} (h : validHeaderName x = true) : contentTypeMarks.Word x :=
  ⟨(validHeaderName_iff.mp h).1, fun c hc => .inl ((validHeaderName_iff.mp h).2 c hc)⟩

theorem word_mediaType : contentTypeMarks.Word a.mediaType := by
  refine ⟨List.append_ne_nil_of_right_ne_nil _ (List.cons_ne_nil _ _), fun c hc => ?_⟩
  rw [mediaType, List.mem_append, List.mem_cons] at hc
  rcases hc with hc | rfl | hc
  · exact (word_of_valid a.validType).2 c hc
  · exact .inr rfl
  · exact (word_of_valid a.validSubtype).2 c hc

theorem word_params : ∀ p ∈ a.params, contentTypeMarks.WordParam p := fun p hp =>
  ⟨word_of_valid (a.validParams p hp).1, word_of_valid (a.validParams p hp).2⟩

/-! ### Parameters as sets -/

theorem map_fst_entries : a.entries.map Prod.fst = a.names := by
  rw [entries, names, List.map_map]
  rfl

theorem map_snd_entries : a.entries.map Prod.snd = a.values := by
  rw [entries, values, List.map_map]
  rfl

theorem nodup_entries : a.entries.Nodup := by
  have hnames : (a.entries.map Prod.fst).Nodup := by
    rw [map_fst_entries]
    exact a.distinct
  exact hnames.of_map Prod.fst

/-- As many parameters, each of which the other one has. -/
theorem entries_iff :
    (a.params.length = b.params.length ∧ ∀ entry ∈ a.entries, entry ∈ b.entries) ↔
      ∀ entry, entry ∈ a.entries ↔ entry ∈ b.entries := by
  have hlength : a.entries.length = a.params.length ∧ b.entries.length = b.params.length :=
    ⟨List.length_map _, List.length_map _⟩
  constructor
  · rintro ⟨hlen, hsubset⟩ entry
    have hperm : a.entries.Perm b.entries :=
      (nodup_entries.subperm hsubset).perm_of_length_le (by omega)
    exact hperm.mem_iff
  · intro h
    have hperm := (List.perm_ext_iff_of_nodup nodup_entries nodup_entries).mpr h
    have hlen := hperm.length_eq
    exact ⟨by omega, fun entry hentry => (h entry).mp hentry⟩

/-- Parameters that are the same and come in the same order have the same values. -/
theorem values_eq (h : ∀ entry, entry ∈ a.entries ↔ entry ∈ b.entries)
    (hnames : a.names = b.names) : a.values = b.values := by
  rw [← map_fst_entries, ← map_fst_entries] at hnames
  have hnodup : (a.entries.map Prod.fst).Nodup := by
    rw [map_fst_entries]
    exact a.distinct
  rw [← map_snd_entries, ← map_snd_entries,
    eq_of_subset_of_map_fst hnodup hnames fun entry => (h entry).mp]

theorem entries_eq (hnames : a.names = b.names) (hvalues : a.values = b.values) :
    a.entries = b.entries := by
  have hzip : ∀ c : WrittenContentType, c.entries = c.names.zip c.values := fun c =>
    List.zip_map'.symm
  rw [hzip, hzip, hnames, hvalues]

/-! ### C++ -/

theorem isBlank_word {c : UInt8} (h : contentTypeMarks.word c) : isBlank c = false := by
  rcases h with h | rfl
  · exact isBlank_of_isTokenChar h
  · decide

/-- The parameters as the `parse` lambda of `content_type_matches` leaves them. -/
def ctParams (a : WrittenContentType) : List Session.CtParam :=
  a.params.map fun p => ⟨p.name, p.value⟩

/-- The parameter in a segment that has been trimmed. -/
def trimmedParam (seg : Bytes) : Option Session.CtParam :=
  if seg.isEmpty then none
  else (find [ch '='] seg).map fun eq =>
    { name := trimAscii (seg.take eq), value := trimAscii (seg.drop (eq + 1)) }

theorem isEmpty_core {p : Param UInt8} (h : contentTypeMarks.WordParam p) :
    (contentTypeMarks.core p).isEmpty = false := by
  obtain ⟨⟨c, hc, -⟩, -⟩ := h.tight
  cases hcore : contentTypeMarks.core p with
  | nil =>
      rw [hcore] at hc
      cases hc
  | cons => rfl

theorem trimmedParam_core {p : Param UInt8} (h : contentTypeMarks.WordParam p) :
    trimmedParam (contentTypeMarks.core p) = some ⟨p.name, p.value⟩ := by
  have hfind : find [ch '='] (contentTypeMarks.core p) = _ := Marks.find_core h
  have hname : trimAscii (p.name ++ contentTypeMarks.blank p.beforeEquals) = p.name :=
    Marks.strip_name isBlank_space (fun _ => isBlank_word) h
  have hvalue : trimAscii (contentTypeMarks.blank p.afterEquals ++ p.value) = p.value :=
    Marks.strip_value isBlank_space (fun _ => isBlank_word) h
  rw [trimmedParam, isEmpty_core h, if_neg Bool.false_ne_true, hfind, Option.map_some,
    Marks.take_core, Marks.drop_core, hname, hvalue]

/-- The pieces of a content type, trimmed. -/
theorem map_trimAscii_pieces {head : Bytes} {ps : List (Param UInt8)}
    (hhead : contentTypeMarks.Tight head) (hps : ∀ p ∈ ps, contentTypeMarks.WordParam p) (n : ℕ) :
    (contentTypeMarks.pieces (contentTypeMarks.blank n ++ head) ps).map trimAscii =
      head :: ps.map contentTypeMarks.core :=
  Marks.map_strip_pieces isBlank_space (fun _ => isBlank_word) hhead hps n

/-- The segments behind the first semicolon. -/
theorem segments_body {p : Param UInt8} {ps : List (Param UInt8)}
    (hps : ∀ q ∈ p :: ps, contentTypeMarks.WordParam q) :
    (segments (ch ';') (contentTypeMarks.write (contentTypeMarks.body p) ps)).map trimAscii =
      (p :: ps).map contentTypeMarks.core := by
  have htrimmed : (contentTypeMarks.pieces (contentTypeMarks.body p) ps).map trimAscii =
      (p :: ps).map contentTypeMarks.core :=
    map_trimAscii_pieces (hps p List.mem_cons_self).tight
      (fun q hq => hps q (List.mem_cons_of_mem p hq)) p.after
  have hsplit : splitOn [ch ';'] (contentTypeMarks.write (contentTypeMarks.body p) ps) =
      contentTypeMarks.pieces (contentTypeMarks.body p) ps :=
    Marks.splitOn_write (hps p List.mem_cons_self).semicolon_notMem
      fun q hq => hps q (List.mem_cons_of_mem p hq)
  -- no segment is empty, in particular not the last one
  have hlast : (contentTypeMarks.pieces (contentTypeMarks.body p) ps).getLast? ≠ some [] := by
    intro hnil
    have hmem := List.mem_map_of_mem (f := trimAscii) (List.mem_of_getLast? hnil)
    rw [htrimmed] at hmem
    obtain ⟨q, hq, hcore⟩ := List.mem_map.mp hmem
    have hempty := isEmpty_core (hps q hq)
    rw [hcore] at hempty
    cases hempty
  rw [segments, hsplit, if_neg hlast, htrimmed]

theorem mapM_trimmedParam_core {ps : List (Param UInt8)}
    (hps : ∀ p ∈ ps, contentTypeMarks.WordParam p) :
    (ps.map contentTypeMarks.core).mapM trimmedParam =
      some (ps.map fun p => ⟨p.name, p.value⟩) := by
  induction ps with
  | nil => rfl
  | cons p ps ih =>
      rw [List.forall_mem_cons] at hps
      rw [List.map_cons, List.mapM_cons, trimmedParam_core hps.1, ih hps.2]
      rfl

theorem trimAscii_mediaType (a : WrittenContentType) (n : ℕ) :
    trimAscii (a.mediaType ++ contentTypeMarks.blank n) = a.mediaType :=
  Marks.strip_tight isBlank_space (fun _ => isBlank_word) word_mediaType.tight 0 n

theorem ctParse_text (a : WrittenContentType) :
    Session.ctParse a.text = some (a.mediaType, a.ctParams) := by
  have hnot : ch ';' ∉ a.mediaType := word_mediaType.notMem contentTypeMarks.not_semicolon
  have hwords := a.word_params
  rw [text, ctParams, Session.ctParse]
  have hfew := a.few
  cases hparams : a.params with
  | nil =>
      rw [Marks.write, find_mark_none hnot]
      have htrim := a.trimAscii_mediaType 0
      rw [Marks.blank_zero, List.append_nil] at htrim
      rw [htrim]
      rfl
  | cons p ps =>
      rw [hparams] at hwords hfew
      have hskip : ch ';' ∉ a.mediaType ++ contentTypeMarks.blank p.before := by
        rw [List.mem_append, not_or]
        exact ⟨hnot, Marks.semicolon_notMem_blank _⟩
      have hdrop : (a.mediaType ++ contentTypeMarks.blank p.before ++ ch ';' ::
          contentTypeMarks.write (contentTypeMarks.body p) ps).drop
            ((a.mediaType ++ contentTypeMarks.blank p.before).length + 1) =
          contentTypeMarks.write (contentTypeMarks.body p) ps := by
        rw [← List.drop_drop, List.drop_left]
        rfl
      have hparsed : (segments (ch ';')
          (contentTypeMarks.write (contentTypeMarks.body p) ps)).mapM Session.ctParam =
            some ((p :: ps).map fun q => ⟨q.name, q.value⟩) := by
        rw [← mapM_trimmedParam_core hwords, ← segments_body hwords, List.mapM_map]
        rfl
      have hwrite : contentTypeMarks.write a.mediaType (p :: ps) =
          a.mediaType ++ contentTypeMarks.blank p.before ++ ch ';' ::
            contentTypeMarks.write (contentTypeMarks.body p) ps := by
        rw [Marks.write, ← List.append_assoc]
        rfl
      rw [hwrite, find_mark hskip]
      dsimp only
      rw [hdrop, hparsed]
      dsimp only
      rw [List.length_map, if_neg (by omega), List.take_left, trimAscii_mediaType]

/-- **C++** compares content types as the specification has it. -/
theorem cpp_matches_iff (a b : WrittenContentType) :
    Session.contentTypeMatches a.text b.text = true ↔ Same a b := by
  have hparams : (a.ctParams.all fun d => b.ctParams.any fun r =>
      iequalsAscii d.name r.name && d.value == r.value) = true ↔
        ∀ entry ∈ a.entries, entry ∈ b.entries := by
    rw [List.all_eq_true, ctParams, entries, List.forall_mem_map, List.forall_mem_map]
    refine forall₂_congr fun p _ => ?_
    rw [ctParams, List.any_map, List.any_eq_true, entries, List.mem_map]
    refine exists_congr fun q => and_congr_right fun _ => ?_
    rw [Function.comp_apply, Bool.and_eq_true, iequalsAscii, beq_iff_eq, beq_iff_eq,
      Prod.mk.injEq]
    exact and_congr eq_comm eq_comm
  have hlengths : a.ctParams.length = a.params.length ∧ b.ctParams.length = b.params.length :=
    ⟨List.length_map _, List.length_map _⟩
  rw [Session.contentTypeMatches, ctParse_text, ctParse_text]
  dsimp only
  rw [Bool.and_eq_true, Bool.and_eq_true, iequalsAscii, beq_iff_eq, beq_iff_eq, hparams,
    hlengths.1, hlengths.2, and_assoc, entries_iff]
  rfl

/-! ### Content types in UTF-16 -/

theorem word_cases {P : UInt8 → Prop} (h : ∀ n : Fin 256, isTokenChar (UInt8.ofNat n) = true →
    P (UInt8.ofNat n)) (hslash : P (ch '/')) : ∀ c, contentTypeMarks.word c → P c := by
  rintro c (hc | rfl)
  · have htoken := h ⟨c.toNat, c.toNat_lt⟩
    rw [UInt8.ofNat_toNat] at htoken
    exact htoken hc
  · exact hslash

/-- The characters of words are ASCII, are no white space, and have a lower case of their
kind. -/
theorem word_facts : ∀ c, contentTypeMarks.word c →
    c.toNat < 0x80 ∧ Typescript.isSpace c.toUInt16 = false ∧
      Dotnet.isWhiteSpace c.toUInt16 = false ∧ contentTypeMarks.word (toLowerAscii c) := by
  refine word_cases ?_ ⟨by decide, by decide, by decide, .inr (by decide)⟩
  have hall : ∀ n : Fin 256, isTokenChar (UInt8.ofNat n) = true →
      (UInt8.ofNat n).toNat < 0x80 ∧ Typescript.isSpace (UInt8.ofNat n).toUInt16 = false ∧
        Dotnet.isWhiteSpace (UInt8.ofNat n).toUInt16 = false ∧
          isTokenChar (toLowerAscii (UInt8.ofNat n)) = true := by decide +kernel
  intro n hn
  obtain ⟨hascii, hspace, hwhite, hlower⟩ := hall n hn
  exact ⟨hascii, hspace, hwhite, .inl hlower⟩

/-- The marks in UTF-16. -/
def wideMarks : Marks UInt16 where
  semicolon := unit ';'
  equals := unit '='
  space := unit ' '
  word u := ∃ c, contentTypeMarks.word c ∧ c.toUInt16 = u
  not_semicolon := by
    rintro ⟨c, hc, heq⟩
    rw [toUInt16_injective (show c.toUInt16 = (ch ';').toUInt16 from heq)] at hc
    exact contentTypeMarks.not_semicolon hc
  not_equals := by
    rintro ⟨c, hc, heq⟩
    rw [toUInt16_injective (show c.toUInt16 = (ch '=').toUInt16 from heq)] at hc
    exact contentTypeMarks.not_equals hc
  not_space := by
    rintro ⟨c, hc, heq⟩
    rw [toUInt16_injective (show c.toUInt16 = (ch ' ').toUInt16 from heq)] at hc
    exact contentTypeMarks.not_space hc
  semicolon_ne_equals := by decide
  semicolon_ne_space := by decide
  equals_ne_space := by decide

theorem maps_wide : contentTypeMarks.Maps wideMarks UInt8.toUInt16 where
  semicolon := by decide
  equals := by decide
  space := by decide
  word c hc := ⟨c, hc, rfl⟩

theorem maps_lower : contentTypeMarks.Maps contentTypeMarks toLowerAscii where
  semicolon := by decide
  equals := by decide
  space := by decide
  word c hc := (word_facts c hc).2.2.2

theorem wide_eq_write (a : WrittenContentType) :
    a.wide = wideMarks.write (a.mediaType.map UInt8.toUInt16)
      (a.params.map (Param.map UInt8.toUInt16)) :=
  Marks.map_write maps_wide a.mediaType a.params

theorem wide_word_mediaType : wideMarks.Word (a.mediaType.map UInt8.toUInt16) :=
  maps_wide.map_word word_mediaType

theorem wide_word_params : ∀ p ∈ a.params.map (Param.map UInt8.toUInt16), wideMarks.WordParam p :=
  List.forall_mem_map.mpr fun p hp => maps_wide.map_wordParam (word_params p hp)

theorem ascii_text : ∀ c ∈ a.text, c.toNat < 0x80 :=
  Marks.forall_mem_write (P := fun c : UInt8 => c.toNat < 0x80) (by decide) (by decide) (by decide)
    (fun c hc => (word_facts c hc).1) (fun c hc => (word_facts c (word_mediaType.2 c hc)).1)
    word_params

/-! ### TypeScript -/

theorem isSpace_word {u : UInt16} (h : wideMarks.word u) : Typescript.isSpace u = false := by
  obtain ⟨c, hc, rfl⟩ := h
  exact (word_facts c hc).2.1

theorem normalizeContentType_wide {rt : Typescript.Runtime} (hrt : Typescript.LowersAscii rt)
    (a : WrittenContentType) :
    Typescript.normalizeContentType rt a.wide =
      (a.text.map toLowerAscii).map UInt8.toUInt16 := by
  have htight : wideMarks.Tight a.wide := by
    rw [wide_eq_write]
    exact Marks.tight_write wide_word_mediaType.tight wide_word_params
  have htrim : Typescript.trim a.wide = a.wide := by
    have hstrip := Marks.strip_tight (show Typescript.isSpace (unit ' ') = true by decide)
      (fun _ => isSpace_word) htight 0 0
    rwa [Marks.blank_zero, List.append_nil] at hstrip
  have hascii : ∀ u ∈ a.wide, u.toNat < 0x80 := by
    intro u hu
    obtain ⟨c, hc, rfl⟩ := List.mem_map.mp hu
    rw [UInt8.toNat_toUInt16]
    exact ascii_text c hc
  rw [Typescript.normalizeContentType, htrim, hrt a.wide hascii, wide, map_lowerAscii_map]

/-- **TypeScript** compares what is written, the case of letters aside. -/
theorem typescript_matches_iff {rt : Typescript.Runtime} (hrt : Typescript.LowersAscii rt)
    (a b : WrittenContentType) :
    Typescript.normalizeContentType rt b.wide = Typescript.normalizeContentType rt a.wide ↔
      SameMediaType a b ∧ a.names = b.names ∧ a.spaces = b.spaces ∧
        a.values.map (List.map toLowerAscii) = b.values.map (List.map toLowerAscii) := by
  have hvalues : ∀ c : WrittenContentType, c.values.map (List.map toLowerAscii) =
      c.params.map fun p => p.value.map toLowerAscii := by
    intro c
    rw [values, List.map_map]
    rfl
  have hlower : ∀ c : WrittenContentType, (∀ p ∈ c.params.map (Param.map toLowerAscii),
      contentTypeMarks.WordParam p) := fun c =>
    List.forall_mem_map.mpr fun p hp => maps_lower.map_wordParam (word_params p hp)
  rw [normalizeContentType_wide hrt, normalizeContentType_wide hrt,
    (List.map_injective_iff.mpr toUInt16_injective).eq_iff, text, text,
    Marks.map_write maps_lower, Marks.map_write maps_lower, hvalues, hvalues, names, names, spaces,
    spaces, ← Param.map_map_eq_iff, SameMediaType]
  constructor
  · intro h
    obtain ⟨hmedia, hparams⟩ := Marks.write_inj (maps_lower.map_word word_mediaType)
      (maps_lower.map_word word_mediaType) (hlower b) (hlower a) h
    exact ⟨hmedia.symm, hparams.symm⟩
  · rintro ⟨hmedia, hparams⟩
    rw [hmedia, hparams]

/-! ### C# -/

theorem isWhiteSpace_word {u : UInt16} (h : wideMarks.word u) : Dotnet.isWhiteSpace u = false := by
  obtain ⟨c, hc, rfl⟩ := h
  exact (word_facts c hc).2.2.1

/-- The entries of a dictionary. -/
def dictionary (ps : List (Param UInt8)) : List (Text × Text) :=
  ps.map fun p => (p.name.map UInt8.toUInt16, p.value.map UInt8.toUInt16)

theorem isNullOrWhiteSpace_word {x : Text} (h : wideMarks.Word x) :
    Dotnet.isNullOrWhiteSpace (some x) = false := by
  obtain ⟨c, hc⟩ := List.exists_mem_of_ne_nil x h.1
  rw [Dotnet.isNullOrWhiteSpace, Option.getD_some, List.all_eq_false]
  exact ⟨c, hc, by rw [isWhiteSpace_word (h.2 c hc)]; exact Bool.false_ne_true⟩

section Dotnet

variable {rt : Dotnet.Runtime} (hrt : Dotnet.UppersAscii rt)
include hrt

theorem equalsIgnoreCase_word {x y : Bytes} (hx : contentTypeMarks.Word x)
    (hy : contentTypeMarks.Word y) :
    Dotnet.equalsIgnoreCase rt (x.map UInt8.toUInt16) (y.map UInt8.toUInt16) = true ↔
      x.map toLowerAscii = y.map toLowerAscii :=
  Dotnet.equalsIgnoreCase_wide hrt (fun c hc => (word_facts c (hx.2 c hc)).1)
    fun c hc => (word_facts c (hy.2 c hc)).1

/-- The value of a name in a dictionary. -/
theorem tryGetValue_dictionary {ps : List (Param UInt8)}
    (hps : ∀ p ∈ ps, contentTypeMarks.WordParam p)
    (hdistinct : (ps.map fun p => p.name.map toLowerAscii).Nodup) {key value : Bytes}
    (hkey : contentTypeMarks.Word key) :
    Dotnet.tryGetValue rt (dictionary ps) (key.map UInt8.toUInt16) =
        some (value.map UInt8.toUInt16) ↔
      (key.map toLowerAscii, value) ∈ ps.map fun p => (p.name.map toLowerAscii, p.value) := by
  have hwide : ∀ x y : Bytes, x.map UInt8.toUInt16 = y.map UInt8.toUInt16 ↔ x = y := fun x y =>
    (List.map_injective_iff.mpr toUInt16_injective).eq_iff
  induction ps with
  | nil => exact ⟨nofun, nofun⟩
  | cons p ps ih =>
      rw [List.forall_mem_cons] at hps
      rw [List.map_cons, List.nodup_cons] at hdistinct
      have ih := ih hps.2 hdistinct.2
      rw [List.map_cons, List.mem_cons, Prod.mk.injEq]
      refine Iff.trans ?_ (or_congr_right ih)
      rw [Dotnet.tryGetValue, Dotnet.tryGetValue, dictionary, List.map_cons, ← dictionary,
        List.find?_cons]
      have hequals := equalsIgnoreCase_word hrt hps.1.1 hkey
      by_cases hname : p.name.map toLowerAscii = key.map toLowerAscii
      · rw [hequals.mpr hname]
        dsimp only
        rw [Option.map_some, Option.some_inj, hwide]
        constructor
        · intro hvalue
          exact .inl ⟨hname.symm, hvalue.symm⟩
        · rintro (⟨-, hvalue⟩ | htail)
          · exact hvalue.symm
          · have hmem := ih.mp htail
            rw [← hname] at hmem
            obtain ⟨q, hq, hentry⟩ := List.mem_map.mp hmem
            exact absurd (List.mem_map.mpr ⟨q, hq, (Prod.mk.inj hentry).1⟩) hdistinct.1
      · rw [Bool.eq_false_of_not_eq_true (mt hequals.mp hname)]
        exact ⟨.inr, fun h => h.resolve_left fun hhead => hname hhead.1.symm⟩

theorem tryGetValue_dictionary_isSome {ps : List (Param UInt8)}
    (hps : ∀ p ∈ ps, contentTypeMarks.WordParam p) {key : Bytes}
    (hkey : contentTypeMarks.Word key) :
    (Dotnet.tryGetValue rt (dictionary ps) (key.map UInt8.toUInt16)).isSome = true ↔
      key.map toLowerAscii ∈ ps.map fun p => p.name.map toLowerAscii := by
  rw [Dotnet.tryGetValue, Option.isSome_map, List.find?_isSome, List.mem_map]
  constructor
  · rintro ⟨entry, hentry, hequals⟩
    obtain ⟨p, hp, rfl⟩ := List.mem_map.mp hentry
    exact ⟨p, hp, (equalsIgnoreCase_word hrt (hps p hp).1 hkey).mp hequals⟩
  · rintro ⟨p, hp, hname⟩
    exact ⟨_, List.mem_map_of_mem hp, (equalsIgnoreCase_word hrt (hps p hp).1 hkey).mpr hname⟩

theorem addParameter_core {ps : List (Param UInt8)} {p : Param UInt8}
    (hps : ∀ q ∈ ps, contentTypeMarks.WordParam q) (hp : contentTypeMarks.WordParam p)
    (hnew : p.name.map toLowerAscii ∉ ps.map fun q => q.name.map toLowerAscii) :
    Dotnet.addParameter rt (dictionary ps) (wideMarks.core (p.map UInt8.toUInt16)) =
      some (dictionary (ps ++ [p])) := by
  have hwide := maps_wide.map_wordParam hp
  have hspace : Dotnet.isWhiteSpace wideMarks.space = true := by decide
  have hfind : find [unit '='] (wideMarks.core (p.map UInt8.toUInt16)) = _ := Marks.find_core hwide
  have hname : Dotnet.trim ((p.map UInt8.toUInt16).name ++ wideMarks.blank
      (p.map UInt8.toUInt16).beforeEquals) = (p.map UInt8.toUInt16).name :=
    Marks.strip_name hspace (fun _ => isWhiteSpace_word) hwide
  have hvalue : Dotnet.trim (wideMarks.blank (p.map UInt8.toUInt16).afterEquals ++
      (p.map UInt8.toUInt16).value) = (p.map UInt8.toUInt16).value :=
    Marks.strip_value hspace (fun _ => isWhiteSpace_word) hwide
  have hfree : (Dotnet.tryGetValue rt (dictionary ps) (p.map UInt8.toUInt16).name).isSome =
      false := by
    rw [← Bool.not_eq_true]
    exact mt (tryGetValue_dictionary_isSome hrt hps hp.1).mp hnew
  rw [Dotnet.addParameter, hfind]
  dsimp only
  rw [Marks.take_core, Marks.drop_core, hname, hvalue, isNullOrWhiteSpace_word hwide.1, hfree,
    if_neg (show ¬ (false || false) = true from nofun), dictionary, dictionary, List.map_append]
  rfl

theorem foldlM_addParameter {ps qs : List (Param UInt8)}
    (hps : ∀ p ∈ ps, contentTypeMarks.WordParam p) (hqs : ∀ q ∈ qs, contentTypeMarks.WordParam q)
    (hdistinct : ((ps ++ qs).map fun p => p.name.map toLowerAscii).Nodup) :
    ((qs.map (Param.map UInt8.toUInt16)).map wideMarks.core).foldlM (Dotnet.addParameter rt)
      (dictionary ps) = some (dictionary (ps ++ qs)) := by
  induction qs generalizing ps with
  | nil =>
      rw [List.append_nil]
      rfl
  | cons q qs ih =>
      rw [List.forall_mem_cons] at hqs
      have hnew : q.name.map toLowerAscii ∉ ps.map fun p => p.name.map toLowerAscii := by
        rw [List.map_append, List.map_cons] at hdistinct
        intro hmem
        exact (List.nodup_append.mp hdistinct).2.2 _ hmem _ List.mem_cons_self rfl
      have hassoc : ps ++ q :: qs = (ps ++ [q]) ++ qs := by simp
      rw [hassoc] at hdistinct
      have hall : ∀ p ∈ ps ++ [q], contentTypeMarks.WordParam p := by
        simp only [List.forall_mem_append, List.forall_mem_cons]
        exact ⟨hps, hqs.1, nofun⟩
      rw [List.map_cons, List.map_cons, List.foldlM_cons, addParameter_core hrt hps hqs.1 hnew,
        hassoc, ← ih hall hqs.2 hdistinct]
      rfl

theorem tryParseContentType_wide (a : WrittenContentType) :
    Dotnet.tryParseContentType rt a.wide =
      some ⟨a.mediaType.map UInt8.toUInt16, dictionary a.params⟩ := by
  have hspace : Dotnet.isWhiteSpace wideMarks.space = true := by decide
  have hmedia : wideMarks.Word (a.mediaType.map UInt8.toUInt16) := wide_word_mediaType
  have hsplit : splitOn [unit ';'] a.wide = wideMarks.pieces (a.mediaType.map UInt8.toUInt16)
      (a.params.map (Param.map UInt8.toUInt16)) := by
    rw [wide_eq_write]
    exact Marks.splitOn_write (hmedia.notMem wideMarks.not_semicolon) wide_word_params
  have htrim : (splitOn [unit ';'] a.wide).map Dotnet.trim = a.mediaType.map UInt8.toUInt16 ::
      (a.params.map (Param.map UInt8.toUInt16)).map wideMarks.core := by
    rw [hsplit]
    exact Marks.map_strip_pieces hspace (fun _ => isWhiteSpace_word) hmedia.tight
      wide_word_params 0
  have hparts : ((splitOn [unit ';'] a.wide).map Dotnet.trim).filter (!·.isEmpty) =
      a.mediaType.map UInt8.toUInt16 ::
        (a.params.map (Param.map UInt8.toUInt16)).map wideMarks.core := by
    have htight : ∀ x ∈ a.mediaType.map UInt8.toUInt16 ::
        (a.params.map (Param.map UInt8.toUInt16)).map wideMarks.core, wideMarks.Tight x := by
      rw [List.forall_mem_cons, List.forall_mem_map]
      exact ⟨hmedia.tight, fun p hp => (wide_word_params p hp).tight⟩
    rw [htrim, List.filter_eq_self]
    intro x hx
    obtain ⟨⟨c, hc, -⟩, -⟩ := htight x hx
    cases x with
    | nil => cases hc
    | cons => rfl
  rw [Dotnet.tryParseContentType, hparts]
  dsimp only
  rw [isNullOrWhiteSpace_word hmedia, if_neg Bool.false_ne_true,
    show ([] : List (Text × Text)) = dictionary [] from rfl,
    foldlM_addParameter hrt (List.forall_mem_nil _) word_params a.distinct]
  rfl

/-- **C#** compares content types as the specification has it. -/
theorem dotnet_matches_iff (a b : WrittenContentType) :
    Dotnet.contentTypesMatch rt a.wide b.wide = true ↔ Same a b := by
  have hparams : ((dictionary a.params).all fun parameter =>
      Dotnet.tryGetValue rt (dictionary b.params) parameter.1 == some parameter.2) = true ↔
        ∀ entry ∈ a.entries, entry ∈ b.entries := by
    rw [List.all_eq_true, dictionary, entries, List.forall_mem_map, List.forall_mem_map]
    refine forall₂_congr fun p hp => ?_
    rw [beq_iff_eq]
    exact tryGetValue_dictionary hrt word_params b.distinct (word_params p hp).1
  have hlengths : (dictionary a.params).length = a.params.length ∧
      (dictionary b.params).length = b.params.length :=
    ⟨List.length_map _, List.length_map _⟩
  rw [Dotnet.contentTypesMatch, tryParseContentType_wide hrt, tryParseContentType_wide hrt]
  dsimp only
  rw [Bool.and_eq_true, Bool.and_eq_true, hparams, beq_iff_eq, hlengths.1, hlengths.2,
    equalsIgnoreCase_word hrt word_mediaType word_mediaType, and_assoc, entries_iff]
  rfl

end Dotnet

/-! ### The three together -/

/-- Where the two differ, if they do, the comparison of whole strings does not go wrong: what
is the same has its parameters in the same order and with the same spaces, and what is written
alike up to the case of letters has the same values. -/
structure Plain (a b : WrittenContentType) : Prop where
  order : Same a b → a.names = b.names ∧ a.spaces = b.spaces
  values : SameMediaType a b → a.names = b.names → a.spaces = b.spaces →
    a.values.map (List.map toLowerAscii) = b.values.map (List.map toLowerAscii) →
      a.values = b.values

end WrittenContentType

open WrittenContentType

/-- **The three comparisons.**  Each answers by the relation of the specification, so that they
agree, exactly if the whole strings are plain. -/
theorem content_types_agree_iff {typescript : Typescript.Runtime}
    (htypescript : Typescript.LowersAscii typescript) {dotnet : Dotnet.Runtime}
    (hdotnet : Dotnet.UppersAscii dotnet) (declared received : WrittenContentType) :
    ((Session.contentTypeMatches declared.text received.text = true ↔ Same declared received) ∧
      (Typescript.normalizeContentType typescript received.wide =
          Typescript.normalizeContentType typescript declared.wide ↔ Same declared received) ∧
      (Dotnet.contentTypesMatch dotnet declared.wide received.wide = true ↔
        Same declared received)) ↔
      Plain declared received := by
  rw [typescript_matches_iff htypescript]
  constructor
  · rintro ⟨-, h, -⟩
    refine ⟨fun hsame => ?_, fun hmedia hnames hspaces hvalues => ?_⟩
    · obtain ⟨-, hnames, hspaces, -⟩ := h.mpr hsame
      exact ⟨hnames, hspaces⟩
    · exact values_eq (h.mp ⟨hmedia, hnames, hspaces, hvalues⟩).2 hnames
  · intro h
    refine ⟨cpp_matches_iff declared received, ⟨?_, fun hsame => ?_⟩,
      dotnet_matches_iff hdotnet declared received⟩
    · rintro ⟨hmedia, hnames, hspaces, hvalues⟩
      refine ⟨hmedia, fun entry => ?_⟩
      rw [entries_eq hnames (h.values hmedia hnames hspaces hvalues)]
    · obtain ⟨hnames, hspaces⟩ := h.order hsame
      exact ⟨hsame.1, hnames, hspaces, by rw [values_eq hsame.2 hnames]⟩

/-- `audio/pcm` with its parameters in the usual order. -/
def pcmType : WrittenContentType where
  type := ascii "audio"
  subtype := ascii "pcm"
  params := [{ after := 1, name := ascii "rate", value := ascii "16000" },
    { after := 1, name := ascii "channels", value := ascii "1" }]
  validType := by decide
  validSubtype := by decide
  validParams := by decide
  few := by decide
  distinct := by decide

/-- The same in capital letters. -/
def pcmTypeCapital : WrittenContentType where
  type := ascii "Audio"
  subtype := ascii "PCM"
  params := [{ after := 1, name := ascii "Rate", value := ascii "16000" },
    { after := 1, name := ascii "Channels", value := ascii "1" }]
  validType := by decide
  validSubtype := by decide
  validParams := by decide
  few := by decide
  distinct := by decide

/-- The same with the parameters in the other order. -/
def pcmTypeSwapped : WrittenContentType where
  type := ascii "audio"
  subtype := ascii "pcm"
  params := [{ after := 1, name := ascii "channels", value := ascii "1" },
    { after := 1, name := ascii "rate", value := ascii "16000" }]
  validType := by decide
  validSubtype := by decide
  validParams := by decide
  few := by decide
  distinct := by decide

theorem content_types_agree_iff_capital :
    Session.contentTypeMatches pcmType.text pcmTypeCapital.text = true ∧
      Typescript.normalizeContentType ⟨List.map lowerAscii⟩ pcmTypeCapital.wide =
        Typescript.normalizeContentType ⟨List.map lowerAscii⟩ pcmType.wide ∧
      Dotnet.contentTypesMatch ⟨List.map upperAscii⟩ pcmType.wide pcmTypeCapital.wide = true := by
  have hentries : pcmType.entries = pcmTypeCapital.entries := by decide
  have hsame : Same pcmType pcmTypeCapital :=
    ⟨by unfold SameMediaType; decide, fun entry => by rw [hentries]⟩
  have hplain : Plain pcmType pcmTypeCapital := ⟨fun _ => by decide, fun _ _ _ _ => by decide⟩
  obtain ⟨hcpp, htypescript, hdotnet⟩ := (@content_types_agree_iff ⟨List.map lowerAscii⟩
    (fun _ _ => rfl) ⟨List.map upperAscii⟩ (fun _ _ => rfl) pcmType pcmTypeCapital).mpr hplain
  exact ⟨hcpp.mpr hsame, htypescript.mpr hsame, hdotnet.mpr hsame⟩

/-- **Another order** is another content type for TypeScript only. -/
theorem order_matters_in_typescript :
    Same pcmType pcmTypeSwapped ∧
      Session.contentTypeMatches pcmType.text pcmTypeSwapped.text = true ∧
      Dotnet.contentTypesMatch ⟨List.map upperAscii⟩ pcmType.wide pcmTypeSwapped.wide = true ∧
      Typescript.normalizeContentType ⟨List.map lowerAscii⟩ pcmTypeSwapped.wide ≠
        Typescript.normalizeContentType ⟨List.map lowerAscii⟩ pcmType.wide := by
  have hperm : pcmType.entries.Perm pcmTypeSwapped.entries := by decide
  exact ⟨⟨by unfold SameMediaType; decide, fun _ => hperm.mem_iff⟩, by decide,
    by decide, by decide⟩

end CulpeoStream
