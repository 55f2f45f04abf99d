import CulpeoStream.Session.Helpers
import Mathlib.Data.List.Perm.Subperm
import Mathlib.Data.Multiset.Basic

/-!
# What `content_type_matches` decides

The specification compares content types by their type, and by their parameters as a multiset
(`SameContentType`).  `content_type_matches` counts the parameters and looks for each declared
one among those received.  That is the same thing as long as no parameter is declared more often
than it is received: two declared parameters may find the same received one (`Overlooks`,
`contentTypeMatches_decides`).
-/

namespace CulpeoStream.Session

open Message Search

/-! ### Reading a content type -/

/-- What is compared of a parameter. -/
def CtParam.entry (p : CtParam) : Bytes × Bytes := (p.name.map toLowerAscii, p.value)

/-- The parts behind the first semicolon; the last one is left out if it has no characters. -/
def paramSegments (rest : List Bytes) : List Bytes :=
  if rest.getLast? = some [] then rest.dropLast else rest

/-- The parameter of a segment, cut at its first `=`. -/
def IsCtParam (segment : Bytes) (p : CtParam) : Prop :=
  ∃ name value, segment = name ++ ch '=' :: value ∧ ch '=' ∉ name ∧
    p = ⟨trimAscii name, trimAscii value⟩

/-- A content type reads as a type and parameters. -/
def ReadsAs (ct mediaType : Bytes) (params : List CtParam) : Prop :=
  ∃ first rest, ct = first ++ rest.flatMap (ch ';' :: ·) ∧ (∀ l ∈ first :: rest, ch ';' ∉ l) ∧
    mediaType = trimAscii first ∧ params.length ≤ 16 ∧
      List.Forall₂ IsCtParam (paramSegments rest) params

/-- The relation of the specification. -/
def SameContentType (a b : Bytes) : Prop :=
  ∃ aType aParams bType bParams, ReadsAs a aType aParams ∧ ReadsAs b bType bParams ∧
    aType.map toLowerAscii = bType.map toLowerAscii ∧
      (aParams.map CtParam.entry : Multiset (Bytes × Bytes)) = bParams.map CtParam.entry

/-- All declared parameters are among those received, which are as many, but one of them is
declared more often. -/
def Overlooks (declared received : Bytes) : Prop :=
  ∃ dType dParams rType rParams, ReadsAs declared dType dParams ∧ ReadsAs received rType rParams ∧
    dType.map toLowerAscii = rType.map toLowerAscii ∧ dParams.length = rParams.length ∧
      (∀ p ∈ dParams, p.entry ∈ rParams.map CtParam.entry) ∧
        ∃ p ∈ dParams, (rParams.map CtParam.entry).count p.entry <
          (dParams.map CtParam.entry).count p.entry

theorem ctParam_iff {segment : Bytes} {p : CtParam} :
    ctParam segment = some p ↔ IsCtParam segment p := by
  have heq : isBlank (ch '=') = false := by decide
  by_cases hmem : ch '=' ∈ segment
  · obtain ⟨name, value, rfl, hname⟩ := List.eq_append_cons_of_mem hmem
    obtain ⟨k, hk, hleft, hright⟩ := Strip.exists_find_strip heq hname value
    have hne : (trimAscii (name ++ ch '=' :: value)).isEmpty = false := by
      rw [List.isEmpty_eq_false_iff]
      intro hnil
      rw [Strip.strip_eq_nil_iff.mp hnil _ hmem] at heq
      cases heq
    have hread : ctParam (name ++ ch '=' :: value) = some ⟨trimAscii name, trimAscii value⟩ := by
      rw [ctParam, hne, if_neg Bool.false_ne_true, trimAscii, ← Strip.strip, hk, Option.map_some]
      exact congrArg some (CtParam.mk.injEq .. ▸ ⟨hleft, hright⟩)
    rw [hread, Option.some.injEq]
    constructor
    · rintro rfl
      exact ⟨name, value, rfl, hname, rfl⟩
    · rintro ⟨name', value', hsplit, hname', rfl⟩
      obtain ⟨rfl, rfl⟩ := append_mark_inj hname hname' hsplit
      rfl
  · have hfind : find [ch '='] (trimAscii segment) = none :=
      find_mark_none fun h => hmem (trimAscii_subset segment h)
    constructor
    · intro h
      rw [ctParam, hfind] at h
      split at h
      · cases h
      · cases h
    · rintro ⟨name, value, rfl, -, -⟩
      exact absurd (List.mem_append_right name List.mem_cons_self) hmem

/-- The loop goes through the parts behind the first semicolon. -/
theorem ctParse_flatMap {first : Bytes} {rest : List Bytes}
    (h : ∀ l ∈ first :: rest, ch ';' ∉ l) :
    ctParse (first ++ rest.flatMap (ch ';' :: ·)) =
      ((paramSegments rest).mapM ctParam).bind fun params =>
        if 16 < params.length then none else some (trimAscii first, params) := by
  obtain ⟨hfirst, hrest⟩ := List.forall_mem_cons.mp h
  cases rest with
  | nil =>
      rw [List.flatMap_nil, List.append_nil, ctParse, find_mark_none hfirst]
      rfl
  | cons seg rest =>
      have hsegments : segments (ch ';') (seg ++ rest.flatMap (ch ';' :: ·)) =
          paramSegments (seg :: rest) := by
        rw [segments, splitOn_flatMap hrest]
        rfl
      have hdrop : ∀ x : Bytes, (first ++ ch ';' :: x).drop (first.length + 1) = x := by
        intro x
        rw [← List.drop_drop, List.drop_left]
        rfl
      rw [ctParse, List.flatMap_cons, List.cons_append, find_mark hfirst]
      dsimp only
      rw [hdrop, hsegments, List.take_left]
      cases (paramSegments (seg :: rest)).mapM ctParam with
      | none => rfl
      | some params => rfl

theorem mapM_ctParam_iff {segs : List Bytes} {params : List CtParam} :
    segs.mapM ctParam = some params ↔ List.Forall₂ IsCtParam segs params := by
  induction segs generalizing params with
  | nil =>
      rw [List.forall₂_nil_left_iff]
      exact ⟨fun h => (Option.some.inj h).symm, fun h => by rw [h]; rfl⟩
  | cons seg segs ih =>
      rw [List.mapM_cons, List.forall₂_cons_left_iff]
      constructor
      · intro h
        obtain ⟨p, hp, h⟩ := Option.bind_eq_some_iff.mp h
        obtain ⟨ps, hps, h⟩ := Option.bind_eq_some_iff.mp h
        exact ⟨p, ps, ctParam_iff.mp hp, ih.mp hps, (Option.some.inj h).symm⟩
      · rintro ⟨p, ps, hp, hps, rfl⟩
        rw [ctParam_iff.mpr hp, ih.mpr hps]
        rfl

/-- **What the parser reads.** -/
theorem ctParse_iff {ct mediaType : Bytes} {params : List CtParam} :
    ctParse ct = some (mediaType, params) ↔ ReadsAs ct mediaType params := by
  constructor
  · intro h
    obtain ⟨first, rest, rfl, hmarks⟩ := exists_flatMap (ch ';') ct
    rw [ctParse_flatMap hmarks] at h
    obtain ⟨read, hread, h⟩ := Option.bind_eq_some_iff.mp h
    split at h
    · cases h
    · next hfew =>
      cases h
      exact ⟨first, rest, rfl, hmarks, rfl, Nat.not_lt.mp hfew, mapM_ctParam_iff.mp hread⟩
  · rintro ⟨first, rest, rfl, hmarks, rfl, hfew, hread⟩
    rw [ctParse_flatMap hmarks, mapM_ctParam_iff.mpr hread, Option.bind_some,
      if_neg (Nat.not_lt.mpr hfew)]

theorem ReadsAs.unique {ct mediaType mediaType' : Bytes} {params params' : List CtParam}
    (h : ReadsAs ct mediaType params) (h' : ReadsAs ct mediaType' params') :
    mediaType = mediaType' ∧ params = params' := by
  have hread := (ctParse_iff.mpr h).symm.trans (ctParse_iff.mpr h')
  exact Prod.mk.inj (Option.some.inj hread)

/-! ### The comparison -/

theorem entry_mem_iff (d : CtParam) (rParams : List CtParam) :
    (rParams.any fun r => iequalsAscii d.name r.name && d.value == r.value) = true ↔
      d.entry ∈ rParams.map CtParam.entry := by
  rw [List.any_eq_true, List.mem_map]
  refine exists_congr fun r => and_congr_right fun _ => ?_
  rw [Bool.and_eq_true, iequalsAscii, beq_iff_eq, beq_iff_eq, CtParam.entry, CtParam.entry,
    Prod.mk.injEq]
  exact and_congr eq_comm eq_comm

/-- What the code compares. -/
theorem contentTypeMatches_iff {declared received : Bytes} :
    contentTypeMatches declared received = true ↔
      ∃ dType dParams rType rParams, ReadsAs declared dType dParams ∧
        ReadsAs received rType rParams ∧ dType.map toLowerAscii = rType.map toLowerAscii ∧
          dParams.length = rParams.length ∧
            ∀ p ∈ dParams, p.entry ∈ rParams.map CtParam.entry := by
  rw [contentTypeMatches]
  constructor
  · intro h
    split at h
    · next dType dParams rType rParams hdeclared hreceived =>
      rw [Bool.and_eq_true, Bool.and_eq_true, iequalsAscii, beq_iff_eq, beq_iff_eq,
        List.all_eq_true] at h
      exact ⟨dType, dParams, rType, rParams, ctParse_iff.mp hdeclared, ctParse_iff.mp hreceived,
        h.1.1, h.1.2, fun p hp => (entry_mem_iff p rParams).mp (h.2 p hp)⟩
    · cases h
  · rintro ⟨dType, dParams, rType, rParams, hdeclared, hreceived, htype, hlength, hfound⟩
    rw [ctParse_iff.mpr hdeclared, ctParse_iff.mpr hreceived]
    dsimp only
    rw [Bool.and_eq_true, Bool.and_eq_true, iequalsAscii, beq_iff_eq, beq_iff_eq,
      List.all_eq_true]
    exact ⟨⟨htype, hlength⟩, fun p hp => (entry_mem_iff p rParams).mpr (hfound p hp)⟩

theorem SameContentType.symm {a b : Bytes} (h : SameContentType a b) : SameContentType b a := by
  obtain ⟨aType, aParams, bType, bParams, ha, hb, htype, hparams⟩ := h
  exact ⟨bType, bParams, aType, aParams, hb, ha, htype.symm, hparams.symm⟩

/-- The same content types are recognised. -/
theorem SameContentType.matches {a b : Bytes} (h : SameContentType a b) :
    contentTypeMatches a b = true := by
  obtain ⟨aType, aParams, bType, bParams, ha, hb, htype, hparams⟩ := h
  have hperm := Multiset.coe_eq_coe.mp hparams
  have hlength := hperm.length_eq
  rw [List.length_map, List.length_map] at hlength
  refine contentTypeMatches_iff.mpr ⟨aType, aParams, bType, bParams, ha, hb, htype, hlength, ?_⟩
  exact fun p hp => hperm.mem_iff.mp (List.mem_map_of_mem hp)

theorem Overlooks.matches {a b : Bytes} (h : Overlooks a b) : contentTypeMatches a b = true := by
  obtain ⟨aType, aParams, bType, bParams, ha, hb, htype, hlength, hfound, -⟩ := h
  exact contentTypeMatches_iff.mpr ⟨aType, aParams, bType, bParams, ha, hb, htype, hlength, hfound⟩

theorem Overlooks.not_same {a b : Bytes} (h : Overlooks a b) : ¬ SameContentType a b := by
  obtain ⟨aType, aParams, bType, bParams, ha, hb, -, -, -, p, -, hcount⟩ := h
  rintro ⟨aType', aParams', bType', bParams', ha', hb', -, hparams⟩
  obtain ⟨-, rfl⟩ := ha.unique ha'
  obtain ⟨-, rfl⟩ := hb.unique hb'
  rw [(Multiset.coe_eq_coe.mp hparams).count_eq] at hcount
  exact absurd hcount (lt_irrefl _)

/-- What matches is the same, or a parameter was overlooked. -/
theorem same_or_overlooks {a b : Bytes} (h : contentTypeMatches a b = true) :
    SameContentType a b ∨ Overlooks a b := by
  obtain ⟨aType, aParams, bType, bParams, ha, hb, htype, hlength, hfound⟩ :=
    contentTypeMatches_iff.mp h
  by_cases hcount : ∃ p ∈ aParams, (bParams.map CtParam.entry).count p.entry <
      (aParams.map CtParam.entry).count p.entry
  · exact .inr ⟨aType, aParams, bType, bParams, ha, hb, htype, hlength, hfound, hcount⟩
  · push Not at hcount
    -- no parameter is declared more often, and there are equally many
    have hsub : (aParams.map CtParam.entry).Subperm (bParams.map CtParam.entry) := by
      rw [List.subperm_ext_iff, List.forall_mem_map]
      exact hcount
    have hperm := hsub.perm_of_length_le (by rw [List.length_map, List.length_map, hlength])
    exact .inl ⟨aType, aParams, bType, bParams, ha, hb, htype, Multiset.coe_eq_coe.mpr hperm⟩

/-- A parameter can only be overlooked if it is declared twice. -/
theorem not_overlooks {declared received dType : Bytes} {dParams : List CtParam}
    (hdeclared : ReadsAs declared dType dParams) (hnodup : (dParams.map CtParam.entry).Nodup) :
    ¬ Overlooks declared received := by
  rintro ⟨dType', dParams', rType, rParams, hdeclared', -, -, -, hfound, p, hp, hcount⟩
  obtain ⟨-, rfl⟩ := hdeclared.unique hdeclared'
  have hone := List.nodup_iff_count_le_one.mp hnodup p.entry
  have hreceived := List.count_pos_iff.mpr (hfound p hp)
  omega

/-- **`content_type_matches`** is equality of type and parameters, in both directions, unless a
parameter is overlooked. -/
theorem contentTypeMatches_decides (declared received : Bytes) :
    ((contentTypeMatches declared received = true ↔ SameContentType declared received) ↔
      ¬ Overlooks declared received) ∧
    (contentTypeMatches declared received = contentTypeMatches received declared ↔
      (Overlooks declared received ↔ Overlooks received declared)) := by
  have hdecides : ∀ a b, contentTypeMatches a b = true ↔ SameContentType a b ∨ Overlooks a b :=
    fun a b => ⟨same_or_overlooks, fun h => h.elim (fun h => h.matches) fun h => h.matches⟩
  have hsymm : SameContentType declared received ↔ SameContentType received declared :=
    ⟨fun h => h.symm, fun h => h.symm⟩
  have hnot : ∀ a b, Overlooks a b → ¬ SameContentType a b := fun _ _ h => h.not_same
  refine ⟨?_, ?_⟩
  · rw [hdecides]
    have hone := hnot declared received
    tauto
  · rw [Bool.eq_iff_iff, hdecides, hdecides, ← hsymm]
    have hone := hnot declared received
    have htwo := hnot received declared
    rw [← hsymm] at htwo
    tauto

/-- A parameter is declared twice, and received with two values. -/
theorem contentTypeMatches_overlooks :
    ¬ (contentTypeMatches (ascii "audio/x;a=1;a=1") (ascii "audio/x;a=1;a=2") = true ↔
        SameContentType (ascii "audio/x;a=1;a=1") (ascii "audio/x;a=1;a=2")) ∧
      contentTypeMatches (ascii "audio/x;a=1;a=1") (ascii "audio/x;a=1;a=2") ≠
        contentTypeMatches (ascii "audio/x;a=1;a=2") (ascii "audio/x;a=1;a=1") := by
  have hmatches :
      contentTypeMatches (ascii "audio/x;a=1;a=1") (ascii "audio/x;a=1;a=2") = true := by decide
  have hback : contentTypeMatches (ascii "audio/x;a=1;a=2") (ascii "audio/x;a=1;a=1") = false := by
    decide
  refine ⟨fun h => ?_, by rw [hmatches, hback]; decide⟩
  have hsymm := (h.mp hmatches).symm.matches
  rw [hback] at hsymm
  cases hsymm

end CulpeoStream.Session
