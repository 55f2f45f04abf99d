import CulpeoStream.Dotnet.Letters
import Mathlib.Data.Multiset.MapFold
import Mathlib.Logic.Relation

/-!
# `ContentTypesMatch` as a relation

What a content type says is its media type and its parameters, the case of the media type and
of the names and the order of the parameters aside (`meaning`); a string that is no content type
says no more than itself.  Two strings match when they say the same (`contentTypesMatch_iff`),
so that matching is an equivalence.

The parser looks at the segments between the semicolons only, and what it makes of them is
decided by their `skeleton`.  The ways to write a content type (`Variation`) keep the skeleton.
-/

namespace CulpeoStream.Dotnet

open Search Utf16

variable {rt : Runtime}

/-- A parameter with its name in upper case. -/
def entry (rt : Runtime) (parameter : Text × Text) : Text × Text :=
  (rt.toUpperOrdinal parameter.1, parameter.2)

/-- What a content type says. -/
def meaning (rt : Runtime) (contentType : Text) : Text ⊕ Text × Multiset (Text × Text) :=
  match tryParseContentType rt contentType with
  | none => .inl contentType
  | some parsed =>
      .inr (rt.toUpperOrdinal parsed.mediaType, (parsed.parameters.map (entry rt) : List _))

/-- No two parameters have the same name, the case aside. -/
def DistinctNames (rt : Runtime) (parameters : List (Text × Text)) : Prop :=
  (parameters.map fun parameter => rt.toUpperOrdinal parameter.1).Nodup

theorem map_fst_entry (parameters : List (Text × Text)) :
    (parameters.map (entry rt)).map Prod.fst =
      parameters.map fun parameter => rt.toUpperOrdinal parameter.1 := by
  rw [List.map_map]
  rfl

theorem DistinctNames.nodup_entries {parameters : List (Text × Text)}
    (h : DistinctNames rt parameters) : (parameters.map (entry rt)).Nodup := by
  apply List.Nodup.of_map Prod.fst
  rw [map_fst_entry]
  exact h

/-! ### The dictionary -/

theorem tryGetValue_isSome_iff {parameters : List (Text × Text)} {key : Text} :
    (tryGetValue rt parameters key).isSome = true ↔
      rt.toUpperOrdinal key ∈ parameters.map fun parameter => rt.toUpperOrdinal parameter.1 := by
  rw [tryGetValue, Option.isSome_map, List.find?_isSome, List.mem_map]
  simp only [equalsIgnoreCase, beq_iff_eq]

/-- The value under a name, the case of the name aside. -/
theorem tryGetValue_eq_some_iff {parameters : List (Text × Text)} {key value : Text}
    (distinct : DistinctNames rt parameters) :
    tryGetValue rt parameters key = some value ↔
      (rt.toUpperOrdinal key, value) ∈ parameters.map (entry rt) := by
  induction parameters with
  | nil => simp [tryGetValue]
  | cons parameter rest ih =>
      obtain ⟨fresh, others⟩ := List.nodup_cons.mp distinct
      rw [tryGetValue, List.find?_cons]
      by_cases same : rt.toUpperOrdinal parameter.1 = rt.toUpperOrdinal key
      · have here : equalsIgnoreCase rt parameter.1 key = true := beq_iff_eq.mpr same
        rw [here, Option.map_some, List.map_cons, List.mem_cons, entry, same]
        constructor
        · rintro ⟨⟩
          exact .inl rfl
        · rintro (first | later)
          · exact congrArg some (Prod.mk.inj first).2.symm
          · have name := List.mem_map_of_mem (f := Prod.fst) later
            rw [map_fst_entry, ← same] at name
            exact absurd name fresh
      · have elsewhere : equalsIgnoreCase rt parameter.1 key = false :=
          beq_eq_false_iff_ne.mpr same
        rw [elsewhere]
        show tryGetValue rt rest key = some value ↔ _
        rw [ih others, List.map_cons, List.mem_cons, entry]
        constructor
        · exact .inr
        · rintro (first | later)
          · exact absurd (Prod.mk.inj first).1.symm same
          · exact later

/-- As many parameters, each of which the other one has. -/
theorem matchParameters_iff {declared actual : List (Text × Text)}
    (hdeclared : DistinctNames rt declared) (hactual : DistinctNames rt actual) :
    (declared.length = actual.length ∧
        ∀ parameter ∈ declared, tryGetValue rt actual parameter.1 = some parameter.2) ↔
      (declared.map (entry rt)).Perm (actual.map (entry rt)) := by
  simp only [tryGetValue_eq_some_iff hactual]
  constructor
  · rintro ⟨length, found⟩
    have subset : declared.map (entry rt) ⊆ actual.map (entry rt) := by
      intro e he
      obtain ⟨parameter, hmem, rfl⟩ := List.mem_map.mp he
      exact found parameter hmem
    refine (hdeclared.nodup_entries.subperm subset).perm_of_length_le ?_
    rw [List.length_map, List.length_map, length]
  · intro perm
    refine ⟨by simpa using perm.length_eq, fun parameter hmem => ?_⟩
    exact perm.mem_iff.mp (List.mem_map_of_mem (f := entry rt) hmem)

/-! ### The parser -/

/-- The segments that are not removed, trimmed. -/
def pieces (segments : List Text) : List Text := (segments.map trim).filter (!·.isEmpty)

/-- A parameter is cut at its first equals sign. -/
def cut (part : Text) : Option (Text × Text) :=
  (find [unit '='] part).map fun eq => (trim (part.take eq), trim (part.drop (eq + 1)))

theorem addParameter_iff {parameters parameters' : List (Text × Text)} {part : Text} :
    addParameter rt parameters part = some parameters' ↔
      ∃ parameter, cut part = some parameter ∧
        isNullOrWhiteSpace (some parameter.1) = false ∧
        rt.toUpperOrdinal parameter.1 ∉
          (parameters.map fun parameter => rt.toUpperOrdinal parameter.1) ∧
        parameters' = parameters ++ [parameter] := by
  rw [addParameter, cut]
  cases find [unit '='] part with
  | none => simp
  | some eq =>
      simp only [Option.map_some, Option.some.injEq, exists_eq_left', Bool.or_eq_true,
        tryGetValue_isSome_iff]
      split
      · rename_i refused
        simp only [reduceCtorEq, false_iff]
        rintro ⟨named, fresh, -⟩
        rcases refused with blank | taken
        · rw [named] at blank
          cases blank
        · exact fresh taken
      · rename_i accepted
        rw [not_or, Bool.not_eq_true] at accepted
        simp only [Option.some.injEq, accepted.1, accepted.2, not_false_eq_true, true_and,
          eq_comm]

theorem distinctNames_concat {parameters : List (Text × Text)} {parameter : Text × Text} :
    DistinctNames rt (parameters ++ [parameter]) ↔ DistinctNames rt parameters ∧
      rt.toUpperOrdinal parameter.1 ∉
        parameters.map fun parameter => rt.toUpperOrdinal parameter.1 := by
  rw [DistinctNames, List.map_append, List.nodup_append_comm, List.map_singleton,
    List.singleton_append, List.nodup_cons, and_comm]
  rfl

/-- **The loop over the parameters** accepts those that are all cut, named, and named
differently. -/
theorem foldlM_addParameter_iff {parts : List Text} :
    ∀ {parameters parameters' : List (Text × Text)}, DistinctNames rt parameters →
      (parts.foldlM (addParameter rt) parameters = some parameters' ↔
        ∃ more, parts.map cut = more.map some ∧
          (∀ parameter ∈ more, isNullOrWhiteSpace (some parameter.1) = false) ∧
          DistinctNames rt parameters' ∧ parameters' = parameters ++ more) := by
  induction parts with
  | nil =>
      intro parameters parameters' distinct
      simp only [List.foldlM_nil, List.map_nil, List.nil_eq, List.map_eq_nil_iff, exists_eq_left,
        List.append_nil, Option.pure_def, Option.some.injEq, List.not_mem_nil, false_implies,
        implies_true, true_and]
      constructor
      · rintro rfl
        exact ⟨distinct, rfl⟩
      · rintro ⟨-, rfl⟩
        rfl
  | cons part parts ih =>
      intro parameters parameters' distinct
      rw [List.foldlM_cons, Option.bind_eq_bind, Option.bind_eq_some_iff]
      constructor
      · rintro ⟨next, first, others⟩
        obtain ⟨parameter, hcut, named, fresh, rfl⟩ := addParameter_iff.mp first
        obtain ⟨more, hcuts, allNamed, hdistinct, rfl⟩ :=
          (ih (distinctNames_concat.mpr ⟨distinct, fresh⟩)).mp others
        refine ⟨parameter :: more, by rw [List.map_cons, List.map_cons, hcut, hcuts],
          List.forall_mem_cons.mpr ⟨named, allNamed⟩, hdistinct, by simp⟩
      · rintro ⟨more, hcuts, named, hdistinct, rfl⟩
        cases more with
        | nil => cases hcuts
        | cons parameter more =>
            rw [List.map_cons, List.map_cons, List.cons.injEq] at hcuts
            rw [List.forall_mem_cons] at named
            rw [List.append_cons] at hdistinct ⊢
            have front : DistinctNames rt (parameters ++ [parameter]) := by
              rw [DistinctNames, List.map_append] at hdistinct
              exact (List.nodup_append.mp hdistinct).1
            exact ⟨parameters ++ [parameter], addParameter_iff.mpr ⟨parameter, hcuts.1, named.1,
                (distinctNames_concat.mp front).2, rfl⟩,
              (ih front).mpr ⟨more, hcuts.2, named.2, hdistinct, rfl⟩⟩

/-- **The parser.** -/
theorem tryParseContentType_iff {contentType : Text} {parsed : ParsedContentType} :
    tryParseContentType rt contentType = some parsed ↔
      ∃ parts, pieces (splitOn [unit ';'] contentType) = parsed.mediaType :: parts ∧
        parts.map cut = parsed.parameters.map some ∧
        (∀ parameter ∈ parsed.parameters, isNullOrWhiteSpace (some parameter.1) = false) ∧
        DistinctNames rt parsed.parameters := by
  rw [tryParseContentType, ← pieces]
  have trimmed : ∀ m ∈ pieces (splitOn [unit ';'] contentType),
      isNullOrWhiteSpace (some m) = false := by
    intro m hm
    obtain ⟨hmem, nonempty⟩ := List.mem_filter.mp hm
    obtain ⟨segment, -, rfl⟩ := List.mem_map.mp hmem
    rw [Bool.eq_false_iff, Ne, isNullOrWhiteSpace_trim_iff]
    rintro empty
    rw [empty] at nonempty
    cases nonempty
  cases hpieces : pieces (splitOn [unit ';'] contentType) with
  | nil => simp
  | cons mediaType parts =>
      have named := trimmed mediaType (by rw [hpieces]; exact List.mem_cons_self)
      simp only [named, Bool.false_eq_true, if_false, Option.map_eq_some_iff, List.cons.injEq]
      constructor
      · rintro ⟨parameters, hfold, rfl⟩
        obtain ⟨more, hcuts, allNamed, distinct, rfl⟩ :=
          (foldlM_addParameter_iff (by exact List.nodup_nil)).mp hfold
        exact ⟨parts, ⟨rfl, rfl⟩, hcuts, allNamed, distinct⟩
      · rintro ⟨_, ⟨rfl, rfl⟩, hcuts, allNamed, distinct⟩
        exact ⟨parsed.parameters, (foldlM_addParameter_iff (by exact List.nodup_nil)).mpr
          ⟨parsed.parameters, hcuts, allNamed, distinct, rfl⟩, rfl⟩

/-! ### Matching -/

/-- **Two strings match when they say the same.** -/
theorem contentTypesMatch_iff {a b : Text} :
    contentTypesMatch rt a b = true ↔ meaning rt a = meaning rt b := by
  rw [contentTypesMatch, meaning, meaning]
  cases ha : tryParseContentType rt a with
  | none =>
      cases hb : tryParseContentType rt b with
      | none => simp
      | some actual =>
          simp only [reduceCtorEq, iff_false, beq_iff_eq]
          rintro rfl
          rw [ha] at hb
          cases hb
  | some declared =>
      cases hb : tryParseContentType rt b with
      | none =>
          simp only [reduceCtorEq, iff_false, beq_iff_eq]
          rintro rfl
          rw [ha] at hb
          cases hb
      | some actual =>
          obtain ⟨-, -, -, -, hdeclared⟩ := tryParseContentType_iff.mp ha
          obtain ⟨-, -, -, -, hactual⟩ := tryParseContentType_iff.mp hb
          simp only [Bool.and_eq_true, beq_iff_eq, List.all_eq_true, Sum.inr.injEq,
            Prod.mk.injEq, Multiset.coe_eq_coe, ← matchParameters_iff hdeclared hactual,
            equalsIgnoreCase, and_assoc]

/-! ### Ways to write a content type -/

/-- What a part says: the name of the parameter in upper case, whether there is one, and the
value. -/
def reading (rt : Runtime) (part : Text) : Option (Bool × Text × Text) :=
  (cut part).map fun parameter => (isNullOrWhiteSpace (some parameter.1), entry rt parameter)

/-- What decides about the segments of a content type. -/
def skeleton (rt : Runtime) (segments : List Text) :
    Option (Text × Multiset (Option (Bool × Text × Text))) :=
  match pieces segments with
  | [] => none
  | mediaType :: parts => some (rt.toUpperOrdinal mediaType, (parts.map (reading rt) : List _))

/-- What the parts of a content type say when they are accepted. -/
theorem map_reading {parts : List Text} {parameters : List (Text × Text)}
    (cuts : parts.map cut = parameters.map some)
    (named : ∀ parameter ∈ parameters, isNullOrWhiteSpace (some parameter.1) = false) :
    parts.map (reading rt) =
      parameters.map fun parameter => some (false, entry rt parameter) := by
  have split : parts.map (reading rt) = (parts.map cut).map (Option.map fun parameter =>
      (isNullOrWhiteSpace (some parameter.1), entry rt parameter)) := by
    rw [List.map_map]
    rfl
  rw [split, cuts, List.map_map]
  apply List.map_congr_left
  intro parameter hmem
  rw [Function.comp_apply, Option.map_some, named parameter hmem]

theorem exists_parameters {parts : List Text}
    (each : ∀ part ∈ parts, ∃ parameter, cut part = some parameter ∧
      isNullOrWhiteSpace (some parameter.1) = false) :
    ∃ parameters : List (Text × Text), parts.map cut = parameters.map some ∧
      ∀ parameter ∈ parameters, isNullOrWhiteSpace (some parameter.1) = false := by
  induction parts with
  | nil => exact ⟨[], rfl, fun _ hmem => by cases hmem⟩
  | cons part parts ih =>
      rw [List.forall_mem_cons] at each
      obtain ⟨parameter, hcut, hnamed⟩ := each.1
      obtain ⟨parameters, hcuts, named⟩ := ih each.2
      exact ⟨parameter :: parameters, by rw [List.map_cons, hcut, hcuts]; rfl,
        List.forall_mem_cons.mpr ⟨hnamed, named⟩⟩

/-- **The skeleton decides** whether a string is a content type, and what it says. -/
theorem meaning_of_skeleton {a b : Text} {parsed : ParsedContentType}
    (same : skeleton rt (splitOn [unit ';'] a) = skeleton rt (splitOn [unit ';'] b))
    (ha : tryParseContentType rt a = some parsed) :
    (tryParseContentType rt b).isSome = true ∧ meaning rt a = meaning rt b := by
  obtain ⟨parts, hpieces, hcuts, named, distinct⟩ := tryParseContentType_iff.mp ha
  rw [skeleton, skeleton, hpieces] at same
  cases hpieces' : pieces (splitOn [unit ';'] b) with
  | nil =>
      rw [hpieces'] at same
      cases same
  | cons mediaType' parts' =>
      rw [hpieces'] at same
      simp only [Option.some.injEq, Prod.mk.injEq, Multiset.coe_eq_coe] at same
      obtain ⟨media, perm⟩ := same
      have readings := @map_reading rt _ _ hcuts named
      -- Every part of the other content type reads as one of the first.
      have each : ∀ part ∈ parts', ∃ parameter, cut part = some parameter ∧
          isNullOrWhiteSpace (some parameter.1) = false := by
        intro part hpart
        have hmem := perm.mem_iff.mpr (List.mem_map_of_mem (f := reading rt) hpart)
        rw [readings, List.mem_map] at hmem
        obtain ⟨other, -, hother⟩ := hmem
        obtain ⟨parameter, hcut, hparameter⟩ := Option.map_eq_some_iff.mp hother.symm
        exact ⟨parameter, hcut, (Prod.mk.inj hparameter).1⟩
      obtain ⟨parameters', hcuts', named'⟩ := exists_parameters each
      have entries : (parsed.parameters.map (entry rt)).Perm (parameters'.map (entry rt)) := by
        rw [readings, map_reading hcuts' named'] at perm
        simpa [List.filterMap_map, Function.comp_def] using
          perm.filterMap fun read => read.map Prod.snd
      have distinct' : DistinctNames rt parameters' := by
        rw [DistinctNames, ← map_fst_entry] at distinct ⊢
        exact (entries.map Prod.fst).nodup_iff.mp distinct
      have hb : tryParseContentType rt b = some ⟨mediaType', parameters'⟩ :=
        tryParseContentType_iff.mpr ⟨parts', hpieces', hcuts', named', distinct'⟩
      refine ⟨by rw [hb]; rfl, ?_⟩
      rw [meaning, meaning, ha, hb]
      simp only [Sum.inr.injEq, Prod.mk.injEq, Multiset.coe_eq_coe]
      exact ⟨media, entries⟩

/-- One way to write the segments of a content type, and another one. -/
inductive Variation (rt : Runtime) : List Text → List Text → Prop
  /-- The parameters in another order. -/
  | permute {segment : Text} {parts parts' : List Text} (media : trim segment ≠ [])
      (h : parts.Perm parts') : Variation rt (segment :: parts) (segment :: parts')
  /-- The media type in another case. -/
  | mediaType {segment segment' : Text} (parts : List Text) (media : trim segment ≠ [])
      (media' : trim segment' ≠ [])
      (h : equalsIgnoreCase rt (trim segment) (trim segment') = true) :
      Variation rt (segment :: parts) (segment' :: parts)
  /-- The name of a parameter in another case, and white space around the equals sign. -/
  | name (segment : Text) (before after : List Text) {u u' v v' : Text}
      (media : trim segment ≠ []) (hu : unit '=' ∉ u) (hu' : unit '=' ∉ u')
      (hblank : trim u = [] ↔ trim u' = [])
      (h : equalsIgnoreCase rt (trim u) (trim u') = true) (hvalue : trim v = trim v') :
      Variation rt (segment :: (before ++ (u ++ unit '=' :: v) :: after))
        (segment :: (before ++ (u' ++ unit '=' :: v') :: after))
  /-- White space around the semicolons. -/
  | whiteSpace (before after : List Text) {segment segment' : Text}
      (h : trim segment = trim segment') :
      Variation rt (before ++ segment :: after) (before ++ segment' :: after)
  /-- One more segment, with nothing in it. -/
  | empty (before after : List Text) {segment : Text} (h : trim segment = []) :
      Variation rt (before ++ after) (before ++ segment :: after)

theorem pieces_append (segments more : List Text) :
    pieces (segments ++ more) = pieces segments ++ pieces more := by
  rw [pieces, List.map_append, List.filter_append, pieces, pieces]

theorem pieces_cons_of_nil {segment : Text} (h : trim segment = []) (rest : List Text) :
    pieces (segment :: rest) = pieces rest := by
  rw [pieces, List.map_cons, h]
  rfl

theorem pieces_cons_of_ne_nil {segment : Text} (h : trim segment ≠ []) (rest : List Text) :
    pieces (segment :: rest) = trim segment :: pieces rest := by
  rw [pieces, List.map_cons, List.filter_cons_of_pos]
  · rfl
  · simpa using h

theorem skeleton_of_media {segment : Text} (media : trim segment ≠ []) (parts : List Text) :
    skeleton rt (segment :: parts) = some (rt.toUpperOrdinal (trim segment),
      (↑((pieces parts).map (reading rt)) : Multiset (Option (Bool × Text × Text)))) := by
  rw [skeleton, pieces_cons_of_ne_nil media]

/-- A segment with an equals sign is not empty. -/
theorem trim_equals_ne_nil (u v : Text) : trim (u ++ unit '=' :: v) ≠ [] := by
  intro empty
  have blank := trim_eq_nil_iff.mp empty (unit '=') (by simp)
  exact absurd blank (by decide)

/-- A segment is cut at its first equals sign. -/
theorem cut_trim_equals {u : Text} (hu : unit '=' ∉ u) (v : Text) :
    cut (trim (u ++ unit '=' :: v)) = some (trim u, trim v) := by
  obtain ⟨k, hfind, htake, hdrop⟩ :=
    Strip.exists_find_strip (show isWhiteSpace (unit '=') = false by decide) hu v
  have hfind' : find [unit '='] (trim (u ++ unit '=' :: v)) = some k := hfind
  have hname : trim ((trim (u ++ unit '=' :: v)).take k) = trim u := htake
  have hvalue : trim ((trim (u ++ unit '=' :: v)).drop (k + 1)) = trim v := hdrop
  rw [cut, hfind', Option.map_some, hname, hvalue]

/-- **Another way to write a content type** keeps the skeleton. -/
theorem Variation.skeleton_eq {segments segments' : List Text}
    (h : Variation rt segments segments') : skeleton rt segments = skeleton rt segments' := by
  cases h with
  | @permute segment parts parts' media h =>
      have perm : (pieces parts).Perm (pieces parts') := by
        rw [pieces, pieces]
        exact (h.map trim).filter _
      rw [skeleton_of_media media, skeleton_of_media media,
        Multiset.coe_eq_coe.mpr (perm.map (reading rt))]
  | mediaType parts media media' h =>
      rw [skeleton_of_media media, skeleton_of_media media', beq_iff_eq.mp h]
  | @name segment before after u u' v v' media hu hu' hblank h hvalue =>
      have same : reading rt (trim (u ++ unit '=' :: v)) =
          reading rt (trim (u' ++ unit '=' :: v')) := by
        have blank : isNullOrWhiteSpace (some (trim u)) = isNullOrWhiteSpace (some (trim u')) := by
          rw [Bool.eq_iff_iff, isNullOrWhiteSpace_trim_iff, isNullOrWhiteSpace_trim_iff, hblank]
        rw [reading, reading, cut_trim_equals hu, cut_trim_equals hu', Option.map_some,
          Option.map_some, entry, entry, blank, hvalue, beq_iff_eq.mp h]
      rw [skeleton_of_media media, skeleton_of_media media, pieces_append, pieces_append,
        pieces_cons_of_ne_nil (trim_equals_ne_nil u v),
        pieces_cons_of_ne_nil (trim_equals_ne_nil u' v'), List.map_append, List.map_append,
        List.map_cons, List.map_cons, same]
  | @whiteSpace before after segment segment' h =>
      have same : pieces (before ++ segment :: after) = pieces (before ++ segment' :: after) := by
        rw [pieces, List.map_append, List.map_cons, h, ← List.map_cons, ← List.map_append,
          ← pieces]
      rw [skeleton, skeleton, same]
  | empty before after h =>
      rw [skeleton, skeleton, pieces_append, pieces_append, pieces_cons_of_nil h]

theorem skeleton_of_eqvGen {segments segments' : List Text}
    (h : Relation.EqvGen (Variation rt) segments segments') :
    skeleton rt segments = skeleton rt segments' := by
  induction h with
  | rel segments segments' h => exact h.skeleton_eq
  | refl segments => rfl
  | symm segments segments' _ ih => exact ih.symm
  | trans segments segments' segments'' _ _ ih ih' => exact ih.trans ih'

/-- **Matching is an equivalence of all strings**, and it does not tell apart the ways to write
a content type: another way is a content type too, matches it, and matches the same strings. -/
theorem contentTypesMatch_equivalence (rt : Runtime) :
    Equivalence (fun a b => contentTypesMatch rt a b = true) ∧
      ∀ a b, (tryParseContentType rt a).isSome = true →
        Relation.EqvGen (Variation rt) (splitOn [unit ';'] a) (splitOn [unit ';'] b) →
          (tryParseContentType rt b).isSome = true ∧ contentTypesMatch rt a b = true ∧
            ∀ c, contentTypesMatch rt a c = contentTypesMatch rt b c ∧
              contentTypesMatch rt c a = contentTypesMatch rt c b := by
  refine ⟨⟨fun a => contentTypesMatch_iff.mpr rfl, fun h => ?_, fun h h' => ?_⟩,
    fun a b parses variations => ?_⟩
  · exact contentTypesMatch_iff.mpr (contentTypesMatch_iff.mp h).symm
  · exact contentTypesMatch_iff.mpr
      ((contentTypesMatch_iff.mp h).trans (contentTypesMatch_iff.mp h'))
  · obtain ⟨parsed, ha⟩ := Option.isSome_iff_exists.mp parses
    obtain ⟨parses', same⟩ := meaning_of_skeleton (skeleton_of_eqvGen variations) ha
    refine ⟨parses', contentTypesMatch_iff.mpr same, fun c => ⟨?_, ?_⟩⟩
    · rw [Bool.eq_iff_iff, contentTypesMatch_iff, contentTypesMatch_iff, same]
    · rw [Bool.eq_iff_iff, contentTypesMatch_iff, contentTypesMatch_iff, same]

/-- Two ways to write one content type, with the letters of ASCII in upper case. -/
theorem contentTypesMatch_equivalence_example :
    contentTypesMatch ⟨List.map upperAscii⟩ (utf16 "audio/pcm;rate=8000;bits=16")
      (utf16 " Audio/PCM ;; BITS= 16 ; rate=8000") = true := by
  refine ((contentTypesMatch_equivalence ⟨List.map upperAscii⟩).2 _ _ (by decide) ?_).2.1
  refine .trans _ [utf16 " Audio/PCM ", utf16 "rate=8000", utf16 "bits=16"] _
    (.rel _ _ (.mediaType _ (by decide) (by decide) (by decide))) ?_
  refine .trans _ [utf16 " Audio/PCM ", utf16 "bits=16", utf16 "rate=8000"] _
    (.rel _ _ (.permute (by decide) (.swap _ _ _))) ?_
  refine .trans _ [utf16 " Audio/PCM ", utf16 " BITS= 16 ", utf16 "rate=8000"] _
    (.rel _ _ (@Variation.name _ (utf16 " Audio/PCM ") [] [utf16 "rate=8000"] (utf16 "bits")
      (utf16 " BITS") (utf16 "16") (utf16 " 16 ") (by decide) (by decide) (by decide)
      (by decide) (by decide) (by decide))) ?_
  refine .trans _ [utf16 " Audio/PCM ", utf16 " BITS= 16 ", utf16 " rate=8000"] _
    (.rel _ _ (.whiteSpace [utf16 " Audio/PCM ", utf16 " BITS= 16 "] [] (by decide))) ?_
  exact .rel _ _ (.empty [utf16 " Audio/PCM "] [utf16 " BITS= 16 ", utf16 " rate=8000"]
    (by decide))

end CulpeoStream.Dotnet
