import CulpeoStream.Lib.Groups
import CulpeoStream.Session.Registry

/-!
# The validation of declarations

`validate_declarations` goes through the list three times, the last time once for each
direction with the purposes that were collected for it.  What it decides is a condition on
the list as a multiset (`StreamsValid`): a direction that occurs at least twice has purposes
that are there and differ from each other.
-/

namespace CulpeoStream.Session

open Message

theorem purposesValid_iff (purposes : List Bytes) :
    purposesValid purposes = true ↔
      (2 ≤ purposes.length → (∀ p ∈ purposes, p ≠ []) ∧ purposes.Nodup) := by
  rw [purposesValid, Bool.or_eq_true, Bool.and_eq_true, decide_eq_true_eq,
    decide_eq_true_eq, List.all_eq_true]
  constructor
  · rintro (hshort | ⟨hgood, hnodup⟩) htwo
    · omega
    · refine ⟨fun p hp hnil => ?_, hnodup⟩
      have hp := hgood p hp
      rw [hnil] at hp
      cases hp
  · intro h
    by_cases htwo : 2 ≤ purposes.length
    · obtain ⟨hgood, hnodup⟩ := h htwo
      refine .inr ⟨fun p hp => ?_, hnodup⟩
      rw [Bool.not_eq_true', List.isEmpty_eq_false_iff]
      exact hgood p hp
    · exact .inl (by omega)

theorem validateDeclarations_iff (decls : List StreamDeclaration) (maxStreams : UInt32) :
    validateDeclarations decls maxStreams = .ok () ↔
      decls ≠ [] ∧ decls.length ≤ maxStreams.toNat ∧
        (∀ decl ∈ decls, decl.contentType ≠ [] ∧ decl.offsetType ≠ none) ∧
        Groups.Distinct StreamDeclaration.direction StreamDeclaration.purpose (· ≠ []) decls := by
  have hdirections : ∀ decl ∈ decls,
      decl.direction ∈ [StreamDirection.input, .output, .duplex] := by
    intro decl _
    cases decl.direction with
    | input => decide
    | output => decide
    | duplex => decide
  have hpurposes : ([StreamDirection.input, .output, .duplex].all fun dir =>
      purposesValid ((decls.filter fun decl => decl.direction = dir).map
        StreamDeclaration.purpose)) = true ↔
      Groups.Distinct StreamDeclaration.direction StreamDeclaration.purpose (· ≠ []) decls := by
    rw [Groups.distinct_iff_of_keys hdirections, List.all_eq_true]
    refine forall₂_congr fun dir _ => ?_
    rw [purposesValid_iff, List.length_map, List.forall_mem_map]
    rfl
  have hany : (decls.any fun decl => decl.contentType.isEmpty || decl.offsetType.isNone) = false ↔
      ∀ decl ∈ decls, decl.contentType ≠ [] ∧ decl.offsetType ≠ none := by
    rw [List.any_eq_false]
    refine forall₂_congr fun decl _ => ?_
    rw [Bool.or_eq_true, List.isEmpty_iff, Option.isNone_iff_eq_none, not_or]
  rw [← hpurposes, ← hany, validateDeclarations]
  cases decls with
  | nil => exact ⟨nofun, fun h => absurd rfl h.1⟩
  | cons decl decls =>
      rw [if_neg (show ¬ (decl :: decls).isEmpty = true from nofun)]
      split
      next hlimit => exact ⟨nofun, fun h => absurd hlimit (Nat.not_lt.mpr h.2.1)⟩
      next hlimit =>
        split
        next hbad => exact ⟨nofun, fun h => absurd (hbad.symm.trans h.2.2.1) nofun⟩
        next hgood =>
          split
          next hall =>
            exact ⟨fun _ => ⟨nofun, Nat.not_lt.mp hlimit,
              Bool.eq_false_of_not_eq_true hgood, hall⟩, fun _ => rfl⟩
          next hnot => exact ⟨nofun, fun h => absurd h.2.2.2 hnot⟩

/-! ### The rule -/

/-- The rule of the specification for the streams of a session. -/
structure StreamsValid (maxStreams : UInt32) (decls : List StreamDeclaration) : Prop where
  nonempty : decls ≠ []
  atMost : decls.length ≤ maxStreams.toNat
  contentType : ∀ decl ∈ decls, decl.contentType ≠ []
  offsetType : ∀ decl ∈ decls, decl.offsetType ≠ none
  purpose : ∀ dir, 2 ≤ decls.countP (fun decl => decl.direction = dir) →
    ∀ decl ∈ decls, decl.direction = dir → decl.purpose ≠ []
  distinct : ∀ dir, 2 ≤ decls.countP (fun decl => decl.direction = dir) →
    decls.Pairwise fun d e => d.direction = dir → e.direction = dir → d.purpose ≠ e.purpose

theorem distinct_iff (decls : List StreamDeclaration) :
    Groups.Distinct StreamDeclaration.direction StreamDeclaration.purpose (· ≠ []) decls ↔
      (∀ dir, 2 ≤ decls.countP (fun decl => decl.direction = dir) →
        ∀ decl ∈ decls, decl.direction = dir → decl.purpose ≠ []) ∧
      ∀ dir, 2 ≤ decls.countP (fun decl => decl.direction = dir) →
        decls.Pairwise fun d e =>
          d.direction = dir → e.direction = dir → d.purpose ≠ e.purpose := by
  rw [Groups.distinct_iff_pairwise]
  exact ⟨fun h => ⟨fun dir htwo => (h dir htwo).1, fun dir htwo => (h dir htwo).2⟩,
    fun h dir htwo => ⟨h.1 dir htwo, h.2 dir htwo⟩⟩

/-- The rule does not look at the order of the streams. -/
theorem StreamsValid.perm {maxStreams : UInt32} {decls decls' : List StreamDeclaration}
    (hperm : decls.Perm decls') (h : StreamsValid maxStreams decls) :
    StreamsValid maxStreams decls' where
  nonempty hnil := h.nonempty (hperm.trans (List.Perm.of_eq hnil)).eq_nil
  atMost := hperm.length_eq ▸ h.atMost
  contentType decl hdecl := h.contentType decl (hperm.mem_iff.mpr hdecl)
  offsetType decl hdecl := h.offsetType decl (hperm.mem_iff.mpr hdecl)
  purpose dir htwo decl hdecl :=
    h.purpose dir ((hperm.countP_eq _).symm ▸ htwo) decl (hperm.mem_iff.mpr hdecl)
  distinct dir htwo := by
    refine (hperm.pairwise_iff ?_).mp (h.distinct dir ((hperm.countP_eq _).symm ▸ htwo))
    intro d e hne he hd
    exact (hne hd he).symm

/-- **`validate_declarations` decides the rule**, and so it does not matter in which order the
streams are declared. -/
theorem validateDeclarations_decides (maxStreams : UInt32) (decls : List StreamDeclaration) :
    (validateDeclarations decls maxStreams = .ok () ↔ StreamsValid maxStreams decls) ∧
      ∀ decls', decls.Perm decls' →
        (validateDeclarations decls' maxStreams = .ok () ↔
          validateDeclarations decls maxStreams = .ok ()) := by
  have hvalid : ∀ decls, validateDeclarations decls maxStreams = .ok () ↔
      StreamsValid maxStreams decls := by
    intro decls
    rw [validateDeclarations_iff, distinct_iff]
    constructor
    · rintro ⟨hnonempty, hmost, hgood, hpurpose, hdistinct⟩
      exact ⟨hnonempty, hmost, fun decl hdecl => (hgood decl hdecl).1,
        fun decl hdecl => (hgood decl hdecl).2, hpurpose, hdistinct⟩
    · intro h
      exact ⟨h.nonempty, h.atMost, fun decl hdecl =>
        ⟨h.contentType decl hdecl, h.offsetType decl hdecl⟩, h.purpose, h.distinct⟩
  refine ⟨hvalid decls, fun decls' hperm => ?_⟩
  rw [hvalid, hvalid]
  exact ⟨.perm hperm.symm, .perm hperm⟩

end CulpeoStream.Session
