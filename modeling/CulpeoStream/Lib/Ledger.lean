import Mathlib.Algebra.BigOperators.Group.List.Basic

/-!
# Positions and lengths

Entries that carry the position at which they begin and cover some length: they are
*contiguous* from a base when each begins where the one before it ends.  An entry may
fail to name a position, and then the list is not contiguous.  Positions are natural
numbers or integers, machine integers, or come from any other additive monoid.

The definition is the closed form, in which the `k`-th position is the base plus the
lengths of the entries before it.  `contiguous_cons` is the recursion, and
`contiguous_append` splits and joins lists.

Entries may go in two directions.  They are *one-way* when no entry follows an entry of
nonzero length in the other direction.
-/

namespace Ledger

universe u v

/-- Machine integers, which wrap around. -/
instance int64AddMonoid : AddMonoid Int64 where
  add_assoc := Int64.add_assoc
  zero_add := Int64.zero_add
  add_zero := Int64.add_zero
  nsmul := nsmulRec

section Positions

variable {F : Type u} {P : Type v} [AddMonoid P] (pos : F → Option P) (len : F → P)

/-- The length of a list of entries. -/
def total (fs : List F) : P := (fs.map len).sum

/-- Each entry begins where the one before it ends, the first one at `base`. -/
def Contiguous (base : P) (fs : List F) : Prop :=
  ∀ k f, fs[k]? = some f → pos f = some (base + total len (fs.take k))

@[simp] theorem total_nil : total len [] = 0 := rfl

@[simp] theorem total_cons (f : F) (fs : List F) : total len (f :: fs) = len f + total len fs := by
  simp [total]

theorem total_append (fs gs : List F) : total len (fs ++ gs) = total len fs + total len gs := by
  simp [total]

variable {pos len}

@[simp] theorem contiguous_nil {base : P} : Contiguous pos len base [] := by
  intro k f hk
  simp at hk

theorem contiguous_cons {base : P} {f : F} {fs : List F} :
    Contiguous pos len base (f :: fs) ↔
      pos f = some base ∧ Contiguous pos len (base + len f) fs := by
  constructor
  · intro h
    refine ⟨by simpa using h 0 f rfl, fun k g hk => ?_⟩
    rw [h (k + 1) g (by simpa using hk), List.take_succ_cons, total_cons, add_assoc]
  · rintro ⟨hf, hfs⟩ k g hk
    cases k with
    | zero =>
        obtain rfl : f = g := by simpa using hk
        simpa using hf
    | succ k =>
        rw [hfs k g (by simpa using hk), List.take_succ_cons, total_cons, add_assoc]

theorem contiguous_append {base : P} {fs gs : List F} :
    Contiguous pos len base (fs ++ gs) ↔
      Contiguous pos len base fs ∧ Contiguous pos len (base + total len fs) gs := by
  induction fs generalizing base with
  | nil => simp
  | cons f fs ih =>
      simp only [List.cons_append, contiguous_cons, ih, total_cons, and_assoc, add_assoc]

theorem contiguous_map {G : Type u} {g : G → F} {base : P} {fs : List G} :
    Contiguous pos len base (fs.map g) ↔
      Contiguous (fun f => pos (g f)) (fun f => len (g f)) base fs := by
  induction fs generalizing base with
  | nil => simp
  | cons f fs ih => rw [List.map_cons, contiguous_cons, contiguous_cons, ih]

end Positions

section Directions

variable {F : Type u} {P : Type v} [Zero P]

/-- No entry follows an entry of nonzero length in the other direction. -/
def OneWay (inward : F → Bool) (len : F → P) (fs : List F) : Prop :=
  fs.Pairwise fun f g => inward f ≠ inward g → len f = 0

instance [DecidableEq P] (inward : F → Bool) (len : F → P) (fs : List F) :
    Decidable (OneWay inward len fs) :=
  inferInstanceAs (Decidable (fs.Pairwise fun f g => inward f ≠ inward g → len f = 0))

variable {inward : F → Bool} {len : F → P}

theorem oneWay_cons {f : F} {fs : List F} :
    OneWay inward len (f :: fs) ↔
      (∀ g ∈ fs, inward f ≠ inward g → len f = 0) ∧ OneWay inward len fs :=
  List.pairwise_cons

theorem oneWay_map {G : Type u} {g : G → F} {fs : List G} :
    OneWay inward len (fs.map g) ↔ OneWay (fun f => inward (g f)) (fun f => len (g f)) fs :=
  List.pairwise_map

end Directions

end Ledger
