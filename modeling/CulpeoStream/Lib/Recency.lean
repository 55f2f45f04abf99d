import Mathlib.Data.List.Basic

/-!
# The order of last uses

A list of the keys that were used, one after the other.  The stamp of a key is the place of its
last use (`Stamped`), and of two keys the one with the smaller stamp has not been used since the
other one was (`Stamped.usedAfter`).  So the least stamp finds the key that has not been used
for the longest time.
-/

namespace Recency

universe u

variable {K : Type u} {uses : List K} {k j : K} {n i : ℕ}

/-- The last use of a key, counted from one. -/
def Stamped (uses : List K) (k : K) (n : ℕ) : Prop :=
  ∃ before after, uses = before ++ k :: after ∧ k ∉ after ∧ n = before.length + 1

/-- A key was used after the last use of another one. -/
def UsedAfter (uses : List K) (k j : K) : Prop :=
  ∃ before after, uses = before ++ k :: after ∧ k ∉ after ∧ j ∈ after

theorem stamped_concat_self : Stamped (uses ++ [k]) k (uses.length + 1) :=
  ⟨uses, [], rfl, List.not_mem_nil, rfl⟩

theorem Stamped.concat (h : Stamped uses k n) (hne : k ≠ j) : Stamped (uses ++ [j]) k n := by
  obtain ⟨before, after, rfl, hafter, rfl⟩ := h
  refine ⟨before, after ++ [j], by rw [List.append_assoc, List.cons_append], ?_, rfl⟩
  rw [List.mem_append, List.mem_singleton]
  exact fun hor => hor.elim hafter hne

/-- A use of another key, if any. -/
theorem Stamped.append_toList (h : Stamped uses k n) {use : Option K} (hne : use ≠ some k) :
    Stamped (uses ++ use.toList) k n := by
  cases use with
  | none => rwa [Option.toList_none, List.append_nil]
  | some j => exact h.concat fun hsame => hne (congrArg some hsame.symm)

/-- No two keys have one stamp. -/
theorem Stamped.unique (hk : Stamped uses k n) (hj : Stamped uses j n) : k = j := by
  obtain ⟨before, after, rfl, -, rfl⟩ := hk
  obtain ⟨before', after', huses, -, hlength⟩ := hj
  have hrest := List.append_inj_right huses (Nat.succ.inj hlength)
  exact (List.cons.inj hrest).1

/-- **Stamps are in the order of the last uses.** -/
theorem Stamped.usedAfter (hk : Stamped uses k n) (hj : Stamped uses j i) (h : n < i) :
    UsedAfter uses k j := by
  obtain ⟨before, after, rfl, hafter, rfl⟩ := hk
  refine ⟨before, after, rfl, hafter, ?_⟩
  obtain ⟨before', after', huses, -, rfl⟩ := hj
  rcases List.append_eq_append_iff.mp huses with ⟨mid, rfl, hmid⟩ | ⟨mid, rfl, -⟩
  · cases mid with
    | nil =>
        rw [List.append_nil] at h
        omega
    | cons k' mid =>
        rw [List.cons_append, List.cons.injEq] at hmid
        rw [hmid.2]
        exact List.mem_append_right _ List.mem_cons_self
  · rw [List.length_append] at h
    omega

end Recency
