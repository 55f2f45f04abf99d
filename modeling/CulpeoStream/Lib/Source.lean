import Mathlib.Data.List.Basic

/-!
# Reading from a stream

A stream that is read gives, each time, some of the elements that are left: at most as many
as are asked for, and at least one, as long as any are left.  Which, is its own affair: a
`Source` is any state that behaves so.
-/

universe u v

/-- A stream that is read in pieces. -/
structure Source (σ : Type u) (β : Type v) where
  /-- What is left to be read. -/
  left : σ → List β
  read : σ → ℕ → σ × List β
  read_left : ∀ s count, (read s count).2 ++ left (read s count).1 = left s
  length_read_le : ∀ s count, (read s count).2.length ≤ count
  read_ne_nil : ∀ s count, 0 < count → left s ≠ [] → (read s count).2 ≠ []

namespace Source

variable {σ : Type u} {β : Type v} (S : Source σ β)

/-- At the end nothing is read. -/
theorem read_nil {s : σ} (h : S.left s = []) (count : ℕ) :
    (S.read s count).2 = [] ∧ S.left (S.read s count).1 = [] := by
  have hread := S.read_left s count
  rw [h] at hread
  exact List.append_eq_nil_iff.mp hread

/-- The elements read are the first of those that were left. -/
theorem read_eq_take (s : σ) (count : ℕ) :
    (S.read s count).2 = (S.left s).take (S.read s count).2.length ∧
      S.left (S.read s count).1 = (S.left s).drop (S.read s count).2.length := by
  have hread := S.read_left s count
  constructor
  · rw [← hread, List.take_left]
  · rw [← hread, List.drop_left]

/-- A list, and how much each read gives if it may. -/
def scheduled : Source (List β × (ℕ → ℕ)) β where
  left s := s.1
  read s count :=
    ((s.1.drop (min (max 1 (s.2 0)) count), fun i => s.2 (i + 1)),
      s.1.take (min (max 1 (s.2 0)) count))
  read_left s count := List.take_append_drop _ _
  length_read_le s count := by
    rw [List.length_take]
    omega
  read_ne_nil s count hcount hleft := by
    have hpos := List.length_pos_of_ne_nil hleft
    apply List.ne_nil_of_length_pos
    rw [List.length_take]
    omega

end Source
