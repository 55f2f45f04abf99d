import Mathlib.Data.List.Basic
import Mathlib.Data.BitVec

/-!
# Copies at a cursor of fixed width

A writer copies one piece of data after the other into a buffer and moves its cursor past each
of them.  The cursor has `w` bits, so that it wraps.  `CopyLog.Contiguous.within_iff` says when
all the copies stay inside a buffer whose capacity has `w` bits too: exactly when the pieces
together are no longer than the buffer.  A copy that wraps comes behind one that has left the
buffer already.
-/

universe u

variable {w : ℕ} {α : Type u}

/-- A copy: where it begins, and what is copied. -/
structure Copy (w : ℕ) (α : Type u) where
  start : BitVec w
  data : List α
  deriving DecidableEq, Repr

/-- The cursor of a writer, and the copies that it has made. -/
structure CopyLog (w : ℕ) (α : Type u) where
  cursor : BitVec w
  copies : List (Copy w α)
  deriving DecidableEq, Repr

/-- Every element that is copied comes to lie in the first `capacity` places. -/
def Copy.Within (copy : Copy w α) (capacity : ℕ) : Prop :=
  ∀ i < copy.data.length, copy.start.toNat + i < capacity

instance (copy : Copy w α) (capacity : ℕ) : Decidable (copy.Within capacity) := by
  unfold Copy.Within
  infer_instance

theorem Copy.within_iff {copy : Copy w α} {capacity : ℕ} :
    copy.Within capacity ↔
      copy.data.length = 0 ∨ copy.start.toNat + copy.data.length ≤ capacity := by
  constructor
  · intro within
    by_cases empty : copy.data.length = 0
    · exact .inl empty
    · have last := within (copy.data.length - 1) (by omega)
      exact .inr (by omega)
  · rintro (empty | fits) i hi <;> omega

/-- The buffer after the copy. -/
def Copy.apply (copy : Copy w α) (buffer : List α) : List α :=
  buffer.take copy.start.toNat ++ copy.data ++
    buffer.drop (copy.start.toNat + copy.data.length)

/-- The buffer after the copies. -/
def Copy.applyAll (copies : List (Copy w α)) (buffer : List α) : List α :=
  copies.foldl (fun buffer copy => copy.apply buffer) buffer

namespace CopyLog

/-- The log of a writer that has not written. -/
def start : CopyLog w α := ⟨0, []⟩

/-- Copy the data to the cursor and move past it. -/
def copy (log : CopyLog w α) (data : List α) : CopyLog w α :=
  ⟨log.cursor + BitVec.ofNat w data.length, log.copies ++ [⟨log.cursor, data⟩]⟩

/-- What has been copied, in order. -/
def text (log : CopyLog w α) : List α := log.copies.flatMap Copy.data

@[simp] theorem text_start : (start : CopyLog w α).text = [] := rfl

@[simp] theorem text_copy (log : CopyLog w α) (data : List α) :
    (log.copy data).text = log.text ++ data := by
  simp [text, copy]

/-- The copies begin at the start of the buffer and follow one another: the cursor is the
length of what has been copied, and they are inside a buffer that holds all of it. -/
structure Contiguous (log : CopyLog w α) : Prop where
  cursor : log.cursor = BitVec.ofNat w log.text.length
  within_iff : ∀ capacity < 2 ^ w,
    (∀ copy ∈ log.copies, copy.Within capacity) ↔ log.text.length ≤ capacity

theorem contiguous_start : (start : CopyLog w α).Contiguous where
  cursor := by simp [start, text]
  within_iff := by simp [start, text]

/-- **One more copy.**  As long as the copies fit, the cursor has not wrapped. -/
theorem Contiguous.copy {log : CopyLog w α} (contiguous : log.Contiguous) (data : List α) :
    (log.copy data).Contiguous where
  cursor := by
    rw [text_copy, List.length_append, BitVec.ofNat_add, ← contiguous.cursor]
    rfl
  within_iff := by
    intro capacity bound
    have split : (∀ copy ∈ (log.copy data).copies, copy.Within capacity) ↔
        (∀ copy ∈ log.copies, copy.Within capacity) ∧
          (⟨log.cursor, data⟩ : Copy w α).Within capacity := by
      simp [CopyLog.copy, or_imp, forall_and]
    rw [split, contiguous.within_iff capacity bound, text_copy, List.length_append,
      Copy.within_iff, contiguous.cursor]
    show _ ∧ (_ ∨ _ + data.length ≤ capacity) ↔ _
    by_cases fits : log.text.length ≤ capacity
    · rw [BitVec.toNat_ofNat, Nat.mod_eq_of_lt (by omega)]
      show _ ∧ (data.length = 0 ∨ _) ↔ _
      omega
    · constructor
      · intro both
        exact absurd both.1 fits
      · intro all
        omega

/-- What has been copied stands at the start of a buffer that has room for it. -/
structure Fills (log : CopyLog w α) : Prop where
  cursor : log.cursor = BitVec.ofNat w log.text.length
  applyAll : ∀ buffer : List α, log.text.length ≤ buffer.length → buffer.length < 2 ^ w →
    Copy.applyAll log.copies buffer = log.text ++ buffer.drop log.text.length

theorem fills_start : (start : CopyLog w α).Fills where
  cursor := by simp [start, text]
  applyAll _ _ _ := rfl

theorem Fills.copy {log : CopyLog w α} (fills : log.Fills) (data : List α) :
    (log.copy data).Fills where
  cursor := by
    rw [text_copy, List.length_append, BitVec.ofNat_add, ← fills.cursor]
    rfl
  applyAll := by
    intro buffer room bound
    rw [text_copy, List.length_append] at room
    have before := fills.applyAll buffer (by omega) bound
    have start : log.cursor.toNat = log.text.length := by
      rw [fills.cursor, BitVec.toNat_ofNat, Nat.mod_eq_of_lt (by omega)]
    have last : Copy.applyAll (log.copy data).copies buffer =
        (⟨log.cursor, data⟩ : Copy w α).apply (Copy.applyAll log.copies buffer) :=
      List.foldl_append
    rw [last, before, Copy.apply, start, text_copy]
    have take : (log.text ++ buffer.drop log.text.length).take log.text.length = log.text :=
      List.take_left
    have drop : (log.text ++ buffer.drop log.text.length).drop (log.text.length + data.length) =
        buffer.drop (log.text.length + data.length) := by
      rw [← List.drop_drop, List.drop_left, List.drop_drop]
    dsimp only
    rw [take, drop, List.length_append]

end CopyLog
