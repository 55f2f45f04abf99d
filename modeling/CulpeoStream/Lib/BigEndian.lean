import Mathlib.Algebra.Group.Nat.Defs
import CulpeoStream.Lib.Framing

/-!
# Tagged frames with a big-endian length

Four octets, the most significant first, stand for a number below `2 ^ 32`: `octets` and
`value`.

A `Tagged` frame is a tag octet, the length of the payload in four octets, and the payload.
`Tagged.format` is the `Framing.Format` of a reader that knows some tags and that has a
limit for payloads.  The length is looked at as soon as it is there, and the tag only when
the whole frame is: so a frame that is too long is malformed at once.
-/

namespace BigEndian

/-- The four octets of a number, the most significant first. -/
def octets (n : ℕ) : List UInt8 :=
  [(n / 2 ^ 24).toUInt8, (n / 2 ^ 16).toUInt8, (n / 2 ^ 8).toUInt8, n.toUInt8]

/-- The number that four octets stand for. -/
def value (b₀ b₁ b₂ b₃ : UInt8) : ℕ :=
  ((b₀.toNat * 2 ^ 8 + b₁.toNat) * 2 ^ 8 + b₂.toNat) * 2 ^ 8 + b₃.toNat

@[simp] theorem length_octets (n : ℕ) : (octets n).length = 4 := rfl

theorem value_lt (b₀ b₁ b₂ b₃ : UInt8) : value b₀ b₁ b₂ b₃ < 2 ^ 32 := by
  have h₀ := b₀.toNat_lt
  have h₁ := b₁.toNat_lt
  have h₂ := b₂.toNat_lt
  have h₃ := b₃.toNat_lt
  unfold value
  omega

theorem value_octets {n : ℕ} (h : n < 2 ^ 32) :
    value (n / 2 ^ 24).toUInt8 (n / 2 ^ 16).toUInt8 (n / 2 ^ 8).toUInt8 n.toUInt8 = n := by
  simp only [value, Nat.toUInt8_eq, UInt8.toNat_ofNat']
  omega

end BigEndian

namespace Tagged

open Framing

/-- A tag, and the payload. -/
abbrev Frame := UInt8 × List UInt8

/-- The octets of a frame. -/
def encode (f : Frame) : List UInt8 := f.1 :: BigEndian.octets f.2.length ++ f.2

/-- What the front of a buffer holds. -/
def front (limit : ℤ) (known : UInt8 → Bool) : List UInt8 → Front UInt8 Frame
  | tag :: b₀ :: b₁ :: b₂ :: b₃ :: rest =>
      let len := BigEndian.value b₀ b₁ b₂ b₃
      if limit < len then .malformed
      else if rest.length < len then .short
      else if known tag then .frame (tag, rest.take len) (rest.drop len)
      else .malformed
  | _ => .short

variable {limit : ℤ} {known : UInt8 → Bool}

theorem front_cons (tag b₀ b₁ b₂ b₃ : UInt8) (rest : List UInt8) :
    front limit known (tag :: b₀ :: b₁ :: b₂ :: b₃ :: rest) =
      if limit < BigEndian.value b₀ b₁ b₂ b₃ then .malformed
      else if rest.length < BigEndian.value b₀ b₁ b₂ b₃ then .short
      else if known tag then
        .frame (tag, rest.take (BigEndian.value b₀ b₁ b₂ b₃))
          (rest.drop (BigEndian.value b₀ b₁ b₂ b₃))
      else .malformed := rfl

/-- A buffer of five octets and more. -/
theorem exists_cons {b : List UInt8} (h : 5 ≤ b.length) :
    ∃ tag b₀ b₁ b₂ b₃ rest, b = tag :: b₀ :: b₁ :: b₂ :: b₃ :: rest := by
  match b, h with
  | tag :: b₀ :: b₁ :: b₂ :: b₃ :: rest, _ => exact ⟨tag, b₀, b₁, b₂, b₃, rest, rfl⟩

theorem front_of_length_lt {b : List UInt8} (h : b.length < 5) : front limit known b = .short := by
  unfold front
  split
  · simp only [List.length_cons] at h
    omega
  · rfl

theorem exists_cons_of_front {b : List UInt8} (h : front limit known b ≠ .short) :
    ∃ tag b₀ b₁ b₂ b₃ rest, b = tag :: b₀ :: b₁ :: b₂ :: b₃ :: rest :=
  exists_cons (Nat.le_of_not_lt fun hlt => h (front_of_length_lt hlt))

variable (limit known)

/-- Tagged frames whose payloads are within a limit, and whose tags are known. -/
def format : Format UInt8 Frame where
  front := front limit known
  front_nil := rfl
  frame_head {b f rest} h := by
    obtain ⟨tag, b₀, b₁, b₂, b₃, tail, rfl⟩ := exists_cons_of_front (by rw [h]; nofun)
    rw [front_cons] at h
    split at h
    · cases h
    · split at h
      · cases h
      · split at h
        · rename_i hlimit hshort hknown
          cases h
          have htake : (tail.take (BigEndian.value b₀ b₁ b₂ b₃)).length =
              BigEndian.value b₀ b₁ b₂ b₃ := by
            rw [List.length_take]
            omega
          refine ⟨tag :: b₀ :: b₁ :: b₂ :: b₃ :: tail.take (BigEndian.value b₀ b₁ b₂ b₃),
            by simp, by simp, fun x => ?_⟩
          simp only [List.cons_append]
          rw [front_cons, if_neg hlimit, if_neg (by rw [List.length_append]; omega), if_pos hknown,
            List.take_left' htake, List.drop_left' htake]
        · cases h
  malformed_append {b} x h := by
    obtain ⟨tag, b₀, b₁, b₂, b₃, tail, rfl⟩ := exists_cons_of_front (by rw [h]; nofun)
    simp only [List.cons_append]
    rw [front_cons] at h ⊢
    split at h
    · rw [if_pos ‹_›]
    · split at h
      · cases h
      · split at h
        · cases h
        · rename_i hlimit hshort hknown
          rw [if_neg hlimit, if_neg (by rw [List.length_append]; omega), if_neg hknown]

variable {limit known}

/-- A frame that a reader takes. -/
structure Within (limit : ℤ) (known : UInt8 → Bool) (f : Frame) : Prop where
  tag : known f.1 = true
  length : (f.2.length : ℤ) ≤ limit
  bound : f.2.length < 2 ^ 32

/-- A frame is read as it was written, whatever follows it. -/
theorem front_encode {f : Frame} (h : Within limit known f) (x : List UInt8) :
    front limit known (encode f ++ x) = .frame f x := by
  have hvalue := BigEndian.value_octets h.bound
  have hlimit : ¬ limit < (f.2.length : ℤ) := Int.not_lt.mpr h.length
  unfold encode BigEndian.octets
  simp only [List.cons_append, List.nil_append]
  rw [front_cons, hvalue, if_neg hlimit, if_neg (by rw [List.length_append]; omega),
    if_pos h.tag, List.take_left, List.drop_left]

/-- The octets of some frames are split into these frames. -/
theorem split_encode {frames : List Frame} (h : ∀ f ∈ frames, Within limit known f) :
    (format limit known).split (frames.flatMap encode) = (frames, []) := by
  induction frames with
  | nil => rfl
  | cons f frames ih =>
      have hfront : (format limit known).front (encode f ++ frames.flatMap encode) =
          .frame f (frames.flatMap encode) := front_encode (h f List.mem_cons_self) _
      rw [List.flatMap_cons, Format.split_frame hfront,
        ih fun g hg => h g (List.mem_cons_of_mem f hg)]

end Tagged
