import Mathlib.Data.List.Basic

/-!
# Frames in a byte stream

A transport delivers a stream of bytes in pieces, and a receiver cuts frames off the
front of what it has buffered.  A `Format` says what the front of a buffer holds: too
little to tell, a frame, or something that can be no frame.

`Format.split` takes the frames off the front of a whole stream.  `Format.drain` is the
loop of a receiver, which empties its buffer when the front is malformed, and
`Format.feed` runs it after every piece.

As long as the stream is well formed, the receiver finds the frames of the stream however
it was cut (`feed_eq_split`).  `feed_independent_iff` says when this holds of an arbitrary
stream: what follows the malformed front must hold no frame, at whatever place the
receiver takes up again.
-/

namespace Framing

universe u v

/-- What the front of a buffer holds. -/
inductive Front (β : Type u) (α : Type v) where
  | short
  | malformed
  | frame (frame : α) (rest : List β)

/-- A format of frames.  A frame is recognised by its own bytes, and more bytes do not
mend what is malformed. -/
structure Format (β : Type u) (α : Type v) where
  front : List β → Front β α
  front_nil : front [] = .short
  frame_head : ∀ {b f rest}, front b = .frame f rest →
    ∃ head, head ≠ [] ∧ b = head ++ rest ∧ ∀ x, front (head ++ x) = .frame f x
  malformed_append : ∀ {b} (x), front b = .malformed → front (b ++ x) = .malformed

namespace Format

variable {β : Type u} {α : Type v} (F : Format β α)

/-- At most `n` frames off the front of a stream, and what is left. -/
def splitFrom : ℕ → List β → List α × List β
  | 0, b => ([], b)
  | n + 1, b =>
      match F.front b with
      | .frame f rest => (f :: (splitFrom n rest).1, (splitFrom n rest).2)
      | _ => ([], b)

/-- The frames at the front of a stream, and what is left when no other follows. -/
def split (b : List β) : List α × List β := F.splitFrom b.length b

/-- The loop of a receiver, at most `n` times round. -/
def drainFrom : ℕ → List β → List α × List β
  | 0, b => ([], b)
  | n + 1, b =>
      match F.front b with
      | .short => ([], b)
      | .malformed => ([], [])
      | .frame f rest => (f :: (drainFrom n rest).1, (drainFrom n rest).2)

/-- The loop of a receiver: the frames it takes off, and what it keeps. -/
def drain (b : List β) : List α × List β := F.drainFrom (b.length + 1) b

/-- A receiver that appends each piece to its buffer and runs its loop: all the frames it
takes off, and what it keeps. -/
def feed : List β → List (List β) → List α × List β
  | b, [] => ([], b)
  | b, c :: cs =>
      ((F.drain (b ++ c)).1 ++ (feed (F.drain (b ++ c)).2 cs).1,
        (feed (F.drain (b ++ c)).2 cs).2)

variable {F}

theorem length_of_frame {b rest : List β} {f : α} (h : F.front b = .frame f rest) :
    rest.length < b.length := by
  obtain ⟨head, hne, rfl, -⟩ := F.frame_head h
  have hpos := List.length_pos_of_ne_nil hne
  rw [List.length_append]
  omega

theorem frame_append {b rest : List β} {f : α} (h : F.front b = .frame f rest)
    (x : List β) : F.front (b ++ x) = .frame f (rest ++ x) := by
  obtain ⟨head, -, rfl, hhead⟩ := F.frame_head h
  rw [List.append_assoc]
  exact hhead _

/-! ### The frames of a stream -/

/-- The number of rounds does not matter, if there are enough. -/
theorem splitFrom_eq {n : ℕ} : ∀ {m : ℕ} {b : List β}, b.length ≤ n → b.length ≤ m →
    F.splitFrom n b = F.splitFrom m b := by
  induction n with
  | zero =>
      intro m b hn _
      obtain rfl : b = [] := List.length_eq_zero_iff.mp (by omega)
      cases m with
      | zero => rfl
      | succ m => simp only [splitFrom, F.front_nil]
  | succ n ih =>
      intro m b hn hm
      cases m with
      | zero =>
          obtain rfl : b = [] := List.length_eq_zero_iff.mp (by omega)
          simp only [splitFrom, F.front_nil]
      | succ m =>
          simp only [splitFrom]
          cases hfront : F.front b with
          | short => rfl
          | malformed => rfl
          | frame f rest =>
              have hlt := length_of_frame hfront
              simp only [ih (m := m) (b := rest) (by omega) (by omega)]

theorem split_frame {b rest : List β} {f : α} (h : F.front b = .frame f rest) :
    F.split b = (f :: (F.split rest).1, (F.split rest).2) := by
  have hlt := length_of_frame h
  obtain ⟨n, hn⟩ : ∃ n, b.length = n + 1 := ⟨b.length - 1, by omega⟩
  unfold split
  rw [hn]
  simp only [splitFrom, h]
  rw [splitFrom_eq (by omega : rest.length ≤ n) (Nat.le_refl _)]

theorem split_stop {b : List β} (h : ∀ f rest, F.front b ≠ .frame f rest) :
    F.split b = ([], b) := by
  unfold split
  cases hlen : b.length with
  | zero => rfl
  | succ n =>
      unfold splitFrom
      split
      · exact absurd ‹_› (h _ _)
      · rfl

theorem split_short {b : List β} (h : F.front b = .short) : F.split b = ([], b) :=
  split_stop fun f rest hframe => by rw [h] at hframe; cases hframe

theorem split_malformed {b : List β} (h : F.front b = .malformed) : F.split b = ([], b) :=
  split_stop fun f rest hframe => by rw [h] at hframe; cases hframe

@[simp] theorem split_nil : F.split [] = ([], []) := rfl

/-- A stream is split by induction: it stops, or a frame stands at its front. -/
theorem split_induction {P : List β → Prop}
    (hstop : ∀ b, (∀ f rest, F.front b ≠ .frame f rest) → P b)
    (hframe : ∀ b f rest, F.front b = .frame f rest → P rest → P b) (b : List β) : P b := by
  induction hlen : b.length using Nat.strongRecOn generalizing b with
  | ind n ih =>
      cases hfront : F.front b with
      | short => exact hstop b fun f rest h => by rw [hfront] at h; cases h
      | malformed => exact hstop b fun f rest h => by rw [hfront] at h; cases h
      | frame f rest =>
          exact hframe b f rest hfront (ih _ (hlen ▸ length_of_frame hfront) rest rfl)

/-- What is left has no frame at its front. -/
theorem front_split_ne (b : List β) : ∀ f rest, F.front (F.split b).2 ≠ .frame f rest := by
  induction b using F.split_induction with
  | hstop b h => rwa [split_stop h]
  | hframe b f rest h ih => rwa [split_frame h]

/-- The bytes of the frames, apart from what is left, are a stream of their own. -/
theorem split_head (b : List β) :
    ∃ head, b = head ++ (F.split b).2 ∧
      ∀ x, F.split (head ++ x) = ((F.split b).1 ++ (F.split x).1, (F.split x).2) := by
  induction b using F.split_induction with
  | hstop b h => exact ⟨[], by rw [split_stop h]; rfl, fun x => by rw [split_stop h]; rfl⟩
  | hframe b f rest h ih =>
      obtain ⟨first, -, rfl, hfirst⟩ := F.frame_head h
      obtain ⟨head, hrest, hsplit⟩ := ih
      refine ⟨first ++ head, ?_, fun x => ?_⟩
      · rw [split_frame h, List.append_assoc, ← hrest]
      · rw [List.append_assoc, split_frame (hfirst _), split_frame h, hsplit]
        rfl

/-- A stream that goes on is split from where it stopped. -/
theorem split_append (b x : List β) :
    F.split (b ++ x) =
      ((F.split b).1 ++ (F.split ((F.split b).2 ++ x)).1, (F.split ((F.split b).2 ++ x)).2) := by
  obtain ⟨head, hb, hsplit⟩ := F.split_head b
  rw [← hsplit, ← List.append_assoc, ← hb]

/-- Nothing is split off after a malformed front. -/
theorem split_append_malformed {b : List β} (h : F.front (F.split b).2 = .malformed)
    (x : List β) : F.split (b ++ x) = ((F.split b).1, (F.split b).2 ++ x) := by
  have hstop : ∀ f rest, F.front ((F.split b).2 ++ x) ≠ .frame f rest := by
    intro f rest hframe
    rw [F.malformed_append x h] at hframe
    cases hframe
  rw [split_append, split_stop hstop, List.append_nil]

/-! ### The receiver -/

/-- The loop takes the frames off. -/
theorem drainFrom_split {n : ℕ} : ∀ {b : List β}, b.length < n →
    (F.drainFrom n b).1 = (F.split b).1 ∧
      (F.front (F.split b).2 = .short → (F.drainFrom n b).2 = (F.split b).2) ∧
      (F.front (F.split b).2 = .malformed → (F.drainFrom n b).2 = []) := by
  induction n with
  | zero => intro b hb; omega
  | succ n ih =>
      intro b hb
      simp only [drainFrom]
      cases hfront : F.front b with
      | short =>
          rw [split_short hfront, hfront]
          exact ⟨rfl, fun _ => rfl, fun h => by cases h⟩
      | malformed =>
          rw [split_malformed hfront, hfront]
          exact ⟨rfl, (fun h => by cases h), fun _ => rfl⟩
      | frame f rest =>
          have hlt := length_of_frame hfront
          obtain ⟨hframes, hshort, hmalformed⟩ := ih (b := rest) (by omega)
          rw [split_frame hfront]
          exact ⟨congrArg (f :: ·) hframes, hshort, hmalformed⟩

theorem drain_fst (b : List β) : (F.drain b).1 = (F.split b).1 :=
  (drainFrom_split (Nat.lt_succ_self _)).1

theorem drain_short {b : List β} (h : F.front (F.split b).2 = .short) :
    F.drain b = F.split b :=
  Prod.ext (drain_fst b) ((drainFrom_split (Nat.lt_succ_self _)).2.1 h)

/-- A malformed front empties the buffer. -/
theorem drain_malformed {b : List β} (h : F.front (F.split b).2 = .malformed) :
    F.drain b = ((F.split b).1, []) :=
  Prod.ext (drain_fst b) ((drainFrom_split (Nat.lt_succ_self _)).2.2 h)

/-- **A well-formed stream.**  However it is cut, the receiver finds its frames. -/
theorem feed_eq_split : ∀ {chunks : List (List β)} {b : List β}, F.front b = .short →
    F.front (F.split (b ++ chunks.flatten)).2 = .short →
    F.feed b chunks = F.split (b ++ chunks.flatten) := by
  intro chunks
  induction chunks with
  | nil =>
      intro b hb _
      rw [List.flatten_nil, List.append_nil, split_short hb]
      rfl
  | cons c cs ih =>
      intro b hb hshort
      rw [List.flatten_cons, ← List.append_assoc] at hshort ⊢
      have hfront : F.front (F.split (b ++ c)).2 = .short := by
        cases hc : F.front (F.split (b ++ c)).2 with
        | short => rfl
        | malformed =>
            rw [split_append_malformed hc, F.malformed_append _ hc] at hshort
            cases hshort
        | frame f rest => exact absurd hc (front_split_ne _ f rest)
      rw [split_append] at hshort ⊢
      simp only [feed]
      rw [drain_short hfront, ih hfront hshort]

/-- Where no frame stands anywhere, the receiver finds none. -/
theorem feed_quiet : ∀ {chunks : List (List β)} {b : List β},
    (∀ pre post, b ++ chunks.flatten = pre ++ post → ∀ f rest, F.front post ≠ .frame f rest) →
    (F.feed b chunks).1 = [] := by
  intro chunks
  induction chunks with
  | nil => intro b _; rfl
  | cons c cs ih =>
      intro b hquiet
      rw [List.flatten_cons, ← List.append_assoc] at hquiet
      have hstop : F.split (b ++ c) = ([], b ++ c) := by
        refine split_stop fun f rest h => ?_
        exact hquiet [] _ rfl f _ (frame_append h cs.flatten)
      have hkept : ∃ dropped, b ++ c = dropped ++ (F.drain (b ++ c)).2 := by
        cases hfront : F.front (F.split (b ++ c)).2 with
        | short => exact ⟨[], by rw [drain_short hfront, hstop]; rfl⟩
        | malformed => exact ⟨b ++ c, by rw [drain_malformed hfront, List.append_nil]⟩
        | frame f rest => exact absurd hfront (front_split_ne _ f rest)
      obtain ⟨dropped, hdropped⟩ := hkept
      simp only [feed]
      rw [drain_fst, hstop, List.nil_append]
      refine ih fun pre post h => hquiet (dropped ++ pre) post ?_
      calc b ++ c ++ cs.flatten
          = dropped ++ (F.drain (b ++ c)).2 ++ cs.flatten := congrArg (· ++ cs.flatten) hdropped
        _ = dropped ++ (pre ++ post) := by rw [List.append_assoc, h]
        _ = dropped ++ pre ++ post := (List.append_assoc ..).symm

/-- No frame stands where the receiver may take up again after a malformed front. -/
def Silent (F : Format β α) (tail : List β) : Prop :=
  ∀ pre post, tail = pre ++ post → F.front pre = .malformed →
    ∀ f rest, F.front post ≠ .frame f rest

theorem feed_fst_of_silent : ∀ {chunks : List (List β)} {b : List β}, F.front b = .short →
    Silent F (F.split (b ++ chunks.flatten)).2 →
    (F.feed b chunks).1 = (F.split (b ++ chunks.flatten)).1 := by
  intro chunks
  induction chunks with
  | nil =>
      intro b hb _
      rw [List.flatten_nil, List.append_nil, split_short hb]
      rfl
  | cons c cs ih =>
      intro b hb hsilent
      rw [List.flatten_cons, ← List.append_assoc] at hsilent ⊢
      simp only [feed]
      cases hfront : F.front (F.split (b ++ c)).2 with
      | short =>
          rw [split_append] at hsilent ⊢
          rw [drain_short hfront, ih hfront hsilent]
      | malformed =>
          rw [split_append_malformed hfront] at hsilent ⊢
          rw [drain_malformed hfront, feed_quiet, List.append_nil]
          -- once malformed, the front stays malformed up to wherever the buffer is emptied
          intro pre post h f rest
          refine hsilent ((F.split (b ++ c)).2 ++ pre) post ?_ (F.malformed_append _ hfront) f rest
          rw [List.append_assoc, ← h]
          rfl
      | frame f rest => exact absurd hfront (front_split_ne _ f rest)

/-- **An arbitrary stream.**  The receiver finds the frames of the stream and no others,
however it is cut, exactly if no frame stands where it may take up again. -/
theorem feed_independent_iff (bytes : List β) :
    (∀ chunks : List (List β), chunks.flatten = bytes →
      (F.feed [] chunks).1 = (F.split bytes).1) ↔ Silent F (F.split bytes).2 := by
  constructor
  · intro h pre post htail hpre f rest hpost
    obtain ⟨head, hbytes, hsplit⟩ := F.split_head bytes
    have hfirst : F.split (head ++ pre) = ((F.split bytes).1, pre) := by
      rw [hsplit, split_malformed hpre, List.append_nil]
    -- the buffer is emptied after `pre`, and `post` is read as a stream of its own
    have hflat : [head ++ pre, post].flatten = bytes := by
      rw [List.flatten_cons, List.flatten_singleton, List.append_assoc, ← htail, ← hbytes]
    have hfeed := h [head ++ pre, post] hflat
    simp only [feed, List.nil_append] at hfeed
    rw [drain_malformed (by rwa [hfirst]), hfirst] at hfeed
    rw [List.nil_append, drain_fst, split_frame hpost, List.append_nil] at hfeed
    cases List.append_right_eq_self.mp hfeed
  · rintro hsilent chunks rfl
    rw [← List.nil_append chunks.flatten] at hsilent ⊢
    exact feed_fst_of_silent F.front_nil hsilent

end Format

end Framing
