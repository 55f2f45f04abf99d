import Mathlib.Data.List.Basic

/-!
# Bounded channels

A channel with a buffer of fixed capacity.  A message goes to a receiver that waits, if
there is one, and else into the buffer; a message that finds the buffer full is refused
and leaves no trace.  So receivers only wait on an empty buffer, which the structure
itself records.

`sendAll_fits` is the law for a sender that does not look at the answer: as many messages
as there are free places and waiting receivers get through, in order.
-/

universe u

/-- On a channel where nobody waits and nothing is stored. -/
theorem Channel.idle_empty {μ : Type u} : (0 : ℕ) = 0 ∨ ([] : List μ) = [] := .inl rfl

/-- A channel: the messages stored, and how many receivers wait. -/
structure Channel (μ : Type u) (capacity : ℕ) where
  buffer : List μ := []
  waiting : ℕ := 0
  idle : waiting = 0 ∨ buffer = [] := by exact Channel.idle_empty
  bounded : buffer.length ≤ capacity := by exact Nat.zero_le _

namespace Channel

variable {μ : Type u} {capacity : ℕ}

/-- What becomes of a message. -/
inductive Sent where
  | delivered
  | stored
  | refused
deriving DecidableEq

/-- Send without waiting. -/
def trySend (c : Channel μ capacity) (m : μ) : Channel μ capacity × Sent :=
  if hwaiting : 0 < c.waiting then
    ({ buffer := c.buffer
       waiting := c.waiting - 1
       idle := .inr (c.idle.resolve_left (by omega))
       bounded := c.bounded }, .delivered)
  else if hroom : c.buffer.length < capacity then
    ({ buffer := c.buffer ++ [m]
       waiting := c.waiting
       idle := .inl (by omega)
       bounded := by rw [List.length_append]; exact hroom }, .stored)
  else (c, .refused)

/-- Receive, and wait if nothing is stored. -/
def receive (c : Channel μ capacity) : Channel μ capacity × Option μ :=
  match hbuffer : c.buffer with
  | [] =>
      ({ buffer := []
         waiting := c.waiting + 1
         idle := .inr rfl
         bounded := Nat.zero_le _ }, none)
  | m :: rest =>
      ({ buffer := rest
         waiting := c.waiting
         idle := .inl (c.idle.resolve_right (by rw [hbuffer]; exact List.cons_ne_nil m rest))
         bounded := by
           have := c.bounded
           rw [hbuffer, List.length_cons] at this
           omega }, some m)

/-- Send some messages one after another, whatever becomes of them.  Those that waiting
receivers got are returned. -/
def sendAll (c : Channel μ capacity) : List μ → Channel μ capacity × List μ
  | [] => (c, [])
  | m :: ms =>
      let sent := c.trySend m
      let rest := sendAll sent.1 ms
      (rest.1, (if sent.2 = .delivered then [m] else []) ++ rest.2)

/-- How many messages get through before one is refused. -/
def room (c : Channel μ capacity) : ℕ := capacity - c.buffer.length + c.waiting

variable {c : Channel μ capacity}

theorem trySend_delivered (h : 0 < c.waiting) (m : μ) :
    (c.trySend m).1.buffer = [] ∧ (c.trySend m).1.waiting = c.waiting - 1 ∧
      (c.trySend m).2 = .delivered := by
  unfold trySend
  rw [dif_pos h]
  exact ⟨c.idle.resolve_left (by omega), rfl, rfl⟩

theorem trySend_stored (h : c.waiting = 0) (hroom : 0 < c.room) (m : μ) :
    (c.trySend m).1.buffer = c.buffer ++ [m] ∧ (c.trySend m).1.waiting = 0 ∧
      (c.trySend m).2 = .stored := by
  unfold room at hroom
  unfold trySend
  rw [dif_neg (by omega), dif_pos (by omega)]
  exact ⟨rfl, h, rfl⟩

theorem trySend_refused (h : c.waiting = 0) (hroom : ¬ 0 < c.room) (m : μ) :
    c.trySend m = (c, .refused) := by
  unfold room at hroom
  unfold trySend
  rw [dif_neg (by omega), dif_neg (by omega)]

theorem receive_nil (h : c.buffer = []) :
    (c.receive).1.buffer = [] ∧ (c.receive).1.waiting = c.waiting + 1 ∧ (c.receive).2 = none := by
  unfold receive
  split
  · exact ⟨rfl, rfl, rfl⟩
  · rename_i hcons
    rw [h] at hcons
    cases hcons

theorem receive_cons {m : μ} {rest : List μ} (h : c.buffer = m :: rest) :
    (c.receive).1.buffer = rest ∧ (c.receive).1.waiting = c.waiting ∧
      (c.receive).2 = some m := by
  unfold receive
  split
  · rename_i hnil
    rw [h] at hnil
    cases hnil
  · rename_i hcons
    rw [h] at hcons
    cases hcons
    exact ⟨rfl, rfl, rfl⟩

/-- **Messages that fit.**  The first of them go to the receivers that wait, and the others
are stored in order. -/
theorem sendAll_fits : ∀ {ms : List μ} {c : Channel μ capacity}, ms.length ≤ c.room →
    (c.sendAll ms).2 ++ (c.sendAll ms).1.buffer = c.buffer ++ ms := by
  intro ms
  induction ms with
  | nil => intro c _; simp [sendAll]
  | cons m ms ih =>
      intro c hfits
      rw [List.length_cons] at hfits
      simp only [sendAll]
      cases hwaiting : c.waiting with
      | zero =>
          obtain ⟨hbuffer, hnone, hsent⟩ := trySend_stored hwaiting (by omega) m
          have hroom : ms.length ≤ (c.trySend m).1.room := by
            unfold room at hfits ⊢
            rw [hbuffer, hnone, List.length_append, List.length_singleton]
            omega
          rw [hsent, if_neg nofun, List.nil_append, ih hroom, hbuffer, List.append_assoc]
          rfl
      | succ n =>
          obtain ⟨hbuffer, hless, hsent⟩ := trySend_delivered (c := c) (by omega) m
          have hempty : c.buffer = [] := c.idle.resolve_left (by omega)
          have hroom : ms.length ≤ (c.trySend m).1.room := by
            unfold room at hfits ⊢
            rw [hbuffer, hless]
            rw [hempty] at hfits
            omega
          rw [hsent, if_pos rfl, List.append_assoc, ih hroom, hbuffer, hempty]
          rfl

/-- Whatever becomes of the messages, those that get through are in order. -/
theorem sendAll_sublist : ∀ (ms : List μ) (c : Channel μ capacity),
    ((c.sendAll ms).2 ++ (c.sendAll ms).1.buffer).Sublist (c.buffer ++ ms) := by
  intro ms
  induction ms with
  | nil => intro c; simp [sendAll]
  | cons m ms ih =>
      intro c
      have hrest := ih (c.trySend m).1
      simp only [sendAll]
      by_cases hwaiting : 0 < c.waiting
      · obtain ⟨hbuffer, -, hsent⟩ := trySend_delivered hwaiting m
        rw [hbuffer] at hrest
        rw [hsent, if_pos rfl, c.idle.resolve_left (by omega), List.append_assoc]
        exact hrest.cons_cons m
      · have hidle : c.waiting = 0 := by omega
        by_cases hroom : 0 < c.room
        · obtain ⟨hbuffer, -, hsent⟩ := trySend_stored hidle hroom m
          rw [hbuffer, List.append_assoc] at hrest
          rw [hsent, if_neg nofun]
          exact hrest
        · rw [trySend_refused hidle hroom] at hrest ⊢
          rw [if_neg nofun]
          exact hrest.trans ((List.sublist_cons_self m ms).append_left c.buffer)

/-- What a receiver gets comes off the front of the buffer. -/
theorem receive_append (c : Channel μ capacity) :
    (c.receive).2.toList ++ (c.receive).1.buffer = c.buffer := by
  cases hbuffer : c.buffer with
  | nil =>
      obtain ⟨hrest, -, hnone⟩ := receive_nil hbuffer
      rw [hrest, hnone]
      rfl
  | cons m rest =>
      obtain ⟨hrest, -, hsome⟩ := receive_cons hbuffer
      rw [hrest, hsome]
      rfl

end Channel
