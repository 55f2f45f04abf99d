import Mathlib.Order.Bounds.Basic
import Mathlib.Data.List.Basic

/-!
# A log over a sliding window

Entries are appended to a log with the time they come at, and from time to time those in front
of a cutoff are removed.  What the log holds is a matter of its history alone (`mem_run`), and
its entries stay in the order in which they came (`run_sublist`).  So if they come in ascending
order, the first one that a removal leaves is the least (`isLeast_head`).
-/

namespace WindowLog

universe u v

variable {α : Type u} {τ : Type v} [LinearOrder τ]

/-- What happens to a log. -/
inductive Event (α : Type u) (τ : Type v) where
  | record (entry : α) (time : τ)
  | prune (cutoff : τ)

/-- The log without the entries that are older than the cutoff. -/
def prune (log : List (α × τ)) (cutoff : τ) : List (α × τ) :=
  log.filter fun entry => cutoff ≤ entry.2

def step (log : List (α × τ)) : Event α τ → List (α × τ)
  | .record entry time => log ++ [(entry, time)]
  | .prune cutoff => prune log cutoff

def run (log : List (α × τ)) (history : List (Event α τ)) : List (α × τ) :=
  history.foldl step log

/-- All the entries of a history. -/
def recorded : List (Event α τ) → List (α × τ)
  | [] => []
  | .record entry time :: rest => (entry, time) :: recorded rest
  | .prune _ :: rest => recorded rest

/-- The time is in front of no cutoff of the history. -/
def Spared (time : τ) (history : List (Event α τ)) : Prop :=
  ∀ cutoff, .prune cutoff ∈ history → cutoff ≤ time

/-- The entry was recorded, and has not been removed since. -/
def Held (history : List (Event α τ)) (entry : α) (time : τ) : Prop :=
  ∃ before after, history = before ++ .record entry time :: after ∧ Spared time after

theorem mem_prune {log : List (α × τ)} {cutoff : τ} {entry : α × τ} :
    entry ∈ prune log cutoff ↔ entry ∈ log ∧ cutoff ≤ entry.2 := by
  rw [prune, List.mem_filter, decide_eq_true_eq]

theorem spared_record {time : τ} {entry : α} {t : τ} {rest : List (Event α τ)} :
    Spared time (.record entry t :: rest) ↔ Spared time rest := by
  simp [Spared]

theorem spared_prune {time cutoff : τ} {rest : List (Event α τ)} :
    Spared time (.prune cutoff :: rest) ↔ cutoff ≤ time ∧ Spared time rest := by
  simp [Spared]

theorem not_held_nil {entry : α} {time : τ} : ¬ Held [] entry time := by
  rintro ⟨before, after, hsplit, -⟩
  exact absurd hsplit (by simp)

theorem held_cons {event : Event α τ} {rest : List (Event α τ)} {entry : α} {time : τ} :
    Held (event :: rest) entry time ↔
      (event = .record entry time ∧ Spared time rest) ∨ Held rest entry time := by
  constructor
  · rintro ⟨before, after, hsplit, hspared⟩
    cases before with
    | nil =>
        obtain ⟨rfl, rfl⟩ := List.cons.inj hsplit
        exact .inl ⟨rfl, hspared⟩
    | cons _ before =>
        obtain ⟨rfl, rfl⟩ := List.cons.inj hsplit
        exact .inr ⟨before, after, rfl, hspared⟩
  · rintro (⟨rfl, hspared⟩ | ⟨before, after, rfl, hspared⟩)
    · exact ⟨[], rest, rfl, hspared⟩
    · exact ⟨event :: before, after, rfl, hspared⟩

/-- **What a log holds**: of its own entries those that are spared, and what the history has
recorded and not removed. -/
theorem mem_run {log : List (α × τ)} {history : List (Event α τ)} {entry : α} {time : τ} :
    (entry, time) ∈ run log history ↔
      ((entry, time) ∈ log ∧ Spared time history) ∨ Held history entry time := by
  induction history generalizing log with
  | nil => simp [run, Spared, not_held_nil]
  | cons event rest ih =>
      rw [run, List.foldl_cons, ← run, ih, held_cons]
      cases event with
      | record entry' time' =>
          rw [step, List.mem_append, List.mem_singleton, spared_record, Event.record.injEq,
            Prod.mk.injEq, or_and_right, or_assoc, eq_comm (a := entry), eq_comm (a := time)]
      | prune cutoff =>
          rw [step, mem_prune, spared_prune, and_assoc]
          simp

theorem prune_sublist (log : List (α × τ)) (cutoff : τ) : (prune log cutoff).Sublist log :=
  List.filter_sublist

/-- The entries of a log are in the order in which they came. -/
theorem run_sublist (log : List (α × τ)) (history : List (Event α τ)) :
    (run log history).Sublist (log ++ recorded history) := by
  induction history generalizing log with
  | nil => rw [recorded, List.append_nil]; exact List.Sublist.refl log
  | cons event rest ih =>
      refine (ih (step log event)).trans ?_
      cases event with
      | record entry time => rw [step, recorded, List.append_assoc]; exact List.Sublist.refl _
      | prune cutoff => exact (prune_sublist log cutoff).append_right _

/-- If the entries are in ascending order, the first one after a cutoff is the least. -/
theorem isLeast_head [Preorder α] {log : List (α × τ)} {cutoff : τ} {first : α × τ}
    {rest : List (α × τ)} (ascending : log.Pairwise fun a b => a.1 ≤ b.1)
    (hprune : prune log cutoff = first :: rest) :
    IsLeast {entry | ∃ time, (entry, time) ∈ log ∧ cutoff ≤ time} first.1 := by
  have kept := ascending.sublist (prune_sublist log cutoff)
  rw [hprune, List.pairwise_cons] at kept
  constructor
  · have hfirst : first ∈ prune log cutoff := hprune ▸ List.mem_cons_self
    exact ⟨first.2, mem_prune.mp hfirst⟩
  · rintro entry ⟨time, hmem, htime⟩
    have hentry : (entry, time) ∈ prune log cutoff := mem_prune.mpr ⟨hmem, htime⟩
    rw [hprune] at hentry
    rcases List.mem_cons.mp hentry with rfl | hrest
    · exact le_refl _
    · exact kept.1 _ hrest

end WindowLog
