import Mathlib.Data.List.Basic

/-!
# Challenges and their answers

A party issues challenges, each with a nonce, and sees them answered.  `opened` lists the
nonces that are open after a list of `Mark`s, and `Single` says that a challenge is issued
only when none is open.

`marks` lists the marks of a run of any state machine, and `marks_induction` is the rule for
it: an invariant of the state, the open nonces and the moves that are still to come.
-/

namespace Challenges

universe u v w

variable {σ : Type u} {M : Type v} {N : Type w}

inductive Mark (N : Type w) where
  | issued (nonce : N)
  | answered (nonce : N)
  deriving DecidableEq

variable [DecidableEq N]

/-- The open nonces after one more mark. -/
def Mark.apply (nonces : List N) : Mark N → List N
  | issued nonce => nonces ++ [nonce]
  | answered nonce => nonces.filter (· ≠ nonce)

/-- The open nonces after these marks. -/
def opened (nonces : List N) (ms : List (Mark N)) : List N :=
  ms.foldl Mark.apply nonces

/-- A challenge is issued only when none is open. -/
def Single : List N → List (Mark N) → Prop
  | _, [] => True
  | nonces, .issued nonce :: ms => nonces = [] ∧ Single [nonce] ms
  | nonces, .answered nonce :: ms => Single (nonces.filter (· ≠ nonce)) ms

@[simp] theorem opened_nil (nonces : List N) : opened nonces [] = nonces := rfl

@[simp] theorem single_nil (nonces : List N) : Single nonces [] := trivial

theorem opened_append (nonces : List N) (ms ms' : List (Mark N)) :
    opened nonces (ms ++ ms') = opened (opened nonces ms) ms' :=
  List.foldl_append

theorem single_append {nonces : List N} {ms ms' : List (Mark N)} (h : Single nonces ms)
    (h' : Single (opened nonces ms) ms') : Single nonces (ms ++ ms') := by
  induction ms generalizing nonces with
  | nil => exact h'
  | cons m ms ih =>
      cases m with
      | issued nonce =>
          obtain ⟨rfl, h⟩ := h
          exact ⟨rfl, ih h h'⟩
      | answered nonce => exact ih h h'

/-- What `Single` is about: no nonce is open where a challenge is issued. -/
theorem Single.opened_eq_nil {nonces : List N} {before after : List (Mark N)} {nonce : N}
    (h : Single nonces (before ++ .issued nonce :: after)) : opened nonces before = [] := by
  induction before generalizing nonces with
  | nil => exact h.1
  | cons m ms ih =>
      cases m with
      | issued n =>
          obtain ⟨rfl, h⟩ := h
          exact ih h
      | answered n => exact ih h

section Runs

variable (next : σ → M → σ) (events : σ → M → List (Mark N))

/-- The marks of a run. -/
def marks : σ → List M → List (Mark N)
  | _, [] => []
  | s, m :: ms => events s m ++ marks (next s m) ms

variable {next events} {I : σ → List N → List M → Prop}

/-- **Runs.**  What every move keeps, all moves keep, and none of them issues a challenge
while another one is open. -/
theorem marks_induction
    (hstep : ∀ s nonces m ms, I s nonces (m :: ms) →
      Single nonces (events s m) ∧ I (next s m) (opened nonces (events s m)) ms) :
    ∀ (ms : List M) {s : σ} {nonces : List N}, I s nonces ms →
      Single nonces (marks next events s ms) ∧
        I (ms.foldl next s) (opened nonces (marks next events s ms)) [] := by
  intro ms
  induction ms with
  | nil => exact fun h => ⟨trivial, h⟩
  | cons m ms ih =>
      intro s nonces h
      obtain ⟨hsingle, hkept⟩ := hstep s nonces m ms h
      obtain ⟨hsingle', hkept'⟩ := ih hkept
      rw [marks, opened_append]
      exact ⟨single_append hsingle hsingle', hkept'⟩

end Runs

end Challenges
