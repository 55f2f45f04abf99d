import Mathlib.Data.List.Basic

/-!
# Machines that react

A machine takes moves, and each of them changes its state and has effects on the outside.
`run` collects the effects of a list of moves, and `Along` states a property of every move in
the state that it finds; `Throughout` is for a property that looks at the effects so far as
well.  `run_keeps` is the induction rule for an invariant of the state and of the effects so
far.
-/

namespace Reactions

universe u v w

variable {σ : Type u} {ε : Type v} {μ : Type w}

/-- A state, and the effects that have led to it. -/
abbrev Reaction (σ : Type u) (ε : Type v) := σ × List ε

/-- One reaction after another. -/
def Reaction.also (r : Reaction σ ε) (next : σ → Reaction σ ε) : Reaction σ ε :=
  ((next r.1).1, r.2 ++ (next r.1).2)

variable (step : σ → μ → Reaction σ ε)

/-- A run of the machine, with all its effects. -/
def run (s : σ) : List μ → Reaction σ ε
  | [] => (s, [])
  | m :: ms => (step s m).also fun s => run s ms

/-- A property of every move of a run. -/
def Along (P : σ → μ → Prop) : σ → List μ → Prop
  | _, [] => True
  | s, m :: ms => P s m ∧ Along P (step s m).1 ms

/-- A property of every move of a run, in the state and after the effects that it finds. -/
def Throughout (P : σ → List ε → μ → Prop) : σ → List ε → List μ → Prop
  | _, _, [] => True
  | s, effects, m :: ms =>
      P s effects m ∧ Throughout P (step s m).1 (effects ++ (step s m).2) ms

variable {step} {P : σ → μ → Prop} {I : σ → List ε → Prop}

/-- **Invariants of runs.**  What every admitted move keeps holds at the end. -/
theorem run_keeps_throughout {Q : σ → List ε → μ → Prop}
    (hstep : ∀ {s effects} m, I s effects → Q s effects m →
      I (step s m).1 (effects ++ (step s m).2)) :
    ∀ (ms : List μ) {s : σ} {effects : List ε}, I s effects → Throughout step Q s effects ms →
      I (run step s ms).1 (effects ++ (run step s ms).2) := by
  intro ms
  induction ms with
  | nil =>
      intro s effects h _
      rw [run, List.append_nil]
      exact h
  | cons m ms ih =>
      rintro s effects h ⟨hm, hms⟩
      rw [run, Reaction.also, ← List.append_assoc]
      exact ih (hstep m h hm) hms

theorem Along.throughout : ∀ {ms : List μ} {s : σ} (effects : List ε), Along step P s ms →
    Throughout step (fun s _ m => P s m) s effects ms
  | [], _, _, _ => trivial
  | _ :: _, _, _, ⟨hm, hms⟩ => ⟨hm, hms.throughout _⟩

/-- The same for a property that does not look at the effects so far. -/
theorem run_keeps (hstep : ∀ {s effects} m, I s effects → P s m →
      I (step s m).1 (effects ++ (step s m).2)) (ms : List μ) {s : σ} {effects : List ε}
    (h : I s effects) (halong : Along step P s ms) :
    I (run step s ms).1 (effects ++ (run step s ms).2) :=
  run_keeps_throughout hstep ms h (halong.throughout effects)

/-- **Runs that cannot be told apart.**  If two states react alike to every move, and stay
related by it, then their runs have the same effects. -/
theorem run_alike {R : σ → σ → Prop} (hstep : ∀ {s t} m, R s t →
      (step s m).2 = (step t m).2 ∧ R (step s m).1 (step t m).1) :
    ∀ (ms : List μ) {s t : σ}, R s t → (run step s ms).2 = (run step t ms).2 := by
  intro ms
  induction ms with
  | nil => exact fun _ => rfl
  | cons m ms ih =>
      intro s t h
      obtain ⟨heffects, hnext⟩ := hstep m h
      rw [run, run, Reaction.also, Reaction.also, heffects, ih hnext]

/-- An invariant that every move keeps. -/
theorem run_always (hstep : ∀ {s effects} m, I s effects →
      I (step s m).1 (effects ++ (step s m).2)) (ms : List μ) {s : σ} {effects : List ε}
    (h : I s effects) : I (run step s ms).1 (effects ++ (run step s ms).2) :=
  run_keeps (P := fun _ _ => True) (fun m hi _ => hstep m hi) ms h <| by
    induction ms generalizing s effects with
    | nil => trivial
    | cons m ms ih => exact ⟨trivial, ih (hstep m h)⟩

end Reactions
