import CulpeoStream.Lib.Resumption

/-!
# Run-to-completion turns

On an event loop a call is not interrupted between two external actions: it runs up to
its next action, performs it, and then waits for the answer while other calls take their
turns.  `Prog.turn` is one such stretch of a call, and a `Loop` is an object together with
the calls on it that wait.  So the interleavings of a `Loop` are those at the granularity
of external actions.

A contract carries over: a turn of a call that meets a contract keeps the invariant, stays
within the relation, and what waits afterwards meets the contract (`Prog.Meets.turn`).
-/

namespace Resumption

universe u v w x

variable {σ : Type u} {O : Type v} {A : Type w} {α : Type x}

/-- Run a call up to its next external action: the state it leaves, and the action with
what follows the answer, if the call has not returned. -/
def Prog.turn : Prog σ O A α → σ → σ × Option (O × (A → Prog σ O A α))
  | .ret _, s => (s, none)
  | .locked update next, s => (next s).turn (update s)
  | .call out next, s => (s, some (out, next))

@[simp] theorem Prog.turn_critical (body : σ → σ × Prog σ O A α) (s : σ) :
    (critical body).turn s = (body s).2.turn (body s).1 := rfl

/-- An object of an event loop, and the calls on it that wait for an answer. -/
structure Loop (σ : Type u) (O : Type v) (A : Type w) (α : Type x) where
  state : σ
  waiting : List (A → Prog σ O A α) := []

namespace Loop

/-- A call takes a turn.  The action at its end is returned as well. -/
def take (l : Loop σ O A α) (p : Prog σ O A α) : Loop σ O A α × Option O :=
  ({ state := (p.turn l.state).1
     waiting := l.waiting ++ ((p.turn l.state).2.map Prod.snd).toList },
    (p.turn l.state).2.map Prod.fst)

/-- The `i`-th call that waits is answered, and takes its next turn. -/
def answer (l : Loop σ O A α) (i : ℕ) (a : A) : Loop σ O A α × Option O :=
  match l.waiting[i]? with
  | none => (l, none)
  | some next => { l with waiting := l.waiting.eraseIdx i }.take (next a)

theorem answer_none {l : Loop σ O A α} {i : ℕ} (h : l.waiting[i]? = none) (a : A) :
    l.answer i a = (l, none) := by
  unfold answer
  rw [h]

theorem answer_some {l : Loop σ O A α} {i : ℕ} {next : A → Prog σ O A α}
    (h : l.waiting[i]? = some next) (a : A) :
    l.answer i a = { l with waiting := l.waiting.eraseIdx i }.take (next a) := by
  unfold answer
  rw [h]

end Loop

/-- **A turn of a call that meets a contract.** -/
theorem Prog.Meets.turn {K : Contract σ O A} (hrefl : ∀ s, K.rel s s)
    (htrans : ∀ s t r, K.rel s t → K.rel t r → K.rel s r) :
    ∀ {p : Prog σ O A α} {s : σ}, p.Meets K → K.inv s →
      K.inv (p.turn s).1 ∧ K.rel s (p.turn s).1 ∧
        ∀ out next, (p.turn s).2 = some (out, next) →
          K.out out ∧ ∀ a, K.ans out a → (next a).Meets K := by
  intro p
  induction p with
  | ret result =>
      intro s _ hinv
      refine ⟨hinv, hrefl s, fun out next hout => ?_⟩
      cases hout
  | locked update next ih =>
      intro s hmeets hinv
      obtain ⟨hinv', hrel, hnext⟩ := hmeets s hinv
      obtain ⟨hkept, hrel', hwaits⟩ := ih s hnext hinv'
      exact ⟨hkept, htrans _ _ _ hrel hrel', hwaits⟩
  | call out next _ =>
      intro s hmeets hinv
      refine ⟨hinv, hrefl s, fun out' next' hout => ?_⟩
      cases hout
      exact hmeets

end Resumption
