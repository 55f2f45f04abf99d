import CulpeoStream.Lib.Watch

/-!
# Conditions before and after a method

A call that is watched is put together from methods.  `Triple W P x Q` says that the method `x`,
begun after a log and from a state with `P`, is safe up to its result, and that the result, the
log and the state then have `Q`, so that whatever is safe from `Q` may follow.

A condition has to stand what the other calls do (`Stable`), as they may take their steps at
every point.  A method that keeps a condition is one in the sense of `Async.Keeps`, so that the
rules for those are used where nothing is learnt from a method (`Triple.of_keeps`).
-/

namespace Resumption

variable {σ O A ρ ε α β γ : Type}

/-- A condition at which a watched call can be held up: the other calls keep it, and it is
enough for what is to hold before a step or an action. -/
structure Stable (W : Watch σ O A ρ β) (P : List β → σ → Prop) : Prop where
  rely : ∀ {log s t}, P log s → W.rely s t → P log t
  locked : ∀ {log s} update next, P log s → W.holds log s (.locked update next)
  call : ∀ {log s} out next, P log s → W.holds log s (.call out next)

/-- What is closed under the steps and actions that keep a condition. -/
theorem Stable.closed {W : Watch σ O A ρ β} {P : List β → σ → Prop} (hP : Stable W P) :
    Async.Closed (fun s t => ∀ log, P log s → P log t) (fun out => ∀ a, W.note out a = none)
      (fun p : Prog σ O A ρ => ∀ log s, P log s → p.Safe W log s) where
  locked hrel hnext log _ hs t hst :=
    have ht := hP.rely hs hst
    ⟨hP.locked _ _ ht, hnext t log _ (hrel t log ht)⟩
  call hout hnext log _ hs t hst := by
    have ht := hP.rely hs hst
    refine ⟨hP.call _ _ ht, fun a _ => ?_⟩
    rw [hout a, Option.toList_none, List.append_nil]
    exact hnext a log t ht

namespace Async

/-- From `P`, the method is safe with every caller that is safe from `Q`. -/
def Triple (W : Watch σ O A ρ β) (P : List β → σ → Prop) (x : Async σ O A ρ ε α)
    (Q : Except ε α → List β → σ → Prop) : Prop :=
  ∀ next, (∀ r log s, Q r log s → (next r).Safe W log s) →
    ∀ log s, P log s → (x next).Safe W log s

section Rules

variable {W : Watch σ O A ρ β} {P P' : List β → σ → Prop} {x : Async σ O A ρ ε α}
  {Q Q' : Except ε α → List β → σ → Prop}

theorem Triple.weaken (h : Triple W P x Q) (hP : ∀ log s, P' log s → P log s)
    (hQ : ∀ r log s, Q r log s → Q' r log s) : Triple W P' x Q' :=
  fun next hnext log s hs =>
    h next (fun r log s hr => hnext r log s (hQ r log s hr)) log s (hP log s hs)

/-- A method that is good wherever a condition holds keeps the condition. -/
theorem Triple.of_keeps (h : Keeps (fun p => ∀ log s, P log s → p.Safe W log s) x) :
    Triple W P x fun _ => P :=
  h

theorem triple_pure {a : α} (h : ∀ log s, P log s → Q (.ok a) log s) :
    Triple W P (pure a) Q :=
  fun _ hnext log s hs => hnext _ log s (h log s hs)

theorem triple_throw {e : ε} (h : ∀ log s, P log s → Q (.error e) log s) :
    Triple W P (throw e : Async σ O A ρ ε α) Q :=
  fun _ hnext log s hs => hnext _ log s (h log s hs)

theorem Triple.bind {R : Except ε α → List β → σ → Prop} {f : α → Async σ O A ρ ε γ}
    {Q : Except ε γ → List β → σ → Prop} (h : Triple W P x R)
    (hf : ∀ a, Triple W (R (.ok a)) (f a) Q)
    (herror : ∀ e log s, R (.error e) log s → Q (.error e) log s) :
    Triple W P (x >>= f) Q := by
  refine fun next hnext => h _ fun r log s hr => ?_
  cases r with
  | ok a => exact hf a next hnext log s hr
  | error e => exact hnext _ log s (herror e log s hr)

theorem Triple.attempt {R : Except ε (Except ε α) → List β → σ → Prop} (h : Triple W P x Q)
    (hR : ∀ r log s, Q r log s → R (.ok r) log s) : Triple W P x.attempt R :=
  fun _ hnext => h _ fun r log s hr => hnext _ log s (hR r log s hr)

theorem triple_step (hP : Stable W P) {body : σ → σ × Except ε α}
    (h : ∀ log s, P log s → Q (body s).2 log (body s).1) : Triple W P (step body) Q :=
  fun _ hnext log _ hs t hst =>
    have ht := hP.rely hs hst
    ⟨hP.locked _ _ ht, hnext _ log _ (h log t ht)⟩

theorem triple_read (hP : Stable W P) {f : σ → α} (h : ∀ log s, P log s → Q (.ok (f s)) log s) :
    Triple W P (read f) Q :=
  triple_step hP h

theorem triple_update (hP : Stable W P) {f : σ → σ} {Q : Except ε Unit → List β → σ → Prop}
    (h : ∀ log s, P log s → Q (.ok ()) log (f s)) :
    Triple W P (update f : Async σ O A ρ ε Unit) Q :=
  triple_step hP h

theorem triple_await (hP : Stable W P) {out : O} {answer : A → Except ε α}
    (h : ∀ log s a, P log s → W.assume (log ++ (W.note out a).toList) →
      Q (answer a) (log ++ (W.note out a).toList) s) : Triple W P (await out answer) Q :=
  fun _ hnext log _ hs t hst =>
    have ht := hP.rely hs hst
    ⟨hP.call _ _ ht, fun a hassume => hnext _ _ t (h log t a ht hassume)⟩

/-- An action that brings nothing. -/
theorem triple_await_quiet (hP : Stable W P) {out : O} {answer : A → Except ε α}
    (hquiet : ∀ a, W.note out a = none)
    (h : ∀ log s a, P log s → Q (answer a) log s) : Triple W P (await out answer) Q := by
  refine triple_await hP fun log s a hs _ => ?_
  rw [hquiet a, Option.toList_none, List.append_nil]
  exact h log s a hs

end Rules

end Async

/-! ### Runs in which calls are entered under a condition -/

section Guarded

variable {C : Type} {enter : C → σ → σ × Prog σ O A ρ} {guard : C → σ → Prop} {result : ρ}
  {W : Watch σ O A ρ β} {K : Contract σ O A}

open Classical in
/-- A call is entered where the condition holds, and returns at once elsewhere. -/
noncomputable def restrict (guard : C → σ → Prop) (enter : C → σ → σ × Prog σ O A ρ) (result : ρ)
    (c : C) (s : σ) : σ × Prog σ O A ρ :=
  if guard c s then enter c s else (s, .ret result)

/-- The condition holds for the calls that a move enters. -/
def Guarded (guard : C → σ → Prop) (cfg : Config σ O A ρ) (m : Move C A) : Prop :=
  ∀ c, m = .enter c → guard c cfg.shared

def Move.isResume : Move C A → Bool
  | .enter _ => false
  | .resume _ _ => true

/-- A condition that holds for every call. -/
theorem along_guarded (h : ∀ c s, guard c s) (moves : List (Move C A)) :
    ∀ cfg : Config σ O A ρ, Along enter (Guarded guard) cfg moves := by
  induction moves with
  | nil => exact fun _ => trivial
  | cons m ms ih => exact fun cfg => ⟨fun c _ => h c cfg.shared, ih _⟩

/-- No call is entered. -/
theorem along_guarded_of_resumes {moves : List (Move C A)}
    (h : ∀ m ∈ moves, m.isResume = true) :
    ∀ cfg : Config σ O A ρ, Along enter (Guarded guard) cfg moves := by
  induction moves with
  | nil => exact fun _ => trivial
  | cons m ms ih =>
      refine fun cfg => ⟨?_, ih (fun m' hm' => h m' (List.mem_cons_of_mem _ hm')) _⟩
      rintro c rfl
      exact absurd (h _ List.mem_cons_self) Bool.false_ne_true

theorem step_restrict {cfg : Config σ O A ρ} {m : Move C A} (h : Guarded guard cfg m) :
    step (restrict guard enter result) cfg m = step enter cfg m := by
  cases m with
  | resume i a => rfl
  | enter c =>
      have hc : restrict guard enter result c cfg.shared = enter c cfg.shared := if_pos (h c rfl)
      simp only [step, hc]

/-- **A call that is safe stays so**, in every run in which the others are entered under a
condition. -/
theorem watched_run_along (hfits : Fits (restrict guard enter result) W K)
    (moves : List (Move C A)) :
    ∀ {log : List β} {cfg : Config σ O A ρ}, Watched W K log cfg →
      Along enter (Guarded guard) cfg moves →
      W.assume (log ++ answered enter W.first cfg moves) →
      Watched W K (log ++ answered enter W.first cfg moves) (run enter cfg moves) := by
  induction moves with
  | nil =>
      intro log cfg h _ _
      rwa [answered, List.append_nil]
  | cons m ms ih =>
      rintro log cfg h ⟨hm, hms⟩ hassume
      rw [answered, ← List.append_assoc] at hassume ⊢
      have hstep := watched_step hfits h m (hfits.assume _ _ hassume)
      rw [step_restrict hm] at hstep
      exact ih hstep hms hassume

end Guarded

end Resumption
