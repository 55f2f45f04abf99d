import CulpeoStream.Lib.Async

/-!
# One call, watched among others

What is to hold at every point that a call comes to may depend on what its actions have brought
so far, and on the point itself.  `Prog.Safe` is the judgement for the rest of such a call: it
goes forward from a state, and before each step the other calls may have moved the state within
`rely`.

`watched_run` takes the judgement to runs, in which the other calls meet a contract.
`closed_safe` gives it for whole methods that keep an invariant of what has been brought.
-/

namespace Resumption

variable {σ O A ρ β : Type}

/-- What a call is watched for. -/
structure Watch (σ O A ρ β : Type) where
  /-- What the other calls may do to the state. -/
  rely : σ → σ → Prop
  /-- What an action of the call brings when it is answered. -/
  note : O → A → Option β
  /-- What is assumed of all that has been brought. -/
  assume : List β → Prop
  /-- What is to hold at a point of the call. -/
  holds : List β → σ → Prog σ O A ρ → Prop

namespace Prog

/-- The rest of a call is safe, from a state and after what it has brought. -/
def Safe (W : Watch σ O A ρ β) : Prog σ O A ρ → List β → σ → Prop
  | .ret result, log, s => ∀ t, W.rely s t → W.holds log t (.ret result)
  | .locked update next, log, s => ∀ t, W.rely s t →
      W.holds log t (.locked update next) ∧ (next t).Safe W log (update t)
  | .call out next, log, s => ∀ t, W.rely s t → W.holds log t (.call out next) ∧
      ∀ a, W.assume (log ++ (W.note out a).toList) →
        (next a).Safe W (log ++ (W.note out a).toList) t

/-- The points that a call can come to, with the actions performed on the way and their
answers. -/
inductive Leads (p : Prog σ O A ρ) : List (O × A) → Prog σ O A ρ → Prop where
  | refl : Leads p [] p
  | locked {trace : List (O × A)} {update : σ → σ} {next : σ → Prog σ O A ρ} (s : σ) :
      Leads p trace (.locked update next) → Leads p trace (next s)
  | call {trace : List (O × A)} {out : O} {next : A → Prog σ O A ρ} (a : A) :
      Leads p trace (.call out next) → Leads p (trace ++ [(out, a)]) (next a)

variable {W : Watch σ O A ρ β} {p : Prog σ O A ρ} {log : List β} {s t : σ}

theorem Safe.mono (htrans : ∀ s t r, W.rely s t → W.rely t r → W.rely s r)
    (h : p.Safe W log s) (hst : W.rely s t) : p.Safe W log t := by
  cases p with
  | ret result => exact fun r hr => h r (htrans s t r hst hr)
  | locked update next => exact fun r hr => h r (htrans s t r hst hr)
  | call out next => exact fun r hr => h r (htrans s t r hst hr)

theorem Safe.holds (hrefl : ∀ s, W.rely s s) (h : p.Safe W log s) : W.holds log s p := by
  cases p with
  | ret result => exact h s (hrefl s)
  | locked update next => exact (h s (hrefl s)).1
  | call out next => exact (h s (hrefl s)).1

end Prog

/-! ### Methods that keep an invariant -/

section Invariant

variable {W : Watch σ O A ρ β} {I : List β → σ → Prop}

/-- What the action brings does not end the invariant. -/
def Watch.Harmless (W : Watch σ O A ρ β) (I : List β → σ → Prop) (out : O) : Prop :=
  ∀ a log s, I log s → I (log ++ (W.note out a).toList) s

/-- At the points `At`, an invariant that the others keep is enough. -/
theorem closed_safe (At : List β → Prog σ O A ρ → Prop)
    (hrely : ∀ log s t, I log s → W.rely s t → I log t)
    (hlocked : ∀ log update next s, At log (.locked update next) → At log (next s))
    (hcall : ∀ log out next a, At log (.call out next) →
      At (log ++ (W.note out a).toList) (next a))
    (hholds : ∀ log s p, I log s → At log p → W.holds log s p) :
    Async.Closed (fun s t => ∀ log, I log s → I log t) (W.Harmless I)
      (fun p => ∀ log s, At log p → I log s → p.Safe W log s) where
  locked hrel hnext log s hat hs t hst :=
    have ht := hrely log s t hs hst
    ⟨hholds log t _ ht hat, hnext t log _ (hlocked log _ _ t hat) (hrel t log ht)⟩
  call hout hnext log s hat hs t hst :=
    have ht := hrely log s t hs hst
    ⟨hholds log t _ ht hat, fun a _ => hnext a _ t (hcall log _ _ a hat) (hout a log t ht)⟩

/-- An invariant that is enough at every point. -/
theorem closed_safe_everywhere (hrely : ∀ log s t, I log s → W.rely s t → I log t)
    (hholds : ∀ log s p, I log s → W.holds log s p) :
    Async.Closed (fun s t => ∀ log, I log s → I log t) (W.Harmless I)
      (fun p : Prog σ O A ρ => ∀ log s, I log s → p.Safe W log s) where
  locked hrel hnext log s hs t hst :=
    have ht := hrely log s t hs hst
    ⟨hholds log t _ ht, hnext t log _ (hrel t log ht)⟩
  call hout hnext log s hs t hst :=
    have ht := hrely log s t hs hst
    ⟨hholds log t _ ht, fun a _ => hnext a _ t (hout a log t ht)⟩

/-- A call that has returned. -/
theorem Prog.safe_ret (hrely : ∀ log s t, I log s → W.rely s t → I log t)
    (hholds : ∀ log s p, I log s → W.holds log s p) (result : ρ) (log : List β) (s : σ)
    (hs : I log s) : (Prog.ret result).Safe W log s :=
  fun t hst => hholds log t _ (hrely log s t hs hst)

end Invariant

/-! ### Runs -/

section Runs

variable {C : Type} {enter : C → σ → σ × Prog σ O A ρ} {W : Watch σ O A ρ β}
  {K : Contract σ O A}

/-- What the first call of a pool brings. -/
def Watch.first (W : Watch σ O A ρ β) (i : ℕ) (out : O) (a : A) : Option β :=
  if i = 0 then W.note out a else none

/-- The first call is watched, and the others meet a contract. -/
def Watched (W : Watch σ O A ρ β) (K : Contract σ O A) (log : List β)
    (cfg : Config σ O A ρ) : Prop :=
  OneAt 0 (fun p => p.Safe W log cfg.shared) (fun p => p.Meets K) cfg.pool

/-- The contract of the others fits the watch on the first call. -/
structure Fits (enter : C → σ → σ × Prog σ O A ρ) (W : Watch σ O A ρ β)
    (K : Contract σ O A) : Prop where
  refl : ∀ s, W.rely s s
  trans : ∀ s t r, W.rely s t → W.rely t r → W.rely s r
  rely : ∀ s t, K.rel s t → W.rely s t
  inv : ∀ log s p, W.holds log s p → K.inv s
  enter : ∀ c s, K.inv s → K.Holds s (enter c s)
  answers : ∀ out a, K.ans out a
  assume : ∀ log log', W.assume (log ++ log') → W.assume log

theorem watched_step (hfits : Fits enter W K) {log : List β} {cfg : Config σ O A ρ}
    (h : Watched W K log cfg) (m : Move C A) (hassume : W.assume (log ++ answer W.first cfg m)) :
    Watched W K (log ++ answer W.first cfg m) (step enter cfg m) := by
  obtain ⟨p, hp, hsafe, hothers⟩ := id h
  have hinv : K.inv cfg.shared := hfits.inv _ _ _ (hsafe.holds hfits.refl)
  cases m with
  | enter c =>
      obtain ⟨-, hrel, hmeets⟩ := hfits.enter c cfg.shared hinv
      rw [answer, List.append_nil]
      exact (h.imp fun p hp => hp.mono hfits.trans (hfits.rely _ _ hrel)).concat hmeets
  | resume i a =>
      rcases Nat.eq_zero_or_pos i with rfl | hi
      · cases p with
        | ret result =>
            rw [answer_ret hp, List.append_nil, step_ret hp]
            exact h
        | locked update next =>
            rw [answer_locked hp, List.append_nil, step_locked hp]
            exact h.set_self (hsafe _ (hfits.refl _)).2
        | call out next =>
            have hnote : (W.first 0 out a).toList = (W.note out a).toList := rfl
            rw [answer_call hp, hnote] at hassume ⊢
            rw [step_call hp]
            exact h.set_self ((hsafe _ (hfits.refl _)).2 a hassume)
      · -- The step of another call is one that the first call relies on.
        have hne : i ≠ 0 := Nat.pos_iff_ne_zero.mp hi
        cases hq : cfg.pool[i]? with
        | none =>
            simp only [answer, step, hq, List.append_nil]
            exact h
        | some q =>
            have hmeets := hothers i q hne hq
            cases q with
            | ret result =>
                rw [answer_ret hq, List.append_nil, step_ret hq]
                exact h
            | locked update next =>
                obtain ⟨-, hrel, hnext⟩ := hmeets cfg.shared hinv
                rw [answer_locked hq, List.append_nil, step_locked hq]
                exact (h.imp fun p hp => hp.mono hfits.trans (hfits.rely _ _ hrel)).set_ne hne hnext
            | call out next =>
                have hnone : W.first i out a = none := if_neg hne
                rw [answer_call hq, hnone, Option.toList_none, List.append_nil, step_call hq]
                exact h.set_ne hne (hmeets.2 a (hfits.answers out a))

/-- **A call that is safe stays so**, in every run whose answers bring what is assumed. -/
theorem watched_run (hfits : Fits enter W K) (moves : List (Move C A)) :
    ∀ {log : List β} {cfg : Config σ O A ρ}, Watched W K log cfg →
      W.assume (log ++ answered enter W.first cfg moves) →
      Watched W K (log ++ answered enter W.first cfg moves) (run enter cfg moves) := by
  induction moves with
  | nil =>
      intro log cfg h _
      rwa [answered, List.append_nil]
  | cons m ms ih =>
      intro log cfg h hassume
      rw [answered, ← List.append_assoc] at hassume ⊢
      exact ih (watched_step hfits h m (hfits.assume _ _ hassume)) hassume

/-- What holds at the point that the watched call has come to. -/
theorem Watched.holds {log : List β} {cfg : Config σ O A ρ} (hrefl : ∀ s, W.rely s s)
    (h : Watched W K log cfg) : ∃ p, cfg.pool[0]? = some p ∧ W.holds log cfg.shared p := by
  obtain ⟨p, hp, hsafe, -⟩ := h
  exact ⟨p, hp, hsafe.holds hrefl⟩

end Runs

end Resumption
