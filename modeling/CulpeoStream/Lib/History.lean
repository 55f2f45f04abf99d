import Mathlib.Data.List.Induction

/-!
# Calls one after another

A state machine given by `act : C → σ → R`, the effect of a call on a state, and
`next : R → σ`, the state it leaves.  `history` lists what a run of calls does,
one `Record` a call, and `final` is the state at its end.

`history_forall` and `final_induction` are the two induction rules: an invariant
that every admitted call keeps holds at the end, and what follows of each single
call from the invariant holds of every record.  `history_induction` is for an
invariant that speaks of the records so far, and `history_split` finds the run that
leads up to a record.
-/

namespace History

universe u v w

variable {σ : Type u} {C : Type v} {R : Type w}

/-- One call of a run: the state it found, the call, and what came of it. -/
structure Record (σ : Type u) (C : Type v) (R : Type w) where
  before : σ
  call : C
  result : R

variable (act : C → σ → R) (next : R → σ)

/-- The records of a run. -/
def history : σ → List C → List (Record σ C R)
  | _, [] => []
  | s, c :: cs => ⟨s, c, act c s⟩ :: history (next (act c s)) cs

/-- The state at the end of a run. -/
def final : σ → List C → σ
  | s, [] => s
  | s, c :: cs => final (next (act c s)) cs

@[simp] theorem history_nil (s : σ) : history act next s [] = [] := rfl

@[simp] theorem history_cons (s : σ) (c : C) (cs : List C) :
    history act next s (c :: cs) = ⟨s, c, act c s⟩ :: history act next (next (act c s)) cs := rfl

@[simp] theorem final_nil (s : σ) : final act next s [] = s := rfl

@[simp] theorem final_cons (s : σ) (c : C) (cs : List C) :
    final act next s (c :: cs) = final act next (next (act c s)) cs := rfl

variable {act next} {I : σ → Prop} {G : C → Prop}

/-- **Invariants.**  What every admitted call keeps holds at the end of a run. -/
theorem final_induction (hstep : ∀ s c, I s → G c → I (next (act c s))) :
    ∀ (cs : List C) {s : σ}, I s → (∀ c ∈ cs, G c) → I (final act next s cs) := by
  intro cs
  induction cs with
  | nil => intro s h _; exact h
  | cons c cs ih =>
      intro s h hcs
      exact ih (hstep s c h (hcs c List.mem_cons_self))
        fun d hd => hcs d (List.mem_cons_of_mem c hd)

/-- An invariant may speak of the calls that are still to come. -/
theorem history_forall_rest {J : σ → List C → Prop} {P : Record σ C R → Prop}
    (hstep : ∀ s c cs, J s (c :: cs) → J (next (act c s)) cs)
    (hcall : ∀ s c cs, J s (c :: cs) → P ⟨s, c, act c s⟩) :
    ∀ (cs : List C) {s : σ}, J s cs → ∀ r ∈ history act next s cs, P r := by
  intro cs
  induction cs with
  | nil => intro s _ r hr; cases hr
  | cons c cs ih =>
      intro s h r hr
      rcases List.mem_cons.mp hr with rfl | hr
      · exact hcall s c cs h
      · exact ih (hstep s c cs h) r hr

/-- **Every call of a run.**  What an admitted call does from the invariant, every
call of a run does. -/
theorem history_forall {P : Record σ C R → Prop}
    (hstep : ∀ s c, I s → G c → I (next (act c s)))
    (hcall : ∀ s c, I s → G c → P ⟨s, c, act c s⟩) (cs : List C) {s : σ} (h : I s)
    (hcs : ∀ c ∈ cs, G c) : ∀ r ∈ history act next s cs, P r := by
  refine history_forall_rest (J := fun s cs => I s ∧ ∀ c ∈ cs, G c) ?_ ?_ cs ⟨h, hcs⟩
  · rintro s c cs ⟨hs, hc⟩
    exact ⟨hstep s c hs (hc c List.mem_cons_self), fun d hd => hc d (List.mem_cons_of_mem c hd)⟩
  · rintro s c cs ⟨hs, hc⟩
    exact hcall s c hs (hc c List.mem_cons_self)

/-! ### The records so far -/

variable (act next)

theorem history_append (cs ds : List C) (s : σ) :
    history act next s (cs ++ ds) =
      history act next s cs ++ history act next (final act next s cs) ds := by
  induction cs generalizing s with
  | nil => rfl
  | cons c cs ih =>
      rw [List.cons_append, history_cons, ih, history_cons, final_cons, List.cons_append]

theorem final_append (cs ds : List C) (s : σ) :
    final act next s (cs ++ ds) = final act next (final act next s cs) ds := by
  induction cs generalizing s with
  | nil => rfl
  | cons c cs ih => rw [List.cons_append, final_cons, ih, final_cons]

variable {act next}

/-- The records list the calls of the run. -/
@[simp] theorem map_call_history (cs : List C) (s : σ) :
    (history act next s cs).map Record.call = cs := by
  induction cs generalizing s with
  | nil => rfl
  | cons c cs ih => rw [history_cons, List.map_cons, ih]

theorem call_mem_of_mem_history {cs : List C} {s : σ} {r : Record σ C R}
    (h : r ∈ history act next s cs) : r.call ∈ cs := by
  rw [← @map_call_history σ C R act next cs s]
  exact List.mem_map_of_mem h

/-- The calls up to a record are a run that ends in the state it found. -/
theorem history_split {cs : List C} {s : σ} {pre post : List (Record σ C R)}
    {r : Record σ C R} (h : history act next s cs = pre ++ r :: post) :
    ∃ cs₁ cs₂, cs = cs₁ ++ r.call :: cs₂ ∧ pre = history act next s cs₁ ∧
      r = ⟨final act next s cs₁, r.call, act r.call (final act next s cs₁)⟩ := by
  induction pre generalizing s cs with
  | nil =>
      cases cs with
      | nil => cases h
      | cons c cs =>
          rw [history_cons, List.nil_append, List.cons.injEq] at h
          obtain ⟨rfl, -⟩ := h
          exact ⟨[], cs, rfl, rfl, rfl⟩
  | cons p pre ih =>
      cases cs with
      | nil => cases h
      | cons c cs =>
          rw [history_cons, List.cons_append, List.cons.injEq] at h
          obtain ⟨rfl, h⟩ := h
          obtain ⟨cs₁, cs₂, rfl, rfl, hr⟩ := ih h
          exact ⟨c :: cs₁, cs₂, rfl, rfl, hr⟩

/-- A record of an extended past is the last one or was there before. -/
theorem split_concat {past pre mid : List (Record σ C R)} {r g : Record σ C R}
    (h : past ++ [r] = pre ++ g :: mid) :
    (g = r ∧ mid = []) ∨ ∃ mid', mid = mid' ++ [r] ∧ past = pre ++ g :: mid' := by
  rcases List.eq_nil_or_concat mid with rfl | ⟨mid', r', rfl⟩
  · rw [List.append_inj_right' h rfl |> List.singleton_inj.mp]
    exact .inl ⟨rfl, rfl⟩
  · rw [List.concat_eq_append, ← List.cons_append, ← List.append_assoc] at h
    obtain rfl := List.singleton_inj.mp (List.append_inj_right' h rfl)
    exact .inr ⟨mid', List.concat_eq_append, List.append_inj_left' h rfl⟩

/-- **Invariants of the past.**  An invariant may speak of the records so far, when calls
are made in an order that `G` allows. -/
theorem history_induction {J : List (Record σ C R) → σ → Prop} {G : C → Prop} {T : C → C → Prop}
    {s : σ} (hstart : J [] s)
    (hstep : ∀ past s c, J past s → G c → (∀ r ∈ past, T r.call c) →
      J (past ++ [⟨s, c, act c s⟩]) (next (act c s))) (cs : List C)
    (hcs : ∀ c ∈ cs, G c) (horder : cs.Pairwise T) :
    J (history act next s cs) (final act next s cs) := by
  induction cs using List.reverseRecOn with
  | nil => exact hstart
  | append_singleton cs c ih =>
      rw [List.pairwise_append] at horder
      have hpast := ih (fun d hd => hcs d (List.mem_append_left _ hd)) horder.1
      rw [history_append, final_append]
      refine hstep _ _ c hpast (hcs c (by simp)) fun r hr => ?_
      exact horder.2.2 r.call (call_mem_of_mem_history hr) c (by simp)

end History
