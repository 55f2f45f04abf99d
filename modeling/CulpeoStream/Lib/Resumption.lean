import Mathlib.Data.List.Basic
import Mathlib.Algebra.BigOperators.Group.List.Basic
import Mathlib.Algebra.GroupWithZero.Nat

/-!
# Calls on a mutex-protected object

A call on an object guarded by one mutex alternates between *critical sections*,
which read and write the shared state with the mutex held, and *external actions*
made with the mutex released: transport sends and callbacks, whose answers decide
how the call goes on.  `Prog` is the rest of such a call, as a tree of these two
kinds of steps.

* `Prog.exec` runs a call alone, against a sequence of answers.
* `Config`, `step` and `run` run any number of calls together.  A move either
  enters a new call, which performs its first critical section, or lets one call
  of the pool take its next step, so a list of moves is an interleaving at the
  granularity of critical sections and external actions.

Two proof rules cover the invariants of such systems.  `Prog.Meets` is a
rely-guarantee contract in which every critical section keeps one invariant and
stays within one relation (`run_kept`).  `Prog.Within` is a budget: the shared
state holds some potential, a call that is under way holds some budget, external
actions cost, and critical sections can only trade one for the other
(`run_cost_le`).  The second rule bounds how often an action can happen over a
whole interleaving.
-/

namespace Resumption

universe u v w x y

variable {σ : Type u} {O : Type v} {A : Type w} {α : Type x} {C : Type y}

/-- The rest of a call. -/
inductive Prog (σ : Type u) (O : Type v) (A : Type w) (α : Type x) where
  /-- The call has returned. -/
  | ret (result : α)
  /-- Acquire the mutex, update the state, release the mutex.  The continuation
  sees the state the section started from. -/
  | locked (update : σ → σ) (next : σ → Prog σ O A α)
  /-- Perform an external action without the mutex and go on with its answer. -/
  | call (out : O) (next : A → Prog σ O A α)

namespace Prog

/-- A critical section that computes the new state together with the rest of the
call. -/
def critical (body : σ → σ × Prog σ O A α) : Prog σ O A α :=
  .locked (fun s => (body s).1) fun s => (body s).2

end Prog

/-! ### A call alone -/

/-- What a call leaves behind when it has returned. -/
structure Outcome (σ : Type u) (O : Type v) (α : Type x) where
  state : σ
  outputs : List O
  result : α

namespace Prog

/-- Run a call to its end with nothing else going on; `answers n` is the answer to
its `n`-th external action. -/
def exec : Prog σ O A α → (ℕ → A) → σ → Outcome σ O α
  | .ret result, _, s => ⟨s, [], result⟩
  | .locked update next, answers, s => (next s).exec answers (update s)
  | .call out next, answers, s =>
      let rest := (next (answers 0)).exec (fun n => answers (n + 1)) s
      ⟨rest.state, out :: rest.outputs, rest.result⟩

@[simp] theorem exec_ret (result : α) (answers : ℕ → A) (s : σ) :
    (Prog.ret result : Prog σ O A α).exec answers s = ⟨s, [], result⟩ := rfl

@[simp] theorem exec_locked (update : σ → σ) (next : σ → Prog σ O A α) (answers : ℕ → A)
    (s : σ) : (Prog.locked update next).exec answers s = (next s).exec answers (update s) := rfl

@[simp] theorem exec_critical (body : σ → σ × Prog σ O A α) (answers : ℕ → A) (s : σ) :
    (critical body).exec answers s = (body s).2.exec answers (body s).1 := rfl

@[simp] theorem exec_call_state (out : O) (next : A → Prog σ O A α) (answers : ℕ → A) (s : σ) :
    ((Prog.call out next).exec answers s).state =
      ((next (answers 0)).exec (fun n => answers (n + 1)) s).state := rfl

@[simp] theorem exec_call_outputs (out : O) (next : A → Prog σ O A α) (answers : ℕ → A)
    (s : σ) : ((Prog.call out next).exec answers s).outputs =
      out :: ((next (answers 0)).exec (fun n => answers (n + 1)) s).outputs := rfl

@[simp] theorem exec_call_result (out : O) (next : A → Prog σ O A α) (answers : ℕ → A) (s : σ) :
    ((Prog.call out next).exec answers s).result =
      ((next (answers 0)).exec (fun n => answers (n + 1)) s).result := rfl

end Prog

/-! ### Calls together -/

/-- The shared state, the calls entered so far, and the external actions performed. -/
structure Config (σ : Type u) (O : Type v) (A : Type w) (α : Type x) where
  shared : σ
  pool : List (Prog σ O A α)
  trace : List O

/-- A scheduling decision. -/
inductive Move (C : Type y) (A : Type w) where
  /-- A new call performs its first critical section. -/
  | enter (c : C)
  /-- The `i`-th call takes its next step; `answer` is the answer to it when it is
  an external action. -/
  | resume (i : ℕ) (answer : A)

/-- One step of the interleaving.  A move to a call that has returned, or that was
never entered, changes nothing. -/
def step (enter : C → σ → σ × Prog σ O A α) (cfg : Config σ O A α) :
    Move C A → Config σ O A α
  | .enter c =>
      { cfg with shared := (enter c cfg.shared).1, pool := cfg.pool ++ [(enter c cfg.shared).2] }
  | .resume i answer =>
      match cfg.pool[i]? with
      | some (.locked update next) =>
          { cfg with shared := update cfg.shared, pool := cfg.pool.set i (next cfg.shared) }
      | some (.call out next) =>
          { cfg with pool := cfg.pool.set i (next answer), trace := cfg.trace ++ [out] }
      | _ => cfg

section Resume

variable {enter : C → σ → σ × Prog σ O A α} {cfg : Config σ O A α} {i : ℕ} {answer : A}

theorem step_ret {result : α} (hi : cfg.pool[i]? = some (.ret result)) :
    step enter cfg (.resume i answer) = cfg := by
  simp only [step, hi]

theorem step_locked {update : σ → σ} {next : σ → Prog σ O A α}
    (hi : cfg.pool[i]? = some (.locked update next)) :
    step enter cfg (.resume i answer) =
      { cfg with shared := update cfg.shared, pool := cfg.pool.set i (next cfg.shared) } := by
  simp only [step, hi]

theorem step_call {out : O} {next : A → Prog σ O A α}
    (hi : cfg.pool[i]? = some (.call out next)) :
    step enter cfg (.resume i answer) =
      { cfg with pool := cfg.pool.set i (next answer), trace := cfg.trace ++ [out] } := by
  simp only [step, hi]

end Resume

/-- What the step of a call can do. -/
theorem step_resume_cases {enter : C → σ → σ × Prog σ O A α} (cfg : Config σ O A α) (i : ℕ)
    (answer : A) :
    step enter cfg (.resume i answer) = cfg ∨
    (∃ update next, cfg.pool[i]? = some (.locked update next) ∧
      step enter cfg (.resume i answer) =
        { cfg with shared := update cfg.shared, pool := cfg.pool.set i (next cfg.shared) }) ∨
    (∃ out next, cfg.pool[i]? = some (.call out next) ∧
      step enter cfg (.resume i answer) =
        { cfg with pool := cfg.pool.set i (next answer), trace := cfg.trace ++ [out] }) := by
  cases hi : cfg.pool[i]? with
  | none => exact .inl (by simp only [step, hi])
  | some p =>
      cases p with
      | ret result => exact .inl (step_ret hi)
      | locked update next => exact .inr (.inl ⟨update, next, rfl, step_locked hi⟩)
      | call out next => exact .inr (.inr ⟨out, next, rfl, step_call hi⟩)

/-- Run an interleaving. -/
def run (enter : C → σ → σ × Prog σ O A α) (cfg : Config σ O A α) (moves : List (Move C A)) :
    Config σ O A α :=
  moves.foldl (step enter) cfg

variable {enter : C → σ → σ × Prog σ O A α}

@[simp] theorem run_nil (cfg : Config σ O A α) : run enter cfg [] = cfg := rfl

@[simp] theorem run_cons (cfg : Config σ O A α) (m : Move C A) (ms : List (Move C A)) :
    run enter cfg (m :: ms) = run enter (step enter cfg m) ms := rfl

theorem run_append (cfg : Config σ O A α) (ms ms' : List (Move C A)) :
    run enter cfg (ms ++ ms') = run enter (run enter cfg ms) ms' :=
  List.foldl_append

/-- A property of every step of an interleaving. -/
def Along (enter : C → σ → σ × Prog σ O A α) (P : Config σ O A α → Move C A → Prop) :
    Config σ O A α → List (Move C A) → Prop
  | _, [] => True
  | cfg, m :: ms => P cfg m ∧ Along enter P (step enter cfg m) ms

theorem Along.imp {P Q : Config σ O A α → Move C A → Prop} (h : ∀ cfg m, P cfg m → Q cfg m) :
    ∀ (ms : List (Move C A)) {cfg : Config σ O A α}, Along enter P cfg ms →
      Along enter Q cfg ms := by
  intro ms
  induction ms with
  | nil => intro cfg _; trivial
  | cons m ms ih =>
      rintro cfg ⟨hm, hms⟩
      exact ⟨h cfg m hm, ih hms⟩

theorem along_append {P : Config σ O A α → Move C A → Prop} {ms ms' : List (Move C A)}
    {cfg : Config σ O A α} :
    Along enter P cfg (ms ++ ms') ↔
      Along enter P cfg ms ∧ Along enter P (run enter cfg ms) ms' := by
  induction ms generalizing cfg with
  | nil => simp [Along]
  | cons m ms ih => simp only [List.cons_append, Along, ih, run_cons, and_assoc]

/-- **Induction along an interleaving.**  What one admitted step keeps, an admitted
run keeps. -/
theorem run_induction {P : Config σ O A α → Move C A → Prop} {I : Config σ O A α → Prop}
    (hstep : ∀ cfg m, I cfg → P cfg m → I (step enter cfg m)) :
    ∀ (ms : List (Move C A)) {cfg : Config σ O A α}, I cfg → Along enter P cfg ms →
      I (run enter cfg ms) := by
  intro ms
  induction ms with
  | nil => intro cfg h _; exact h
  | cons m ms ih =>
      rintro cfg h ⟨hm, hms⟩
      exact ih (hstep cfg m h hm) hms

/-! ### What the answers bring -/

section Answered

variable {β : Type y}

/-- What a move brings, when it answers an action of a call. -/
def answer (f : ℕ → O → A → Option β) (cfg : Config σ O A α) : Move C A → List β
  | .enter _ => []
  | .resume i a =>
      match cfg.pool[i]? with
      | some (.call out _) => (f i out a).toList
      | _ => []

/-- What the answers of an interleaving bring, one after another. -/
def answered (enter : C → σ → σ × Prog σ O A α) (f : ℕ → O → A → Option β) :
    Config σ O A α → List (Move C A) → List β
  | _, [] => []
  | cfg, m :: ms => answer f cfg m ++ answered enter f (step enter cfg m) ms

section Answer

variable {f : ℕ → O → A → Option β} {cfg : Config σ O A α} {i : ℕ} {a : A}

theorem answer_ret {result : α} (hi : cfg.pool[i]? = some (.ret result)) :
    answer f cfg (.resume i a : Move C A) = [] := by
  simp only [answer, hi]

theorem answer_locked {update : σ → σ} {next : σ → Prog σ O A α}
    (hi : cfg.pool[i]? = some (.locked update next)) :
    answer f cfg (.resume i a : Move C A) = [] := by
  simp only [answer, hi]

theorem answer_call {out : O} {next : A → Prog σ O A α}
    (hi : cfg.pool[i]? = some (.call out next)) :
    answer f cfg (.resume i a : Move C A) = (f i out a).toList := by
  simp only [answer, hi]

end Answer

/-- Induction along an interleaving, for an invariant that speaks of what has been brought. -/
theorem answered_induction {f : ℕ → O → A → Option β} {P : Config σ O A α → Move C A → Prop}
    {I : Config σ O A α → List β → Prop}
    (hstep : ∀ cfg l m, I cfg l → P cfg m → I (step enter cfg m) (l ++ answer f cfg m)) :
    ∀ (ms : List (Move C A)) {cfg : Config σ O A α} {l : List β}, I cfg l → Along enter P cfg ms →
      I (run enter cfg ms) (l ++ answered enter f cfg ms) := by
  intro ms
  induction ms with
  | nil =>
      intro cfg l h _
      rwa [answered, List.append_nil]
  | cons m ms ih =>
      rintro cfg l h ⟨hm, hms⟩
      rw [answered, ← List.append_assoc]
      exact ih (hstep cfg l m h hm) hms

end Answered

/-! ### One call among others -/

section OneAmong

variable {β : Type v} {P P' Q : β → Prop} {l : List β} {x : β}

/-- The member at a place has a property, and every other member has another. -/
def OneAt (i : ℕ) (P Q : β → Prop) (l : List β) : Prop :=
  ∃ x, l[i]? = some x ∧ P x ∧ ∀ (j : ℕ) (y : β), j ≠ i → l[j]? = some y → Q y

/-- One member of a list has a property, and every other member has another. -/
def OneAmong (P Q : β → Prop) (l : List β) : Prop := ∃ i, OneAt i P Q l

theorem OneAt.imp {i : ℕ} (h : OneAt i P Q l) (himp : ∀ x, P x → P' x) : OneAt i P' Q l := by
  obtain ⟨x, hi, hx, hothers⟩ := h
  exact ⟨x, hi, himp x hx, hothers⟩

theorem OneAmong.imp (h : OneAmong P Q l) (himp : ∀ x, P x → P' x) : OneAmong P' Q l := by
  obtain ⟨i, h⟩ := h
  exact ⟨i, h.imp himp⟩

theorem forall_mem_set (h : ∀ y ∈ l, Q y) (i : ℕ) (hx : Q x) : ∀ y ∈ l.set i x, Q y := by
  intro y hy
  rcases List.mem_or_eq_of_mem_set hy with hold | rfl
  · exact h y hold
  · exact hx

theorem forall_mem_concat (h : ∀ y ∈ l, Q y) (hx : Q x) : ∀ y ∈ l ++ [x], Q y :=
  List.forall_mem_append.mpr ⟨h, List.forall_mem_singleton.mpr hx⟩

/-- The one comes to others. -/
theorem oneAmong_concat (h : ∀ y ∈ l, Q y) (hx : P x) : OneAmong P Q (l ++ [x]) := by
  refine ⟨l.length, x, List.getElem?_concat_length, hx, fun j y hj hy => ?_⟩
  have hle := (List.getElem?_eq_some_iff.mp hy).1
  rw [List.length_append, List.length_singleton] at hle
  rw [List.getElem?_append_left (by omega)] at hy
  exact h y (List.mem_of_getElem? hy)

/-- One of the others becomes the one. -/
theorem oneAt_set (h : ∀ y ∈ l, Q y) {i : ℕ} (hi : i < l.length) (hx : P x) :
    OneAt i P Q (l.set i x) := by
  refine ⟨x, List.getElem?_set_self hi, hx, fun j y hj hy => ?_⟩
  rw [List.getElem?_set_ne (Ne.symm hj)] at hy
  exact h y (List.mem_of_getElem? hy)

/-- Another one comes. -/
theorem OneAt.concat {i : ℕ} (h : OneAt i P Q l) (hx : Q x) : OneAt i P Q (l ++ [x]) := by
  obtain ⟨y, hi, hy, hothers⟩ := h
  have hlt := (List.getElem?_eq_some_iff.mp hi).1
  refine ⟨y, by rw [List.getElem?_append_left hlt, hi], hy, fun j z hj hz => ?_⟩
  rw [List.getElem?_append] at hz
  split at hz
  · exact hothers j z hj hz
  · rw [List.getElem?_singleton] at hz
    obtain ⟨-, hnew⟩ := Option.ite_none_right_eq_some.mp hz
    cases hnew
    exact hx

theorem OneAmong.concat (h : OneAmong P Q l) (hx : Q x) : OneAmong P Q (l ++ [x]) := by
  obtain ⟨i, h⟩ := h
  exact ⟨i, h.concat hx⟩

/-- The one takes a step, after which it has another property. -/
theorem OneAt.set_self {i : ℕ} (h : OneAt i P Q l) {R : β → Prop} (hx : R x) :
    OneAt i R Q (l.set i x) := by
  obtain ⟨y, hi, -, hothers⟩ := h
  refine ⟨x, List.getElem?_set_self (List.getElem?_eq_some_iff.mp hi).1, hx, fun j z hj hz => ?_⟩
  rw [List.getElem?_set_ne (Ne.symm hj)] at hz
  exact hothers j z hj hz

/-- The one becomes like the others. -/
theorem OneAt.forall_set {i : ℕ} (h : OneAt i P Q l) (hx : Q x) : ∀ z ∈ l.set i x, Q z := by
  intro z hz
  obtain ⟨y, hi, -, hothers⟩ := h.set_self hx
  obtain ⟨j, hj⟩ := List.mem_iff_getElem?.mp hz
  by_cases hji : j = i
  · obtain ⟨_, hself, -⟩ := h
    have hlt := (List.getElem?_eq_some_iff.mp hself).1
    rw [hji, List.getElem?_set_self hlt, Option.some.injEq] at hj
    rw [← hj]
    exact hx
  · exact hothers j z hji hj

/-- One of the others takes a step. -/
theorem OneAt.set_ne {i k : ℕ} (h : OneAt i P Q l) (hk : k ≠ i) (hx : Q x) :
    OneAt i P Q (l.set k x) := by
  obtain ⟨y, hi, hy, hothers⟩ := h
  refine ⟨y, by rw [List.getElem?_set_ne hk, hi], hy, fun j z hj hz => ?_⟩
  by_cases hji : k = j
  · have hlt : j < (l.set k x).length := (List.getElem?_eq_some_iff.mp hz).1
    rw [List.length_set] at hlt
    rw [hji, List.getElem?_set_self hlt, Option.some.injEq] at hz
    rw [← hz]
    exact hx
  · rw [List.getElem?_set_ne hji] at hz
    exact hothers j z hj hz

/-- A member takes a step: it is the one, which may become like the others, or it is one of
the others. -/
theorem OneAmong.set (h : OneAmong P Q l) {i : ℕ} (hi : l[i]? = some x) :
    (P x ∧ (∀ R : β → Prop, ∀ y, R y → OneAmong R Q (l.set i y)) ∧
      ∀ R : β → Prop, (∀ z, Q z → R z) → ∀ y, R y → ∀ z ∈ l.set i y, R z) ∨
    (Q x ∧ ∀ y, Q y → OneAmong P Q (l.set i y)) := by
  obtain ⟨k, hone⟩ := h
  obtain ⟨y, hk, hy, hothers⟩ := id hone
  by_cases hik : i = k
  · subst hik
    rw [hi, Option.some.injEq] at hk
    subst hk
    refine .inl ⟨hy, fun R y hy => ⟨i, hone.set_self hy⟩, fun R hQR y hRy => ?_⟩
    have hone' : OneAt i P R l := ⟨x, hi, hy, fun j z hj hz => hQR z (hothers j z hj hz)⟩
    exact hone'.forall_set hRy
  · exact .inr ⟨hothers i x hik hi, fun y hQy => ⟨k, hone.set_ne hik hQy⟩⟩

end OneAmong

section Once

variable {β : Type y}

/-! ### Calls that bring something once -/

/-- The rest of a call brings nothing more. -/
def Prog.Never (f : O → A → Option β) : Prog σ O A α → Prop
  | .ret _ => True
  | .locked _ next => ∀ s, (next s).Never f
  | .call out next => ∀ a, f out a = none ∧ (next a).Never f

/-- The rest of a call brings at most one thing. -/
def Prog.Once (f : O → A → Option β) : Prog σ O A α → Prop
  | .ret _ => True
  | .locked _ next => ∀ s, (next s).Once f
  | .call out next => ∀ a, if f out a = none then (next a).Once f else (next a).Never f

theorem Prog.Never.once {f : O → A → Option β} {p : Prog σ O A α} (h : p.Never f) :
    p.Once f := by
  induction p with
  | ret result => trivial
  | locked update next ih => exact fun s => ih s (h s)
  | call out next ih =>
      intro a
      rw [if_pos (h a).1]
      exact ih a (h a).2

theorem Prog.once_call_of_none {f : O → A → Option β} {out : O} {next : A → Prog σ O A α}
    (hout : ∀ a, f out a = none) (h : ∀ a, (next a).Once f) : (Prog.call out next).Once f := by
  intro a
  rw [if_pos (hout a)]
  exact h a

/-- The things brought so far are of different calls, and these bring nothing more. -/
structure Brought (f : ℕ → O → A → Option β) (call : β → ℕ) (cfg : Config σ O A α)
    (bs : List β) : Prop where
  nodup : (bs.map call).Nodup
  entered : ∀ b ∈ bs, call b < cfg.pool.length
  once : ∀ i (p : Prog σ O A α), cfg.pool[i]? = some p → p.Once (f i)
  never : ∀ b ∈ bs, ∀ p : Prog σ O A α, cfg.pool[call b]? = some p → p.Never (f (call b))

section Brought

variable {f : ℕ → O → A → Option β} {call : β → ℕ} {cfg : Config σ O A α} {bs : List β}

theorem Brought.concat_call (h : Brought f call cfg bs) {c : C}
    (hc : ∀ i, (enter c cfg.shared).2.Once (f i)) :
    Brought f call (step enter cfg (.enter c)) bs where
  nodup := h.nodup
  entered b hb := by
    have hlt := h.entered b hb
    simp only [step, List.length_append, List.length_singleton]
    omega
  once i p hi := by
    rw [step, List.getElem?_append] at hi
    split at hi
    · exact h.once i p hi
    · rw [List.getElem?_singleton] at hi
      obtain ⟨-, hnew⟩ := Option.ite_none_right_eq_some.mp hi
      cases hnew
      exact hc i
  never b hb p hi := by
    rw [step, List.getElem?_append_left (h.entered b hb)] at hi
    exact h.never b hb p hi

/-- A call goes on without bringing anything. -/
theorem Brought.set (h : Brought f call cfg bs) {i : ℕ} {p q : Prog σ O A α}
    (hi : cfg.pool[i]? = some p) (honce : p.Once (f i) → q.Once (f i))
    (hnever : p.Never (f i) → q.Never (f i)) (s : σ) (t : List O) :
    Brought f call ⟨s, cfg.pool.set i q, t⟩ bs where
  nodup := h.nodup
  entered b hb := by
    rw [List.length_set]
    exact h.entered b hb
  once j r hj := by
    by_cases hij : i = j
    · subst hij
      rw [List.getElem?_set_self (List.getElem?_eq_some_iff.mp hi).1, Option.some.injEq] at hj
      rw [← hj]
      exact honce (h.once i p hi)
    · rw [List.getElem?_set_ne hij] at hj
      exact h.once j r hj
  never b hb r hj := by
    by_cases hij : i = call b
    · subst hij
      rw [List.getElem?_set_self (List.getElem?_eq_some_iff.mp hi).1, Option.some.injEq] at hj
      rw [← hj]
      exact hnever (h.never b hb p hi)
    · rw [List.getElem?_set_ne hij] at hj
      exact h.never b hb r hj

theorem Brought.concat (h : Brought f call cfg bs) {b : β} (hlt : call b < cfg.pool.length)
    (hnew : call b ∉ bs.map call)
    (hnever : ∀ p : Prog σ O A α, cfg.pool[call b]? = some p → p.Never (f (call b))) :
    Brought f call cfg (bs ++ [b]) where
  nodup := by
    rw [List.map_append, List.map_singleton]
    refine List.nodup_append.mpr ⟨h.nodup, List.pairwise_singleton _ _, fun i hi j hj => ?_⟩
    rw [List.mem_singleton.mp hj]
    exact fun heq => hnew (heq ▸ hi)
  entered := forall_mem_concat h.entered hlt
  once := h.once
  never := forall_mem_concat h.never hnever

/-- **Calls that bring something once.**  What an interleaving of such calls brings is of
different calls. -/
theorem answered_nodup (hcall : ∀ i out a b, f i out a = some b → call b = i)
    (henter : ∀ c s i, (enter c s).2.Once (f i)) (s : σ) (ms : List (Move C A)) :
    ((answered enter f ⟨s, [], []⟩ ms).map call).Nodup := by
  have hstep : ∀ cfg bs (m : Move C A), Brought f call cfg bs → True →
      Brought f call (step enter cfg m) (bs ++ answer f cfg m) := by
    intro cfg bs m h _
    cases m with
    | enter c =>
        rw [answer, List.append_nil]
        exact h.concat_call (henter c cfg.shared)
    | resume i a =>
        cases hi : cfg.pool[i]? with
        | none =>
            simp only [step, answer, hi, List.append_nil]
            exact h
        | some p =>
            cases p with
            | ret result =>
                rw [step_ret hi, answer_ret hi, List.append_nil]
                exact h
            | locked update next =>
                rw [step_locked hi, answer_locked hi, List.append_nil]
                exact h.set hi (fun honce => honce _) (fun hnever => hnever _) _ _
            | call out next =>
                rw [step_call hi, answer_call hi]
                have honce := h.once i _ hi a
                cases hf : f i out a with
                | none =>
                    rw [hf, if_pos rfl] at honce
                    rw [Option.toList_none, List.append_nil]
                    exact h.set hi (fun _ => honce) (fun hnever => (hnever a).2) _ _
                | some b =>
                    rw [hf, if_neg nofun] at honce
                    have hb := hcall i out a b hf
                    have hlt := (List.getElem?_eq_some_iff.mp hi).1
                    -- A call that has brought something does not do so again.
                    have hnew : call b ∉ bs.map call := by
                      intro hmem
                      obtain ⟨b', hb', heq⟩ := List.mem_map.mp hmem
                      have hnever := h.never b' hb' _ (by rw [heq, hb, hi])
                      rw [heq, hb] at hnever
                      exact nomatch (hnever a).1.symm.trans hf
                    refine (h.set hi (fun _ => honce.once) (fun hnever => (hnever a).2) _
                      (cfg.trace ++ [out])).concat ?_ hnew fun p hp => ?_
                    · rw [List.length_set, hb]
                      exact hlt
                    · rw [hb, List.getElem?_set_self hlt, Option.some.injEq] at hp
                      rw [← hp, hb]
                      exact honce
  have halong : ∀ (ms : List (Move C A)) (cfg : Config σ O A α),
      Along enter (fun _ _ => True) cfg ms := by
    intro ms
    induction ms with
    | nil => exact fun _ => trivial
    | cons m ms ih => exact fun _ => ⟨trivial, ih _⟩
  have hbegin : Brought f call (⟨s, [], []⟩ : Config σ O A α) [] :=
    ⟨List.nodup_nil, nofun, nofun, nofun⟩
  have hend := answered_induction hstep ms hbegin (halong ms _)
  rw [List.nil_append] at hend
  exact hend.nodup

end Brought

end Once

/-! ### Contracts -/

/-- What every call of a system promises: its critical sections keep `inv` and
stay within `rel`, and its external actions satisfy `out`, as long as actions are
answered within `ans`. -/
structure Contract (σ : Type u) (O : Type v) (A : Type w) where
  inv : σ → Prop
  rel : σ → σ → Prop
  out : O → Prop
  ans : O → A → Prop

/-- The rest of a call keeps a contract, whatever the other calls do in between. -/
def Prog.Meets (K : Contract σ O A) : Prog σ O A α → Prop
  | .ret _ => True
  | .locked update next =>
      ∀ s, K.inv s → K.inv (update s) ∧ K.rel s (update s) ∧ (next s).Meets K
  | .call out next => K.out out ∧ ∀ a, K.ans out a → (next a).Meets K

/-- A critical section together with what follows it keeps a contract. -/
def Contract.Holds (K : Contract σ O A) (s : σ) (r : σ × Prog σ O A α) : Prop :=
  K.inv r.1 ∧ K.rel s r.1 ∧ r.2.Meets K

theorem Prog.meets_critical {K : Contract σ O A} {body : σ → σ × Prog σ O A α}
    (h : ∀ s, K.inv s → K.Holds s (body s)) : (critical body).Meets K :=
  h

/-- A call that keeps a contract and runs alone. -/
theorem Prog.Meets.exec {K : Contract σ O A} (hans : ∀ o a, K.ans o a) :
    ∀ {p : Prog σ O A α}, p.Meets K → ∀ {s : σ}, K.inv s → ∀ answers,
      K.inv (p.exec answers s).state ∧ ∀ o ∈ (p.exec answers s).outputs, K.out o := by
  intro p
  induction p with
  | ret result => intro _ s hs _; exact ⟨hs, nofun⟩
  | locked update next ih => intro h s hs answers; exact ih s (h s hs).2.2 (h s hs).1 answers
  | call out next ih =>
      rintro ⟨hout, hnext⟩ s hs answers
      obtain ⟨hinv, hrest⟩ := ih (answers 0) (hnext _ (hans _ _)) hs fun n => answers (n + 1)
      exact ⟨hinv, List.forall_mem_cons.mpr ⟨hout, hrest⟩⟩

/-- The moves under which a contract is kept: entries satisfy the guard, answers are
the ones the contract allows. -/
def Admits (K : Contract σ O A) (guard : C → σ → Prop) (cfg : Config σ O A α) :
    Move C A → Prop
  | .enter c => guard c cfg.shared
  | .resume i a => ∀ out next, cfg.pool[i]? = some (.call out next) → K.ans out a

/-- A configuration in which every call keeps the contract. -/
structure Contract.Kept (K : Contract σ O A) (cfg : Config σ O A α) : Prop where
  inv : K.inv cfg.shared
  pool : ∀ p ∈ cfg.pool, p.Meets K
  trace : ∀ o ∈ cfg.trace, K.out o

/-- One admitted step keeps the contract and, if it is a critical section, stays
within its relation. -/
theorem step_kept {K : Contract σ O A} {guard : C → σ → Prop}
    (henter : ∀ c s, K.inv s → guard c s → K.Holds s (enter c s))
    (hrefl : ∀ s, K.rel s s) {cfg : Config σ O A α} {m : Move C A} (h : K.Kept cfg)
    (hm : Admits K guard cfg m) :
    K.Kept (step enter cfg m) ∧ K.rel cfg.shared (step enter cfg m).shared := by
  cases m with
  | enter c =>
      obtain ⟨hinv, hrel, hmeets⟩ := henter c cfg.shared h.inv hm
      refine ⟨⟨hinv, fun p hp => ?_, h.trace⟩, hrel⟩
      rcases List.mem_append.mp hp with hold | hnew
      · exact h.pool p hold
      · rw [List.mem_singleton] at hnew
        rw [hnew]
        exact hmeets
  | resume i a =>
      cases hi : cfg.pool[i]? with
      | none => simpa [step, hi, hrefl] using h
      | some p =>
          have hp : p.Meets K := h.pool p (List.mem_of_getElem? hi)
          cases p with
          | ret result => simpa [step, hi, hrefl] using h
          | locked update next =>
              -- The state may have changed since the last step of this call; the contract was
              -- stated for every state that satisfies the invariant.
              obtain ⟨hinv, hrel, hnext⟩ := hp cfg.shared h.inv
              simp only [step, hi]
              refine ⟨⟨hinv, fun q hq => ?_, h.trace⟩, hrel⟩
              rcases List.mem_or_eq_of_mem_set hq with hold | rfl
              · exact h.pool q hold
              · exact hnext
          | call out next =>
              obtain ⟨hout, hnext⟩ := hp
              simp only [step, hi]
              refine ⟨⟨h.inv, fun q hq => ?_, fun o ho => ?_⟩, hrefl _⟩
              · rcases List.mem_or_eq_of_mem_set hq with hold | rfl
                · exact h.pool q hold
                · exact hnext a (hm out next hi)
              · rcases List.mem_append.mp ho with hold | hnew
                · exact h.trace o hold
                · rw [List.mem_singleton] at hnew
                  rw [hnew]
                  exact hout

/-- **Contract rule.**  A system whose calls keep a contract keeps it along every
admitted interleaving. -/
theorem run_kept {K : Contract σ O A} {guard : C → σ → Prop}
    (henter : ∀ c s, K.inv s → guard c s → K.Holds s (enter c s))
    (hrefl : ∀ s, K.rel s s) {cfg : Config σ O A α} (h : K.Kept cfg) (ms : List (Move C A))
    (hms : Along enter (Admits K guard) cfg ms) : K.Kept (run enter cfg ms) :=
  run_induction (I := K.Kept) (fun _ _ hcfg hm => (step_kept henter hrefl hcfg hm).1) ms h hms

/-- Along an admitted interleaving the shared state only moves within the relation
of the contract, when that relation is transitive. -/
theorem run_rel {K : Contract σ O A} {guard : C → σ → Prop}
    (henter : ∀ c s, K.inv s → guard c s → K.Holds s (enter c s))
    (hrefl : ∀ s, K.rel s s) (htrans : ∀ s t r, K.rel s t → K.rel t r → K.rel s r) :
    ∀ (ms : List (Move C A)) {cfg : Config σ O A α}, K.Kept cfg →
      Along enter (Admits K guard) cfg ms → K.rel cfg.shared (run enter cfg ms).shared := by
  intro ms
  induction ms with
  | nil => intro cfg _ _; exact hrefl _
  | cons m ms ih =>
      rintro cfg h ⟨hm, hms⟩
      obtain ⟨hkept, hrel⟩ := step_kept henter hrefl h hm
      exact htrans _ _ _ hrel (ih hkept hms)

/-! ### Budgets -/

/-- The rest of a call can pay for its external actions: it holds budget `b`, and a
critical section may turn potential of the state into budget. -/
def Prog.Within (pot : σ → ℕ) (cost : O → ℕ) : Prog σ O A α → ℕ → Prop
  | .ret _, _ => True
  | .locked update next, b =>
      ∀ s, ∃ b', pot (update s) + b' ≤ pot s + b ∧ (next s).Within pot cost b'
  | .call out next, b => ∃ b', cost out + b' ≤ b ∧ ∀ a, (next a).Within pot cost b'

theorem Prog.within_critical {pot : σ → ℕ} {cost : O → ℕ} {body : σ → σ × Prog σ O A α} {b : ℕ}
    (h : ∀ s, ∃ b', pot (body s).1 + b' ≤ pot s + b ∧ (body s).2.Within pot cost b') :
    (critical body).Within pot cost b :=
  h

/-- A larger budget pays for the same call. -/
theorem Prog.Within.mono {pot : σ → ℕ} {cost : O → ℕ} {p : Prog σ O A α} {b b' : ℕ}
    (h : p.Within pot cost b) (hle : b ≤ b') : p.Within pot cost b' := by
  cases p with
  | ret result => trivial
  | locked update next =>
      intro s
      obtain ⟨c, hc, hnext⟩ := h s
      exact ⟨c, by omega, hnext⟩
  | call out next =>
      obtain ⟨c, hc, hnext⟩ := h
      exact ⟨c, by omega, hnext⟩

/-- The calls of a pool hold `n` in total. -/
inductive PoolWithin (pot : σ → ℕ) (cost : O → ℕ) : ℕ → List (Prog σ O A α) → Prop where
  | nil : PoolWithin pot cost 0 []
  | cons {b n : ℕ} {p : Prog σ O A α} {pool : List (Prog σ O A α)} :
      p.Within pot cost b → PoolWithin pot cost n pool → PoolWithin pot cost (b + n) (p :: pool)

section Budget

variable {pot : σ → ℕ} {cost : O → ℕ}

theorem PoolWithin.concat {n b : ℕ} {pool : List (Prog σ O A α)} {p : Prog σ O A α}
    (h : PoolWithin pot cost n pool) (hp : p.Within pot cost b) :
    PoolWithin pot cost (n + b) (pool ++ [p]) := by
  induction h with
  | nil =>
      rw [Nat.add_comm]
      exact .cons hp .nil
  | cons hq _ ih =>
      rw [Nat.add_assoc]
      exact .cons hq ih

/-- Split off what one call of the pool holds, ready to be replaced. -/
theorem PoolWithin.split {n i : ℕ} {pool : List (Prog σ O A α)} {p : Prog σ O A α}
    (h : PoolWithin pot cost n pool) (hi : pool[i]? = some p) :
    ∃ b m, n = b + m ∧ p.Within pot cost b ∧
      ∀ b' p', p'.Within pot cost b' → PoolWithin pot cost (b' + m) (pool.set i p') := by
  induction h generalizing i with
  | nil => simp at hi
  | @cons b n q pool hq hpool ih =>
      cases i with
      | zero =>
          rw [List.getElem?_cons_zero, Option.some.injEq] at hi
          subst hi
          exact ⟨b, n, rfl, hq, fun b' p' hp' => .cons hp' hpool⟩
      | succ i =>
          rw [List.getElem?_cons_succ] at hi
          obtain ⟨c, m, hsum, hp, hset⟩ := ih hi
          refine ⟨c, b + m, by omega, hp, fun b' p' hp' => ?_⟩
          have hcons := PoolWithin.cons hq (hset b' p' hp')
          rwa [show b' + (b + m) = b + (b' + m) by omega]

/-- A configuration whose state and calls still hold enough for what is left of
the bound. -/
def Funded (pot : σ → ℕ) (cost : O → ℕ) (bound : ℕ) (cfg : Config σ O A α) : Prop :=
  ∃ n, PoolWithin pot cost n cfg.pool ∧
    pot cfg.shared + n + (cfg.trace.map cost).sum ≤ bound

theorem step_funded {guard : Config σ O A α → Move C A → Prop} {bound : ℕ}
    (henter : ∀ cfg c, guard cfg (.enter c) →
      ∃ b, pot (enter c cfg.shared).1 + b ≤ pot cfg.shared ∧
        (enter c cfg.shared).2.Within pot cost b)
    {cfg : Config σ O A α} {m : Move C A} (h : Funded pot cost bound cfg) (hm : guard cfg m) :
    Funded pot cost bound (step enter cfg m) := by
  obtain ⟨n, hpool, hbound⟩ := h
  cases m with
  | enter c =>
      obtain ⟨b, hb, hwithin⟩ := henter cfg c hm
      exact ⟨n + b, hpool.concat hwithin, by simp only [step]; omega⟩
  | resume i a =>
      cases hi : cfg.pool[i]? with
      | none => exact ⟨n, by simpa [step, hi] using hpool, by simpa [step, hi] using hbound⟩
      | some p =>
          obtain ⟨b, m, rfl, hp, hset⟩ := hpool.split hi
          cases p with
          | ret result =>
              exact ⟨b + m, by simpa [step, hi] using hpool, by simpa [step, hi] using hbound⟩
          | locked update next =>
              -- The section trades potential for budget, the pool as a whole loses nothing.
              obtain ⟨b', hb', hnext⟩ := hp cfg.shared
              simp only [step, hi]
              exact ⟨b' + m, hset b' _ hnext, by simp only; omega⟩
          | call out next =>
              obtain ⟨b', hb', hnext⟩ := hp
              simp only [step, hi]
              refine ⟨b' + m, hset b' _ (hnext a), ?_⟩
              simp only [List.map_append, List.map_cons, List.map_nil, List.sum_append,
                List.sum_cons, List.sum_nil]
              omega

/-- **Budget rule.**  If every entry pays for the call it starts out of the potential
of the state, then over a whole interleaving the external actions cost at most the
potential it started with. -/
theorem run_cost_le {guard : Config σ O A α → Move C A → Prop}
    (henter : ∀ cfg c, guard cfg (.enter c) →
      ∃ b, pot (enter c cfg.shared).1 + b ≤ pot cfg.shared ∧
        (enter c cfg.shared).2.Within pot cost b)
    (s : σ) (ms : List (Move C A))
    (hms : Along enter guard (⟨s, [], []⟩ : Config σ O A α) ms) :
    ((run enter ⟨s, [], []⟩ ms).trace.map cost).sum ≤ pot s := by
  have hinit : Funded pot cost (pot s) (⟨s, [], []⟩ : Config σ O A α) :=
    ⟨0, .nil, by simp⟩
  obtain ⟨n, -, hbound⟩ :=
    run_induction (fun _ _ h hm => step_funded henter h hm) ms hinit hms
  omega

/-- **At most once**, or any other number of times: the actions of a kind that cost one
each are bounded by the initial potential. -/
theorem run_countP_le {kind : O → Bool} {guard : Config σ O A α → Move C A → Prop}
    (henter : ∀ cfg c, guard cfg (.enter c) →
      ∃ b, pot (enter c cfg.shared).1 + b ≤ pot cfg.shared ∧
        (enter c cfg.shared).2.Within pot (fun o => if kind o then 1 else 0) b)
    (s : σ) (ms : List (Move C A))
    (hms : Along enter guard (⟨s, [], []⟩ : Config σ O A α) ms) :
    (run enter ⟨s, [], []⟩ ms).trace.countP kind ≤ pot s := by
  have hsum : ∀ os : List O, (os.map fun o => if kind o then 1 else 0).sum = os.countP kind := by
    intro os
    induction os with
    | nil => rfl
    | cons o os ih => rw [List.map_cons, List.sum_cons, ih, List.countP_cons, Nat.add_comm]
  rw [← hsum]
  exact run_cost_le henter s ms hms

end Budget

end Resumption
