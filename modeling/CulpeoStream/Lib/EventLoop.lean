import CulpeoStream.Lib.Resumption

/-!
# Event loops

Asynchronous calls on one object.  A call runs without interruption up to the next action
whose answer it awaits, and goes on when that action is settled; in between, other calls
run.  Some actions are not awaited, but answered on the spot: `instant` says which, and how.
`Prog.stretch` is one uninterrupted stretch, and a run is a list of moves, each of which
starts a call or settles the action that one of the suspended calls awaits.

A `Policy` is an invariant of the object and of the actions so far, together with the moves
under which it is kept.  `Prog.Upholds` states what a call has to do: its stretches keep the
invariant, whatever other calls do while it is suspended, and change the object only within
a relation (`run_kept`, `run_rel`).
-/

namespace EventLoop

open Resumption

universe u v w x y

variable {σ : Type u} {O : Type v} {A : Type w} {α : Type x} {C : Type y}

/-- Where a stretch ends: the call has returned, or awaits an action. -/
inductive Outlook (σ : Type u) (O : Type v) (A : Type w) (α : Type x) where
  | returned (result : α)
  | awaits (action : O) (resume : A → Prog σ O A α)

structure Stretch (σ : Type u) (O : Type v) (A : Type w) (α : Type x) where
  state : σ
  actions : List O
  outlook : Outlook σ O A α

section Stretches

variable (instant : O → Option A)

/-- Run a call up to the next action that it awaits. -/
def stretch : Prog σ O A α → σ → Stretch σ O A α
  | .ret result, s => ⟨s, [], .returned result⟩
  | .locked update next, s => stretch (next s) (update s)
  | .call action next, s =>
      match instant action with
      | some a =>
          ⟨(stretch (next a) s).state, action :: (stretch (next a) s).actions,
            (stretch (next a) s).outlook⟩
      | none => ⟨s, [action], .awaits action next⟩

@[simp] theorem stretch_ret (result : α) (s : σ) :
    stretch instant (.ret result : Prog σ O A α) s = ⟨s, [], .returned result⟩ := rfl

@[simp] theorem stretch_critical (body : σ → σ × Prog σ O A α) (s : σ) :
    stretch instant (.critical body) s = stretch instant (body s).2 (body s).1 := rfl

/-- **A stretch of a call that meets a contract** which allows the answers given on the
spot. -/
theorem stretch_meets {K : Contract σ O A} (hans : ∀ out a, instant out = some a → K.ans out a)
    (hrefl : ∀ s, K.rel s s) (htrans : ∀ s t r, K.rel s t → K.rel t r → K.rel s r) :
    ∀ {p : Prog σ O A α} {s : σ}, p.Meets K → K.inv s →
      K.inv (stretch instant p s).state ∧ K.rel s (stretch instant p s).state ∧
        (∀ out ∈ (stretch instant p s).actions, K.out out) ∧
        ∀ action resume, (stretch instant p s).outlook = .awaits action resume →
          K.out action ∧ ∀ a, K.ans action a → (resume a).Meets K := by
  intro p
  induction p with
  | ret result =>
      intro s _ hinv
      refine ⟨hinv, hrefl s, fun out hout => absurd hout List.not_mem_nil, ?_⟩
      intro action resume hawaits
      cases hawaits
  | locked update next ih =>
      intro s hmeets hinv
      obtain ⟨hinv', hrel, hnext⟩ := hmeets s hinv
      obtain ⟨hkept, hrel', hrest⟩ := ih s hnext hinv'
      exact ⟨hkept, htrans _ _ _ hrel hrel', hrest⟩
  | call action next ih =>
      rintro s ⟨hout, hnext⟩ hinv
      cases ha : instant action with
      | some a =>
          obtain ⟨hkept, hrel, houts, hawaits⟩ := ih a (hnext a (hans action a ha)) hinv
          simp only [stretch, ha]
          exact ⟨hkept, hrel, List.forall_mem_cons.mpr ⟨hout, houts⟩, hawaits⟩
      | none =>
          simp only [stretch, ha]
          refine ⟨hinv, hrefl s, List.forall_mem_singleton.mpr hout, fun action' resume h => ?_⟩
          cases h
          exact ⟨hout, hnext⟩

end Stretches

/-- A suspended call: what was called, what it awaits, and how it goes on. -/
structure Suspended (σ : Type u) (O : Type v) (A : Type w) (α : Type x) (C : Type y) where
  call : C
  action : O
  resume : A → Prog σ O A α

/-- An object, the suspended calls on it, and the actions performed so far. -/
structure Loop (σ : Type u) (O : Type v) (A : Type w) (α : Type x) (C : Type y) where
  state : σ
  suspended : List (Suspended σ O A α C) := []
  trace : List O := []

inductive Move (C : Type y) (A : Type w) where
  /-- A call is made. -/
  | enter (c : C)
  /-- The action that the `i`-th suspended call awaits is settled. -/
  | settle (i : ℕ) (answer : A)

section Runs

variable (instant : O → Option A) (program : C → Prog σ O A α)

/-- A call takes a stretch. -/
def advance (l : Loop σ O A α C) (c : C) (p : Prog σ O A α) : Loop σ O A α C where
  state := (stretch instant p l.state).state
  suspended := l.suspended ++
    match (stretch instant p l.state).outlook with
    | .returned _ => []
    | .awaits action resume => [⟨c, action, resume⟩]
  trace := l.trace ++ (stretch instant p l.state).actions

theorem advance_congr {l : Loop σ O A α C} {c : C} {p q : Prog σ O A α}
    (h : stretch instant p l.state = stretch instant q l.state) :
    advance instant l c p = advance instant l c q := by
  unfold advance
  rw [h]

/-- One move.  Nothing happens when there is no such suspended call. -/
def step (l : Loop σ O A α C) : Move C A → Loop σ O A α C
  | .enter c => advance instant l c (program c)
  | .settle i a =>
      match l.suspended[i]? with
      | none => l
      | some w => advance instant { l with suspended := l.suspended.eraseIdx i } w.call (w.resume a)

def run (l : Loop σ O A α C) (moves : List (Move C A)) : Loop σ O A α C :=
  moves.foldl (step instant program) l

theorem run_append (l : Loop σ O A α C) (moves moves' : List (Move C A)) :
    run instant program l (moves ++ moves') =
      run instant program (run instant program l moves) moves' :=
  List.foldl_append

/-- A property of every move of a run. -/
def Along (P : Loop σ O A α C → Move C A → Prop) :
    Loop σ O A α C → List (Move C A) → Prop
  | _, [] => True
  | l, m :: ms => P l m ∧ Along P (step instant program l m) ms

theorem along_append {P : Loop σ O A α C → Move C A → Prop} {moves moves' : List (Move C A)}
    {l : Loop σ O A α C} :
    Along instant program P l (moves ++ moves') ↔
      Along instant program P l moves ∧
        Along instant program P (run instant program l moves) moves' := by
  induction moves generalizing l with
  | nil => simp [Along, run]
  | cons m ms ih =>
      rw [List.cons_append, Along, ih, Along, and_assoc]
      rfl

end Runs

/-! ### Policies -/

/-- An invariant of the object and of the actions so far, how the object may change in a
stretch, and which moves are admitted. -/
structure Policy (σ : Type u) (O : Type v) (A : Type w) (C : Type y) where
  inv : σ → List O → Prop
  rel : σ → σ → Prop
  refl : ∀ s, rel s s
  trans : ∀ s t r, rel s t → rel t r → rel s r
  enters : C → σ → Prop
  settles : C → O → A → σ → Prop

/-- A call keeps the invariant over its stretch, and over those that follow, whatever other
calls do in between. -/
def Upholds (instant : O → Option A) (P : Policy σ O A C) (c : C) :
    Prog σ O A α → σ → List O → Prop
  | .ret _, s, trace => P.inv s trace
  | .locked update next, s, trace =>
      P.rel s (update s) ∧ Upholds instant P c (next s) (update s) trace
  | .call action next, s, trace =>
      match instant action with
      | some a => Upholds instant P c (next a) s (trace ++ [action])
      | none => P.inv s (trace ++ [action]) ∧
          ∀ a t later, P.rel s t → P.inv t later → P.settles c action a t →
            Upholds instant P c (next a) t later

section Rules

variable {instant : O → Option A} {program : C → Prog σ O A α} {P : Policy σ O A C}

/-- What a critical section leaves behind: a change within the relation, and a call that
goes on to keep the invariant. -/
def Leaves (instant : O → Option A) (P : Policy σ O A C) (c : C) (s : σ) (trace : List O)
    (r : σ × Prog σ O A α) : Prop :=
  P.rel s r.1 ∧ Upholds instant P c r.2 r.1 trace

theorem upholds_critical {c : C} {body : σ → σ × Prog σ O A α} {s : σ} {trace : List O}
    (h : Leaves instant P c s trace (body s)) :
    Upholds instant P c (.critical body) s trace :=
  h

theorem upholds_awaits {c : C} {action : O} (ha : instant action = none)
    {next : A → Prog σ O A α} {s : σ} {trace : List O} (hinv : P.inv s (trace ++ [action]))
    (h : ∀ a t later, P.rel s t → P.inv t later → P.settles c action a t →
      Upholds instant P c (next a) t later) :
    Upholds instant P c (.call action next) s trace := by
  rw [Upholds, ha]
  exact ⟨hinv, h⟩

theorem Leaves.after {c : C} {s t : σ} {trace : List O} {r : σ × Prog σ O A α}
    (hrel : P.rel s t) (h : Leaves instant P c t trace r) : Leaves instant P c s trace r :=
  ⟨P.trans _ _ _ hrel h.1, h.2⟩

/-- A suspended call can be resumed in any state reached from `s`. -/
def Ready (instant : O → Option A) (P : Policy σ O A C) (s : σ)
    (w : Suspended σ O A α C) : Prop :=
  ∀ a t later, P.rel s t → P.inv t later → P.settles w.call w.action a t →
    Upholds instant P w.call (w.resume a) t later

theorem Ready.mono {s t : σ} {w : Suspended σ O A α C} (h : Ready instant P s w)
    (hrel : P.rel s t) : Ready instant P t w :=
  fun a r later hr => h a r later (P.trans _ _ _ hrel hr)

/-- **One stretch.** -/
theorem Upholds.stretch {c : C} : ∀ {p : Prog σ O A α} {s : σ} {trace : List O},
    Upholds instant P c p s trace →
      P.rel s (stretch instant p s).state ∧
        P.inv (stretch instant p s).state (trace ++ (stretch instant p s).actions) ∧
        ∀ action resume, (stretch instant p s).outlook = .awaits action resume →
          Ready instant P (stretch instant p s).state ⟨c, action, resume⟩ := by
  intro p
  induction p with
  | ret result =>
      intro s trace h
      refine ⟨P.refl s, ?_, fun action resume hawaits => ?_⟩
      · rw [EventLoop.stretch, List.append_nil]
        exact h
      · cases hawaits
  | locked update next ih =>
      rintro s trace ⟨hrel, hnext⟩
      obtain ⟨hrel', hinv, hready⟩ := ih s hnext
      exact ⟨P.trans _ _ _ hrel hrel', hinv, hready⟩
  | call action next ih =>
      intro s trace h
      cases ha : instant action with
      | some a =>
          simp only [Upholds, ha] at h
          obtain ⟨hrel, hinv, hready⟩ := ih a h
          simp only [EventLoop.stretch, ha]
          refine ⟨hrel, ?_, hready⟩
          rwa [List.append_assoc, List.singleton_append] at hinv
      | none =>
          simp only [Upholds, ha] at h
          simp only [EventLoop.stretch, ha]
          refine ⟨P.refl s, h.1, fun action' resume hawaits => ?_⟩
          cases hawaits
          exact h.2

/-- A loop that keeps a policy. -/
structure Kept (instant : O → Option A) (P : Policy σ O A C) (l : Loop σ O A α C) : Prop where
  inv : P.inv l.state l.trace
  ready : ∀ w ∈ l.suspended, Ready instant P l.state w

/-- The moves that a policy admits. -/
def Policy.Admits (P : Policy σ O A C) (l : Loop σ O A α C) : Move C A → Prop
  | .enter c => P.enters c l.state
  | .settle i a => ∀ w, l.suspended[i]? = some w → P.settles w.call w.action a l.state

theorem advance_kept {l : Loop σ O A α C} {c : C} {p : Prog σ O A α} (h : Kept instant P l)
    (hp : Upholds instant P c p l.state l.trace) :
    Kept instant P (advance instant l c p) ∧ P.rel l.state (advance instant l c p).state := by
  obtain ⟨hrel, hinv, hready⟩ := hp.stretch
  refine ⟨⟨hinv, fun w hw => ?_⟩, hrel⟩
  rcases List.mem_append.mp hw with hold | hnew
  · exact (h.ready w hold).mono hrel
  · cases houtlook : (EventLoop.stretch instant p l.state).outlook with
    | returned result =>
        rw [houtlook] at hnew
        cases hnew
    | awaits action resume =>
        rw [houtlook, List.mem_singleton] at hnew
        rw [hnew]
        exact hready action resume houtlook

/-- **One admitted move** keeps the policy, and changes the object within its relation. -/
theorem step_kept
    (hprogram : ∀ c s trace, P.inv s trace → P.enters c s →
      Upholds instant P c (program c) s trace)
    {l : Loop σ O A α C} {m : Move C A} (h : Kept instant P l) (hm : P.Admits l m) :
    Kept instant P (step instant program l m) ∧
      P.rel l.state (step instant program l m).state := by
  cases m with
  | enter c => exact advance_kept h (hprogram c l.state l.trace h.inv hm)
  | settle i a =>
      cases hi : l.suspended[i]? with
      | none =>
          simp only [step, hi]
          exact ⟨h, P.refl _⟩
      | some w =>
          simp only [step, hi]
          have hready := h.ready w (List.mem_of_getElem? hi)
          refine advance_kept ⟨h.inv, fun v hv => h.ready v (List.mem_of_mem_eraseIdx hv)⟩ ?_
          exact hready a l.state l.trace (P.refl _) h.inv (hm w hi)

/-- **Runs.**  An admitted run keeps the policy, and changes the object within its
relation. -/
theorem run_kept
    (hprogram : ∀ c s trace, P.inv s trace → P.enters c s →
      Upholds instant P c (program c) s trace) :
    ∀ (moves : List (Move C A)) {l : Loop σ O A α C}, Kept instant P l →
      Along instant program P.Admits l moves →
      Kept instant P (run instant program l moves) ∧
        P.rel l.state (run instant program l moves).state := by
  intro moves
  induction moves with
  | nil => exact fun h _ => ⟨h, P.refl _⟩
  | cons m ms ih =>
      rintro l h ⟨hm, hms⟩
      obtain ⟨hkept, hrel⟩ := step_kept hprogram h hm
      obtain ⟨hkept', hrel'⟩ := ih hkept hms
      exact ⟨hkept', P.trans _ _ _ hrel hrel'⟩

end Rules

end EventLoop
