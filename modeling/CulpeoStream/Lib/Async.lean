import CulpeoStream.Lib.Resumption

/-!
# Asynchronous methods

An asynchronous method is given what its caller goes on to do with its result, or with the
exception that it throws.  It takes steps on the shared state and awaits actions, so that with
its caller it is the rest of a call.

`Keeps` is a judgement on methods: whatever the results are that a caller is good for, the
method with that caller is good as well.  It is put together along the text of a method, for
every property of rests that is `Closed` under the steps and the actions of the method.
-/

namespace Resumption

variable {σ O A ρ ε α β : Type}

/-- A method, as a function of what follows it. -/
def Async (σ O A ρ ε α : Type) : Type := (Except ε α → Prog σ O A ρ) → Prog σ O A ρ

namespace Async

instance : Monad (Async σ O A ρ ε) where
  pure a next := next (.ok a)
  bind x f next := x fun
    | .ok a => f a next
    | .error e => next (.error e)

instance : MonadExcept ε (Async σ O A ρ ε) where
  throw e next := next (.error e)
  tryCatch x handler next := x fun
    | .ok a => next (.ok a)
    | .error e => handler e next

/-- Catch whatever is thrown. -/
def attempt (x : Async σ O A ρ ε α) : Async σ O A ρ ε (Except ε α) :=
  fun next => x fun r => next (.ok r)

/-- What `last` does is done in any case, before the result or the exception goes on. -/
def ensuring (x : Async σ O A ρ ε α) (last : Async σ O A ρ ε Unit) : Async σ O A ρ ε α :=
  fun next => x fun r => last fun
    | .ok _ => next r
    | .error e => next (.error e)

/-- One step on the shared state. -/
def step (body : σ → σ × Except ε α) : Async σ O A ρ ε α :=
  fun next => .critical fun s => ((body s).1, next (body s).2)

def update (f : σ → σ) : Async σ O A ρ ε Unit := step fun s => (f s, .ok ())

def read (f : σ → α) : Async σ O A ρ ε α := step fun s => (s, .ok (f s))

/-- Await an action, whose answer is a result or an exception. -/
def await (out : O) (answer : A → Except ε α) : Async σ O A ρ ε α :=
  fun next => .call out fun a => next (answer a)

/-! ### A method and what follows it -/

section Apply

variable {x : Async σ O A ρ ε α} {next : Except ε α → Prog σ O A ρ}

@[simp] theorem pure_apply (a : α) : (pure a : Async σ O A ρ ε α) next = next (.ok a) := rfl

@[simp] theorem throw_apply (e : ε) :
    (throw e : Async σ O A ρ ε α) next = next (.error e) := rfl

@[simp] theorem bind_apply (f : α → Async σ O A ρ ε β) (next : Except ε β → Prog σ O A ρ) :
    (x >>= f) next = x fun
      | .ok a => f a next
      | .error e => next (.error e) := rfl

@[simp] theorem attempt_apply (next : Except ε (Except ε α) → Prog σ O A ρ) :
    x.attempt next = x fun r => next (.ok r) := rfl

@[simp] theorem step_apply (body : σ → σ × Except ε α) :
    step body next = .critical fun s => ((body s).1, next (body s).2) := rfl

@[simp] theorem update_apply (f : σ → σ) (next : Except ε Unit → Prog σ O A ρ) :
    update f next = .critical fun s => (f s, next (.ok ())) := rfl

@[simp] theorem read_apply (f : σ → α) : read f next = .critical fun s => (s, next (.ok (f s))) :=
  rfl

@[simp] theorem await_apply (out : O) (answer : A → Except ε α) :
    await out answer next = .call out fun a => next (answer a) := rfl

end Apply

/-! ### Judgements on methods -/

/-- A property of rests that steps within a relation, and actions of a kind, take over from
what follows them. -/
structure Closed (rel : σ → σ → Prop) (out : O → Prop) (Good : Prog σ O A ρ → Prop) :
    Prop where
  locked : ∀ {update : σ → σ} {next : σ → Prog σ O A ρ}, (∀ s, rel s (update s)) →
    (∀ s, Good (next s)) → Good (.locked update next)
  call : ∀ {action : O} {next : A → Prog σ O A ρ}, out action → (∀ a, Good (next a)) →
    Good (.call action next)

theorem Closed.narrow {rel rel' : σ → σ → Prop} {out out' : O → Prop}
    {Good : Prog σ O A ρ → Prop} (h : Closed rel out Good) (hrel : ∀ s t, rel' s t → rel s t)
    (hout : ∀ action, out' action → out action) : Closed rel' out' Good where
  locked hlocked hnext := h.locked (fun s => hrel s _ (hlocked s)) hnext
  call hcall hnext := h.call (hout _ hcall) hnext

/-- What meets a contract is closed under the steps and actions that the contract allows. -/
theorem closed_meets (K : Contract σ O A) :
    Closed (fun s t => K.inv s → K.inv t ∧ K.rel s t) K.out
      (fun p : Prog σ O A ρ => p.Meets K) where
  locked hrel hnext s hs := ⟨(hrel s hs).1, (hrel s hs).2, hnext s⟩
  call hout hnext := ⟨hout, fun a _ => hnext a⟩

/-- The method is good, with every caller that is good for all its results. -/
def Keeps (Good : Prog σ O A ρ → Prop) (x : Async σ O A ρ ε α) : Prop :=
  ∀ next, (∀ r, Good (next r)) → Good (x next)

section Keeps

variable {rel : σ → σ → Prop} {out : O → Prop} {Good : Prog σ O A ρ → Prop}
  {x : Async σ O A ρ ε α} {f : α → Async σ O A ρ ε β}

theorem keeps_pure (a : α) : Keeps Good (pure a : Async σ O A ρ ε α) :=
  fun _ hnext => hnext _

theorem keeps_throw (e : ε) : Keeps Good (throw e : Async σ O A ρ ε α) :=
  fun _ hnext => hnext _

theorem Keeps.bind (h : Keeps Good x) (hf : ∀ a, Keeps Good (f a)) : Keeps Good (x >>= f) := by
  refine fun next hnext => h _ fun r => ?_
  cases r with
  | ok a => exact hf a next hnext
  | error e => exact hnext _

theorem Keeps.attempt (h : Keeps Good x) : Keeps Good x.attempt :=
  fun _ hnext => h _ fun _ => hnext _

theorem Keeps.ensuring (h : Keeps Good x) {last : Async σ O A ρ ε Unit}
    (hlast : Keeps Good last) : Keeps Good (x.ensuring last) := by
  refine fun next hnext => h _ fun r => hlast _ fun r' => ?_
  cases r' with
  | ok _ => exact hnext r
  | error e => exact hnext _

theorem Closed.step (h : Closed rel out Good) {body : σ → σ × Except ε α}
    (hrel : ∀ s, rel s (body s).1) : Keeps Good (step body) :=
  fun _ hnext => h.locked hrel fun _ => hnext _

theorem Closed.update (h : Closed rel out Good) {f : σ → σ} (hrel : ∀ s, rel s (f s)) :
    Keeps Good (update f : Async σ O A ρ ε Unit) :=
  h.step hrel

theorem Closed.read (h : Closed rel out Good) (hrefl : ∀ s, rel s s) (f : σ → α) :
    Keeps Good (read f : Async σ O A ρ ε α) :=
  h.step hrefl

theorem Closed.await (h : Closed rel out Good) {action : O} (hout : out action)
    (answer : A → Except ε α) : Keeps Good (await action answer) :=
  fun _ hnext => h.call hout fun _ => hnext _

end Keeps

end Async

end Resumption
