import CulpeoStream.Session.Lifecycle

/-!
# The way of a `culpeo.init`

A `culpeo.init` is read, the credentials are put to the authentication callback, and only
then is the handshake decided, in `completeInit`.  `act_init` says so for a call that runs
from its beginning to its end: either the init gets as far as the decision (`InitRead`),
and the outcome is that of the decision, or the session does not get established.
-/

namespace CulpeoStream.Session

open Message Resumption

section Init

variable {setup : Setup} {f : ParsedHeadersView}

/-- A frame with the event `culpeo.init` is handled by `handle_init`. -/
theorem enter_init {inv : Invocation} (hcall : inv.call = .processControlFrame f)
    (hinit : inv.call.DeliversInit) (s : Impl) :
    enter setup inv s = handleInit setup inv.ambient f s := by
  have hvalid : isValidEventName (ascii "culpeo.init") = true := by decide
  rw [hcall, Call.DeliversInit, Call.controlEvent] at hinit
  split at hinit
  · rename_i htype
    rw [Option.some.injEq] at hinit
    rw [enter, hcall]
    simp only [processControlFrame, htype, hinit, hvalid, dispatch, ne_eq, not_true_eq_false,
      and_false, Bool.not_true, Bool.false_eq_true, if_false, if_true]
  · cases hinit

/-- The init gets as far as the decision: the session is new, the body and the version are
accepted, and so are the credentials. -/
def InitRead (setup : Setup) (answers : ℕ → Bool) (f : ParsedHeadersView) (s : Impl)
    (bodyJson : Json) (version : Bytes) : Prop :=
  s.state = .uninitialized ∧ (setup.callbacks.onAuthValidate = true → answers 0 = true) ∧
    parseInitBody setup f.body = .ok (bodyJson, version)

/-- The state in which the decision on a handshake leaves the session. -/
def decided (setup : Setup) (amb : Ambient) (f : ParsedHeadersView) (bodyJson : Json)
    (version : Bytes) (s : Impl) : Impl :=
  ((completeInit setup amb f bodyJson version s).2.exec (fun _ => true)
    (completeInit setup amb f bodyJson version s).1).state

/-- The decision does not depend on the answers to its external actions. -/
theorem completeInit_exec_state (amb : Ambient) (bodyJson : Json) (version : Bytes)
    (answers : ℕ → Bool) (s : Impl) :
    ((completeInit setup amb f bodyJson version s).2.exec answers
      (completeInit setup amb f bodyJson version s).1).state =
        decided setup amb f bodyJson version s := by
  unfold decided
  rcases completeInit_cases setup amb f bodyJson version s with ⟨r, registry, h, -⟩ | ⟨e, h, -⟩
  · rw [h]
    simp only [exec_rejectInit]
  · rw [h, finalizeEstablished]
    simp only [exec_reply]

/-- **A `culpeo.init` from its beginning to its end.** -/
theorem act_init {turn : Turn} (hcall : turn.invocation.call = .processControlFrame f)
    (hinit : turn.invocation.call.DeliversInit) (s : Impl) :
    (∃ bodyJson version, InitRead setup turn.answers f s bodyJson version ∧
      (turn.act setup s).state = decided setup turn.invocation.ambient f bodyJson version
        { s with state := .initializing }) ∨
    ((∀ bodyJson version, ¬ InitRead setup turn.answers f s bodyJson version) ∧
      (turn.act setup s).state.state ≠ .established) := by
  rw [Turn.act, perform, enter_init hcall hinit, handleInit]
  by_cases hstate : s.state = .uninitialized
  · rw [if_neg (not_not.mpr hstate)]
    cases hbody : parseInitBody setup f.body with
    | error r => exact .inr (by simp [exec_rejectInit, InitRead, hbody])
    | ok read =>
        obtain ⟨bodyJson, version⟩ := read
        simp only
        cases hauth : setup.callbacks.onAuthValidate with
        | false =>
            refine .inl ⟨bodyJson, version, ⟨hstate, by simp [hauth], hbody⟩, ?_⟩
            simp only [Bool.false_eq_true, if_false]
            exact completeInit_exec_state _ _ _ _ _
        | true =>
            rcases afterAuthValidate_cases setup turn.invocation.ambient f bodyJson version
              (turn.answers 0) { s with state := .initializing } with
              ⟨hclosed, -⟩ | ⟨-, hverdict, r, h⟩ | ⟨-, hverdict, h⟩
            · cases hclosed
            · refine .inr ⟨fun _ _ hread => ?_, ?_⟩
              · exact Bool.false_ne_true (hverdict.symm.trans (hread.2.1 hauth))
              · simp [Prog.exec_call_state, h, exec_rejectInit]
            · refine .inl ⟨bodyJson, version, ⟨hstate, fun _ => hverdict, hbody⟩, ?_⟩
              simp only [if_true, Prog.exec_call_state, Prog.exec_critical, h]
              exact completeInit_exec_state _ _ _ _ _
  · rw [if_pos hstate]
    exact .inr (by simp [exec_rejectInit, InitRead, hstate])

end Init

end CulpeoStream.Session
