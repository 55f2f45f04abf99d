import CulpeoStream.Session.Lifecycle

/-!
# Closing

What it means that a session is closed, for one thread and for many.

A closed session is silent towards all calls but two (`closed_silent_iff`): the branch
for a second `culpeo.init` and the branch for a malformed event name do not look at
the state first, although the branch for a missing `Event` and `handle_close` do.

The same two branches are what stands between the session and finality of closing.
`ClosingIsFinal` says that `closed` is not left again, that a handshake is answered at
most once and that `on_close` is called at most once; it holds along every
interleaving in which no call of the wrong kind arrives at the wrong time
(`closingIsFinal_of_orderly`).  The first part is a contract, the other two are
budgets: leaving `uninitialized` pays for one answer, closing pays for one notice.
-/

namespace CulpeoStream.Session

open Message Resumption

/-! ### One thread -/

/-- **When a closed session is silent.**  It answers a call, by frames, by closing the
transport again or by a callback, exactly when the call delivers a control frame whose
event is `culpeo.init` or malformed. -/
theorem closed_silent_iff (setup : Setup) (inv : Invocation) (answers : ℕ → Bool) (s : Impl)
    (hs : s.state = .closed) :
    (perform setup inv answers s).outputs = [] ↔
      ¬ inv.call.DeliversInit ∧ ¬ inv.call.Misnames := by
  constructor
  · intro hsilent
    rw [perform] at hsilent
    constructor
    · -- An init is answered even here, and the transport is closed once more.
      intro hinit
      rw [enter_init_of_closed hinit hs] at hsilent
      dsimp only at hsilent
      rw [exec_rejectInit] at hsilent
      cases (List.append_eq_nil_iff.mp hsilent).2
    · intro hname
      rw [enter_misnamed_of_closed hname hs] at hsilent
      dsimp only at hsilent
      rw [exec_misnamed] at hsilent
      cases (List.append_eq_nil_iff.mp hsilent).2
  · rintro ⟨hinit, hname⟩
    have henter := enter_cases setup inv s
    rw [perform]
    generalize enter setup inv s = r at henter
    cases henter with
    | returns _ _ => rfl
    | refuses h =>
        rcases h with h | ⟨-, h⟩ | ⟨h, -⟩
        · rw [hs] at h; cases h
        · rw [hs] at h; cases h
        · exact absurd h hinit
    | misnamed h _ => exact absurd h hname
    | farewells h _ => exact absurd hs h
    | replies h _ _ _ | measures h _ _ | aborts h | closesAfterSend h _ | authorizes h _ _
    | validates h _ _ _ | admits h _ _ _ | accepts h _ _ | sends h _ _ _ =>
        rw [hs] at h
        cases h

/-- The example session after `close`. -/
def exampleClosed : Impl :=
  (perform (exampleSetup (ascii "input") (ascii "message"))
    { call := .close (ascii "normal") (ascii "Closing") } (fun _ => true)
    (exampleSession (ascii "input") (ascii "message"))).state

theorem exampleClosed_closed : exampleClosed.state = .closed := by decide +kernel

theorem closed_silent_iff_ping :
    (perform (exampleSetup (ascii "input") (ascii "message")) { call := .sendPing }
        (fun _ => true) exampleClosed).outputs = [] ↔
      ¬ Call.sendPing.DeliversInit ∧ ¬ Call.sendPing.Misnames :=
  closed_silent_iff _ { call := .sendPing } _ exampleClosed exampleClosed_closed

/-- A closed session that receives `culpeo.init` sends an init-error and closes the
transport again. -/
theorem closed_session_answers_init :
    ¬ ∀ (setup : Setup) (inv : Invocation) (answers : ℕ → Bool) (s : Impl),
      s.state = .closed → inv.call.FromWire → (perform setup inv answers s).outputs = [] := by
  intro h
  have hsilent := h (exampleSetup (ascii "input") (ascii "message"))
    { call := .processControlFrame (controlFrame (ascii "culpeo.init") emptyObject) }
    (fun _ => true) exampleClosed exampleClosed_closed
    ⟨.control, encode [field .event (ascii "culpeo.init")] emptyObject, {}, by decide⟩
  exact absurd hsilent (by decide +kernel)

/-! ### Many threads -/

/-- An answer to a handshake. -/
def Output.isInitReply (o : Output) : Bool :=
  o.event == some (ascii "culpeo.init-ack") || o.event == some (ascii "culpeo.init-error")

def Output.isOnClose : Output → Bool
  | .onClose _ _ => true
  | _ => false

/-- The configuration in which a new session is shared. -/
def opening (setup : Setup) : Config Impl Output Bool Result :=
  ⟨Impl.initial setup, [], []⟩

/-- **Closing is final** along an interleaving: `closed` is not left, at most one frame
among init-ack and init-error is handed to the transport, and `on_close` is called at
most once. -/
structure ClosingIsFinal (setup : Setup) (moves : List (Move Invocation Bool)) : Prop where
  closed : ∀ before after, moves = before ++ after →
    (run (enter setup) (opening setup) before).shared.state = .closed →
    (run (enter setup) (opening setup) moves).shared.state = .closed
  reply : (run (enter setup) (opening setup) moves).trace.countP Output.isInitReply ≤ 1
  notice : (run (enter setup) (opening setup) moves).trace.countP Output.isOnClose ≤ 1

/-- A call that comes at its time: `culpeo.init` only to a session that has not begun,
a frame without `Event` not while a handshake is going on, and a malformed event name
neither then nor after the session has closed. -/
structure Call.Orderly (call : Call) (s : Impl) : Prop where
  init : call.DeliversInit → s.state = .uninitialized
  event : call.LacksEvent → s.state ≠ .initializing
  name : call.Misnames → s.state ≠ .initializing ∧ s.state ≠ .closed

/-- A step of an interleaving in which calls are entered at their time. -/
def OrderlyMove (cfg : Config Impl Output Bool Result) : Move Invocation Bool → Prop
  | .enter inv => inv.call.Orderly cfg.shared
  | .resume _ _ => True

theorem Refusable.uninitialized {call : Call} {s : Impl} (h : Refusable call s)
    (hcall : call.Orderly s) : s.state = .uninitialized := by
  rcases h with h | ⟨hevent, h⟩ | ⟨hinit, h⟩
  · exact h
  · exact absurd h (hcall.event hevent)
  · exact absurd (hcall.init hinit) h

theorem Call.Orderly.uninitialized_of_misnames {call : Call} {s : Impl} (h : call.Orderly s)
    (hname : call.Misnames) (hs : s.state ≠ .established) : s.state = .uninitialized := by
  obtain ⟨hinitializing, hclosed⟩ := h.name hname
  cases hstate : s.state with
  | uninitialized => rfl
  | initializing => exact absurd hstate hinitializing
  | established => exact absurd hstate hs
  | closed => exact absurd hstate hclosed

/-! ### Closed stays closed -/

/-- No critical section leaves `closed`. -/
def closedContract : Contract Impl Output Bool where
  inv _ := True
  rel s s' := s.state = .closed → s'.state = .closed
  out _ := True
  ans _ _ := True

theorem closedContract_allowsClosing : AllowsClosing closedContract where
  closing _ _ := ⟨trivial, fun _ => rfl⟩
  transport _ _ := trivial
  onClose _ _ := trivial
  text _ _ := trivial

/-- A critical section that does not start from `closed` is free to go anywhere. -/
theorem closedContract_holds {s s' : Impl} {rest : Rest} (hs : s.state ≠ .closed)
    (hrest : rest.Meets closedContract) : closedContract.Holds s (s', rest) :=
  ⟨trivial, fun h => absurd h hs, hrest⟩

theorem completeInit_keeps_closed (setup : Setup) (amb : Ambient) (f : ParsedHeadersView)
    (bodyJson : Json) (version : Bytes) {s s' : Impl} (hs : s'.state ≠ .closed) :
    closedContract.Holds s' (completeInit setup amb f bodyJson version s) := by
  rcases completeInit_cases setup amb f bodyJson version s with ⟨r, registry, h, -⟩ | ⟨e, h, -⟩
  · rw [h]
    exact closedContract_holds hs (meets_rejectInit closedContract_allowsClosing r)
  · rw [h]
    exact closedContract_holds hs (meets_sendTextFrame (fun _ _ => trivial) trivial)

theorem awaitAuthValidate_keeps_closed (setup : Setup) (amb : Ambient) (f : ParsedHeadersView)
    (bodyJson : Json) (version : Bytes) :
    (awaitAuthValidate setup amb f bodyJson version).Meets closedContract := by
  refine ⟨trivial, fun authOk _ => Prog.meets_critical fun s _ => ?_⟩
  rcases afterAuthValidate_cases setup amb f bodyJson version authOk s with
    ⟨-, e, h⟩ | ⟨hs, -, r, h⟩ | ⟨hs, -, h⟩
  · rw [h]
    exact ⟨trivial, id, trivial⟩
  · rw [h]
    exact closedContract_holds hs (meets_rejectInit closedContract_allowsClosing r)
  · rw [h]
    exact completeInit_keeps_closed setup amb f bodyJson version hs

theorem awaitAuthResponse_keeps_closed (f : ParsedHeadersView) :
    (awaitAuthResponse f).Meets closedContract := by
  refine ⟨trivial, fun tokenOk _ => ?_⟩
  cases tokenOk with
  | true => trivial
  | false =>
      refine Prog.meets_critical fun s _ => ?_
      rcases afterAuthRejected_cases s with ⟨-, e, h⟩ | ⟨-, code, reason, e, h⟩
      · rw [h]
        exact ⟨trivial, id, trivial⟩
      · rw [h]
        exact ⟨trivial, fun _ => rfl, meets_abort closedContract_allowsClosing code reason e⟩

/-- An orderly call does not leave `closed`. -/
theorem enter_keeps_closed {setup : Setup} {inv : Invocation} {s : Impl}
    (hcall : inv.call.Orderly s) : closedContract.Holds s (enter setup inv s) := by
  have hK := closedContract_allowsClosing
  have henter := enter_cases setup inv s
  generalize enter setup inv s = r at henter
  have hopen : ∀ {st : SessionState}, s.state = st → st ≠ .closed → s.state ≠ .closed := by
    rintro st rfl h
    exact h
  cases henter with
  | returns hagree _ => exact ⟨trivial, fun h => hagree.state.trans h, trivial⟩
  | replies h _ _ _ =>
      exact closedContract_holds (hopen h nofun) (meets_sendTextFrame (fun _ _ => trivial) trivial)
  | measures h _ _ => exact closedContract_holds (hopen h nofun) ⟨trivial, fun _ _ => trivial⟩
  | refuses h =>
      exact closedContract_holds (hopen (h.uninitialized hcall) nofun) (meets_rejectInit hK _)
  -- A section that closes the session needs nothing from the state it finds.
  | misnamed _ _ => exact ⟨trivial, fun _ => rfl, meets_sendInitErrorAndClose hK trivial⟩
  | aborts _ => exact ⟨trivial, fun _ => rfl, meets_abort hK _ _ _⟩
  | closesAfterSend h _ =>
      exact closedContract_holds (hopen h nofun) (meets_closeAfterSend hK _ _ _)
  | farewells _ _ => exact ⟨trivial, fun _ => rfl, meets_farewell hK _ _ _⟩
  | authorizes h _ _ =>
      exact closedContract_holds (hopen h nofun) (awaitAuthResponse_keeps_closed _)
  | validates h _ _ _ =>
      exact closedContract_holds (hopen h nofun) (awaitAuthValidate_keeps_closed setup _ _ _ _)
  | admits h _ _ _ => exact completeInit_keeps_closed setup _ _ _ _ (hopen h nofun)
  | accepts h _ _ =>
      refine closedContract_holds (hopen h nofun) ?_
      rw [deliver]
      split
      · exact ⟨trivial, fun _ _ => trivial⟩
      · trivial
  | sends h _ _ _ =>
      refine closedContract_holds (hopen h nofun) ?_
      rw [handOver]
      split
      · trivial
      · exact ⟨trivial, fun _ _ => trivial⟩

/-! ### Answers and notices are paid for once -/

/-- An orderly call pays for what it does out of the potential of the session. -/
theorem enter_within {pot : SessionState → ℕ} {cost : Output → ℕ} {answer notice : ℕ}
    (hp : Prices pot cost answer notice) {setup : Setup} {inv : Invocation} {s : Impl}
    (hcall : inv.call.Orderly s) :
    ∃ b, stake pot (enter setup inv s).1 + b ≤ stake pot s ∧
      (enter setup inv s).2.Within (stake pot) cost b := by
  have henter := enter_cases setup inv s
  generalize enter setup inv s = r at henter
  have hagrees : ∀ {s' : Impl}, s.Agrees s' → stake pot s' + 0 ≤ stake pot s := by
    intro s' h
    rw [Nat.add_zero, stake, h.state, stake]
  have hleave : ∀ {s' : Impl}, s.state = .uninitialized → s'.state ≠ .uninitialized →
      stake pot s' + answer ≤ stake pot s := by
    intro s' h hne
    rw [stake, stake, h]
    exact hp.leave _ hne
  cases henter with
  | returns hagree _ => exact ⟨0, hagrees hagree, trivial⟩
  | replies _ hagree hevent _ =>
      exact ⟨0, hagrees hagree, within_sendPlain hp (List.mem_cons_of_mem _ hevent) trivial⟩
  | measures _ hagree _ =>
      exact ⟨0, hagrees hagree, within_call hp nofun nofun fun _ => trivial⟩
  | refuses h => exact ⟨answer, hleave (h.uninitialized hcall) nofun, within_rejectInit hp _⟩
  | misnamed hname h =>
      exact ⟨answer, hleave (hcall.uninitialized_of_misnames hname h) nofun,
        within_sendInitErrorAndClose hp trivial⟩
  | aborts _ => exact ⟨0, hp.closing s.state, within_abort hp _ _ _⟩
  | closesAfterSend _ hagree => exact ⟨0, hagrees hagree, within_closeAfterSend hp _ _ _⟩
  | farewells h _ => exact ⟨notice, hp.close s.state h, within_farewell hp _ _ _⟩
  | authorizes _ hagree _ => exact ⟨0, hagrees hagree, within_awaitAuthResponse hp _⟩
  | validates h _ _ _ =>
      exact ⟨answer, hleave h nofun, within_awaitAuthValidate hp setup _ _ _ _⟩
  | @admits f bodyJson version h _ _ _ =>
      -- Without a callback the handshake is decided in the same section that started it.
      obtain ⟨hpot, hrest⟩ := within_completeInit hp setup inv.ambient f bodyJson version
        (s := { s with state := .initializing }) nofun
      exact ⟨answer, (Nat.add_le_add_right hpot answer).trans (hleave h nofun), hrest⟩
  | accepts _ _ _ => exact ⟨0, Nat.le_refl _, within_deliver hp setup _ _ _⟩
  | sends _ _ _ _ => exact ⟨0, Nat.le_refl _, within_handOver hp _ _⟩

/-- Potential for the one answer to a handshake. -/
def replyPot : SessionState → ℕ
  | .uninitialized => 1
  | _ => 0

theorem replyPot_prices :
    Prices replyPot (fun o => if o.isInitReply then 1 else 0) 1 0 where
  text frame := by split <;> decide
  plain frame event hevent hmem := by
    have hno : ∀ e ∈ ascii "culpeo.close" :: plainEvents,
        e ≠ ascii "culpeo.init-ack" ∧ e ≠ ascii "culpeo.init-error" := by decide
    simp [Output.isInitReply, Output.event, hevent, hno event hmem]
  onClose _ _ := Nat.le_refl 0
  other o htext _ := by
    cases o with
    | sendText frame => exact absurd rfl (htext frame)
    | _ => rfl
  leave st hst := by
    cases st with
    | uninitialized => exact absurd rfl hst
    | _ => exact Nat.le_refl 1
  establish st _ := Nat.zero_le _
  close st _ := Nat.zero_le _

/-- Potential for the one notice that a session has closed. -/
def noticePot : SessionState → ℕ
  | .closed => 0
  | _ => 1

theorem noticePot_prices :
    Prices noticePot (fun o => if o.isOnClose then 1 else 0) 0 1 where
  text _ := Nat.le_refl 0
  plain _ _ _ _ := rfl
  onClose _ _ := Nat.le_refl 1
  other o _ hclose := by
    cases o with
    | onClose code reason => exact absurd rfl (hclose code reason)
    | _ => rfl
  leave st _ := by cases st <;> decide
  establish st hst := by
    cases st with
    | closed => exact absurd rfl hst
    | _ => exact Nat.le_refl 1
  close st hst := by
    cases st with
    | closed => exact absurd rfl hst
    | _ => exact Nat.le_refl 1

/-! ### Finality -/

theorem orderly_admits {setup : Setup} {cfg : Config Impl Output Bool Result}
    {moves : List (Move Invocation Bool)} (h : Along (enter setup) OrderlyMove cfg moves) :
    Along (enter setup) (Admits closedContract fun inv s => inv.call.Orderly s) cfg moves := by
  refine Along.imp (fun cfg m hm => ?_) moves h
  cases m with
  | enter inv => exact hm
  | resume i answer => exact fun _ _ _ => trivial

/-- **Closing is final** along every interleaving whose calls are entered at their
time. -/
theorem closingIsFinal_of_orderly (setup : Setup) (moves : List (Move Invocation Bool))
    (horderly : Along (enter setup) OrderlyMove (opening setup) moves) :
    ClosingIsFinal setup moves where
  closed before after hmoves hclosed := by
    subst hmoves
    obtain ⟨hbefore, hafter⟩ := along_append.mp horderly
    have hinit : closedContract.Kept (opening setup) := ⟨trivial, nofun, nofun⟩
    have hkept := run_kept (fun _ _ _ hcall => enter_keeps_closed hcall) (fun _ => id) hinit
      before (orderly_admits hbefore)
    rw [run_append]
    exact run_rel (fun _ _ _ hcall => enter_keeps_closed hcall) (fun _ => id)
      (fun _ _ _ h h' hs => h' (h hs)) after hkept (orderly_admits hafter) hclosed
  reply := by
    have hle : _ ≤ stake replyPot (Impl.initial setup) :=
      run_countP_le (fun _ _ hm => enter_within replyPot_prices hm) _ moves horderly
    exact hle
  notice := by
    have hle : _ ≤ stake noticePot (Impl.initial setup) :=
      run_countP_le (fun _ _ hm => enter_within noticePot_prices hm) _ moves horderly
    exact hle

/-- The example session is opened, a second thread closes it while the first one waits
for the authentication callback, and the first one finds it closed. -/
theorem closingIsFinal_example :
    ClosingIsFinal (exampleSetup (ascii "input") (ascii "message"))
      [.enter (exampleInit (ascii "input") (ascii "message")).invocation,
        .enter { call := .close (ascii "normal") (ascii "Closing") },
        .resume 0 true, .resume 1 true, .resume 0 true] := by
  refine closingIsFinal_of_orderly _ _ ⟨⟨fun _ => rfl, fun h => ?_, fun h => ?_⟩,
    ⟨fun h => ?_, fun h => ?_, fun h => ?_⟩, trivial, trivial, trivial, trivial⟩
  · exact absurd h (by decide)
  · obtain ⟨event, hevent, hname⟩ := h
    have hinit : event = ascii "culpeo.init" := by
      simpa [exampleInit, Call.controlEvent, controlFrame, eq_comm] using hevent
    rw [hinit] at hname
    exact absurd hname (by decide)
  · cases h
  · cases h
  · obtain ⟨event, hevent, -⟩ := h
    cases hevent

/-- A `culpeo.init` that reaches a closed session makes it leave `closed`, before it is
answered. -/
theorem closing_not_final :
    ¬ ∀ (setup : Setup) (moves : List (Move Invocation Bool)), ClosingIsFinal setup moves := by
  intro h
  have hclosed := (h (exampleSetup (ascii "input") (ascii "message"))
    [.enter { call := .close (ascii "normal") (ascii "Closing") },
      .enter (exampleInit (ascii "input") (ascii "message")).invocation]).closed
    [.enter { call := .close (ascii "normal") (ascii "Closing") }] _ rfl (by decide)
  exact absurd hclosed (by decide)

end CulpeoStream.Session
