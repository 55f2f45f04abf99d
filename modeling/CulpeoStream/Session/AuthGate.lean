import CulpeoStream.Session.Lifecycle

/-!
# The authentication gate

A session whose `on_auth_validate` turns every client down.  However the calls on it
interleave, it never gets to `established`, and nothing that only an established
session does ever happens: the refusal is one Boolean in the middle of `handle_init`,
and every path to the establishing code passes it.

The argument is the contract `gateContract` of `Resumption.Contract`, kept by every
critical section as long as the callback answers false.
-/

namespace CulpeoStream.Session

open Message Resumption

/-- What only an authenticated session does: acknowledge the handshake, send media,
and pass media on. -/
def Output.needsAuth (o : Output) : Bool :=
  o.isMedia || o.isInitAck

/-- The callback `on_auth_validate` answers false whenever it is called. -/
def AuthRefused (setup : Setup) : Config Impl Output Bool Result → List (Move Invocation Bool) →
    Prop :=
  Along (enter setup) fun cfg m => ∀ i answer, m = .resume i answer →
    ∀ bearer next, cfg.pool[i]? = some (.call (.onAuthValidate bearer) next) → answer = false

/-- The session has not been established and does nothing that needs it to be. -/
def gateContract : Contract Impl Output Bool where
  inv s := s.state ≠ .established ∧ s.sessionIdStr = []
  rel _ _ := True
  out o := o.needsAuth = false
  ans o answer := ∀ bearer, o = .onAuthValidate bearer → answer = false

theorem gateContract_allowsClosing : AllowsClosing gateContract where
  closing _ hs := ⟨⟨nofun, hs.2⟩, trivial⟩
  transport _ _ := rfl
  onClose _ _ := rfl
  text frame hframe := by
    simpa [gateContract, Output.needsAuth, Output.isMedia, Output.isInitAck, Output.event]
      using hframe

/-- Behind the callback there is only a refusal. -/
theorem meets_awaitAuthValidate (setup : Setup) (amb : Ambient) (f : ParsedHeadersView)
    (bodyJson : Json) (version : Bytes) :
    (awaitAuthValidate setup amb f bodyJson version).Meets gateContract := by
  refine ⟨rfl, fun answer hanswer => Prog.meets_critical fun s hs => ?_⟩
  rcases afterAuthValidate_cases setup amb f bodyJson version answer s with
    ⟨-, e, h⟩ | ⟨-, -, r, h⟩ | ⟨-, hok, -⟩
  · rw [h]
    exact ⟨hs, trivial, trivial⟩
  · rw [h]
    exact ⟨hs, trivial, meets_rejectInit gateContract_allowsClosing r⟩
  · rw [hanswer _ rfl] at hok
    cases hok

/-- **Every call keeps the gate shut.** -/
theorem enter_keeps_gate {setup : Setup} (hcallback : setup.callbacks.onAuthValidate = true)
    (inv : Invocation) (s : Impl) (hs : gateContract.inv s) :
    gateContract.Holds s (enter setup inv s) := by
  have hK := gateContract_allowsClosing
  have henter := enter_cases setup inv s
  generalize enter setup inv s = r at henter
  obtain ⟨hstate, hid⟩ := hs
  cases henter with
  | returns hagree _ =>
      exact ⟨⟨by rwa [hagree.state], hagree.sessionIdStr.trans hid⟩, trivial, trivial⟩
  | refuses _ => exact ⟨⟨nofun, hid⟩, trivial, meets_rejectInit hK _⟩
  | misnamed _ _ =>
      exact ⟨⟨nofun, hid⟩, trivial, meets_sendInitErrorAndClose hK trivial⟩
  | farewells _ _ => exact ⟨⟨nofun, hid⟩, trivial, meets_farewell hK _ _ _⟩
  | validates _ _ _ _ =>
      exact ⟨⟨nofun, hid⟩, trivial, meets_awaitAuthValidate setup _ _ _ _⟩
  | admits _ _ _ hnone =>
      rw [hcallback] at hnone
      cases hnone
  | replies h _ _ _ | measures h _ _ | aborts h | closesAfterSend h _ | authorizes h _ _
  | accepts h _ _ | sends h _ _ _ => exact absurd h hstate

/-- **Authentication gate.**  With a callback that refuses every token, no interleaving
of public calls brings the session to `established`; no init-ack and no binary frame
is handed to the transport, `on_media_received` is not called, and the session has
neither an id nor a state to export. -/
theorem auth_gate (setup : Setup) (hcallback : setup.callbacks.onAuthValidate = true)
    (moves : List (Move Invocation Bool))
    (hrefused : AuthRefused setup ⟨Impl.initial setup, [], []⟩ moves) :
    (run (enter setup) ⟨Impl.initial setup, [], []⟩ moves).shared.state ≠ .established ∧
    (∀ o ∈ (run (enter setup) ⟨Impl.initial setup, [], []⟩ moves).trace,
      o.isInitAck = false ∧ (∀ frame, o ≠ .sendBinary frame) ∧
        ∀ stream timestampUs body, o ≠ .onMediaReceived stream timestampUs body) ∧
    sessionId (run (enter setup) ⟨Impl.initial setup, [], []⟩ moves).shared = none ∧
    ∀ now, exportState (run (enter setup) ⟨Impl.initial setup, [], []⟩ moves).shared now =
      none := by
  have hinit : gateContract.Kept (⟨Impl.initial setup, [], []⟩ : Config Impl Output Bool Result) :=
    ⟨⟨nofun, rfl⟩, nofun, nofun⟩
  -- The only answers that the contract restricts are those of `on_auth_validate`.
  have hadmits : Along (enter setup) (Admits gateContract fun _ _ => True)
      ⟨Impl.initial setup, [], []⟩ moves := by
    refine Along.imp (fun cfg m hm => ?_) moves hrefused
    cases m with
    | enter c => trivial
    | resume i answer =>
        rintro out next hpool bearer rfl
        exact hm i answer rfl bearer next hpool
  have hkept := run_kept (fun inv s hs _ => enter_keeps_gate hcallback inv s hs)
    (fun _ => trivial) hinit moves hadmits
  obtain ⟨hstate, hid⟩ := hkept.inv
  refine ⟨hstate, fun o ho => ?_, by rw [sessionId, hid]; rfl, fun now => by
    rw [exportState, hid]; rfl⟩
  have hout : o.needsAuth = false := hkept.trace o ho
  obtain ⟨hmedia, hack⟩ := Bool.or_eq_false_iff.mp hout
  refine ⟨hack, ?_, ?_⟩
  · rintro frame rfl
    cases hmedia
  · rintro stream timestampUs body rfl
    cases hmedia

/-- A client is turned away while a second init comes in. -/
theorem auth_gate_example :
    sessionId (run (enter (exampleSetup (ascii "input") (ascii "message")))
      ⟨Impl.initial (exampleSetup (ascii "input") (ascii "message")), [], []⟩
      [.enter (exampleInit (ascii "input") (ascii "message")).invocation,
        .enter (exampleInit (ascii "input") (ascii "message")).invocation,
        .resume 0 false, .resume 0 false, .resume 1 false]).shared = none :=
  (auth_gate (exampleSetup (ascii "input") (ascii "message")) rfl _ (by
    refine ⟨?_, ?_, ?_, ?_, ?_, trivial⟩
    · rintro i answer h
      cases h
    · rintro i answer h
      cases h
    · rintro i answer h
      cases h
      exact fun _ _ _ => rfl
    · rintro i answer h
      cases h
      exact fun _ _ _ => rfl
    · rintro i answer h
      cases h
      exact fun _ _ _ => rfl)).2.2.1

end CulpeoStream.Session
