import CulpeoStream.Session.Steps

/-!
# What the endings of a call do

Every call ends in one of a few ways (`Session.Impl`).  For each of them this module
says what it does when the call runs alone (`exec_…`), when it keeps a contract
(`meets_…`), and what it may cost (`within_…`).

Contracts and prices are arbitrary up to the assumptions collected in `AllowsClosing`
and `Prices`: closing a session has to be harmless, and only the answers to a
handshake and the notice that a session has closed may cost anything.
-/

namespace CulpeoStream.Session

open Message Resumption

/-! ### Frames -/

/-- The event of a frame handed to `send_text`. -/
def Output.event : Output → Option Bytes
  | .sendText frame => frame.header .event
  | _ => none

theorem makeFrame_eq_some {frameType : FrameType} {headers : List HeaderField} {body : Bytes}
    {frame : WireFrame} (h : makeFrame frameType headers body = some frame) :
    frame.headers = headers ∧ frame.body = body := by
  rw [makeFrame] at h
  split at h
  · cases h
    exact ⟨rfl, rfl⟩
  · cases h

/-- A frame is made exactly when its headers can be serialized. -/
theorem makeFrame_isSome_iff {frameType : FrameType} {headers : List HeaderField}
    {body : Bytes} : (makeFrame frameType headers body).isSome = true ↔ ValidHeaders headers := by
  rw [makeFrame]
  split
  · rename_i bytes hbytes
    simpa using (serializeFrame_ok_iff.mp hbytes).1
  · rename_i e herror
    constructor
    · intro h
      cases h
    · intro hvalid
      rw [serializeFrame_ok_iff.mpr ⟨hvalid, rfl⟩] at herror
      cases herror

theorem reservedOf_headerName (r : Reserved) : reservedOf r.headerName = some r := by
  cases r <;> decide

@[simp] theorem fieldValue_field_self (r : Reserved) (value : Bytes)
    (rest : List HeaderField) : fieldValue r (field r value :: rest) = some value := by
  rw [fieldValue_cons]
  exact if_pos (reservedOf_headerName r)

theorem fieldValue_field_of_ne {r q : Reserved} (hne : q ≠ r) (value : Bytes)
    (rest : List HeaderField) : fieldValue r (field q value :: rest) = fieldValue r rest := by
  rw [fieldValue_cons, if_neg]
  intro h
  rw [field, reservedOf_headerName, Option.some.injEq] at h
  exact hne h

/-- What `send_text_frame_noexcept` hands to the transport. -/
def texts (headers : List HeaderField) (body : Bytes) : List Output :=
  (makeFrame .control headers body).toList.map .sendText

theorem event_of_mem_texts {event : Bytes} {headers : List HeaderField} {body : Bytes}
    {o : Output} (h : o ∈ texts (field .event event :: headers) body) : o.event = some event := by
  obtain ⟨frame, hframe, rfl⟩ := List.mem_map.mp h
  rw [Option.mem_toList] at hframe
  rw [Output.event, WireFrame.header, (makeFrame_eq_some hframe).1, fieldValue_field_self]

/-- Media in either direction: a frame handed to the transport, or one passed on to
the application. -/
def Output.isMedia : Output → Bool
  | .sendBinary _ | .onMediaReceived _ _ _ => true
  | _ => false

/-- No media goes in or out. -/
def NoMedia (outputs : List Output) : Prop :=
  ∀ o ∈ outputs, o.isMedia = false

@[simp] theorem noMedia_nil : NoMedia [] := nofun

@[simp] theorem noMedia_cons {o : Output} {outputs : List Output} :
    NoMedia (o :: outputs) ↔ o.isMedia = false ∧ NoMedia outputs :=
  List.forall_mem_cons

@[simp] theorem noMedia_append {outputs outputs' : List Output} :
    NoMedia (outputs ++ outputs') ↔ NoMedia outputs ∧ NoMedia outputs' :=
  List.forall_mem_append

@[simp] theorem noMedia_texts (headers : List HeaderField) (body : Bytes) :
    NoMedia (texts headers body) := by
  intro o ho
  obtain ⟨frame, -, rfl⟩ := List.mem_map.mp ho
  rfl

/-! ### Running alone -/

section Exec

variable (answers : ℕ → Bool) (s : Impl)

theorem exec_sendTextFrame (headers : List HeaderField) (body : Bytes) (next : Rest) :
    ∃ answers', (sendTextFrame headers body next).exec answers s =
      ⟨(next.exec answers' s).state, texts headers body ++ (next.exec answers' s).outputs,
        (next.exec answers' s).result⟩ := by
  rw [sendTextFrame, texts]
  cases makeFrame .control headers body with
  | none => exact ⟨answers, rfl⟩
  | some frame => exact ⟨fun n => answers (n + 1), rfl⟩

theorem exec_reply (headers : List HeaderField) (body : Bytes) :
    (reply headers body).exec answers s = ⟨s, texts headers body, .ok ()⟩ := by
  obtain ⟨answers', h⟩ := exec_sendTextFrame answers s headers body (.ret (.ok ()))
  rw [reply, h]
  simp

theorem exec_rejectInit (r : Rejection) :
    (rejectInit r).exec answers s =
      ⟨transitionToClosed s,
        texts (endHeaders (ascii "culpeo.init-error") r.code r.reason) r.body ++
          [.closeTransport (toWsCloseCode r.code) r.reason], .error r.error⟩ := by
  obtain ⟨answers', h⟩ := exec_sendTextFrame answers s
    (endHeaders (ascii "culpeo.init-error") r.code r.reason) r.body
    (closeTransport r.code r.reason (.locked transitionToClosed fun _ => .ret (.error r.error)))
  exact h

theorem exec_misnamed (code reason body : Bytes) (e : Error) :
    (sendInitErrorAndClose code reason body (.ret (.error e))).exec answers s =
      ⟨s, texts (endHeaders (ascii "culpeo.init-error") code reason) body ++
        [.closeTransport (toWsCloseCode code) reason], .error e⟩ := by
  obtain ⟨answers', h⟩ := exec_sendTextFrame answers s
    (endHeaders (ascii "culpeo.init-error") code reason) body
    (closeTransport code reason (.ret (.error e)))
  exact h

theorem exec_abort (code reason : Bytes) (e : Error) :
    (abort code reason e).exec answers s =
      ⟨s, texts (endHeaders (ascii "culpeo.close") code reason) emptyObject ++
        [.closeTransport (toWsCloseCode code) reason], .error e⟩ := by
  obtain ⟨answers', h⟩ := exec_sendTextFrame answers s
    (endHeaders (ascii "culpeo.close") code reason) emptyObject
    (closeTransport code reason (.ret (.error e)))
  exact h

theorem exec_closeAfterSend (code reason : Bytes) (e : Error) :
    (closeAfterSend code reason e).exec answers s =
      ⟨transitionToClosed s, texts (endHeaders (ascii "culpeo.close") code reason) emptyObject ++
        [.closeTransport (toWsCloseCode code) reason], .error e⟩ := by
  obtain ⟨answers', h⟩ := exec_sendTextFrame answers s
    (endHeaders (ascii "culpeo.close") code reason) emptyObject
    (closeTransport code reason (.locked transitionToClosed fun _ => .ret (.error e)))
  exact h

theorem exec_farewell (callbacks : SessionCallbacks) (code reason : Bytes) :
    (farewell callbacks code reason).exec answers s =
      ⟨s, texts (endHeaders (ascii "culpeo.close") code reason) emptyObject ++
        .closeTransport (toWsCloseCode code) reason ::
          if callbacks.onClose then [.onClose code reason] else [], .ok ()⟩ := by
  obtain ⟨answers', h⟩ := exec_sendTextFrame answers s
    (endHeaders (ascii "culpeo.close") code reason) emptyObject
    (closeTransport code reason (if callbacks.onClose then
      .call (.onClose code reason) fun _ => .ret (.ok ()) else .ret (.ok ())))
  rw [farewell, sendCloseFrame, h]
  cases callbacks.onClose <;> rfl

theorem exec_deliver (setup : Setup) (stream : StreamInfo) (timestampUs : UInt64)
    (body : Bytes) :
    (deliver setup stream timestampUs body).exec answers s =
      ⟨s, if setup.callbacks.onMediaReceived then [.onMediaReceived stream timestampUs body]
        else [], .ok ()⟩ := by
  rw [deliver]
  cases setup.callbacks.onMediaReceived <;> rfl

theorem exec_handOver (headers : List HeaderField) (payload : Bytes) :
    ((handOver headers payload).exec answers s).state = s ∧
      ((handOver headers payload).exec answers s).outputs =
        (makeFrame .media headers payload).toList.map .sendBinary := by
  rw [handOver]
  cases makeFrame .media headers payload with
  | none => exact ⟨rfl, rfl⟩
  | some frame => exact ⟨rfl, rfl⟩

end Exec

/-! ### Protocol errors -/

/-- The call has closed the session for a protocol error: the peer was sent one close frame,
the transport was closed after it, and nothing else happened. -/
structure ClosedForProtocolError (s : Impl) (outcome : Outcome Impl Output Result) : Prop where
  closed : outcome.state.state = .closed
  registry : outcome.state.registry = s.registry
  outputs : ∃ frame reason,
    outcome.outputs = [.sendText frame, .closeTransport 1002 reason] ∧
      frame.header .event = some (ascii "culpeo.close") ∧
        frame.header .code = some (ascii "protocol-error")

theorem validHeaders_protocolError {reason : Bytes} (hreason : validHeaderValue reason = true) :
    ValidHeaders (endHeaders (ascii "culpeo.close") (ascii "protocol-error") reason) := by
  simp only [ValidHeaders, endHeaders, List.forall_mem_cons, field]
  exact ⟨⟨by decide, by decide⟩, ⟨by decide, by decide⟩, ⟨by decide, hreason⟩,
    ⟨by decide, by decide⟩, by simp⟩

/-- `abort` with a text that a header can carry. -/
theorem closedForProtocolError_abort {s : Impl} {reason : Bytes}
    (hreason : validHeaderValue reason = true) (e : Error) (answers : ℕ → Bool) :
    ClosedForProtocolError s
      ((abort (ascii "protocol-error") reason e).exec answers (transitionToClosed s)) := by
  obtain ⟨frame, hframe⟩ := Option.isSome_iff_exists.mp
    (makeFrame_isSome_iff.mpr (validHeaders_protocolError hreason) :
      (makeFrame .control _ emptyObject).isSome = true)
  have hheaders := (makeFrame_eq_some hframe).1
  rw [exec_abort, texts, hframe]
  refine ⟨rfl, rfl, frame, reason, rfl, ?_, ?_⟩
  · rw [WireFrame.header, hheaders, endHeaders, fieldValue_field_self]
  · rw [WireFrame.header, hheaders, endHeaders, fieldValue_field_of_ne (by decide),
      fieldValue_field_self]

/-! ### Keeping a contract -/

/-- The contracts that an orderly end keeps. -/
structure AllowsClosing (K : Contract Impl Output Bool) : Prop where
  closing : ∀ s, K.inv s → K.inv (transitionToClosed s) ∧ K.rel s (transitionToClosed s)
  transport : ∀ code reason, K.out (.closeTransport code reason)
  onClose : ∀ code reason, K.out (.onClose code reason)
  text : ∀ frame, frame.header .event ≠ some (ascii "culpeo.init-ack") → K.out (.sendText frame)

section Meets

variable {K : Contract Impl Output Bool}

theorem meets_sendTextFrame {headers : List HeaderField} {body : Bytes} {next : Rest}
    (hout : ∀ frame, frame.headers = headers → K.out (.sendText frame)) (hnext : next.Meets K) :
    (sendTextFrame headers body next).Meets K := by
  rw [sendTextFrame]
  cases hframe : makeFrame .control headers body with
  | none => exact hnext
  | some frame => exact ⟨hout frame (makeFrame_eq_some hframe).1, fun _ _ => hnext⟩

variable (hK : AllowsClosing K)
include hK

/-- A text frame with any event but `culpeo.init-ack`. -/
theorem meets_sendEvent {event body : Bytes} {headers : List HeaderField} {next : Rest}
    (hevent : event ≠ ascii "culpeo.init-ack") (hnext : next.Meets K) :
    (sendTextFrame (field .event event :: headers) body next).Meets K := by
  refine meets_sendTextFrame (fun frame hframe => hK.text frame ?_) hnext
  rw [WireFrame.header, hframe, fieldValue_field_self, ne_eq, Option.some.injEq]
  exact hevent

theorem meets_closeTransport {code reason : Bytes} {next : Rest} (hnext : next.Meets K) :
    (closeTransport code reason next).Meets K :=
  ⟨hK.transport _ _, fun _ _ => hnext⟩

/-- The critical section that closes the session, at the end of a call. -/
theorem meets_closing (result : Result) :
    (Prog.locked transitionToClosed fun _ => .ret result : Rest).Meets K :=
  fun s hs => ⟨(hK.closing s hs).1, (hK.closing s hs).2, trivial⟩

theorem meets_sendInitErrorAndClose {code reason body : Bytes} {next : Rest}
    (hnext : next.Meets K) : (sendInitErrorAndClose code reason body next).Meets K :=
  meets_sendEvent hK (by decide) (meets_closeTransport hK hnext)

theorem meets_rejectInit (r : Rejection) : (rejectInit r).Meets K :=
  meets_sendInitErrorAndClose hK (meets_closing hK _)

theorem meets_sendCloseFrame {code reason : Bytes} {next : Rest} (hnext : next.Meets K) :
    (sendCloseFrame code reason next).Meets K :=
  meets_sendEvent hK (by decide) hnext

theorem meets_abort (code reason : Bytes) (e : Error) : (abort code reason e).Meets K :=
  meets_sendCloseFrame hK (meets_closeTransport hK trivial)

theorem meets_closeAfterSend (code reason : Bytes) (e : Error) :
    (closeAfterSend code reason e).Meets K :=
  meets_sendCloseFrame hK (meets_closeTransport hK (meets_closing hK _))

theorem meets_farewell (callbacks : SessionCallbacks) (code reason : Bytes) :
    (farewell callbacks code reason).Meets K := by
  refine meets_sendCloseFrame hK (meets_closeTransport hK ?_)
  split
  · exact ⟨hK.onClose _ _, fun _ _ => trivial⟩
  · trivial

end Meets

/-! ### Costs -/

/-- The potential of a session, which depends on its state only. -/
def stake (pot : SessionState → ℕ) (s : Impl) : ℕ := pot s.state

/-- Prices of text frames (`answer`) and of `on_close` (`notice`), covered by a
potential: whoever leaves `uninitialized` can pay for one answer, whoever closes the
session can pay for one notice, and everything else is free. -/
structure Prices (pot : SessionState → ℕ) (cost : Output → ℕ) (answer notice : ℕ) : Prop where
  text : ∀ frame, cost (.sendText frame) ≤ answer
  plain : ∀ frame event, frame.header .event = some event →
    event ∈ ascii "culpeo.close" :: plainEvents → cost (.sendText frame) = 0
  onClose : ∀ code reason, cost (.onClose code reason) ≤ notice
  other : ∀ o, (∀ frame, o ≠ .sendText frame) → (∀ code reason, o ≠ .onClose code reason) →
    cost o = 0
  leave : ∀ st, st ≠ .uninitialized → pot st + answer ≤ pot .uninitialized
  establish : ∀ st, st ≠ .closed → pot .established ≤ pot st
  close : ∀ st, st ≠ .closed → pot .closed + notice ≤ pot st

section Within

theorem within_sendTextFrame {pot : Impl → ℕ} {cost : Output → ℕ} {headers : List HeaderField}
    {body : Bytes} {next : Rest} {c b : ℕ}
    (hcost : ∀ frame, frame.headers = headers → cost (.sendText frame) ≤ c)
    (hnext : next.Within pot cost b) :
    (sendTextFrame headers body next).Within pot cost (c + b) := by
  rw [sendTextFrame]
  cases hframe : makeFrame .control headers body with
  | none => exact hnext.mono (Nat.le_add_left b c)
  | some frame =>
      have hc := hcost frame (makeFrame_eq_some hframe).1
      exact ⟨b, Nat.add_le_add_right hc b, fun _ => hnext⟩

variable {pot : SessionState → ℕ} {cost : Output → ℕ} {answer notice : ℕ}
variable (hp : Prices pot cost answer notice)
include hp

theorem Prices.closing (st : SessionState) : pot .closed ≤ pot st := by
  by_cases h : st = .closed
  · rw [h]
  · exact Nat.le_of_add_right_le (hp.close st h)

/-- A frame that is no answer to a handshake is free. -/
theorem within_sendPlain {event body : Bytes} {headers : List HeaderField} {next : Rest} {b : ℕ}
    (hevent : event ∈ ascii "culpeo.close" :: plainEvents)
    (hnext : next.Within (stake pot) cost b) :
    (sendTextFrame (field .event event :: headers) body next).Within (stake pot) cost b := by
  rw [← Nat.zero_add b]
  refine within_sendTextFrame (fun frame hframe => ?_) hnext
  refine Nat.le_of_eq (hp.plain frame event ?_ hevent)
  rw [WireFrame.header, hframe, fieldValue_field_self]

/-- An action other than a text frame and `on_close` is free. -/
theorem within_call {out : Output} {next : Bool → Rest} {b : ℕ}
    (htext : ∀ frame, out ≠ .sendText frame) (hclose : ∀ code reason, out ≠ .onClose code reason)
    (hnext : ∀ a, (next a).Within (stake pot) cost b) :
    (Prog.call out next).Within (stake pot) cost b :=
  ⟨b, by rw [hp.other out htext hclose, Nat.zero_add], hnext⟩

theorem within_closeTransport {code reason : Bytes} {next : Rest} {b : ℕ}
    (hnext : next.Within (stake pot) cost b) :
    (closeTransport code reason next).Within (stake pot) cost b :=
  within_call hp nofun nofun fun _ => hnext

theorem within_closing (result : Result) (b : ℕ) :
    (Prog.locked transitionToClosed fun _ => .ret result : Rest).Within (stake pot) cost b :=
  fun s => ⟨b, Nat.add_le_add_right (hp.closing s.state) b, trivial⟩

theorem within_sendInitErrorAndClose {code reason body : Bytes} {next : Rest}
    (hnext : next.Within (stake pot) cost 0) :
    (sendInitErrorAndClose code reason body next).Within (stake pot) cost answer :=
  within_sendTextFrame (fun frame _ => hp.text frame) (within_closeTransport hp hnext)

theorem within_rejectInit (r : Rejection) : (rejectInit r).Within (stake pot) cost answer :=
  within_sendInitErrorAndClose hp (within_closing hp _ 0)

theorem within_sendCloseFrame {code reason : Bytes} {next : Rest} {b : ℕ}
    (hnext : next.Within (stake pot) cost b) :
    (sendCloseFrame code reason next).Within (stake pot) cost b :=
  within_sendPlain hp List.mem_cons_self hnext

theorem within_abort (code reason : Bytes) (e : Error) :
    (abort code reason e).Within (stake pot) cost 0 :=
  within_sendCloseFrame hp (within_closeTransport hp trivial)

theorem within_closeAfterSend (code reason : Bytes) (e : Error) :
    (closeAfterSend code reason e).Within (stake pot) cost 0 :=
  within_sendCloseFrame hp (within_closeTransport hp (within_closing hp _ 0))

theorem within_farewell (callbacks : SessionCallbacks) (code reason : Bytes) :
    (farewell callbacks code reason).Within (stake pot) cost notice := by
  refine within_sendCloseFrame hp (within_closeTransport hp ?_)
  split
  · exact ⟨0, hp.onClose code reason, fun _ => trivial⟩
  · trivial

theorem within_awaitAuthResponse (f : ParsedHeadersView) :
    (awaitAuthResponse f).Within (stake pot) cost 0 := by
  refine within_call hp nofun nofun fun tokenOk => ?_
  cases tokenOk with
  | true => trivial
  | false =>
      refine Prog.within_critical fun s => ?_
      rcases afterAuthRejected_cases s with ⟨-, e, h⟩ | ⟨-, code, reason, e, h⟩
      · rw [h]
        exact ⟨0, Nat.le_refl _, trivial⟩
      · rw [h]
        exact ⟨0, hp.closing s.state, within_abort hp _ _ _⟩

theorem within_deliver (setup : Setup) (stream : StreamInfo) (timestampUs : UInt64)
    (body : Bytes) : (deliver setup stream timestampUs body).Within (stake pot) cost 0 := by
  rw [deliver]
  split
  · exact within_call hp nofun nofun fun _ => trivial
  · trivial

theorem within_handOver (headers : List HeaderField) (payload : Bytes) :
    (handOver headers payload).Within (stake pot) cost 0 := by
  rw [handOver]
  split
  · trivial
  · exact within_call hp nofun nofun fun _ => trivial

/-- The decision on a handshake costs one answer. -/
theorem within_completeInit (setup : Setup) (amb : Ambient) (f : ParsedHeadersView)
    (bodyJson : Json) (version : Bytes) {s : Impl} (hs : s.state ≠ .closed) :
    stake pot (completeInit setup amb f bodyJson version s).1 ≤ stake pot s ∧
      (completeInit setup amb f bodyJson version s).2.Within (stake pot) cost answer := by
  rcases completeInit_cases setup amb f bodyJson version s with ⟨r, registry, h, -⟩ | ⟨e, h, -⟩
  · rw [h]
    exact ⟨Nat.le_refl _, within_rejectInit hp r⟩
  · rw [h, finalizeEstablished]
    exact ⟨hp.establish s.state hs,
      within_sendTextFrame (b := 0) (fun frame _ => hp.text frame) trivial⟩

theorem within_awaitAuthValidate (setup : Setup) (amb : Ambient) (f : ParsedHeadersView)
    (bodyJson : Json) (version : Bytes) :
    (awaitAuthValidate setup amb f bodyJson version).Within (stake pot) cost answer := by
  refine within_call hp nofun nofun fun authOk => Prog.within_critical fun s => ?_
  rcases afterAuthValidate_cases setup amb f bodyJson version authOk s with
    ⟨-, e, h⟩ | ⟨-, -, r, h⟩ | ⟨hopen, -, h⟩
  · rw [h]
    exact ⟨0, Nat.add_le_add_left (Nat.zero_le answer) _, trivial⟩
  · rw [h]
    exact ⟨answer, Nat.le_refl _, within_rejectInit hp r⟩
  · rw [h]
    obtain ⟨hpot, hrest⟩ := within_completeInit hp setup amb f bodyJson version hopen
    exact ⟨answer, Nat.add_le_add_right hpot answer, hrest⟩

end Within

end CulpeoStream.Session
