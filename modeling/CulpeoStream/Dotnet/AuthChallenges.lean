import CulpeoStream.Lib.Challenges
import CulpeoStream.Dotnet.Connections

/-!
# Auth challenges of the C# server

`IssueAuthRefreshAsync` refuses while a nonce is pending, so there is one challenge at a
time, whatever calls are made on a connection and on its server (`challenged_calls`).
-/

namespace CulpeoStream.Dotnet

open Challenges Message Utf16

/-- A call on a connection, with the server as the other connections have left it. -/
structure ConnectionCall where
  server : CulpeoSessionServer
  surroundings : Surroundings
  call : Call

namespace ConnectionCall

/-- The connection and its server before the call. -/
def endpoint (m : ConnectionCall) (c : CulpeoConnection) : Endpoint := ⟨m.server, c⟩

/-- The connection after the call. -/
def next (env : Environment) (c : CulpeoConnection) (m : ConnectionCall) : CulpeoConnection :=
  ((m.endpoint c).perform env m.surroundings m.call).connection

end ConnectionCall

/-- The frames of a result. -/
def resultFrames : Except Exn CulpeoProcessResult → List CulpeoMessage
  | .ok result => result.outboundFrames
  | .error _ => []

/-- The frames that a call produces. -/
def Endpoint.produced (env : Environment) (s : Surroundings) (e : Endpoint) :
    Call → List CulpeoMessage
  | .receive frame => resultFrames (e.receive env s frame).2
  | .sendMedia streamId payload timestamp =>
      (e.sendMedia (s.clock 0) streamId payload timestamp).2.toOption.toList
  | .issueAuthRefresh => (e.issueAuthRefresh env s).2.toOption.toList
  | .checkTimeouts => (e.checkTimeouts s).2.outboundFrames
  | .disconnect => []

def CulpeoMessage.isAuthRefresh (frame : CulpeoMessage) : Bool :=
  frame.event == some (utf16 "culpeo.auth-refresh")

/-- The nonce of an auth-response with a credential, in an established session that closes
over no timeout.  Nonces are compared by their bytes. -/
def Endpoint.answered (env : Environment) (s : Surroundings) (e : Endpoint) : Call → Option Bytes
  | .receive frame =>
      if e.connection.state = .established ∧ (e.checkPendingAuthTimeout (s.clock 0)).isNone ∧
          frame.kind = .control ∧ frame.event = some (utf16 "culpeo.auth-response") ∧
          isNullOrWhiteSpace frame.authorization = false then
        match responseNonce env frame with
        | .ok (some nonce) => some (asciiBytes nonce)
        | _ => none
      else none
  | _ => none

/-- What a call means for the challenges: one that is answered, and those that it issues. -/
def challengeMarks (env : Environment) (c : CulpeoConnection) (m : ConnectionCall) :
    List (Mark Bytes) :=
  ((m.endpoint c).answered env m.surroundings m.call).toList.map .answered ++
    ((m.endpoint c).produced env m.surroundings m.call).flatMap fun frame =>
      if frame.isAuthRefresh then
        (m.next env c).pendingNonce.toList.map fun nonce => .issued (asciiBytes nonce)
      else []

/-! ### Calls that are no part of a challenge -/

/-- The connection is closed afterwards, or it was open and its pending nonce is the same. -/
def Leaves (c c' : CulpeoConnection) : Prop :=
  c'.state = .closed ∨ c.state ≠ .closed ∧ c'.pendingNonce = c.pendingNonce

theorem leaves_same {c c' : CulpeoConnection} (hstate : c'.state = c.state)
    (hnonce : c'.pendingNonce = c.pendingNonce) : Leaves c c' := by
  by_cases hclosed : c.state = .closed
  · exact .inl (hstate.trans hclosed)
  · exact .inr ⟨hclosed, hnonce⟩

/-- What a handler does that has nothing to do with challenges. -/
structure Aside (c : CulpeoConnection) (r : Endpoint × Except Exn CulpeoProcessResult) : Prop where
  leaves : Leaves c r.1.connection
  frames : ∀ frame ∈ resultFrames r.2, frame.isAuthRefresh = false

section Aside

variable {c : CulpeoConnection} {e : Endpoint}

/-- A handler that produces nothing. -/
theorem aside_nothing (h : Leaves c e.connection) {r : Except Exn CulpeoProcessResult}
    (hr : resultFrames r = []) : Aside c (e, r) := by
  refine ⟨h, fun frame hframe => ?_⟩
  rw [hr] at hframe
  cases hframe

/-- A handler that produces one frame. -/
theorem aside_frame (h : Leaves c e.connection) {frame : CulpeoMessage}
    (hframe : frame.isAuthRefresh = false) {r : Except Exn CulpeoProcessResult}
    (hr : resultFrames r = [frame]) : Aside c (e, r) := by
  refine ⟨h, fun frame' hmem => ?_⟩
  rw [hr, List.mem_singleton] at hmem
  rw [hmem]
  exact hframe

theorem leaves_stampDisconnected (now : Ticks) :
    Leaves c ((e.setState .closed).stampDisconnected now).connection :=
  .inl (by rw [connection_stampDisconnected]; rfl)

/-- A frame of another event. -/
theorem isAuthRefresh_of_event {frame : CulpeoMessage} {event : Text}
    (hevent : frame.event = some event) (hother : event ≠ utf16 "culpeo.auth-refresh") :
    frame.isAuthRefresh = false := by
  rw [CulpeoMessage.isAuthRefresh, hevent]
  simpa using hother

theorem isAuthRefresh_closeFrame (code reason : Text) :
    (Endpoint.closeFrame code reason).isAuthRefresh = false :=
  isAuthRefresh_of_event  rfl (by decide)

theorem isAuthRefresh_initErrorFrame (code reason : Text) (body : Option Bytes) :
    (initErrorFrame code reason body).isAuthRefresh = false :=
  isAuthRefresh_of_event rfl (by decide)

theorem aside_closeWithCloseFrame (now : Ticks) (code reason : Text) :
    Aside c ((e.closeWithCloseFrame now code reason).1,
      .ok (e.closeWithCloseFrame now code reason).2) :=
  aside_frame (leaves_stampDisconnected now) (isAuthRefresh_closeFrame code reason) rfl

theorem aside_closeOnViolation (h : Leaves c e.connection) (now : Ticks) (ex : Exn) :
    Aside c (e.closeOnViolation now ex) := by
  cases ex with
  | protocolValidation code reason => exact aside_closeWithCloseFrame now code reason
  | _ => exact aside_nothing h rfl

theorem aside_handleIncomingMedia (h : Leaves c e.connection) (rt : Runtime) (now : Ticks)
    (frame : CulpeoMessage) : Aside c (e.handleIncomingMedia rt now frame) := by
  unfold Endpoint.handleIncomingMedia
  split
  · exact aside_closeOnViolation h now _
  · dsimp only
    split
    · refine aside_closeOnViolation ?_ now _
      rw [connection_modifySnapshot]
      exact h
    · refine aside_nothing ?_ rfl
      rw [connection_modifySnapshot]
      exact h

theorem aside_handlePing (env : Environment) (now : Ticks) (frame : CulpeoMessage) :
    Aside e.connection (e.handlePing env now frame) := by
  rcases handlePing_cases env e now frame with ⟨ex, hfailed⟩ | ⟨pings, pongs, hpongs, hhandled⟩
  · rw [hfailed]
    exact aside_nothing (leaves_same rfl rfl) rfl
  · rw [hhandled]
    refine ⟨leaves_same rfl rfl, fun pong hpong => ?_⟩
    obtain ⟨ts, rfl⟩ := hpongs pong hpong
    exact isAuthRefresh_of_event rfl (by decide)

theorem aside_controlFrame (env : Environment) (now : Ticks) {frame : CulpeoMessage}
    (hframe : frame.event ≠ some (utf16 "culpeo.auth-response")) :
    Aside e.connection (e.controlFrame env now frame) := by
  unfold Endpoint.controlFrame
  split
  · exact aside_handlePing env now frame
  · split
    · exact aside_closeWithCloseFrame now _ _
    · split
      · exact aside_frame (leaves_stampDisconnected now) (isAuthRefresh_closeFrame _ _) rfl
      · exact aside_nothing (leaves_same rfl rfl) rfl

theorem aside_handleEstablishedFrame (env : Environment) (now : Ticks) {frame : CulpeoMessage}
    (hframe : frame.kind = .control → frame.event ≠ some (utf16 "culpeo.auth-response")) :
    Aside e.connection (e.handleEstablishedFrame env now frame) := by
  unfold Endpoint.handleEstablishedFrame
  split
  · exact aside_handleIncomingMedia (leaves_same rfl rfl) env.toRuntime now frame
  · rename_i hkind
    have hhandled := aside_controlFrame (e := e) env now (hframe hkind)
    dsimp only
    split
    · rename_i result hresult
      refine ⟨hhandled.leaves, fun frame' hmem => hhandled.frames frame' ?_⟩
      rw [hresult]
      exact hmem
    · exact aside_closeOnViolation hhandled.leaves now _
    · exact aside_closeOnViolation hhandled.leaves now _

theorem aside_refuseInit (h : Leaves c e.connection) (ex : Exn) : Aside c (e.refuseInit ex) := by
  cases ex with
  | protocolValidation code reason =>
      exact aside_frame (.inl rfl) (isAuthRefresh_initErrorFrame code reason none) rfl
  | _ => exact aside_nothing h rfl

theorem aside_handleInitialFrame (hstate : e.connection.state = .uninitialized)
    (env : Environment) (s : Surroundings) (frame : CulpeoMessage) :
    Aside e.connection (e.handleInitialFrame env s frame) := by
  have hopen : e.connection.state ≠ .closed := by
    rw [hstate]
    decide
  unfold Endpoint.handleInitialFrame
  split
  · exact aside_closeWithCloseFrame _ _ _
  · dsimp only
    split
    · exact aside_frame (.inl rfl) (isAuthRefresh_initErrorFrame _ _ _) rfl
    · split
      · refine aside_refuseInit ?_ _
        exact .inr ⟨hopen, rfl⟩
      · split
        · exact aside_frame (.inl rfl) (isAuthRefresh_initErrorFrame _ _ _) rfl
        · unfold Endpoint.acceptInit Endpoint.establish
          dsimp only
          split
          · refine aside_refuseInit ?_ _
            exact .inr ⟨hopen, rfl⟩
          · refine ⟨.inr ⟨hopen, rfl⟩, List.forall_mem_singleton.mpr ?_⟩
            exact isAuthRefresh_of_event rfl (by decide)

end Aside

/-! ### Calls and runs -/

/-- The open nonces of a connection that is not closed are the pending one. -/
def Current (c : CulpeoConnection) (nonces : List Bytes) : Prop :=
  c.state ≠ .closed → nonces = c.pendingNonce.toList.map asciiBytes

section Steps

variable {env : Environment} {c : CulpeoConnection} {nonces : List Bytes} {m : ConnectionCall}

theorem Leaves.current {c' : CulpeoConnection} (h : Leaves c c') (hc : Current c nonces) :
    Current c' nonces := by
  intro hopen
  rcases h with hclosed | ⟨hbefore, hnonce⟩
  · exact absurd hclosed hopen
  · rw [hnonce]
    exact hc hbefore

/-- A call that issues no challenge. -/
theorem challengeMarks_eq (hproduced : ∀ frame ∈ (m.endpoint c).produced env m.surroundings m.call,
      frame.isAuthRefresh = false) :
    challengeMarks env c m =
      ((m.endpoint c).answered env m.surroundings m.call).toList.map .answered := by
  rw [challengeMarks, List.flatMap_eq_nil_iff.mpr, List.append_nil]
  intro frame hframe
  rw [hproduced frame hframe]
  rfl

theorem single_answered (nonce : Option Bytes) :
    Single nonces (nonce.toList.map .answered) := by
  cases nonce <;> trivial

/-- A call keeps the nonces in step, and issues no challenge over an open one. -/
def KeepsStep (env : Environment) (c : CulpeoConnection) (nonces : List Bytes)
    (m : ConnectionCall) : Prop :=
  Single nonces (challengeMarks env c m) ∧
    Current (m.next env c) (opened nonces (challengeMarks env c m))

/-- A call that has nothing to do with challenges. -/
theorem keepsStep_aside (hc : Current c nonces)
    (hanswered : (m.endpoint c).answered env m.surroundings m.call = none)
    (hproduced : ∀ frame ∈ (m.endpoint c).produced env m.surroundings m.call,
      frame.isAuthRefresh = false)
    (hleaves : Leaves c (m.next env c)) : KeepsStep env c nonces m := by
  rw [KeepsStep, challengeMarks_eq hproduced, hanswered]
  exact ⟨trivial, hleaves.current hc⟩

/-- A call that closes. -/
theorem keepsStep_closes
    (hproduced : ∀ frame ∈ (m.endpoint c).produced env m.surroundings m.call,
      frame.isAuthRefresh = false)
    (hclosed : (m.next env c).state = .closed) : KeepsStep env c nonces m := by
  rw [KeepsStep, challengeMarks_eq hproduced]
  exact ⟨single_answered _, fun hopen => absurd hclosed hopen⟩

theorem leaves_timeout {e e' : Endpoint} {now : Ticks} {result : CulpeoProcessResult}
    (h : e.checkPendingAuthTimeout now = some (e', result)) :
    e'.connection.state = .closed ∧ ∀ frame ∈ result.outboundFrames,
      frame.isAuthRefresh = false := by
  unfold Endpoint.checkPendingAuthTimeout at h
  split at h
  · split at h
    · cases h
    · cases h
      exact ⟨rfl, List.forall_mem_singleton.mpr (isAuthRefresh_closeFrame _ _)⟩
  · cases h

/-- **An auth-response in an established session**: the pending challenge is answered, or the
session is closed, or no nonce can be read. -/
theorem handleAuthResponse_cases (env : Environment) (e : Endpoint) (frame : CulpeoMessage)
    (hauthorization : isNullOrWhiteSpace frame.authorization = false) :
    (∃ ex, e.handleAuthResponse env frame = (e, .error ex) ∧
      ∀ nonce, Endpoint.responseNonce env frame ≠ .ok nonce) ∨
    (∃ code reason, e.handleAuthResponse env frame =
      (e, .error (.protocolValidation code reason))) ∨
    ∃ nonce pending, Endpoint.responseNonce env frame = .ok (some nonce) ∧
      e.connection.pendingNonce = some pending ∧ asciiBytes nonce = asciiBytes pending ∧
      e.handleAuthResponse env frame =
        ({ e with
            connection.pendingNonce := none
            connection.authChallengeIssuedAt := none }, .ok (.empty e.connection.state)) := by
  unfold Endpoint.handleAuthResponse
  rw [if_neg (by rw [hauthorization]; decide)]
  cases hnonce : Endpoint.responseNonce env frame with
  | error ex => exact .inl ⟨ex, rfl, fun nonce h => by cases h⟩
  | ok nonce =>
      refine .inr ?_
      cases hpending : e.connection.pendingNonce with
      | none => exact .inl ⟨_, _, rfl⟩
      | some pending =>
          dsimp only
          split
          · exact .inl ⟨_, _, rfl⟩
          · rename_i hmatches
            rw [not_or, not_not] at hmatches
            cases nonce with
            | none => exact absurd rfl hmatches.1
            | some nonce => exact .inr ⟨nonce, pending, rfl, rfl, hmatches.2, rfl⟩

/-- An auth-response that is looked at. -/
structure Responding (m : ConnectionCall) (c : CulpeoConnection) (frame : CulpeoMessage) :
    Prop where
  call : m.call = .receive frame
  established : c.state = .established
  timely : (m.endpoint c).checkPendingAuthTimeout (m.surroundings.clock 0) = none
  control : frame.kind = .control
  event : frame.event = some (utf16 "culpeo.auth-response")

theorem Responding.answered {frame : CulpeoMessage} (h : Responding m c frame) :
    (m.endpoint c).answered env m.surroundings m.call =
      if isNullOrWhiteSpace frame.authorization = false then
        match Endpoint.responseNonce env frame with
        | .ok (some nonce) => some (asciiBytes nonce)
        | _ => none
      else none := by
  rw [h.call]
  unfold Endpoint.answered
  dsimp only
  by_cases hauthorization : isNullOrWhiteSpace frame.authorization = false
  · rw [if_pos hauthorization, if_pos]
    exact ⟨h.established, by rw [h.timely]; rfl, h.control, h.event, hauthorization⟩
  · rw [if_neg hauthorization, if_neg fun hall => hauthorization hall.2.2.2.2]

theorem Responding.receive {frame : CulpeoMessage} (h : Responding m c frame)
    {r : Endpoint × Except Exn CulpeoProcessResult}
    (hr : (m.endpoint c).handleAuthResponse env frame = r) :
    (m.endpoint c).receive env m.surroundings frame =
      match r.2 with
      | .ok result => (r.1, .ok result)
      | .error .json =>
          r.1.closeOnViolation (m.surroundings.clock 1)
            (protocolError (utf16 "Control frame body must be valid JSON."))
      | .error ex => r.1.closeOnViolation (m.surroundings.clock 1) ex := by
  have hstate : (m.endpoint c).connection.state = .established := h.established
  unfold Endpoint.receive Endpoint.handleEstablishedFrame Endpoint.controlFrame
  rw [h.timely, hstate, h.control, h.event, ← hr]
  rfl

theorem keepsStep_responds (hc : Current c nonces) {frame : CulpeoMessage}
    (h : Responding m c frame) : KeepsStep env c nonces m := by
  have hnext : m.next env c = ((m.endpoint c).receive env m.surroundings frame).1.connection := by
    rw [ConnectionCall.next, h.call]
    rfl
  have hproduced : (m.endpoint c).produced env m.surroundings m.call =
      resultFrames ((m.endpoint c).receive env m.surroundings frame).2 := by
    rw [h.call]
    rfl
  have hsame : Leaves c (m.endpoint c).connection := leaves_same rfl rfl
  -- An exception leaves the connection as it is or closes it.
  have hfails : ∀ ex, (m.endpoint c).handleAuthResponse env frame = (m.endpoint c, .error ex) →
      Aside c ((m.endpoint c).receive env m.surroundings frame) := by
    intro ex hex
    rw [h.receive hex]
    dsimp only
    split
    · rename_i hok
      cases hok
    · exact aside_closeOnViolation hsame _ _
    · exact aside_closeOnViolation hsame _ _
  by_cases hauthorization : isNullOrWhiteSpace frame.authorization = false
  · rcases handleAuthResponse_cases env (m.endpoint c) frame hauthorization with
      ⟨ex, hex, hunread⟩ | ⟨code, reason, hex⟩ | ⟨nonce, pending, hnonce, hpending, hbytes, hok⟩
    · have haside := hfails ex hex
      refine keepsStep_aside hc ?_ (by rw [hproduced]; exact haside.frames)
        (by rw [hnext]; exact haside.leaves)
      rw [h.answered, if_pos hauthorization]
      split
      · exact absurd ‹_› (hunread _)
      · rfl
    · refine keepsStep_closes (by rw [hproduced]; exact (hfails _ hex).frames) ?_
      rw [hnext, h.receive hex]
      exact congrArg CulpeoConnection.state (connection_stampDisconnected _ _)
    · have hmarks : challengeMarks env c m = [.answered (asciiBytes pending)] := by
        rw [challengeMarks_eq, h.answered, if_pos hauthorization, hnonce, ← hbytes]
        · rfl
        · rw [hproduced, h.receive hok]
          exact fun frame hframe => absurd hframe List.not_mem_nil
      have hopen : c.state ≠ .closed := by
        rw [h.established]
        decide
      rw [KeepsStep, hmarks, hc hopen]
      refine ⟨trivial, fun _ => ?_⟩
      have hpending' : c.pendingNonce = some pending := hpending
      rw [hnext, h.receive hok, hpending']
      simp [opened, Mark.apply]
  · have hblank : isNullOrWhiteSpace frame.authorization = true := by simpa using hauthorization
    have haside := hfails _ (if_pos hblank)
    refine keepsStep_aside hc ?_ (by rw [hproduced]; exact haside.frames)
      (by rw [hnext]; exact haside.leaves)
    rw [h.answered, if_neg hauthorization]

theorem keepsStep_issueAuthRefresh (hc : Current c nonces) (hcall : m.call = .issueAuthRefresh) :
    KeepsStep env c nonces m := by
  have hanswered : (m.endpoint c).answered env m.surroundings m.call = none := by
    rw [hcall]
    rfl
  have hproduced : (m.endpoint c).produced env m.surroundings m.call =
      ((m.endpoint c).issueAuthRefresh env m.surroundings).2.toOption.toList := by
    rw [hcall]
    rfl
  have hnext : m.next env c =
      ((m.endpoint c).issueAuthRefresh env m.surroundings).1.connection := by
    rw [ConnectionCall.next, hcall]
    rfl
  rcases issueAuthRefresh_cases env m.surroundings (m.endpoint c) with
    ⟨ex, hex⟩ | ⟨nonce, hstate, hnone, hok⟩
  · rw [hex] at hproduced hnext
    refine keepsStep_aside hc hanswered ?_ ?_
    · rw [hproduced]
      exact fun frame hframe => absurd hframe List.not_mem_nil
    · rw [hnext]
      exact leaves_same rfl rfl
  · rw [hok] at hproduced hnext
    have hopen : c.state ≠ .closed := by
      change c.state = .established at hstate
      rw [hstate]
      decide
    -- No challenge is open where one is issued.
    have hclear : nonces = [] := by
      change c.pendingNonce = none at hnone
      rw [hc hopen, hnone]
      rfl
    have hframe : (Endpoint.authRefreshFrame env nonce).isAuthRefresh = true := by
      change (some (utf16 "culpeo.auth-refresh") == some (utf16 "culpeo.auth-refresh")) = true
      exact beq_self_eq_true _
    have hmarks : challengeMarks env c m = [.issued (asciiBytes nonce)] := by
      rw [challengeMarks, hanswered, hproduced, hnext]
      simp [Except.toOption, hframe]
    rw [KeepsStep, hmarks, hclear, hnext]
    exact ⟨⟨rfl, trivial⟩, fun _ => rfl⟩

theorem keepsStep_receive (hc : Current c nonces) {frame : CulpeoMessage}
    (hcall : m.call = .receive frame) : KeepsStep env c nonces m := by
  have hnext : m.next env c = ((m.endpoint c).receive env m.surroundings frame).1.connection := by
    rw [ConnectionCall.next, hcall]
    rfl
  have hproduced : (m.endpoint c).produced env m.surroundings m.call =
      resultFrames ((m.endpoint c).receive env m.surroundings frame).2 := by
    rw [hcall]
    rfl
  -- Only an auth-response on an established connection answers a challenge.
  by_cases hresponding : Responding m c frame
  · exact keepsStep_responds hc hresponding
  · have hanswered : (m.endpoint c).answered env m.surroundings m.call = none := by
      rw [hcall]
      refine if_neg fun hall => hresponding ?_
      exact ⟨hcall, hall.1, Option.isNone_iff_eq_none.mp hall.2.1, hall.2.2.1, hall.2.2.2.1⟩
    have haside : Aside c ((m.endpoint c).receive env m.surroundings frame) := by
      have hsame : Leaves c (m.endpoint c).connection := leaves_same rfl rfl
      unfold Endpoint.receive
      split
      · rename_i timedOut result htimeout
        obtain ⟨hclosed, hframes⟩ := leaves_timeout htimeout
        exact ⟨.inl hclosed, hframes⟩
      · rename_i htimely
        split
        · rename_i hstate
          exact aside_handleInitialFrame hstate env m.surroundings frame
        · exact aside_closeOnViolation hsame _ _
        · rename_i hstate
          refine aside_handleEstablishedFrame (e := m.endpoint c) env _ fun hkind hevent =>
            hresponding ?_
          exact ⟨hcall, hstate, htimely, hkind, hevent⟩
        · exact aside_nothing hsame rfl
    refine keepsStep_aside hc hanswered ?_ ?_
    · rw [hproduced]
      exact haside.frames
    · rw [hnext]
      exact haside.leaves

theorem sendMedia_aside (e : Endpoint) (now : Ticks) (streamId : Text) (payload : Bytes)
    (timestamp : Int64) :
    (e.sendMedia now streamId payload timestamp).1.connection = e.connection ∧
      ∀ frame ∈ (e.sendMedia now streamId payload timestamp).2.toOption.toList,
        frame.isAuthRefresh = false := by
  unfold Endpoint.sendMedia
  split
  · exact ⟨rfl, fun frame hframe => absurd hframe List.not_mem_nil⟩
  · split
    · exact ⟨rfl, fun frame hframe => absurd hframe List.not_mem_nil⟩
    · dsimp only
      split
      · exact ⟨connection_modifySnapshot e _, fun frame hframe => absurd hframe List.not_mem_nil⟩
      · refine ⟨connection_modifySnapshot e _, fun frame hframe => ?_⟩
        rw [List.mem_singleton.mp hframe]
        rfl

/-- **One call.** -/
theorem keepsStep_call (env : Environment) (hc : Current c nonces) (m : ConnectionCall) :
    KeepsStep env c nonces m := by
  -- Only `ReceiveAsync` and `IssueAuthRefreshAsync` concern the challenge of an open connection.
  cases hcall : m.call with
  | receive frame => exact keepsStep_receive hc hcall
  | issueAuthRefresh => exact keepsStep_issueAuthRefresh hc hcall
  | sendMedia streamId payload timestamp =>
      have hsend := sendMedia_aside (m.endpoint c) (m.surroundings.clock 0) streamId payload
        timestamp
      refine keepsStep_aside hc (by rw [hcall]; rfl) ?_ ?_
      · rw [hcall]
        exact hsend.2
      · rw [ConnectionCall.next, hcall]
        exact leaves_same (congrArg CulpeoConnection.state hsend.1)
          (congrArg CulpeoConnection.pendingNonce hsend.1)
  | checkTimeouts =>
      cases htimeout : (m.endpoint c).checkPendingAuthTimeout (m.surroundings.clock 0) with
      | none =>
          have hnothing : (m.endpoint c).checkTimeouts m.surroundings =
              (m.endpoint c, .empty c.state) := by
            rw [Endpoint.checkTimeouts, htimeout]
            rfl
          refine keepsStep_aside hc (by rw [hcall]; rfl) ?_ ?_
          · rw [hcall, Endpoint.produced, hnothing]
            exact fun frame hframe => absurd hframe List.not_mem_nil
          · rw [ConnectionCall.next, hcall, Endpoint.perform, hnothing]
            exact leaves_same rfl rfl
      | some timedOut =>
          have hcloses : (m.endpoint c).checkTimeouts m.surroundings = timedOut := by
            rw [Endpoint.checkTimeouts, htimeout]
            rfl
          obtain ⟨hclosed, hframes⟩ := leaves_timeout htimeout
          refine keepsStep_closes ?_ ?_
          · rw [hcall, Endpoint.produced, hcloses]
            exact hframes
          · rw [ConnectionCall.next, hcall, Endpoint.perform, hcloses]
            exact hclosed
  | disconnect =>
      refine keepsStep_closes ?_ ?_
      · rw [hcall]
        exact fun frame hframe => absurd hframe List.not_mem_nil
      · rw [ConnectionCall.next, hcall]
        rfl

/-- **Runs.**  One challenge at a time, and the one that is open is the pending one. -/
theorem challenged_calls (env : Environment) (calls : List ConnectionCall) :
    Single [] (marks (ConnectionCall.next env) (challengeMarks env) {} calls) ∧
      Current (calls.foldl (ConnectionCall.next env) {})
        (opened [] (marks (ConnectionCall.next env) (challengeMarks env) {} calls)) :=
  marks_induction (I := fun c nonces _ => Current c nonces)
    (fun _ _ m _ hc => keepsStep_call env hc m) calls fun _ => rfl

end Steps

end CulpeoStream.Dotnet
