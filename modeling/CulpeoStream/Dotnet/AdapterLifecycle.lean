import CulpeoStream.Lib.Monitor
import CulpeoStream.Lib.Triples
import CulpeoStream.Dotnet.AdapterCalls
import CulpeoStream.Dotnet.Media

/-!
# The handler of a connection

`RunAsync` stands between the socket, the connection and the handler.  A `culpeo.init` reaches
the connection only after the handler has agreed to its credential (`authenticated_first`), and
the handler sees one session from its beginning to its end: it is told of the session once, then
gets the frames that the connection has accepted, and is told last that the session is over
(`handler_lifecycle`).

Both are read off a monitor of what `RunAsync` does with the handler and the connection, which
holds while the handler's own calls, and other connections of the server, take their steps in
between.
-/

open Resumption

namespace CulpeoStream.Dotnet.Adapter

open Message Utf16

/-! ### The monitor -/

/-- What `RunAsync` does with its handler and its connection. -/
inductive Contact where
  | authenticated (authorization : Text) (granted : Bool)
  /-- The connection has been given a frame. -/
  | received (frame : CulpeoMessage)
  | connected
  | media (frame : CulpeoMediaFrameContext)
  | event (event : CulpeoEventContext)
  /-- The connection has been told that it is over. -/
  | released
  | disconnected (closeCode : Option Text)

/-- The handler has agreed to a credential. -/
def AdapterAnswer.grants : AdapterAnswer → Bool
  | .flag value => value
  | _ => false

def contactOf : AdapterAction → AdapterAnswer → Option Contact
  | .authenticate authorization, answer => some (.authenticated authorization answer.grants)
  | .receive frame, .surroundings _ => some (.received frame)
  | .onConnected, _ => some .connected
  | .onMediaFrame frame, _ => some (.media frame)
  | .onEvent event, _ => some (.event event)
  | .disconnect, _ => some .released
  | .onDisconnected closeCode, _ => some (.disconnected closeCode)
  | _, _ => none

/-- How far things have come. -/
structure Phase where
  /-- The handler knows of the session. -/
  connected : Bool := false
  /-- The handler has agreed to a credential. -/
  admitted : Bool := false
  /-- The credential that it has just agreed to. -/
  granted : Option Text := none
  /-- The frame that the connection has got, until it is handed to the handler. -/
  pending : Option CulpeoMessage := none
  /-- The handler has not agreed to a credential. -/
  refused : Bool := false
  released : Bool := false
  /-- What the handler has been told at the end. -/
  left : Option (Option Text) := none

def Phase.running (phase : Phase) : Bool := !phase.refused && !phase.released

/-- What may happen next. -/
def Phase.allows (phase : Phase) : Contact → Bool
  | .authenticated _ _ => phase.running
  | .received frame => phase.running &&
      (!isInit frame || phase.granted = some (frame.authorization.getD []))
  | .connected => phase.running && phase.admitted && !phase.connected && phase.pending.isSome
  | .media context => phase.running && phase.connected &&
      phase.pending.any fun frame => frame.kind = .media && mediaFrameContext frame = context
  | .event context => phase.running && phase.connected &&
      phase.pending.any fun frame =>
        frame.kind = .control && isApplicationEvent frame.event && eventContext frame = context
  | .released => !phase.released
  | .disconnected _ => phase.released && phase.connected && phase.left.isNone

def Phase.after (phase : Phase) : Contact → Phase
  | .authenticated authorization granted =>
      { phase with
        admitted := phase.admitted || granted
        granted := if granted then some authorization else none
        pending := none
        refused := !granted }
  | .received frame => { phase with granted := none, pending := some frame }
  | .connected => { phase with connected := true, granted := none }
  | .media _ | .event _ => { phase with granted := none, pending := none }
  | .released => { phase with granted := none, pending := none, released := true }
  | .disconnected closeCode =>
      { phase with granted := none, pending := none, left := some closeCode }

def monitor : Monitor Phase Contact where
  allows := Phase.allows
  after := Phase.after

/-! ### The watch on `RunAsync` -/

/-- The fields that only `RunAsync` changes. -/
structure Own where
  connection : CulpeoConnection
  closed : Bool
  handlerConnected : Bool
  closeCode : Option Text

def own (a : Adapter) : Own :=
  ⟨a.endpoint.connection, a.closed, a.handlerConnected, a.closeCode⟩

/-- There is no session. -/
def NoSession (connection : CulpeoConnection) : Prop :=
  connection.state ≠ .established ∧ connection.snapshot = none

/-- What holds when `RunAsync` has returned. -/
structure Ended (phase : Phase) (own : Own) : Prop where
  released : phase.released = true
  left : phase.connected = true → phase.left = some own.closeCode
  closed : own.closed = true
  state : own.connection.state = .closed

/-- The log is in order up to a phase with a property, and there is no session unless the
handler has agreed to a credential. -/
def Holding (P : Phase → Own → Prop) (log : List Contact) (a : Adapter) : Prop :=
  ∃ phase, monitor.follow {} log = some phase ∧
    (phase.admitted = true ∨ NoSession a.own.connection) ∧ P phase a.own

def watch : Watch Adapter AdapterAction AdapterAnswer Result Contact where
  rely a a' := a'.own = a.own
  note := contactOf
  assume _ := True
  holds log a point := Holding (fun phase own =>
    ∀ result, point = .ret (some result) → Ended phase own) log a

section Conditions

variable {P P' : Phase → Own → Prop} {log : List Contact} {a a' : Adapter}

theorem Holding.mono (h : Holding P log a) (hP : ∀ phase own, P phase own → P' phase own) :
    Holding P' log a := by
  obtain ⟨phase, hfollow, hgate, hphase⟩ := h
  exact ⟨phase, hfollow, hgate, hP phase a.own hphase⟩

theorem Holding.congr (h : Holding P log a) (hown : a'.own = a.own) : Holding P log a' := by
  unfold Holding
  rw [hown]
  exact h

/-- Before `RunAsync` has returned, any property is enough. -/
theorem Holding.holds {point : Rest} (h : Holding P log a)
    (hpoint : ∀ result, point ≠ .ret (some result)) : watch.holds log a point := by
  obtain ⟨phase, hfollow, hgate, -⟩ := h
  exact ⟨phase, hfollow, hgate, fun result hresult => absurd hresult (hpoint result)⟩

theorem stable_holding : Stable watch (Holding P) where
  rely h hown := h.congr hown
  locked _ _ h := h.holds fun _ hret => (by cases hret)
  call _ _ h := h.holds fun _ hret => (by cases hret)

/-- Something happens that the monitor allows. -/
theorem Holding.concat {contact : Contact} (h : Holding P log a)
    (hP : ∀ phase own, P phase own → phase.allows contact = true ∧ P' (phase.after contact) own) :
    Holding P' (log ++ [contact]) a := by
  obtain ⟨phase, hfollow, hgate, hphase⟩ := h
  obtain ⟨hallows, hafter⟩ := hP phase a.own hphase
  refine ⟨_, Monitor.follow_concat hfollow hallows, hgate.imp_left fun hadmitted => ?_, hafter⟩
  cases contact with
  | authenticated authorization granted => exact Bool.or_eq_true_iff.mpr (.inl hadmitted)
  | _ => exact hadmitted

/-- The fields change. -/
theorem Holding.update (h : Holding P log a)
    (hP : ∀ phase, P phase a.own → P' phase a'.own)
    (hgate : NoSession a.own.connection → NoSession a'.own.connection) : Holding P' log a' := by
  obtain ⟨phase, hfollow, hsession, hphase⟩ := h
  exact ⟨phase, hfollow, hsession.imp_right hgate, hP phase hphase⟩

end Conditions

/-! ### The connection -/

section Connection

variable {e : Endpoint} {frame : CulpeoMessage}

theorem snapshot_stampDisconnected (e : Endpoint) (now : Ticks) :
    (e.stampDisconnected now).connection.snapshot = e.connection.snapshot ∧
      (e.stampDisconnected now).connection.state = e.connection.state := by
  unfold Endpoint.stampDisconnected
  split
  · rename_i ref _ href _
    unfold Endpoint.modifySnapshot
    rw [href]
    exact ⟨href, rfl⟩
  · exact ⟨rfl, rfl⟩

theorem noSession_disconnect (s : Surroundings) (h : NoSession e.connection) :
    NoSession (e.disconnect s).connection := by
  refine ⟨nofun, ?_⟩
  exact (snapshot_stampDisconnected e (s.clock 0)).1.trans h.2

theorem noSession_closeWithCloseFrame (now : Ticks) (code reason : Text)
    (h : NoSession e.connection) :
    NoSession (e.closeWithCloseFrame now code reason).1.connection := by
  have hstamp := snapshot_stampDisconnected (e.setState .closed) now
  refine ⟨?_, hstamp.1.trans h.2⟩
  rw [Endpoint.closeWithCloseFrame, hstamp.2]
  exact nofun

theorem noSession_checkTimeouts (s : Surroundings) (h : NoSession e.connection) :
    NoSession (e.checkTimeouts s).1.connection := by
  unfold Endpoint.checkTimeouts Endpoint.checkPendingAuthTimeout
  split
  · split
    · exact h
    · exact ⟨nofun, h.2⟩
  · exact h

/-- A connection without a session gets one by a culpeo.init only. -/
theorem noSession_receive (env : Environment) (s : Surroundings) (h : NoSession e.connection)
    (hinit : isInit frame = false) :
    NoSession (e.receive env s frame).1.connection ∧
      ∀ result, (e.receive env s frame).2 = .ok result → result.state ≠ .established := by
  have hclose : ∀ now reason,
      NoSession (e.closeOnViolation now (protocolError reason)).1.connection ∧
        ∀ result, (e.closeOnViolation now (protocolError reason)).2 = .ok result →
          result.state ≠ .established := by
    refine fun now reason =>
      ⟨noSession_closeWithCloseFrame now (utf16 "protocol-error") reason h, ?_⟩
    rintro result ⟨⟩
    exact nofun
  unfold Endpoint.receive Endpoint.checkPendingAuthTimeout
  split
  · rename_i timedOut result htimeout
    split at htimeout
    · split at htimeout
      · cases htimeout
      · cases htimeout
        refine ⟨⟨nofun, h.2⟩, ?_⟩
        rintro result ⟨⟩
        exact nofun
    · cases htimeout
  · split
    · have hfirst : frame.kind ≠ .control ∨ frame.event ≠ some (utf16 "culpeo.init") := by
        refine not_and_or.mp fun hboth => ?_
        rw [isInit, hboth.1, hboth.2] at hinit
        cases hinit
      unfold Endpoint.handleInitialFrame
      rw [if_pos hfirst]
      exact hclose (s.clock 1) _
    · exact hclose (s.clock 1) _
    · rename_i hstate
      exact absurd hstate h.1
    · refine ⟨h, ?_⟩
      rintro result ⟨⟩
      exact nofun

end Connection

/-! ### What the methods keep -/

/-- An action on the socket or the clock, or one that only throws. -/
def AdapterAction.transport : AdapterAction → Bool
  | .isCancellationRequested | .throwIfCancellationRequested | .webSocketState | .waitSendLock
  | .releaseSendLock | .disposeSendLock | .send _ _ | .closeWebSocket | .utcNow => true
  | _ => false

section Transport

variable {out : AdapterAction → Prop} {Good : Rest → Prop}
  (h : Async.Closed (fun a a' => a' = a) out Good)
  (hout : ∀ action : AdapterAction, action.transport = true → out action)
include h hout

theorem keeps_sendFrameAsync (frame : CulpeoMessage) : Async.Keeps Good (sendFrameAsync frame) := by
  refine (h.await (hout _ rfl) _).bind fun _ => (h.await (hout _ rfl) _).bind fun _ =>
    Async.Keeps.ensuring ?_ (h.await (hout _ rfl) _)
  refine (h.await (hout _ rfl) _).bind fun state => ?_
  split
  · exact h.await (hout _ rfl) _
  · exact Async.keeps_pure _

theorem keeps_sendFramesAsync (frames : List CulpeoMessage) :
    Async.Keeps Good (sendFramesAsync frames) := by
  induction frames with
  | nil => exact Async.keeps_pure _
  | cons frame frames ih => exact (keeps_sendFrameAsync h hout frame).bind fun _ => ih

theorem keeps_closeTransport : Async.Keeps Good closeTransport := by
  refine (h.await (hout _ rfl) _).bind fun state => ?_
  split
  · exact h.await (hout _ rfl) _
  · exact Async.keeps_pure _

end Transport

/-- An action that is not noted. -/
def Quiet (action : AdapterAction) : Prop := ∀ answer, contactOf action answer = none

theorem quiet_of_transport (action : AdapterAction) (h : action.transport = true) :
    Quiet action := by
  cases action with
  | authenticate authorization => cases h
  | receive frame => cases h
  | onConnected => cases h
  | onMediaFrame frame => cases h
  | onEvent event => cases h
  | onDisconnected closeCode => cases h
  | disconnect => cases h
  | _ => exact fun _ => rfl

theorem keeps_receiveMessageAsync {Good : Rest → Prop}
    (h : Async.Closed (fun a a' => a' = a) Quiet Good) (o : CulpeoStreamOptions)
    (hnone : Good (.ret none)) (rounds : ℕ) (accumulator : Bytes) :
    Async.Keeps Good (receiveMessageAsync o rounds accumulator) := by
  induction rounds generalizing accumulator with
  | zero => exact fun _ _ => hnone
  | succ rounds ih =>
      refine (h.await (fun _ => rfl) _).bind fun ⟨messageType, data, endOfMessage⟩ => ?_
      dsimp only
      split
      · exact Async.keeps_pure _
      · split
        · exact (keeps_sendFrameAsync h quiet_of_transport _).bind fun _ => Async.keeps_throw _
        · split
          · exact Async.keeps_pure _
          · exact ih _

/-! ### What the methods do -/

section Methods

variable {P : Phase → Own → Prop} {α β : Type}

/-- The loop goes on, and the handler knows of the session if `RunAsync` has it so. -/
def Running (phase : Phase) (own : Own) : Prop :=
  phase.running = true ∧ phase.left = none ∧ own.handlerConnected = phase.connected

/-- The loop has ended. -/
def Stopping (phase : Phase) (own : Own) : Prop :=
  phase.released = false ∧ phase.left = none ∧ own.handlerConnected = phase.connected

theorem Running.stopping {phase : Phase} {own : Own} (h : Running phase own) :
    Stopping phase own := by
  refine ⟨?_, h.2⟩
  have hrunning := h.1
  rw [Phase.running, Bool.and_eq_true] at hrunning
  simpa using hrunning.2

/-- A method has returned with `Q`, or its exception ends the loop. -/
def After (Q : α → Phase → Own → Prop) : Except AdapterExn α → Phase → Own → Prop
  | .ok a => Q a
  | .error _ => Stopping

/-- The method leads from `P` to `Q`, or throws. -/
def Does (P : Phase → Own → Prop) (x : Method α) (Q : α → Phase → Own → Prop) : Prop :=
  Async.Triple watch (Holding P) x fun r => Holding (After Q r)

theorem does_pure {Q : α → Phase → Own → Prop} {a : α}
    (h : ∀ phase own, P phase own → Q a phase own) : Does P (pure a) Q :=
  Async.triple_pure fun _ _ h' => h'.mono h

theorem does_throw {Q : α → Phase → Own → Prop} (e : AdapterExn)
    (h : ∀ phase own, P phase own → Stopping phase own) : Does P (throw e) Q :=
  Async.triple_throw fun _ _ h' => h'.mono h

theorem Does.bind {x : Method α} {f : α → Method β} {R : α → Phase → Own → Prop}
    {Q : β → Phase → Own → Prop} (h : Does P x R) (hf : ∀ a, Does (R a) (f a) Q) :
    Does P (x >>= f) Q :=
  Async.Triple.bind h hf fun _ _ _ h => h

theorem Does.weaken {P' : Phase → Own → Prop} {x : Method α} {Q : α → Phase → Own → Prop}
    (h : Does P x Q) (hP : ∀ phase own, P' phase own → P phase own) : Does P' x Q :=
  Async.Triple.weaken h (fun _ _ h => h.mono hP) fun _ _ _ => id

theorem closed_holding : Async.Closed (fun a a' : Adapter => a' = a) Quiet
    fun p : Rest => ∀ log a, Holding P log a → p.Safe watch log a :=
  stable_holding.closed.narrow (fun _ _ heq _ h => heq ▸ h) fun _ => id

/-- A call that has used up its rounds. -/
theorem safe_ret_none (log : List Contact) (a : Adapter) (h : Holding P log a) :
    (Prog.ret none : Rest).Safe watch log a :=
  fun _ hown => (h.congr hown).holds fun _ hret => (by cases hret)

/-- A method of which nothing is noted. -/
theorem does_keeps {x : Method α}
    (h : Async.Keeps (fun p : Rest => ∀ log a, Holding P log a → p.Safe watch log a) x)
    (hstop : ∀ phase own, P phase own → Stopping phase own) : Does P x fun _ => P := by
  refine (Async.Triple.of_keeps h).weaken (fun _ _ => id) fun r log a h => ?_
  cases r with
  | ok _ => exact h
  | error e => exact h.mono hstop

/-- An action of which nothing is noted, and which does not throw. -/
theorem does_await_quiet {action : AdapterAction} {answer : AdapterAnswer → Except AdapterExn α}
    (hquiet : Quiet action) (hok : ∀ r, ∃ a, answer r = .ok a) :
    Does P (.await action answer) fun _ => P := by
  refine Async.triple_await_quiet stable_holding hquiet fun log a r h => ?_
  obtain ⟨value, hvalue⟩ := hok r
  rw [hvalue]
  exact h

theorem does_read {f : Adapter → α} {Q : α → Phase → Own → Prop}
    (h : ∀ phase a, P phase a.own → Q (f a) phase a.own) : Does P (.read f) Q :=
  Async.triple_read stable_holding fun _ a h' => h'.update (fun phase => h phase a) id

theorem does_setCloseCode (code : Option Text) :
    Does Stopping (setCloseCode code) fun _ => Stopping :=
  Async.triple_update stable_holding fun _ _ h => h.update (fun _ => id) id

/-! ### The loop -/

/-- The frame may be given to the connection. -/
def Cleared (frame : CulpeoMessage) (phase : Phase) (own : Own) : Prop :=
  Running phase own ∧ (isInit frame = true →
    phase.granted = some (frame.authorization.getD []) ∧ phase.admitted = true)

/-- After the authentication of a frame. -/
def Answered (frame : CulpeoMessage) : Bool → Phase → Own → Prop
  | true => Cleared frame
  | false => Stopping

theorem does_authenticateFrame (frame : CulpeoMessage) :
    Does Running (authenticateFrame frame) (Answered frame) := by
  unfold authenticateFrame
  split
  · have hask : Does Running
        (.await (.authenticate (frame.authorization.getD [])) AdapterAnswer.asFlag)
        (Answered frame) := by
      refine Async.triple_await stable_holding fun log a answer h _ => ?_
      have hyes : Holding (Answered frame true)
          (log ++ [.authenticated (frame.authorization.getD []) true]) a :=
        h.concat fun phase own hrunning => ⟨hrunning.1,
          ⟨congrArg not hrunning.stopping.1, hrunning.2⟩, fun _ => ⟨rfl, Bool.or_true _⟩⟩
      have hno : Holding Stopping (log ++ [.authenticated (frame.authorization.getD []) false]) a :=
        h.concat fun phase own hrunning => ⟨hrunning.1, hrunning.stopping⟩
      cases answer with
      | flag value =>
          cases value with
          | true => exact hyes
          | false => exact hno
      | raises e => exact hno
      | _ => exact hno
    refine hask.bind fun granted => ?_
    cases granted with
    | true => exact does_pure fun _ _ => id
    | false =>
        refine (does_keeps (keeps_sendFrameAsync closed_holding quiet_of_transport _)
          fun _ _ => id).bind fun _ => ?_
        exact (does_setCloseCode _).bind fun _ => does_pure fun _ _ => id
  · rename_i hinit
    exact does_pure fun phase own hrunning => ⟨hrunning, fun h => absurd h hinit⟩

/-- After the connection has got a frame.  What the hint says goes with a culpeo.init. -/
def Given (frame : CulpeoMessage) (hint : Prop) (phase : Phase) (own : Own) : Prop :=
  Running phase own ∧ phase.pending = some frame ∧ (hint → phase.admitted = true)

theorem does_receiveAsync (env : Environment) (frame : CulpeoMessage) :
    Does (Cleared frame) (receiveAsync env frame) fun result =>
      Given frame (result.state = .established) := by
  -- The frame is given to the connection, or the token is cancelled.
  have hgive : Does (Cleared frame) (.await (.receive frame) AdapterAnswer.asSurroundings)
      fun _ => Given frame (isInit frame = true) := by
    refine Async.triple_await stable_holding fun log a answer h _ => ?_
    cases answer with
    | surroundings s =>
        refine h.concat fun phase own hcleared => ⟨?_, hcleared.1, rfl, fun hinit =>
          (hcleared.2 hinit).2⟩
        have hrunning := hcleared.1.1
        cases hinit : isInit frame with
        | false => simp [Phase.allows, hrunning, hinit]
        | true => simp [Phase.allows, hrunning, hinit, (hcleared.2 hinit).1]
    | raises e => exact (List.append_nil log).symm ▸ h.mono fun _ _ h => h.1.stopping
    | _ => exact (List.append_nil log).symm ▸ h.mono fun _ _ h => h.1.stopping
  refine hgive.bind fun s => Async.triple_step stable_holding fun log a h => ?_
  obtain ⟨phase, hfollow, hgate, hrunning, hpending, hinit⟩ := h
  -- Where the handler has agreed to no credential, the frame is no culpeo.init.
  have hnone : NoSession a.endpoint.connection → phase.admitted ≠ true →
      NoSession (a.endpoint.receive env s frame).1.connection ∧
        ∀ result, (a.endpoint.receive env s frame).2 = .ok result → result.state ≠ .established :=
    fun hsession hnot => noSession_receive env s hsession
      (Bool.eq_false_iff.mpr fun h => hnot (hinit h))
  refine ⟨phase, hfollow, or_iff_not_imp_left.mpr fun hnot => ?_, ?_⟩
  · exact (hnone (hgate.resolve_left hnot) hnot).1
  · cases hr : (a.endpoint.receive env s frame).2 with
    | error e => exact hrunning.stopping
    | ok result =>
        refine ⟨hrunning, hpending, fun hstate => hgate.elim id fun hsession => ?_⟩
        exact not_not.mp fun hnot => (hnone hsession hnot).2 result hr hstate

/-- The handler knows of the session that the frame is of. -/
def Told (frame : CulpeoMessage) (hint : Prop) (phase : Phase) (own : Own) : Prop :=
  Running phase own ∧ phase.pending = some frame ∧ (hint → phase.connected = true)

/-- The handler is about to be told. -/
structure Announcing (frame : CulpeoMessage) (phase : Phase) (own : Own) : Prop where
  running : phase.running = true
  left : phase.left = none
  admitted : phase.admitted = true
  connected : phase.connected = false
  pending : phase.pending = some frame
  handlerConnected : own.handlerConnected = true

theorem does_announce (frame : CulpeoMessage) (hint : Prop) :
    Does (Announcing frame) (perform .onConnected) fun _ => Told frame hint := by
  refine Async.triple_await stable_holding fun log a answer h _ => ?_
  have htold : Holding (Told frame hint) (log ++ [.connected]) a := by
    refine h.concat fun phase own h => ⟨?_, ⟨h.running, h.left, h.handlerConnected⟩, h.pending,
      fun _ => rfl⟩
    simp [Phase.allows, h.running, h.admitted, h.connected, h.pending]
  cases answer with
  | raises e => exact htold.mono fun _ _ h => h.1.stopping
  | _ => exact htold

theorem does_sessionStartedAt : Does P sessionStartedAt fun _ => P := by
  refine (does_read (Q := fun _ => P) fun _ _ => id).bind fun startedAt => ?_
  cases startedAt with
  | some startedAt => exact does_pure fun _ _ => id
  | none =>
      refine does_await_quiet (fun _ => rfl) fun r => ?_
      cases r with
      | time now => exact ⟨now, rfl⟩
      | _ => exact ⟨0, rfl⟩

theorem does_connectHandler (frame : CulpeoMessage) (result : CulpeoProcessResult) :
    Does (Given frame (result.state = .established)) (connectHandler result)
      fun _ => Told frame (result.state = .established) := by
  refine (does_read (Q := fun connected phase own =>
    Given frame (result.state = .established) phase own ∧ own.handlerConnected = connected)
    fun phase a h => ⟨h, rfl⟩).bind fun connected => ?_
  split
  · rename_i hnew
    rw [Bool.and_eq_true, Bool.not_eq_true', decide_eq_true_eq] at hnew
    refine Does.bind (R := fun _ => Announcing frame) ?_ fun _ => ?_
    · refine Async.triple_update stable_holding fun log a h => h.update ?_ id
      rintro phase ⟨⟨hrunning, hpending, hadmitted⟩, hconnected⟩
      refine ⟨hrunning.1, hrunning.2.1, hadmitted hnew.2, ?_, hpending, rfl⟩
      rw [← hrunning.2.2, hconnected, hnew.1]
    · refine does_sessionStartedAt.bind fun startedAt => ?_
      refine Does.bind (R := fun _ => Announcing frame) ?_ fun _ => does_announce frame _
      exact Async.triple_update stable_holding fun log a h => h.congr rfl
  · rename_i hold
    refine does_pure ?_
    rintro phase own ⟨⟨hrunning, hpending, -⟩, hconnected⟩
    refine ⟨hrunning, hpending, fun hstate => ?_⟩
    rw [← hrunning.2.2, hconnected]
    simpa [hstate] using hold

theorem does_dispatchFrame (frame : CulpeoMessage) (result : CulpeoProcessResult) :
    Does (Told frame (result.state = .established)) (dispatchFrame frame result)
      fun _ => Running := by
  have hnothing : Does (Told frame (result.state = .established)) (pure ()) fun _ => Running :=
    does_pure fun _ _ htold => htold.1
  have hafter : ∀ {log a} (answer : AdapterAnswer), Holding Running log a →
      Holding (After (fun _ => Running) answer.asUnit) log a := by
    intro log a answer h
    cases answer with
    | raises e => exact h.mono fun _ _ hrunning => hrunning.stopping
    | _ => exact h
  unfold dispatchFrame
  split
  · rename_i hready
    rw [Bool.and_eq_true, decide_eq_true_eq] at hready
    split
    · rename_i hkind
      refine Async.triple_await stable_holding fun log a answer h _ => hafter answer (h.concat ?_)
      rintro phase own ⟨hrunning, hpending, hconnected⟩
      refine ⟨?_, hrunning⟩
      simp [Phase.allows, hrunning.1, hconnected hready.1, hpending, hkind]
    · rename_i hkind
      split
      · rename_i hevent
        refine Async.triple_await stable_holding fun log a answer h _ => hafter answer (h.concat ?_)
        rintro phase own ⟨hrunning, hpending, hconnected⟩
        refine ⟨?_, hrunning⟩
        have hcontrol : frame.kind = .control := by
          cases h : frame.kind with
          | control => rfl
          | media => exact absurd h hkind
        simp [Phase.allows, hrunning.1, hconnected hready.1, hpending, hcontrol, hevent]
      · exact hnothing
  · exact hnothing

theorem does_checkTimeoutsAsync : Does Running checkTimeoutsAsync fun _ => Running := by
  refine (does_keeps (closed_holding.await (fun _ => rfl) _) fun _ _ => Running.stopping).bind
    fun s => Async.triple_step stable_holding fun log a h =>
      h.update (fun _ => id) fun hsession => ?_
  exact noSession_checkTimeouts s hsession

/-- After a turn of the loop, which may have ended it. -/
def Turned : Bool → Phase → Own → Prop
  | true => Stopping
  | false => Running

theorem does_closeWith (code reason : Text) : Does Stopping (closeWith code reason) Turned :=
  (does_keeps (keeps_sendFrameAsync closed_holding quiet_of_transport _)
    fun _ _ => id).bind fun _ => (does_setCloseCode _).bind fun _ => does_pure fun _ _ => id

theorem does_sendFramesAsync (frames : List CulpeoMessage)
    (hstop : ∀ phase own, P phase own → Stopping phase own) :
    Does P (sendFramesAsync frames) fun _ => P :=
  does_keeps (keeps_sendFramesAsync closed_holding quiet_of_transport frames) hstop

theorem does_processFrame (env : Environment) (frame : CulpeoMessage) :
    Does Running (processFrame env frame) Turned := by
  refine (does_authenticateFrame frame).bind fun authenticated => ?_
  cases authenticated with
  | false => exact does_pure fun _ _ => id
  | true =>
      refine (does_receiveAsync env frame).bind fun result =>
        (does_sendFramesAsync _ fun _ _ h => h.1.stopping).bind fun _ =>
        (does_connectHandler frame result).bind fun _ =>
        (does_dispatchFrame frame result).bind fun _ =>
        does_checkTimeoutsAsync.bind fun timeoutCheck => ?_
      split
      · refine Does.weaken ?_ fun _ _ => Running.stopping
        exact (does_sendFramesAsync _ fun _ _ => id).bind fun _ =>
          (does_setCloseCode _).bind fun _ => does_pure fun _ _ => id
      · split
        · refine Does.weaken ?_ fun _ _ => Running.stopping
          exact (does_setCloseCode _).bind fun _ => does_pure fun _ _ => id
        · exact does_pure fun _ _ => id

theorem does_processMessage (env : Environment) (messageType : WebSocketMessageType)
    (messageBytes : Bytes) :
    Does Running (processMessage env messageType messageBytes) Turned := by
  unfold processMessage
  split
  · exact does_pure fun _ _ => Running.stopping
  · refine (does_keeps (closed_holding.await (fun _ => rfl) _) fun _ _ => Running.stopping).bind
      fun _ => ?_
    split
    · exact (does_closeWith _ _).weaken fun _ _ => Running.stopping
    · exact does_throw _ fun _ _ => Running.stopping
    · exact does_processFrame env _

theorem does_runOnce (env : Environment) (o : CulpeoStreamOptions) (fragments : ℕ) :
    Does Running (runOnce env o fragments) Turned := by
  have hmessage : Does Running (receiveMessageAsync o fragments []).attempt fun _ => Running :=
    does_keeps (keeps_receiveMessageAsync closed_holding o safe_ret_none fragments []).attempt
      fun _ _ => Running.stopping
  have hask : Does Running (.await .isCancellationRequested AdapterAnswer.asFlag)
      fun _ => Running :=
    does_keeps (closed_holding.await (fun _ => rfl) _) fun _ _ => Running.stopping
  refine hmessage.bind fun message => ?_
  split
  · refine hask.bind fun cancelled => ?_
    split
    · exact does_throw _ fun _ _ => Running.stopping
    · exact (does_closeWith _ _).weaken fun _ _ => Running.stopping
  · exact does_throw _ fun _ _ => Running.stopping
  · exact does_processMessage env _ _

/-- **The loop**, by induction on its rounds. -/
theorem does_runLoop (env : Environment) (o : CulpeoStreamOptions) (fragments rounds : ℕ) :
    Does Running (runLoop env o fragments rounds) fun _ => Stopping := by
  induction rounds with
  | zero => exact fun _ _ => safe_ret_none
  | succ rounds ih =>
      refine (does_keeps (closed_holding.await (fun _ => rfl) _)
        fun _ _ => Running.stopping).bind fun cancelled => ?_
      split
      · exact does_pure fun _ _ => Running.stopping
      · refine (does_runOnce env o fragments).bind fun ended => ?_
        cases ended with
        | true => exact does_pure fun _ _ => id
        | false => exact ih

/-! ### The end -/

/-- The method leads from `P` to `Q`, and does not throw. -/
def Surely (P : Phase → Own → Prop) (x : Method α) (Q : α → Phase → Own → Prop) : Prop :=
  Async.Triple watch (Holding P) x fun r log a => ∃ value, r = .ok value ∧ Holding (Q value) log a

theorem Surely.bind {x : Method α} {f : α → Method β} {R : α → Phase → Own → Prop}
    {Q : Except AdapterExn β → List Contact → Adapter → Prop} (h : Surely P x R)
    (hf : ∀ a, Async.Triple watch (Holding (R a)) (f a) Q) :
    Async.Triple watch (Holding P) (x >>= f) Q := by
  refine Async.Triple.bind h (fun a next hnext log s hs => ?_) fun e log a hs => ?_
  · obtain ⟨value, hvalue, hholding⟩ := hs
    cases hvalue
    exact hf _ next hnext log s hholding
  · obtain ⟨value, hvalue, -⟩ := hs
    cases hvalue

theorem surely_update {f : Adapter → Adapter} {Q : Phase → Own → Prop}
    (h : ∀ phase a, P phase a.own → Q phase (f a).own)
    (hgate : ∀ a, NoSession a.own.connection → NoSession (f a).own.connection) :
    Surely P (.update f) fun _ => Q :=
  Async.triple_update stable_holding fun _ a h' =>
    ⟨(), rfl, h'.update (fun phase => h phase a) (hgate a)⟩

theorem surely_read {f : Adapter → α} {Q : α → Phase → Own → Prop}
    (h : ∀ phase a, P phase a.own → Q (f a) phase a.own) : Surely P (.read f) Q :=
  Async.triple_read stable_holding fun _ a h' =>
    ⟨f a, rfl, h'.update (fun phase => h phase a) id⟩

theorem surely_attempt {x : Method α}
    (h : Async.Keeps (fun p : Rest => ∀ log a, Holding P log a → p.Safe watch log a) x) :
    Surely P x.attempt fun _ => P :=
  (Async.Triple.of_keeps h).attempt fun r _ _ h => ⟨r, rfl, h⟩

/-- The connection has been told. -/
structure Released (phase : Phase) (own : Own) : Prop where
  released : phase.released = true
  left : phase.left = none
  handlerConnected : own.handlerConnected = phase.connected
  closed : own.closed = true

/-- The connection is closed. -/
structure Parted (phase : Phase) (own : Own) : Prop extends Released phase own where
  state : own.connection.state = .closed

theorem surely_disconnect :
    Surely (fun phase own => Stopping phase own ∧ own.closed = true)
      (.await .disconnect AdapterAnswer.asMoment) fun _ => Released := by
  refine Async.triple_await stable_holding fun log a answer h _ => ?_
  have hreleased : Holding Released (log ++ [.released]) a := by
    refine h.concat ?_
    rintro phase own ⟨⟨hreleased, hleft, hconnected⟩, hclosed⟩
    exact ⟨congrArg not hreleased, rfl, hleft, hconnected, hclosed⟩
  cases answer with
  | surroundings s => exact ⟨s, rfl, hreleased⟩
  | _ => exact ⟨_, rfl, hreleased⟩

theorem surely_notifyHandler : Surely Parted notifyHandler fun _ => Ended := by
  refine (surely_read (Q := fun connected phase own =>
    Parted phase own ∧ own.handlerConnected = connected) fun phase a h => ⟨h, rfl⟩).bind
    fun connected => ?_
  cases connected with
  | false =>
      refine Async.triple_pure fun log a h => ⟨(), rfl, h.mono ?_⟩
      rintro phase own ⟨hparted, hhandler⟩
      refine ⟨hparted.released, fun hconnected => ?_, hparted.closed, hparted.state⟩
      rw [← hparted.handlerConnected, hhandler] at hconnected
      cases hconnected
  | true =>
      refine (surely_read (Q := fun code phase own =>
        (Parted phase own ∧ own.handlerConnected = true) ∧ own.closeCode = code)
        fun phase a h => ⟨h, rfl⟩).bind fun code => ?_
      refine Surely.bind (R := fun _ => Ended) ?_ fun r =>
        Async.triple_pure fun log a h => ⟨(), rfl, h⟩
      refine Async.Triple.attempt (Q := fun _ => Holding Ended) ?_ fun r log a h => ⟨r, rfl, h⟩
      refine Async.triple_await stable_holding fun log a answer h _ => h.concat ?_
      rintro phase own ⟨⟨hparted, hhandler⟩, hcode⟩
      have hconnected := hparted.handlerConnected.symm.trans hhandler
      refine ⟨?_, hparted.released, fun _ => congrArg some hcode.symm, hparted.closed,
        hparted.state⟩
      simp [Phase.allows, hparted.released, hparted.left, hconnected]

theorem triple_leave : Async.Triple watch (Holding Stopping) leave fun _ => Holding Ended := by
  have hclose : Surely Stopping (.update ({ · with closed := true })) fun _ phase own =>
      Stopping phase own ∧ own.closed = true :=
    surely_update (fun phase a h => ⟨h, rfl⟩) fun _ => id
  refine hclose.bind fun _ => surely_disconnect.bind fun s => ?_
  have hdisconnect : Surely Released
      (.update fun a => { a with endpoint := a.endpoint.disconnect s }) fun _ => Parted :=
    surely_update (fun phase a h => ⟨⟨h.released, h.left, h.handlerConnected, h.closed⟩, rfl⟩)
      fun a => noSession_disconnect s
  refine hdisconnect.bind fun _ => surely_notifyHandler.bind fun _ =>
    (surely_attempt (keeps_closeTransport closed_holding quiet_of_transport)).bind fun _ => ?_
  exact .of_keeps (closed_holding.await (fun _ => rfl) _)

end Methods

/-! ### What a log that the monitor allows looks like -/

section Logs

variable {phase : Phase} {log : List Contact}

theorem eq_concat_of_granted {authorization : Text} (h : monitor.follow {} log = some phase)
    (hgranted : phase.granted = some authorization) :
    ∃ earlier, log = earlier ++ [.authenticated authorization true] := by
  revert hgranted
  refine Monitor.follow_induction (M := monitor) (s := {})
    (I := fun log phase => phase.granted = some authorization →
      ∃ earlier, log = earlier ++ [.authenticated authorization true])
    (fun h => by cases h) (fun log phase contact _ _ hgranted => ?_) h
  cases contact with
  | authenticated authorization' granted =>
      cases granted with
      | true =>
          obtain rfl : authorization' = authorization := Option.some.inj hgranted
          exact ⟨log, rfl⟩
      | false => cases hgranted
  | _ => cases hgranted

/-- The frame that is to be handed over is the last one that the connection has got. -/
theorem eq_concat_of_pending {frame : CulpeoMessage} (h : monitor.follow {} log = some phase)
    (hpending : phase.pending = some frame) :
    ∃ earlier, log = earlier ++ [.received frame] ∨
      phase.connected = true ∧ log = earlier ++ [.received frame, .connected] := by
  revert hpending
  refine Monitor.follow_induction (M := monitor) (s := {})
    (I := fun log phase => phase.pending = some frame → ∃ earlier,
      log = earlier ++ [.received frame] ∨
        phase.connected = true ∧ log = earlier ++ [.received frame, .connected])
    (fun h => by cases h) (fun log phase contact ih hallows hpending => ?_) h
  cases contact with
  | received frame' =>
      obtain rfl : frame' = frame := Option.some.inj hpending
      exact ⟨log, .inl rfl⟩
  | connected =>
      have hnew : phase.connected = false := by
        have hallows' : phase.allows .connected = true := hallows
        simp only [Phase.allows, Bool.and_eq_true, Bool.not_eq_true'] at hallows'
        exact hallows'.1.2
      obtain ⟨earlier, hlast | ⟨hconnected, -⟩⟩ := ih hpending
      · exact ⟨earlier, .inr ⟨rfl, by rw [hlast, List.append_assoc]; rfl⟩⟩
      · rw [hnew] at hconnected
        cases hconnected
  | _ => cases hpending

/-- Nothing is granted that has not been answered for. -/
theorem mem_of_admitted (h : monitor.follow {} log = some phase)
    (hadmitted : phase.admitted = true) :
    ∃ authorization, .authenticated authorization true ∈ log := by
  revert hadmitted
  refine Monitor.follow_induction (M := monitor) (s := {})
    (I := fun log phase => phase.admitted = true →
      ∃ authorization, Contact.authenticated authorization true ∈ log)
    (fun h => by cases h) (fun log phase contact ih _ hadmitted => ?_) h
  have hmore : phase.admitted = true →
      ∃ authorization, Contact.authenticated authorization true ∈ log ++ [contact] := by
    intro hadmitted
    obtain ⟨authorization, hmem⟩ := ih hadmitted
    exact ⟨authorization, List.mem_append_left _ hmem⟩
  cases contact with
  | authenticated authorization granted =>
      cases granted with
      | true => exact ⟨authorization, List.mem_concat_self⟩
      | false => exact hmore (by simpa [monitor, Phase.after] using hadmitted)
  | _ => exact hmore hadmitted

theorem mem_of_released (h : monitor.follow {} log = some phase)
    (hreleased : phase.released = true) :
    .released ∈ log := by
  revert hreleased
  refine Monitor.follow_induction (M := monitor) (s := {})
    (I := fun log phase => phase.released = true → Contact.released ∈ log)
    (fun h => by cases h) (fun log phase contact ih _ hreleased => ?_) h
  cases contact with
  | released => exact List.mem_concat_self
  | _ => exact List.mem_append_left _ (ih hreleased)

/-- The handler is told of a session only after it has agreed to a credential. -/
theorem admitted_of_connected (h : monitor.follow {} log = some phase)
    (hconnected : phase.connected = true) : phase.admitted = true := by
  revert hconnected
  refine Monitor.follow_invariant (M := monitor) (s := {})
    (I := fun phase => phase.connected = true → phase.admitted = true)
    (fun phase contact ih hallows hconnected => ?_) h fun h => by cases h
  cases contact with
  | authenticated authorization granted =>
      exact Bool.or_eq_true_iff.mpr (.inl (ih hconnected))
  | connected =>
      simp only [monitor, Phase.allows, Bool.and_eq_true] at hallows
      exact hallows.1.1.2
  | _ => exact ih hconnected

/-- The end of a connection. -/
def Contact.ends : Contact → Bool
  | .released | .disconnected _ => true
  | _ => false

/-- When the loop has ended, the connection is told, unless it has been, and the handler. -/
theorem ends_of_follow {next : Phase} {rest : List Contact}
    (h : monitor.follow phase rest = some next) (hrunning : phase.running = false) :
    ∀ contact ∈ rest, contact.ends = true ∧ (phase.released = true → contact ≠ .released) := by
  induction rest generalizing phase with
  | nil => exact List.forall_mem_nil _
  | cons contact rest ih =>
      obtain ⟨hallows, hrest⟩ := Monitor.follow_cons_eq_some.mp h
      cases contact with
      | released =>
          have hreleased : phase.released = false := by
            simpa [monitor, Phase.allows] using hallows
          have hnext := ih hrest (by simp [Phase.running, monitor, Phase.after])
          refine List.forall_mem_cons.mpr ⟨⟨rfl, fun h => ?_⟩, fun contact hcontact =>
            ⟨(hnext contact hcontact).1, fun _ => (hnext contact hcontact).2 rfl⟩⟩
          rw [hreleased] at h
          cases h
      | disconnected closeCode =>
          have hnext := ih hrest hrunning
          exact List.forall_mem_cons.mpr ⟨⟨rfl, fun _ h => (by cases h)⟩, hnext⟩
      | _ => simp [monitor, Phase.allows, hrunning] at hallows

/-- The calls of the handler, apart from those that ask for its agreement. -/
def Contact.isSession : Contact → Bool
  | .connected | .media _ | .event _ | .disconnected _ => true
  | _ => false

/-- A frame is handed over. -/
def Contact.isFrame : Contact → Bool
  | .media _ | .event _ => true
  | _ => false

def sessionCalls (log : List Contact) : List Contact := log.filter Contact.isSession

/-- The calls of the handler, in a phase. -/
structure Shape (phase : Phase) (calls : List Contact) : Prop where
  unheard : phase.connected = false → calls = [] ∧ phase.left = none
  heard : phase.connected = true → ∃ frames, (∀ contact ∈ frames, contact.isFrame = true) ∧
    calls = .connected :: frames ++ (phase.left.map Contact.disconnected).toList
  released : phase.released = false → phase.left = none

/-- One more frame. -/
theorem Shape.concat {calls : List Contact} {contact : Contact} (h : Shape phase calls)
    (hconnected : phase.connected = true) (hleft : phase.left = none)
    (hframe : contact.isFrame = true) {next : Phase} (hnext : next.connected = true)
    (hnextLeft : next.left = none) : Shape next (calls ++ [contact]) := by
  refine ⟨fun h => ?_, fun _ => ?_, fun _ => hnextLeft⟩
  · rw [hnext] at h
    cases h
  · obtain ⟨frames, hframes, rfl⟩ := h.heard hconnected
    refine ⟨frames ++ [contact], ?_, ?_⟩
    · exact List.forall_mem_append.mpr ⟨hframes, List.forall_mem_singleton.mpr hframe⟩
    · simp [hleft, hnextLeft]

theorem sessionCalls_concat (log : List Contact) (contact : Contact) :
    sessionCalls (log ++ [contact]) =
      if contact.isSession = true then sessionCalls log ++ [contact] else sessionCalls log := by
  unfold sessionCalls
  rw [List.filter_append, List.filter_singleton]
  cases contact.isSession with
  | true => rfl
  | false => exact List.append_nil _

theorem shape_of_follow (h : monitor.follow {} log = some phase) :
    Shape phase (sessionCalls log) := by
  refine Monitor.follow_induction (M := monitor) (s := {})
    (I := fun log phase => Shape phase (sessionCalls log))
    ⟨fun _ => ⟨rfl, rfl⟩, fun h => (by cases h), fun _ => rfl⟩
    (fun log phase contact ih hallows => ?_) h
  rw [sessionCalls_concat]
  -- While the loop goes on, the handler has not been told of the end.
  have hopen : phase.running = true → phase.left = none := by
    intro hrunning
    rw [Phase.running, Bool.and_eq_true, Bool.not_eq_true', Bool.not_eq_true'] at hrunning
    exact ih.released hrunning.2
  cases contact with
  | authenticated authorization granted => exact ⟨ih.unheard, ih.heard, ih.released⟩
  | received frame => exact ⟨ih.unheard, ih.heard, ih.released⟩
  | released => exact ⟨ih.unheard, ih.heard, fun h => (by cases h)⟩
  | connected =>
      simp only [monitor, Phase.allows, Bool.and_eq_true, Bool.not_eq_true'] at hallows
      obtain ⟨hnil, hleft⟩ := ih.unheard hallows.1.2
      rw [hnil]
      refine ⟨fun h => (by cases h), fun _ => ⟨[], List.forall_mem_nil _, ?_⟩, ih.released⟩
      simp [monitor, Phase.after, hleft, Contact.isSession]
  | media context =>
      simp only [monitor, Phase.allows, Bool.and_eq_true] at hallows
      exact ih.concat hallows.1.2 (hopen hallows.1.1) rfl hallows.1.2 (hopen hallows.1.1)
  | event context =>
      simp only [monitor, Phase.allows, Bool.and_eq_true] at hallows
      exact ih.concat hallows.1.2 (hopen hallows.1.1) rfl hallows.1.2 (hopen hallows.1.1)
  | disconnected closeCode =>
      simp only [monitor, Phase.allows, Bool.and_eq_true, Option.isNone_iff_eq_none] at hallows
      obtain ⟨⟨hreleased, hconnected⟩, hleft⟩ := hallows
      obtain ⟨frames, hframes, hcalls⟩ := ih.heard hconnected
      refine ⟨fun h => ?_, fun _ => ⟨frames, hframes, ?_⟩, fun h => ?_⟩
      · exact absurd (hconnected.symm.trans h) nofun
      · rw [hcalls, hleft]
        simp [monitor, Phase.after, Contact.isSession]
      · exact absurd (hreleased.symm.trans h) nofun

theorem mem_sessionCalls {contact : Contact} (hsession : contact.isSession = true) :
    contact ∈ sessionCalls log ↔ contact ∈ log := by
  rw [sessionCalls, List.mem_filter, and_iff_left hsession]

/-- The handler has been told of the session if it is in the log. -/
theorem connected_of_mem (h : monitor.follow {} log = some phase) (hmem : .connected ∈ log) :
    phase.connected = true := by
  by_contra hnot
  have hnil := ((shape_of_follow h).unheard (Bool.eq_false_iff.mpr hnot)).1
  have hcalled := (mem_sessionCalls rfl).mpr hmem
  rw [hnil] at hcalled
  cases hcalled

/-- What the handler is called for when a frame has been accepted. -/
def handed (frame : CulpeoMessage) : Contact :=
  if frame.kind = .media then .media (mediaFrameContext frame) else .event (eventContext frame)

/-- A frame that may be handed over is the one that the connection has got. -/
theorem pending_of_allows {contact : Contact} (hallows : monitor.allows phase contact = true)
    (hframe : contact.isFrame = true) : ∃ frame, phase.pending = some frame ∧
      contact = handed frame ∧
      (frame.kind = .control → isApplicationEvent frame.event = true) := by
  cases hpending : phase.pending with
  | none =>
      cases contact with
      | media context => simp [monitor, Phase.allows, hpending] at hallows
      | event context => simp [monitor, Phase.allows, hpending] at hallows
      | _ => cases hframe
  | some frame =>
      refine ⟨frame, rfl, ?_⟩
      cases contact with
      | media context =>
          simp only [monitor, Phase.allows, hpending, Option.any_some, Bool.and_eq_true,
            decide_eq_true_eq] at hallows
          obtain ⟨-, hkind, hcontext⟩ := hallows
          refine ⟨?_, fun h => absurd (hkind.symm.trans h) nofun⟩
          rw [handed, if_pos hkind, hcontext]
      | event context =>
          simp only [monitor, Phase.allows, hpending, Option.any_some, Bool.and_eq_true,
            decide_eq_true_eq] at hallows
          obtain ⟨-, ⟨hkind, hevent⟩, hcontext⟩ := hallows
          have hmedia : frame.kind ≠ .media := by
            rw [hkind]
            exact nofun
          refine ⟨?_, fun _ => hevent⟩
          rw [handed, if_neg hmedia, hcontext]
      | _ => cases hframe

end Logs

/-! ### Runs -/

/-- Calls besides `RunAsync`. -/
def bystander : Contract Adapter AdapterAction AdapterAnswer where
  inv _ := True
  rel a a' := a'.own = a.own
  out := Quiet
  ans _ _ := True

section Runs

theorem closed_bystander : Async.Closed (fun a a' : Adapter => a'.own = a.own) Quiet
    fun p : Rest => p.Meets bystander where
  locked hrel hnext a _ := ⟨trivial, hrel a, hnext a⟩
  call hout hnext := ⟨hout, fun r _ => hnext r⟩

theorem connection_sendMedia (e : Endpoint) (now : Ticks) (streamId : Text) (payload : Bytes)
    (timestamp : Int64) :
    (e.sendMedia now streamId payload timestamp).1.connection = e.connection := by
  unfold Endpoint.sendMedia
  split
  · rfl
  · split
    · rfl
    · dsimp only
      split <;> exact connection_modifySnapshot e _

theorem keeps_sendMediaAsync (streamId : Text) (payload : Bytes) :
    Async.Keeps (fun p : Rest => p.Meets bystander) (sendMediaAsync streamId payload) := by
  have hquiet := closed_bystander.narrow (fun a a' (heq : a' = a) => congrArg own heq) fun _ => id
  refine (closed_bystander.step fun _ => rfl).bind fun _ =>
    (closed_bystander.await (fun _ => rfl) _).bind fun timestamp =>
    (closed_bystander.await (fun _ => rfl) _).bind fun s => Async.Keeps.bind ?_ fun frame =>
    keeps_sendFrameAsync hquiet quiet_of_transport frame
  refine closed_bystander.step fun a => ?_
  unfold own
  rw [connection_sendMedia]

theorem keeps_sendEventAsync (eventName streamId jsonBody : Option Text) :
    Async.Keeps (fun p : Rest => p.Meets bystander)
      (sendEventAsync eventName streamId jsonBody) := by
  have hquiet := closed_bystander.narrow (fun a a' (heq : a' = a) => congrArg own heq) fun _ => id
  refine (closed_bystander.step fun _ => rfl).bind fun _ => ?_
  split
  · exact Async.keeps_throw _
  · split
    · exact Async.keeps_throw _
    · exact keeps_sendFrameAsync hquiet quiet_of_transport _

theorem keeps_closeAsync (code reason : Text) :
    Async.Keeps (fun p : Rest => p.Meets bystander) (closeAsync code reason) := by
  have hquiet := closed_bystander.narrow (fun a a' (heq : a' = a) => congrArg own heq) fun _ => id
  refine (closed_bystander.read (fun _ => rfl) _).bind fun isClosed => ?_
  split
  · exact Async.keeps_pure _
  · exact keeps_sendFrameAsync hquiet quiet_of_transport _

theorem fits_watch : Fits enter watch bystander where
  refl _ := rfl
  trans _ _ _ h h' := h'.trans h
  rely _ _ h := h
  inv _ _ _ _ := trivial
  enter call a _ := by
    cases call with
    | sendMediaAsync streamId payload =>
        exact ⟨trivial, rfl, keeps_sendMediaAsync streamId payload _ fun _ => trivial⟩
    | sendEventAsync eventName streamId jsonBody =>
        exact ⟨trivial, rfl, keeps_sendEventAsync eventName streamId jsonBody _ fun _ => trivial⟩
    | closeAsync code reason =>
        exact ⟨trivial, rfl, keeps_closeAsync code reason _ fun _ => trivial⟩
    | others server => exact ⟨trivial, rfl, trivial⟩
  answers _ _ := trivial
  assume _ _ _ := trivial

variable (env : Environment) (o : CulpeoStreamOptions) (rounds : ℕ) (server : CulpeoSessionServer)
  (moves : List (Move AdapterCall AdapterAnswer))

/-- The adapter after a run that begins with `RunAsync`. -/
def after : Calls := run enter (start env o rounds server) moves

/-- What `RunAsync` has done in the run. -/
def contacts : List Contact := answered enter watch.first (start env o rounds server) moves

theorem surely_runLoop (fragments : ℕ) :
    Surely Running (runLoop env o fragments rounds).attempt fun _ => Stopping := by
  refine (does_runLoop env o fragments rounds).attempt fun r log a h => ⟨r, rfl, ?_⟩
  cases r with
  | ok _ => exact h
  | error e => exact h

theorem safe_runAsync {log : List Contact} {a : Adapter} (h : Holding Running log a) :
    (runAsync env o rounds).Safe watch log a := by
  have hrun := (surely_runLoop env o rounds rounds).bind fun _ => triple_leave
  have hret : ∀ r log a, Holding Ended log a → (Prog.ret (some r) : Rest).Safe watch log a := by
    intro r log a hended a' hown
    obtain ⟨phase, hfollow, hgate, hphase⟩ := hended.congr hown
    exact ⟨phase, hfollow, hgate, fun _ _ => hphase⟩
  exact hrun _ hret log a h

theorem holding_start : Holding Running [] (start env o rounds server).shared :=
  ⟨{}, rfl, .inr ⟨nofun, rfl⟩, rfl, rfl, rfl⟩

/-- **Every run** keeps to the monitor. -/
theorem watched_after :
    Watched watch bystander (contacts env o rounds server moves)
      (after env o rounds server moves) := by
  have hbegin : Watched watch bystander [] (start env o rounds server) := by
    refine ⟨_, rfl, safe_runAsync env o rounds (holding_start env o rounds server),
      fun j p hj hp => ?_⟩
    cases j with
    | zero => exact absurd rfl hj
    | succ j => cases hp
  exact watched_run fits_watch moves hbegin trivial

theorem exists_point : ∃ point, (after env o rounds server moves).pool[0]? = some point ∧
    watch.holds (contacts env o rounds server moves) (after env o rounds server moves).shared
      point :=
  (watched_after env o rounds server moves).holds fun _ => rfl

/-- What the agreement of the handler is needed for. -/
structure Gated (log : List Contact) (connection : CulpeoConnection) : Prop where
  /-- A culpeo.init reaches the connection right after the handler has agreed to its
  credential. -/
  asked : ∀ before frame rest, log = before ++ .received frame :: rest → isInit frame = true →
    ∃ earlier, before = earlier ++ [.authenticated (frame.authorization.getD []) true]
  /-- When the handler does not agree, nothing more is done than to end the connection. -/
  refused : ∀ before authorization rest,
    log = before ++ .authenticated authorization false :: rest →
    ∀ contact ∈ rest, contact.ends = true
  /-- Until the handler has agreed, there is no session, and the handler hears of none. -/
  closed : (∀ authorization, .authenticated authorization true ∉ log) →
    NoSession connection ∧ .connected ∉ log

/-- **The authentication gate**: in every run, whatever the socket brings, and whatever the
handler and the other connections do meanwhile. -/
theorem authenticated_first : Gated (contacts env o rounds server moves)
    (after env o rounds server moves).shared.endpoint.connection := by
  obtain ⟨point, -, phase, hfollow, hgate, -⟩ := exists_point env o rounds server moves
  refine ⟨fun before frame rest hlog hinit => ?_, fun before authorization rest hlog => ?_,
    fun hnone => ?_⟩
  · rw [hlog] at hfollow
    obtain ⟨last, hbefore, hallows, -⟩ := Monitor.exists_of_follow hfollow
    simp only [monitor, Phase.allows, hinit, Bool.and_eq_true, Bool.not_true, Bool.false_or,
      decide_eq_true_eq] at hallows
    exact eq_concat_of_granted hbefore hallows.2
  · rw [hlog] at hfollow
    obtain ⟨last, -, -, hrest⟩ := Monitor.exists_of_follow hfollow
    exact fun contact hcontact => (ends_of_follow hrest rfl contact hcontact).1
  · have hadmitted : phase.admitted ≠ true := fun h =>
      (mem_of_admitted hfollow h).elim hnone
    exact ⟨hgate.resolve_left hadmitted, fun hmem =>
      hadmitted (admitted_of_connected hfollow (connected_of_mem hfollow hmem))⟩

/-- The handler sees one session from its beginning to its end. -/
structure OneSession (log : List Contact) (own : Own) (point : Rest) : Prop where
  /-- It is told of the session, then gets frames, and is told at last that it is over. -/
  order : sessionCalls log = [] ∨ ∃ frames, (∀ contact ∈ frames, contact.isFrame = true) ∧
    (sessionCalls log = .connected :: frames ∨
      ∃ closeCode, sessionCalls log = .connected :: frames ++ [.disconnected closeCode])
  /-- What it gets is the frame that the connection has got last, and no event of the
  protocol. -/
  frames : ∀ before contact rest, log = before ++ contact :: rest → contact.isFrame = true →
    ∃ earlier frame, (before = earlier ++ [.received frame] ∨
        before = earlier ++ [.received frame, .connected]) ∧
      contact = handed frame ∧ (frame.kind = .control → isApplicationEvent frame.event = true)
  /-- After the connection has been told that it is over, only the handler is told. -/
  released : ∀ before rest, log = before ++ .released :: rest →
    ∀ contact ∈ rest, ∃ closeCode, contact = .disconnected closeCode
  /-- When `RunAsync` has returned, both have been told. -/
  returned : ∀ result, point = .ret (some result) →
    own.closed = true ∧ own.connection.state = .closed ∧ .released ∈ log ∧
      (.connected ∈ log → ∃ frames, (∀ contact ∈ frames, contact.isFrame = true) ∧
        sessionCalls log = .connected :: frames ++ [.disconnected own.closeCode])

/-- **The handler's session**, in every run. -/
theorem handler_lifecycle : ∃ point, (after env o rounds server moves).pool[0]? = some point ∧
    OneSession (contacts env o rounds server moves) (after env o rounds server moves).shared.own
      point := by
  obtain ⟨point, hpoint, phase, hfollow, -, hended⟩ := exists_point env o rounds server moves
  have hshape := shape_of_follow hfollow
  refine ⟨point, hpoint, ?_, fun before contact rest hlog hframe => ?_,
    fun before rest hlog contact hcontact => ?_, fun result hresult => ?_⟩
  · cases hconnected : phase.connected with
    | false => exact .inl (hshape.unheard hconnected).1
    | true =>
        obtain ⟨frames, hframes, hcalls⟩ := hshape.heard hconnected
        refine .inr ⟨frames, hframes, ?_⟩
        rw [hcalls]
        cases phase.left with
        | none => exact .inl (List.append_nil _)
        | some closeCode => exact .inr ⟨closeCode, rfl⟩
  · rw [hlog] at hfollow
    obtain ⟨last, hbefore, hallows, -⟩ := Monitor.exists_of_follow hfollow
    obtain ⟨frame, hpending, hcontact, hevent⟩ := pending_of_allows hallows hframe
    obtain ⟨earlier, hlast | ⟨-, hlast⟩⟩ := eq_concat_of_pending hbefore hpending
    · exact ⟨earlier, frame, .inl hlast, hcontact, hevent⟩
    · exact ⟨earlier, frame, .inr hlast, hcontact, hevent⟩
  · rw [hlog] at hfollow
    obtain ⟨last, -, -, hrest⟩ := Monitor.exists_of_follow hfollow
    obtain ⟨hends, hreleased⟩ := ends_of_follow hrest
      (by simp [Phase.running, monitor, Phase.after]) contact hcontact
    cases contact with
    | disconnected closeCode => exact ⟨closeCode, rfl⟩
    | released => exact absurd rfl (hreleased rfl)
    | _ => cases hends
  · obtain ⟨hreleased, hleft, hclosed, hstate⟩ := hended result hresult
    refine ⟨hclosed, hstate, mem_of_released hfollow hreleased, fun hmem => ?_⟩
    have hconnected := connected_of_mem hfollow hmem
    obtain ⟨frames, hframes, hcalls⟩ := hshape.heard hconnected
    exact ⟨frames, hframes, by rw [hcalls, hleft hconnected]; rfl⟩

end Runs

end CulpeoStream.Dotnet.Adapter
