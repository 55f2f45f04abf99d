import CulpeoStream.Dotnet.ClientMethods

/-!
# What a client does after the server has closed

`HandleCloseAsync` ends the receive loop in the way in which a lost connection ends it, so that
the client goes on as after a lost connection: in `RunReceiveLoopAsync` it reconnects unless it
may not or is cancelled, and in `ReconnectLoopAsync` it always takes the next attempt.

Where it does not, the close is the end (`close_is_final`): no socket is made any more, the
state stays `Disconnected`, and nothing is written to the channel.
-/

open Resumption

namespace CulpeoStream.Dotnet

open Message Utf16

namespace CulpeoStreamClient

/-- The action opens a socket. -/
def ClientAction.opens : ClientAction → Bool
  | .createWebSocket => true
  | _ => false

/-- The action is about to write to the channel. -/
def ClientAction.writes : ClientAction → Bool
  | .waitToWrite _ => true
  | _ => false

/-- What calls do that are not the one that connects. -/
structure Bystands (c c' : CulpeoStreamClient) : Prop where
  connectState : c'.connectState = c.connectState
  closeProcessed : c'.closeProcessed = c.closeProcessed
  written : c'.written = c.written
  state : c.state = .disconnected → c'.state = .disconnected

theorem Bystands.refl (c : CulpeoStreamClient) : Bystands c c := ⟨rfl, rfl, rfl, id⟩

theorem Bystands.trans {c c' c'' : CulpeoStreamClient} (h : Bystands c c')
    (h' : Bystands c' c'') : Bystands c c'' where
  connectState := h'.connectState.trans h.connectState
  closeProcessed := h'.closeProcessed.trans h.closeProcessed
  written := h'.written.trans h.written
  state hstate := h'.state (h.state hstate)

/-- An action that neither opens a socket nor is about to write. -/
def Harmless (action : ClientAction) : Prop := action.opens = false ∧ action.writes = false

/-- Calls that stand by. -/
def bystander : Contract CulpeoStreamClient ClientAction ClientAnswer where
  inv _ := True
  rel := Bystands
  out := Harmless
  ans _ _ := True

theorem closed_bystander :
    Async.Closed Bystands Harmless fun p : Rest => p.Meets bystander where
  locked hrel hnext c _ := ⟨trivial, hrel c, hnext c⟩
  call hout hnext := ⟨hout, fun a _ => hnext a⟩

/-- Every call that does not connect is one of these. -/
theorem closed_bystander_standsBy :
    Async.Closed StandsBy Harmless fun p : Rest => p.Meets bystander :=
  closed_bystander.narrow (fun _ _ h => ⟨h.connectState, h.closeProcessed, h.written, h.state⟩)
    fun _ => id

theorem harmless_of_standsBy (action : ClientAction) (haction : action.standsBy = true) :
    Harmless action := by
  cases action with
  | send _ _ _ | socketState _ | waitSendLock | releaseSendLock => exact ⟨rfl, rfl⟩
  | disposeSocket _ | awaitLoop => exact ⟨rfl, rfl⟩
  | _ => cases haction

/-- A call that has returned meets every contract. -/
theorem meets_ret (K : Contract CulpeoStreamClient ClientAction ClientAnswer) (result : Result) :
    (Prog.ret result : Rest).Meets K :=
  trivial

/-! ### The call that connects -/

section Connecting

variable (env : Environment) (o : CulpeoStreamClientOptions) (rounds : ℕ)

/-- What follows a receive loop: in `RunReceiveLoopAsync`, or in `ReconnectLoopAsync`. -/
def Leaves (p : Rest) : Prop :=
  p = leaveReceiveLoop env o rounds ∨
    o.autoReconnect = true ∧
      ∃ remaining attempt, p = connectionLost (attempts env o rounds remaining attempt)

/-- The rest of the call that connects, in a state from which the other calls may have gone
on.  It keeps `_connectState` until it fails, and when it has processed a culpeo.close, it is
about to leave a receive loop. -/
def Active : Rest → CulpeoStreamClient → Prop
  | .ret _, _ => True
  | .call _ next, c => ∀ a, Active (next a) c
  | .locked update next, c =>
      ∀ d, Bystands c d → d.connectState = true → d.closeProcessed = false →
        ((update d).connectState = true ∧ (update d).closeProcessed = false ∧
          Active (next d) (update d)) ∨
        ((update d).connectState = false ∧ (update d).closeProcessed = false ∧
          (next d).Meets bystander) ∨
        ((update d).connectState = true ∧ (update d).closeProcessed = true ∧
          (update d).state = .disconnected ∧ Leaves env o rounds (next d))

variable {env o rounds}

theorem Active.mono {p : Rest} {c d : CulpeoStreamClient} (h : Active env o rounds p c)
    (hcd : Bystands c d) : Active env o rounds p d := by
  induction p with
  | ret result => trivial
  | locked update next ih => exact fun d' hd => h d' (hcd.trans hd)
  | call action next ih => exact fun a => ih a (h a)

variable (env o rounds) in
/-- The call is active from every state with a property. -/
def ActiveFrom (P : CulpeoStreamClient → Prop) (p : Rest) : Prop :=
  ∀ c, P c → Active env o rounds p c

/-- A step of the call that connects, before it has processed a culpeo.close. -/
structure Stays (P : CulpeoStreamClient → Prop) (c c' : CulpeoStreamClient) : Prop where
  connectState : c'.connectState = c.connectState
  closeProcessed : c'.closeProcessed = c.closeProcessed
  property : P c → P c'

section ActiveFrom

variable {P : CulpeoStreamClient → Prop} (hP : ∀ c d, Bystands c d → P c → P d)
include hP

theorem closed_activeFrom :
    Async.Closed (Stays P) (fun _ => True) (ActiveFrom env o rounds P) where
  locked hstays hnext c hc d hcd hconnect hclose :=
    .inl ⟨(hstays d).connectState.trans hconnect, (hstays d).closeProcessed.trans hclose,
      hnext d _ ((hstays d).property (hP c d hcd hc))⟩
  call _ hnext c hc a := hnext a c hc

end ActiveFrom

/-- The call is active from every state. -/
abbrev Ready (env : Environment) (o : CulpeoStreamClientOptions) (rounds : ℕ) : Rest → Prop :=
  ActiveFrom env o rounds fun _ => True

theorem closed_ready : Async.Closed (Stays fun _ => True) (fun _ => True) (Ready env o rounds) :=
  closed_activeFrom fun _ _ _ => id

theorem ready_ret (result : Result) : Ready env o rounds (.ret result) := fun _ _ => trivial

/-- A write to the channel, from a property that does not look at the channel. -/
theorem keeps_writeAsync {P : CulpeoStreamClient → Prop}
    (hP : ∀ c d, Bystands c d → P c → P d)
    (hwrite : ∀ c events, P c → P { c with written := events }) (event : CulpeoClientEvent) :
    Async.Keeps (ActiveFrom env o rounds P) (writeAsync event) := by
  refine ((closed_activeFrom hP).await trivial _).bind fun _ => (closed_activeFrom hP).step ?_
  intro c
  split
  · exact ⟨rfl, rfl, id⟩
  · exact ⟨rfl, rfl, hwrite c _⟩

theorem ready_writeAsync (event : CulpeoClientEvent) :
    Async.Keeps (Ready env o rounds) (writeAsync event) :=
  keeps_writeAsync (fun _ _ _ => id) (fun _ _ => id) event

theorem ready_setState (state : CulpeoClientState) :
    Async.Keeps (Ready env o rounds) (setState state) :=
  closed_ready.update fun _ => ⟨rfl, rfl, id⟩

theorem ready_perform (action : ClientAction) :
    Async.Keeps (Ready env o rounds) (perform action) :=
  closed_ready.await trivial _

theorem ready_read {α : Type} (f : CulpeoStreamClient → α) :
    Async.Keeps (Ready env o rounds) (.read f : Method α) :=
  closed_ready.read (fun _ => ⟨rfl, rfl, id⟩) f

theorem ready_createWebSocketAsync :
    Async.Keeps (Ready env o rounds) createWebSocketAsync :=
  (ready_perform _).bind fun _ => closed_ready.step fun _ => ⟨rfl, rfl, id⟩

theorem sends_ready : Sends (Stays fun _ => True) (fun _ => True) (Ready env o rounds) where
  closed := closed_ready
  refl _ := ⟨rfl, rfl, id⟩
  sends _ _ := trivial

theorem ready_handleInitResponse (isResumption : Bool) (response : CulpeoMessage) :
    Async.Keeps (Ready env o rounds) (handleInitResponse env isResumption response) := by
  unfold handleInitResponse
  split
  · exact Async.keeps_throw _
  · split
    · exact Async.keeps_throw _
    · refine closed_ready.step fun c => ?_
      have hsame := sameBut_processInitAck env response isResumption c
      exact ⟨hsame.connectState, hsame.closeProcessed, id⟩

theorem ready_getCurrentTokenAsync :
    Async.Keeps (Ready env o rounds) (getCurrentTokenAsync o) := by
  unfold getCurrentTokenAsync
  split
  · exact closed_ready.await trivial _
  · exact Async.keeps_pure _

theorem ready_performHandshakeAsync (socket : ℕ) (isResumption : Bool) :
    Async.Keeps (Ready env o rounds) (performHandshakeAsync env o socket isResumption) := by
  refine ready_getCurrentTokenAsync.bind fun token => (ready_read _).bind fun frame =>
    (ready_perform _).bind fun _ => (closed_ready.await trivial _).bind fun response => ?_
  dsimp only
  split
  · exact Async.keeps_throw _
  · split
    · exact Async.keeps_throw _
    · exact ready_handleInitResponse isResumption _

/-! ### The receive loop -/

variable (env o rounds) in
/-- A method after which a receive loop may be left: it is ready, with every caller that is
ready and that leaves a receive loop when the method returns `stop`. -/
def Ends {α : Type} (stop : α) (x : Method α) : Prop :=
  ∀ next, (∀ r, Ready env o rounds (next r)) → Leaves env o rounds (next (.ok stop)) →
    Ready env o rounds (x next)

theorem Ends.of_keeps {α : Type} {stop : α} {x : Method α}
    (h : Async.Keeps (Ready env o rounds) x) : Ends env o rounds stop x :=
  fun next hnext _ => h next hnext

theorem Ends.after {α β : Type} {stop : β} {x : Method α} {f : α → Method β}
    (h : Async.Keeps (Ready env o rounds) x) (hf : ∀ a, Ends env o rounds stop (f a)) :
    Ends env o rounds stop (x >>= f) := by
  refine fun next hnext hleaves => h _ fun r => ?_
  cases r with
  | ok a => exact hf a next hnext hleaves
  | error e => exact hnext _

/-- **`HandleCloseAsync`.** -/
theorem handleCloseAsync_ends (frame : CulpeoMessage) :
    Ends env o rounds true (handleCloseAsync frame) := by
  intro next hnext hleaves
  refine sends_ready.trySendFrameAsync _ _ fun r => ?_
  cases r with
  | error e => exact hnext _
  | ok _ =>
      refine fun c _ d _ hconnect hclose => .inl ⟨hconnect, hclose, ?_⟩
      -- From here on the state is known, whatever the other calls do.
      refine keeps_writeAsync (P := fun c => c.state = .disconnected) (fun _ _ h => h.state)
        (fun _ _ => id) _ _ (fun r => ?_) _ rfl
      cases r with
      | error e => exact fun c _ => hnext _ c trivial
      | ok _ =>
          exact fun c hstate d hd hconnect _ =>
            .inr (.inr ⟨hconnect, rfl, hd.state hstate, hleaves⟩)

theorem ready_handleIncomingMediaAsync (frame : CulpeoMessage) :
    Async.Keeps (Ready env o rounds) (handleIncomingMediaAsync env frame) := by
  refine (ready_read _).bind fun found => ?_
  cases found with
  | none => exact sends_ready.refuse _ _
  | some found =>
      dsimp only
      split
      · exact sends_ready.refuse _ _
      · refine Async.Keeps.bind ?_ fun _ => (ready_writeAsync _).bind fun _ => Async.keeps_pure _
        exact closed_ready.update fun _ => ⟨rfl, rfl, id⟩

theorem dispatchFrameAsync_ends (frame : CulpeoMessage) :
    Ends env o rounds true (dispatchFrameAsync env o frame) := by
  unfold dispatchFrameAsync
  split
  · exact .of_keeps (ready_handleIncomingMediaAsync frame)
  · split
    · exact handleCloseAsync_ends frame
    · split
      · exact .of_keeps (sends_ready.handleAuthRefreshAsync env o trivial frame)
      · split
        · exact .of_keeps (sends_ready.handlePingAsync env trivial frame)
        · split
          · exact .of_keeps (Async.keeps_pure _)
          · exact .of_keeps <| sends_ready.handleApplicationEventAsync env (fun _ _ => trivial)
              (fun _ _ _ => ⟨rfl, rfl, id⟩) frame

theorem receiveFrameAsync_ends (socket : ℕ) :
    Ends env o rounds true (receiveFrameAsync env o socket) := by
  refine .after (closed_ready.await trivial _).attempt fun received => ?_
  split
  · exact .of_keeps (Async.keeps_pure _)
  · exact .of_keeps (Async.keeps_throw _)
  · exact .of_keeps (Async.keeps_pure _)
  · split
    · exact .of_keeps (sends_ready.refuse _ _)
    · exact .of_keeps (Async.keeps_throw _)
    · exact dispatchFrameAsync_ends _

/-- **`ReceiveFramesAsync`**, by induction on the messages. -/
theorem receiveFramesAsync_ends (n : ℕ) :
    Ends env o rounds () (receiveFramesAsync env o n) := by
  induction n with
  | zero => exact fun _ _ _ => ready_ret _
  | succ n ih =>
      refine .after (ready_read _) fun cancelled => ?_
      split
      · exact .of_keeps (Async.keeps_pure _)
      · refine .after (ready_read _) fun ws => ?_
        cases ws with
        | none => exact .of_keeps (Async.keeps_throw _)
        | some socket =>
            intro next hnext hleaves
            refine receiveFrameAsync_ends socket _ (fun r => ?_) hleaves
            cases r with
            | error e => exact hnext _
            | ok stop =>
                cases stop with
                | true => exact hnext _
                | false => exact ih next hnext hleaves

/-! ### The loops -/

theorem ready_giveUp : Ready env o rounds (giveUp .ret) := by
  refine (ready_setState _).bind (fun _ => (ready_writeAsync _).bind fun _ => ?_) _ ready_ret
  exact closed_ready.update fun _ => ⟨rfl, rfl, id⟩

theorem ready_reconnectAsync : Async.Keeps (Ready env o rounds) (reconnectAsync env o) := by
  refine (ready_read ws).bind fun old => ?_
  have hrest : Async.Keeps (Ready env o rounds) (do
      let socket ← createWebSocketAsync
      let isResumption ← .read fun c => c.sessionId.isSome
      performHandshakeAsync env o socket isResumption
      setState .established
      let sessionId ← .read fun c => c.sessionId.getD []
      writeAsync (.sessionResumed sessionId)) :=
    ready_createWebSocketAsync.bind fun _ => (ready_read _).bind fun _ =>
      (ready_performHandshakeAsync _ _).bind fun _ => (ready_setState _).bind fun _ =>
        (ready_read _).bind fun _ => ready_writeAsync _
  cases old with
  | none => exact (Async.keeps_pure ()).bind fun _ => hrest
  | some socket => exact (ready_perform _).bind fun _ => hrest

/-- A step of the loops, before a culpeo.close. -/
theorem ready_locked {update : CulpeoStreamClient → CulpeoStreamClient}
    {next : CulpeoStreamClient → Rest}
    (hconnect : ∀ c, (update c).connectState = c.connectState)
    (hclose : ∀ c, (update c).closeProcessed = c.closeProcessed)
    (hnext : ∀ c, Ready env o rounds (next c)) : Ready env o rounds (.locked update next) :=
  closed_ready.locked (fun c => ⟨hconnect c, hclose c, id⟩) hnext

theorem ready_attempts (hauto : o.autoReconnect = true) :
    ∀ remaining attempt, Ready env o rounds (attempts env o rounds remaining attempt) := by
  intro remaining
  induction remaining with
  | zero => exact fun _ => ready_giveUp
  | succ remaining ih =>
      intro attempt
      have hcaught : ∀ e, Ready env o rounds
          (if ClientExn.forgets e then
            .locked forgetSession fun _ => attempts env o rounds remaining (attempt + 1)
          else if e = .operationCanceled then giveUp .ret
          else attempts env o rounds remaining (attempt + 1)) := by
        intro e
        split
        · exact ready_locked (fun c => (sameBut_forgetSession c).connectState)
            (fun c => (sameBut_forgetSession c).closeProcessed) fun _ => ih _
        · split
          · exact ready_giveUp
          · exact ih _
      refine ready_locked (fun _ => rfl) (fun _ => rfl) fun c => ?_
      dsimp only
      split
      · exact ready_giveUp
      · refine ready_perform _ _ fun r => ?_
        split
        · exact ready_giveUp
        · exact ready_ret _
        · refine ready_reconnectAsync _ fun r => ?_
          cases r with
          | error e => exact hcaught e
          | ok _ =>
              -- The new connection has its own receive loop.
              refine receiveFramesAsync_ends rounds _ (fun r => ?_)
                (.inr ⟨hauto, remaining, attempt + 1, rfl⟩)
              cases r with
              | error e => exact hcaught e
              | ok _ => exact ready_locked (fun _ => rfl) (fun _ => rfl) fun _ => ih _

theorem ready_finish :
    Ready env o rounds ((do setState .disconnected; tryComplete : Method Unit) .ret) := by
  refine (ready_setState _).bind (fun _ => ?_) _ ready_ret
  exact closed_ready.update fun _ => ⟨rfl, rfl, id⟩

theorem ready_leaveReceiveLoop : Ready env o rounds (leaveReceiveLoop env o rounds) := by
  refine ready_locked (fun _ => rfl) (fun _ => rfl) fun c => ?_
  dsimp only
  split
  · rename_i hreconnects
    rw [Bool.and_eq_true] at hreconnects
    exact ready_locked (fun _ => rfl) (fun _ => rfl) fun _ =>
      ready_attempts hreconnects.2 _ _
  · exact ready_finish

theorem ready_runReceiveLoop : Ready env o rounds (runReceiveLoop env o rounds) := by
  refine ready_locked (fun _ => rfl) (fun _ => rfl) fun c => ?_
  dsimp only
  split
  · exact ready_ret _
  · exact receiveFramesAsync_ends rounds _ (fun _ => ready_leaveReceiveLoop) (.inl rfl)

theorem ready_checkScheme (scheme : Text) :
    Async.Keeps (Ready env o rounds) (checkScheme env o scheme) := by
  unfold checkScheme
  split
  · exact Async.keeps_throw _
  · exact Async.keeps_pure _

theorem ready_connectInner (scheme : Text) :
    Async.Keeps (Ready env o rounds) (connectInner env o scheme) :=
  (ready_checkScheme scheme).bind fun _ => (ready_setState _).bind fun _ =>
    (closed_ready.step fun _ => ⟨rfl, rfl, id⟩).bind fun _ =>
      ready_createWebSocketAsync.bind fun _ => (ready_performHandshakeAsync _ _).bind fun _ =>
        (ready_setState _).bind fun _ => (ready_read _).bind fun _ => ready_writeAsync _

variable (env o rounds) in
/-- **`ConnectAsync`.** -/
theorem active_connectAsync (scheme : Text) {c : CulpeoStreamClient}
    (hfree : c.connectState = false) (hclose : c.closeProcessed = false) :
    ((connectAsync env o rounds scheme c).1.connectState = true ∧
      (connectAsync env o rounds scheme c).1.closeProcessed = false) ∧
      Ready env o rounds (connectAsync env o rounds scheme c).2 := by
  rw [connectAsync, if_neg (by rw [hfree]; exact Bool.false_ne_true)]
  refine ⟨⟨rfl, hclose⟩, ready_connectInner scheme _ fun r => ?_⟩
  cases r with
  | error e =>
      exact fun c _ d _ _ hclose => .inr (.inl ⟨rfl, hclose, meets_ret _ _⟩)
  | ok _ => exact ready_locked (fun _ => rfl) (fun _ => rfl) fun _ => ready_runReceiveLoop

theorem meets_finish :
    ((do setState .disconnected; tryComplete : Method Unit) .ret : Rest).Meets bystander := by
  have hstate : Async.Keeps (fun p : Rest => p.Meets bystander) (setState .disconnected) :=
    closed_bystander.update fun _ => ⟨rfl, rfl, rfl, fun _ => rfl⟩
  have hcomplete : Async.Keeps (fun p : Rest => p.Meets bystander) tryComplete :=
    closed_bystander.update fun _ => ⟨rfl, rfl, rfl, id⟩
  exact hstate.bind (fun _ => hcomplete) _ (meets_ret _)

variable (env o rounds) in
/-- Every other call, and a call of `ConnectAsync` that is refused. -/
theorem enter_bystands (call : ClientCall) {c : CulpeoStreamClient}
    (h : c.connectState = true ∨ ∀ scheme, call ≠ .connect scheme) :
    (enter env o rounds call c).1 = c ∧ (enter env o rounds call c).2.Meets bystander :=
  enter_good closed_bystander_standsBy harmless_of_standsBy (meets_ret _) env o rounds call h

end Connecting

/-! ### Runs -/

abbrev ClientMove := Move ClientCall ClientAnswer

/-- A client that has been constructed. -/
def created : Calls := ⟨{}, [], []⟩

section Runs

variable (env : Environment) (o : CulpeoStreamClientOptions) (rounds : ℕ)

/-- No culpeo.close has been processed, and one call at most connects. -/
structure BeforeClose (cfg : Calls) : Prop where
  closeProcessed : cfg.shared.closeProcessed = false
  free : cfg.shared.connectState = false → ∀ p ∈ cfg.pool, p.Meets bystander
  taken : cfg.shared.connectState = true →
    OneAmong (Active env o rounds · cfg.shared) (·.Meets bystander) cfg.pool

/-- A culpeo.close has been processed. -/
structure AfterClose (cfg : Calls) : Prop where
  closeProcessed : cfg.shared.closeProcessed = true
  connectState : cfg.shared.connectState = true
  state : cfg.shared.state = .disconnected
  pool : ∀ p ∈ cfg.pool, p.Meets bystander ∨ Leaves env o rounds p

/-- What a culpeo.close promises of everything that follows. -/
structure Final (cfg cfg' : Calls) : Prop where
  opens : cfg'.trace.filter ClientAction.opens = cfg.trace.filter ClientAction.opens
  state : cfg'.shared.state = .disconnected
  written : cfg'.shared.written = cfg.shared.written
  writes : cfg'.trace.filter ClientAction.writes = cfg.trace.filter ClientAction.writes

/-- With automatic reconnection, the client goes on from a receive loop in which it has
processed a culpeo.close only in `RunReceiveLoopAsync`, and only when it is cancelled. -/
def Settles (cfg : Calls) : ClientMove → Prop
  | .enter _ => True
  | .resume i _ => o.autoReconnect = true → cfg.shared.closeProcessed = true →
      (cfg.pool[i]? = some (leaveReceiveLoop env o rounds) → cfg.shared.cancelled = true) ∧
      ∀ remaining attempt,
        cfg.pool[i]? ≠ some (connectionLost (attempts env o rounds remaining attempt))

variable {env o rounds} {cfg : Calls}

theorem beforeClose_enter (h : BeforeClose env o rounds cfg) (call : ClientCall) :
    BeforeClose env o rounds (step (enter env o rounds) cfg (.enter call)) := by
  by_cases hstands : cfg.shared.connectState = true ∨ ∀ scheme, call ≠ .connect scheme
  · obtain ⟨hsame, hmeets⟩ := enter_bystands env o rounds call hstands
    refine ⟨?_, fun hfree => ?_, fun htaken => ?_⟩ <;> simp only [step, hsame] at *
    · exact h.closeProcessed
    · exact forall_mem_concat (h.free hfree) hmeets
    · exact (h.taken htaken).concat hmeets
  · obtain ⟨hconnect, hcall⟩ := not_or.mp hstands
    obtain ⟨scheme, hcall⟩ := not_forall.mp hcall
    rw [not_not] at hcall
    rw [Bool.not_eq_true] at hconnect
    subst hcall
    obtain ⟨⟨htaken, hclose⟩, hready⟩ :=
      active_connectAsync env o rounds scheme hconnect h.closeProcessed
    exact ⟨hclose, fun hfree => absurd (hfree.symm.trans htaken) Bool.false_ne_true,
      fun _ => oneAmong_concat (h.free hconnect) (hready _ trivial)⟩

/-- A call stands by, or it is the one that connects. -/
theorem BeforeClose.member (h : BeforeClose env o rounds cfg) {i : ℕ} {p : Rest}
    (hi : cfg.pool[i]? = some p) :
    (p.Meets bystander ∧ ∀ (q : Rest) shared trace, q.Meets bystander →
      Bystands cfg.shared shared → BeforeClose env o rounds ⟨shared, cfg.pool.set i q, trace⟩) ∨
    (cfg.shared.connectState = true ∧ Active env o rounds p cfg.shared ∧
      (∀ R : Rest → Prop, ∀ q, R q → OneAmong R (·.Meets bystander) (cfg.pool.set i q)) ∧
      ∀ R : Rest → Prop, (∀ q : Rest, q.Meets bystander → R q) → ∀ q, R q →
        ∀ q' ∈ cfg.pool.set i q, R q') := by
  cases hconnect : cfg.shared.connectState with
  | false =>
      have hpool := h.free hconnect
      refine .inl ⟨hpool p (List.mem_of_getElem? hi), fun q shared trace hq hshared => ?_⟩
      have hfree := hshared.connectState.trans hconnect
      exact ⟨hshared.closeProcessed.trans h.closeProcessed, fun _ => forall_mem_set hpool i hq,
        fun htaken => absurd (hfree.symm.trans htaken) (by decide)⟩
  | true =>
      rcases (h.taken hconnect).set hi with ⟨hactive, hone, hall⟩ | ⟨hmeets, hone⟩
      · exact .inr ⟨rfl, hactive, hone, hall⟩
      · refine .inl ⟨hmeets, fun q shared trace hq hshared => ?_⟩
        have htaken := hshared.connectState.trans hconnect
        exact ⟨hshared.closeProcessed.trans h.closeProcessed,
          fun hfree => absurd (htaken.symm.trans hfree) (by decide),
          fun _ => (hone q hq).imp fun _ hactive => hactive.mono hshared⟩

/-- **One step before a culpeo.close**, which the step may process. -/
theorem beforeClose_resume (h : BeforeClose env o rounds cfg) (i : ℕ) (answer : ClientAnswer) :
    BeforeClose env o rounds (step (enter env o rounds) cfg (.resume i answer)) ∨
      AfterClose env o rounds (step (enter env o rounds) cfg (.resume i answer)) := by
  rcases step_resume_cases cfg i answer with
    hstep | ⟨update, next, hi, hstep⟩ | ⟨action, next, hi, hstep⟩ <;> rw [hstep]
  · exact .inl h
  · rcases h.member hi with ⟨hmeets, hset⟩ | ⟨hconnect, hactive, hone, hall⟩
    · obtain ⟨-, hrel, hnext⟩ := hmeets cfg.shared trivial
      exact .inl (hset _ _ _ hnext hrel)
    · rcases hactive cfg.shared (.refl _) hconnect h.closeProcessed with
        ⟨hconnect', hclose, hnext⟩ | ⟨hconnect', hclose, hnext⟩ |
        ⟨hconnect', hclose, hstate, hleaves⟩
      · exact .inl ⟨hclose, fun hfree => absurd (hfree.symm.trans hconnect') (by decide),
          fun _ => hone _ _ hnext⟩
      · exact .inl ⟨hclose, fun _ => hall _ (fun _ => id) _ hnext,
          fun htaken => absurd (hconnect'.symm.trans htaken) (by decide)⟩
      · exact .inr ⟨hclose, hconnect', hstate, hall _ (fun _ => .inl) _ (.inr hleaves)⟩
  · rcases h.member hi with ⟨hmeets, hset⟩ | ⟨hconnect, hactive, hone, hall⟩
    · exact .inl (hset _ _ _ (hmeets.2 answer trivial) (.refl _))
    · exact .inl ⟨h.closeProcessed, fun hfree => absurd (hfree.symm.trans hconnect) (by decide),
        fun _ => hone _ _ (hactive answer)⟩

/-! ### After a culpeo.close -/

theorem Final.refl (hstate : cfg.shared.state = .disconnected) : Final cfg cfg :=
  ⟨rfl, hstate, rfl, rfl⟩

theorem Final.trans {cfg' cfg'' : Calls} (h : Final cfg cfg') (h' : Final cfg' cfg'') :
    Final cfg cfg'' where
  opens := h'.opens.trans h.opens
  state := h'.state
  written := h'.written.trans h.written
  writes := h'.writes.trans h.writes

/-- A step of a call that stands by, after a culpeo.close. -/
theorem afterClose_bystands (h : AfterClose env o rounds cfg) {shared : CulpeoStreamClient}
    (hshared : Bystands cfg.shared shared) {q : Rest} (hq : q.Meets bystander) (i : ℕ)
    {trace : List ClientAction}
    (hopens : trace.filter ClientAction.opens = cfg.trace.filter ClientAction.opens)
    (hwrites : trace.filter ClientAction.writes = cfg.trace.filter ClientAction.writes) :
    AfterClose env o rounds ⟨shared, cfg.pool.set i q, trace⟩ ∧
      Final cfg ⟨shared, cfg.pool.set i q, trace⟩ := by
  refine ⟨⟨?_, ?_, hshared.state h.state, forall_mem_set h.pool i (.inl hq)⟩, hopens,
    hshared.state h.state, hshared.written, hwrites⟩
  · exact hshared.closeProcessed.trans h.closeProcessed
  · exact hshared.connectState.trans h.connectState

theorem filter_concat_of_false {P : ClientAction → Bool} {action : ClientAction}
    (h : P action = false) (trace : List ClientAction) :
    (trace ++ [action]).filter P = trace.filter P := by
  rw [List.filter_append, List.filter_singleton, h]
  exact List.append_nil _

/-- The step of a call that leaves a receive loop, under the condition. -/
theorem leaveReceiveLoop_finishes {update : CulpeoStreamClient → CulpeoStreamClient}
    {next : CulpeoStreamClient → Rest}
    (hleave : leaveReceiveLoop env o rounds = .locked update next) {c : CulpeoStreamClient}
    (hcancelled : o.autoReconnect = true → c.cancelled = true) :
    update c = c ∧ (next c).Meets bystander := by
  cases hleave
  refine ⟨rfl, ?_⟩
  dsimp only
  rw [if_neg]
  · exact meets_finish
  · rw [Bool.and_eq_true, Bool.not_eq_true']
    rintro ⟨hlive, hauto⟩
    exact Bool.false_ne_true (hlive.symm.trans (hcancelled hauto))

/-- **One step after a culpeo.close.** -/
theorem afterClose_step (h : AfterClose env o rounds cfg) {m : ClientMove}
    (hm : Settles env o rounds cfg m) :
    AfterClose env o rounds (step (enter env o rounds) cfg m) ∧
      Final cfg (step (enter env o rounds) cfg m) := by
  cases m with
  | enter call =>
      obtain ⟨hsame, hmeets⟩ :=
        enter_bystands env o rounds call (.inl h.connectState)
      simp only [step, hsame]
      exact ⟨⟨h.closeProcessed, h.connectState, h.state,
        forall_mem_concat h.pool (.inl hmeets)⟩, rfl, h.state, rfl, rfl⟩
  | resume i answer =>
      rcases step_resume_cases cfg i answer with
        hstep | ⟨update, next, hi, hstep⟩ | ⟨action, next, hi, hstep⟩ <;> rw [hstep]
      · exact ⟨h, .refl h.state⟩
      · have hnext : Bystands cfg.shared (update cfg.shared) ∧
            (next cfg.shared).Meets bystander := by
          rcases h.pool _ (List.mem_of_getElem? hi) with
            hmeets | hleave | ⟨hauto, remaining, attempt, hlost⟩
          · exact (hmeets cfg.shared trivial).2
          · obtain ⟨hsame, hmeets⟩ := leaveReceiveLoop_finishes hleave.symm fun hauto =>
              (hm hauto h.closeProcessed).1 (by rw [hi, hleave])
            rw [hsame]
            exact ⟨.refl _, hmeets⟩
          · exact absurd (by rw [hi, hlost]) ((hm hauto h.closeProcessed).2 remaining attempt)
        exact afterClose_bystands h hnext.1 hnext.2 i rfl rfl
      · rcases h.pool _ (List.mem_of_getElem? hi) with
          hmeets | hleave | ⟨hauto, remaining, attempt, hlost⟩
        · exact afterClose_bystands h (.refl _) (hmeets.2 answer trivial) i
            (filter_concat_of_false hmeets.1.1 _) (filter_concat_of_false hmeets.1.2 _)
        · cases hleave
        · cases hlost

theorem run_afterClose (moves : List ClientMove) :
    ∀ {cfg : Calls}, AfterClose env o rounds cfg →
      Along (enter env o rounds) (Settles env o rounds) cfg moves →
      Final cfg (run (enter env o rounds) cfg moves) := by
  induction moves with
  | nil => exact fun h _ => .refl h.state
  | cons m ms ih =>
      rintro cfg h ⟨hm, hms⟩
      obtain ⟨hafter, hfinal⟩ := afterClose_step h hm
      exact hfinal.trans (ih hafter hms)

/-- A culpeo.close is processed at some point of a run, or at none. -/
theorem run_closes (moves : List ClientMove)
    (hsettles : Along (enter env o rounds) (Settles env o rounds) created moves) :
    BeforeClose env o rounds (run (enter env o rounds) created moves) ∨
      AfterClose env o rounds (run (enter env o rounds) created moves) := by
  refine run_induction (I := fun cfg => BeforeClose env o rounds cfg ∨ AfterClose env o rounds cfg)
    (fun cfg m h hm => ?_) moves (.inl ⟨rfl, fun _ => nofun, nofun⟩) hsettles
  rcases h with hbefore | hafter
  · cases m with
    | enter call => exact .inl (beforeClose_enter hbefore call)
    | resume i answer => exact beforeClose_resume hbefore i answer
  · exact .inr (afterClose_step hafter hm).1

variable (env o rounds) in
/-- **A close of the server is final**, in every run in which the client goes on from it only
in `RunReceiveLoopAsync`, and there only without automatic reconnection or cancelled. -/
theorem close_is_final (moves moves' : List ClientMove)
    (hsettles : Along (enter env o rounds) (Settles env o rounds) created (moves ++ moves'))
    (hclose : (run (enter env o rounds) created moves).shared.closeProcessed = true) :
    Final (run (enter env o rounds) created moves)
      (run (enter env o rounds) created (moves ++ moves')) := by
  obtain ⟨hmoves, hmoves'⟩ := along_append.mp hsettles
  rw [run_append]
  rcases run_closes moves hmoves with hbefore | hafter
  · exact absurd (hbefore.closeProcessed.symm.trans hclose) Bool.false_ne_true
  · exact run_afterClose moves' hafter hmoves'

/-- Without automatic reconnection, every run is one of these. -/
theorem along_settles (hauto : o.autoReconnect = false) (moves : List ClientMove) :
    ∀ {cfg : Calls}, Along (enter env o rounds) (Settles env o rounds) cfg moves := by
  induction moves with
  | nil => exact @fun _ => trivial
  | cons m ms ih =>
      refine @fun cfg => ⟨?_, ih⟩
      cases m with
      | enter call => trivial
      | resume i answer => exact fun hon => absurd (hauto.symm.trans hon) Bool.false_ne_true

end Runs

/-! ### A client that goes on -/

/-- The body of an init-ack that confirms no stream. -/
def bareAck : JsonElement := .named [(utf16 "streams", .array [])]

theorem listener_streams : [(⟨utf16 "a/b", .output, .message, none⟩ : StreamDeclaration)] ≠ [] :=
  List.cons_ne_nil _ _

theorem listener_token : (some (utf16 "t")).isSome = true ∨ false = true := .inl rfl

/-- A client with one stream that the server sends. -/
def listener (autoReconnect : Bool) : CulpeoStreamClientOptions where
  authorization := some (utf16 "t")
  streams := [⟨utf16 "a/b", .output, .message, none⟩]
  autoReconnect := autoReconnect
  streams_ne_nil := listener_streams
  has_token := listener_token

/-- A frame of the server. -/
def serverFrame (event : Text) (sessionId : Option Text) (body : Bytes) : ClientAnswer :=
  .message .text (serializeAsync { kind := .control, body, event := some event, sessionId })

/-- The call with this place goes on a number of times. -/
def goesOn (n : ℕ) : List ClientMove := List.replicate n (.resume 0 .done)

/-- The client connects, and the server sends a culpeo.close. -/
def closingRun : List ClientMove :=
  .enter (.connect (utf16 "wss")) :: goesOn 6 ++
    [.resume 0 (serverFrame (utf16 "culpeo.init-ack") (some (utf16 "s")) (bareAck.write.map
      UInt16.toUInt8))] ++
    goesOn 9 ++ [.resume 0 (serverFrame (utf16 "culpeo.close") none [])] ++
    goesOn 2 ++ [.resume 0 (.isOpen true)] ++ goesOn 7

set_option maxRecDepth 20000 in
/-- With automatic reconnection the client opens a socket again. -/
theorem not_close_is_final : ¬ ∀ moves moves',
    (run (enter (.reading [bareAck]) (listener true) 5) created moves).shared.closeProcessed =
        true →
      Final (run (enter (.reading [bareAck]) (listener true) 5) created moves)
        (run (enter (.reading [bareAck]) (listener true) 5) created (moves ++ moves')) := by
  intro h
  have hfinal := h closingRun (goesOn 7) (by rfl)
  have hlength := congrArg List.length hfinal.opens
  exact absurd hlength (by decide)

set_option maxRecDepth 20000 in
/-- Without automatic reconnection it does not. -/
theorem close_is_final_example :
    Final (run (enter (.reading [bareAck]) (listener false) 5) created closingRun)
      (run (enter (.reading [bareAck]) (listener false) 5) created (closingRun ++ goesOn 7)) := by
  exact close_is_final _ _ _ closingRun (goesOn 7) (along_settles rfl _) (by rfl)

end CulpeoStreamClient

end CulpeoStream.Dotnet
