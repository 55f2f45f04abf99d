import CulpeoStream.Typescript.Concurrency
import CulpeoStream.Typescript.Resume

/-!
# Closing for good

`close` sets the state before it sends its frame, so that nothing follows.  `handleClose`
does it the other way around: until the promise of its echo settles, the session is still
established, and whatever it is asked to send goes out behind the close (`Echoing`).  And two
calls go on after an `await` without looking at the state again: `handleInit`, which
establishes a session that may have been closed in the meantime, and `handleAuthRefresh`,
whose auth-response may follow a close.

`finality` is the policy that excludes these three, and under it a session closes for good.
-/

namespace CulpeoStream.Typescript

open Message Utf16 EventLoop

/-! ### What closing for good means -/

def Output.isSend : Output → Bool
  | .send _ => true
  | _ => false

def Output.isClose : Output → Bool
  | .send (.close _ _) => true
  | _ => false

/-- No frame follows a close. -/
def Silent (trace : List Output) : Prop :=
  trace.Pairwise fun o o' => o.isClose = true → o'.isSend = false

instance (trace : List Output) : Decidable (Silent trace) :=
  inferInstanceAs (Decidable (trace.Pairwise _))

/-! ### The policy -/

/-- The session has sent a close, but is still established. -/
def Session.Echoing (s : Session) : Prop :=
  s.closeSent = true ∧ s.stateValue = .established

/-- What is known of a session and its trace. -/
structure Final (s : Session) (trace : List Output) : Prop where
  silent : Silent trace
  sent : ∀ o ∈ trace, o.isClose = true → s.closeSent = true
  state : s.closeSent = true → s.stateValue = .established ∨ s.stateValue = .closed

/-- Closing is not undone. -/
structure Retains (s t : Session) : Prop where
  closed : s.stateValue = .closed → t.stateValue = .closed
  sent : s.closeSent = true → t.closeSent = true

/-- The moves under which a session closes for good.  While it echoes a close, no call is
made that sends a frame, and none goes on that does; the promise of an init-ack is not
fulfilled when the session is closed, nor that of a token after a close has been sent. -/
def finality {C : Type} (sends resumes : C → Session → Prop) :
    Policy Session Output (Option Text) C where
  inv := Final
  rel := Retains
  refl := fun _ => ⟨id, id⟩
  trans := fun _ _ _ h h' => ⟨fun hs => h'.closed (h.closed hs), fun hs => h'.sent (h.sent hs)⟩
  enters := fun c s => s.Echoing → ¬ sends c s
  settles := fun c action answer s =>
    match action with
    | .send (.initAck _ _) => answer ≠ none → s.stateValue ≠ .closed
    | .refreshAuthToken => answer ≠ none → s.closeSent = false
    | .turn => s.Echoing → ¬ resumes c s
    | _ => True

/-- `sendMedia` sends a frame when the registry gives it an offset. -/
def SendsMedia (rt : Runtime) (streamId : Text) (body : Bytes) (s : Session) : Prop :=
  ∃ tracked, (s.registry.trackSend rt streamId body.length).2 = .ok tracked

/-- `sendEvent` sends a frame when the stream is known. -/
def SendsEvent (streamId : Option Text) (s : Session) : Prop :=
  (streamId.any fun streamId => !s.registry.has streamId) = false

/-- The calls with which an established client sends a frame before it awaits anything. -/
def ClientEntry.Sends (rt : Runtime) : ClientEntry → Session → Prop
  | .receive _ (.ping _), _ => True
  | .call (.sendMedia streamId body _), s => SendsMedia rt streamId body s
  | .call (.sendEvent _ _ streamId), s => SendsEvent streamId s
  | .call (.sendPing _), _ => True
  | _, _ => False

/-- The same for a server, which looks at a frame only after an `await`. -/
def ServerEntry.Sends (rt : Runtime) : ServerEntry → Session → Prop
  | .call (.sendMedia streamId body _), s => SendsMedia rt streamId body s
  | .call (.sendEvent _ _ streamId), s => SendsEvent streamId s
  | .call (.sendPing _), _ => True
  | .call (.requestAuthRefresh _), _ => True
  | _, _ => False

/-- The frames that an established server answers: pings within the rate limit. -/
def ServerEntry.Resumes : ServerEntry → Session → Prop
  | .receive now (.ping _), s =>
      (s.receivedPingTimestampsMs.dropWhile fun t => 1000 ≤ now.tdiv 1000 - t).length < 5
  | _, _ => False

def clientFinality (rt : Runtime) : Policy Session Output (Option Text) ClientEntry :=
  finality (ClientEntry.Sends rt) fun _ _ => False

def serverFinality (rt : Runtime) : Policy Session Output (Option Text) ServerEntry :=
  finality (ServerEntry.Sends rt) ServerEntry.Resumes

/-! ### Actions -/

section Actions

variable {s : Session} {trace : List Output}

theorem Final.no_close (h : Final s trace) (hs : s.closeSent = false) :
    ∀ o ∈ trace, o.isClose = false := by
  intro o ho
  by_contra hclose
  have hsent := h.sent o ho (by simpa using hclose)
  rw [hs] at hsent
  cases hsent

/-- An action that comes before any close. -/
theorem Silent.append (h : Silent trace) (hclose : ∀ o ∈ trace, o.isClose = false) (o : Output) :
    Silent (trace ++ [o]) := by
  refine List.pairwise_append.mpr ⟨h, List.pairwise_singleton _ _, fun o' ho' _ _ hclosed => ?_⟩
  rw [hclose o' ho'] at hclosed
  cases hclosed

/-- An action that sends nothing. -/
theorem Final.quiet (h : Final s trace) {o : Output} (ho : o.isSend = false)
    (hclose : o.isClose = false) : Final s (trace ++ [o]) := by
  refine ⟨List.pairwise_append.mpr ⟨h.silent, List.pairwise_singleton _ _, ?_⟩, ?_, h.state⟩
  · intro o' _ o'' ho'' _
    rw [List.mem_singleton.mp ho'']
    exact ho
  · intro o' ho' hclosed
    rcases List.mem_append.mp ho' with hold | hnew
    · exact h.sent o' hold hclosed
    · rw [List.mem_singleton.mp hnew, hclose] at hclosed
      cases hclosed

/-- A frame goes out before any close. -/
theorem Final.send (h : Final s trace) (hs : s.closeSent = false) {frame : CulpeoMessage}
    (hframe : Output.isClose (.send frame) = false) : Final s (trace ++ [.send frame]) := by
  refine ⟨h.silent.append (h.no_close hs) _, fun o ho hclosed => ?_, h.state⟩
  rcases List.mem_append.mp ho with hold | hnew
  · exact h.sent o hold hclosed
  · rw [List.mem_singleton.mp hnew, hframe] at hclosed
    cases hclosed

/-- The close goes out. -/
theorem Final.close (h : Final s trace) (hs : s.closeSent = false) {t : Session}
    (ht : t.closeSent = true) (hstate : t.stateValue = .established ∨ t.stateValue = .closed)
    (code : Code) (reason : Text) : Final t (trace ++ [.send (.close code reason)]) :=
  ⟨h.silent.append (h.no_close hs) _, fun _ _ _ => ht, fun _ => hstate⟩

/-- A change of fields that have nothing to do with closing. -/
theorem Final.same (h : Final s trace) {t : Session} (hsent : t.closeSent = s.closeSent)
    (hstate : t.stateValue = s.stateValue) : Final t trace :=
  ⟨h.silent, fun o ho hclosed => hsent.trans (h.sent o ho hclosed),
    fun ht => by rw [hstate]; exact h.state (hsent.symm.trans ht)⟩

theorem Retains.same {t : Session} (hsent : t.closeSent = s.closeSent)
    (hstate : t.stateValue = s.stateValue) : Retains s t :=
  ⟨fun hs => hstate.trans hs, fun hs => hsent.trans hs⟩

/-- A session that is neither established nor closed has sent no close. -/
theorem Final.not_sent (h : Final s trace) (hestablished : s.stateValue ≠ .established)
    (hclosed : s.stateValue ≠ .closed) : s.closeSent = false := by
  by_contra hs
  rcases h.state (by simpa using hs) with hstate | hstate
  · exact hestablished hstate
  · exact hclosed hstate

end Actions

/-! ### Methods of both sessions -/

section Methods

variable {C : Type} {sends resumes : C → Session → Prop} {c : C} {s : Session}
  {trace : List Output}

theorem keeps_done (h : Final s trace) :
    Upholds instant (finality sends resumes) c done s trace := h

theorem keeps_fail (h : Final s trace) (e : CulpeoError) :
    Upholds instant (finality sends resumes) c (fail e) s trace := h

theorem keeps_notify (h : Final s trace) (callbacks : Callbacks) (notification : Notification)
    {next : Rest}
    (hnext : ∀ later, Final s later → Upholds instant (finality sends resumes) c next s later) :
    Upholds instant (finality sends resumes) c (notify callbacks notification next) s trace := by
  unfold notify
  split
  · have hquiet : Final s (trace ++ [.notify notification]) := h.quiet rfl rfl
    exact hnext _ hquiet
  · exact hnext _ h

/-- A frame is handed to `sendFrame`, and the call goes on when its promise is fulfilled. -/
theorem keeps_dispatch {frame : CulpeoMessage} (h : Final s (trace ++ [.send frame])) {next : Rest}
    (hnext : ∀ answer t later, Retains s t → Final t later →
      (finality sends resumes).settles c (.send frame) (some answer) t →
        Upholds instant (finality sends resumes) c next t later) :
    Upholds instant (finality sends resumes) c (dispatch frame next) s trace := by
  refine upholds_awaits rfl h fun answer t later hrel ht hsettles => ?_
  cases answer with
  | none => exact ht
  | some answer => exact hnext answer t later hrel ht hsettles

theorem keeps_dispatch_done {frame : CulpeoMessage} (h : Final s (trace ++ [.send frame])) :
    Upholds instant (finality sends resumes) c (dispatch frame done) s trace :=
  keeps_dispatch h fun _ _ _ _ ht _ => ht

/-- A critical section that changes nothing, or nothing that has to do with closing. -/
theorem leaves_same {t : Session} {next : Rest} (hsent : t.closeSent = s.closeSent)
    (hstate : t.stateValue = s.stateValue)
    (hnext : Upholds instant (finality sends resumes) c next t trace) :
    Leaves instant (finality sends resumes) c s trace (t, next) :=
  ⟨Retains.same hsent hstate, hnext⟩

theorem leaves_fail (h : Final s trace) (e : CulpeoError) :
    Leaves instant (finality sends resumes) c s trace (s, fail e) :=
  leaves_same rfl rfl (keeps_fail h e)

theorem keeps_close (h : Final s trace) (code : Code) (reason : Text) {next : Rest}
    (hnext : ∀ t later, Final t later →
      Upholds instant (finality sends resumes) c next t later) :
    Upholds instant (finality sends resumes) c (close code reason next) s trace := by
  apply upholds_critical
  split
  · exact leaves_same rfl rfl (hnext s trace h)
  · split
    · exact ⟨⟨fun _ => rfl, id⟩, hnext _ _ ⟨h.silent, h.sent, fun _ => .inr rfl⟩⟩
    · rename_i hsent
      refine ⟨⟨fun _ => rfl, fun _ => rfl⟩, ?_⟩
      have hclosed := h.close (t := { s with stateValue := .closed, closeSent := true })
        (by simpa using hsent) rfl (.inr rfl) code reason
      exact keeps_dispatch hclosed fun _ t later _ ht _ => hnext t later ht

theorem keeps_failWithClose (h : Final s trace) (code : Code) (reason : Text) :
    Upholds instant (finality sends resumes) c (failWithClose code reason) s trace :=
  keeps_close h code reason fun _ _ ht => ht

/-- An established session that does not echo a close has sent none. -/
theorem not_sent_of_not_echoing (hecho : ¬ s.Echoing) (hs : s.stateValue = .established) :
    s.closeSent = false := by
  by_contra hsent
  exact hecho ⟨by simpa using hsent, hs⟩

theorem keeps_sendMedia (rt : Runtime) (streamId : Text) (body : Bytes) (timestamp : Option ℤ)
    (h : Final s trace) (henter : s.Echoing → ¬ SendsMedia rt streamId body s) :
    Upholds instant (finality sends resumes) c (sendMedia rt streamId body timestamp) s trace := by
  apply upholds_critical
  split
  · exact leaves_fail h _
  · rename_i hestablished
    refine leaves_same rfl rfl ?_
    have htracked : Final { s with
        registry := (s.registry.trackSend rt streamId body.length).1 } trace := h.same rfl rfl
    split
    · exact htracked
    · rename_i contentType offset hsend
      have hsent : s.closeSent = false :=
        not_sent_of_not_echoing (fun hecho => henter hecho ⟨_, hsend⟩) (not_not.mp hestablished)
      exact keeps_dispatch_done (htracked.send hsent rfl)

theorem keeps_sendEvent (event body : Text) (streamId : Option Text) (h : Final s trace)
    (henter : s.Echoing → ¬ SendsEvent streamId s) :
    Upholds instant (finality sends resumes) c (sendEvent event body streamId) s trace := by
  apply upholds_critical
  split
  · exact leaves_fail h _
  · rename_i hestablished
    split
    · exact leaves_fail h _
    · rename_i hknown
      have hsent : s.closeSent = false :=
        not_sent_of_not_echoing (fun hecho => henter hecho (Bool.eq_false_iff.mpr hknown))
          (not_not.mp hestablished)
      exact leaves_same rfl rfl (keeps_dispatch_done (h.send hsent rfl))

theorem keeps_sendPing (now : ℤ) (h : Final s trace) (henter : ¬ s.Echoing) :
    Upholds instant (finality sends resumes) c (sendPing now) s trace := by
  apply upholds_critical
  split
  · exact leaves_fail h _
  · rename_i hestablished
    refine leaves_same rfl rfl ?_
    have hsent := not_sent_of_not_echoing henter (not_not.mp hestablished)
    have hnoted : Final { s with
        pendingPings := (now, now) :: s.pendingPings.filter fun entry => entry.1 ≠ now } trace :=
      h.same rfl rfl
    exact keeps_dispatch_done (hnoted.send hsent rfl)

theorem leaves_handleMedia (rt : Runtime) (callbacks : Callbacks) (headers : MediaHeaders)
    (body : Bytes) (h : Final s trace) :
    Leaves instant (finality sends resumes) c s trace
      (handleMedia rt callbacks headers body s) := by
  unfold handleMedia
  split
  · exact leaves_fail h _
  · refine leaves_same rfl rfl (keeps_notify ?_ callbacks _ fun _ hlater => keeps_done hlater)
    exact h.same rfl rfl

theorem keeps_handlePing (now ts : ℤ) (h : Final s trace) (hs : s.closeSent = false) :
    Upholds instant (finality sends resumes) c (handlePing now ts) s trace :=
  keeps_dispatch_done (h.send hs rfl)

theorem leaves_handlePong (callbacks : Callbacks) (now ts serverTs : ℤ) (h : Final s trace) :
    Leaves instant (finality sends resumes) c s trace (handlePong callbacks now ts serverTs s) := by
  unfold handlePong
  split
  · exact leaves_same rfl rfl (keeps_done h)
  · rename_i startedAt _
    refine leaves_same rfl rfl ?_
    have hdropped : Final { s with
        pendingPings := s.pendingPings.filter fun entry => entry.1 ≠ ts } trace := h.same rfl rfl
    split
    · have hmeasured := hdropped.quiet (o := .onRtt ts serverTs (now - startedAt)) rfl rfl
      exact hmeasured
    · exact keeps_done hdropped

theorem keeps_handleClose (callbacks : Callbacks) (code : Code) (reason : Text)
    (h : Final s trace) (hs : s.stateValue = .established) :
    Upholds instant (finality sends resumes) c (handleClose callbacks code reason) s trace := by
  refine keeps_notify h callbacks _ fun later hlater => upholds_critical ?_
  split
  · exact ⟨⟨fun _ => rfl, id⟩, hlater.silent, hlater.sent, fun _ => .inr rfl⟩
  · rename_i hsent
    have hclosed := hlater.close (t := { s with closeSent := true }) (by simpa using hsent) rfl
      (.inl hs) code reason
    -- The session stays established until the promise of the echo settles.
    refine ⟨⟨id, fun _ => rfl⟩, keeps_dispatch hclosed fun _ t later' _ ht _ => ?_⟩
    refine upholds_critical ⟨⟨fun _ => rfl, id⟩, ?_⟩
    exact ⟨ht.silent, ht.sent, fun _ => .inr rfl⟩

theorem leaves_handleApplication (callbacks : Callbacks) (event : ApplicationEvent)
    (h : Final s trace) :
    Leaves instant (finality sends resumes) c s trace (handleApplication callbacks event s) := by
  unfold handleApplication
  split
  · exact leaves_fail h _
  · split
    · exact leaves_same rfl rfl (keeps_done h)
    · exact leaves_same rfl rfl (keeps_notify h callbacks _ fun _ hlater => keeps_done hlater)

theorem leaves_failWithClose (h : Final s trace) (code : Code) (reason : Text) :
    Leaves instant (finality sends resumes) c s trace (s, failWithClose code reason) :=
  leaves_same rfl rfl (keeps_failWithClose h code reason)

/-! ### The client -/

theorem keeps_start (options : StartOptions) (h : Final s trace) :
    Upholds instant (finality sends resumes) c (start options) s trace := by
  apply upholds_critical
  split
  · exact leaves_fail h _
  · rename_i hstate
    have huninitialized : s.stateValue = .uninitialized := not_not.mp hstate
    have hsent : s.closeSent = false :=
      h.not_sent (by rw [huninitialized]; decide) (by rw [huninitialized]; decide)
    refine ⟨⟨fun hclosed => ?_, id⟩, ?_⟩
    · rw [huninitialized] at hclosed
      cases hclosed
    · have hstarted : Final { s with
          bufferWindowValue := options.bufferWindowMs
          sessionIdValue := options.resumeFrom.map SessionSnapshot.sessionId
          stateValue := .initializing } trace := ⟨h.silent, h.sent, fun hs => ?_⟩
      · exact keeps_dispatch_done (hstarted.send hsent rfl)
      · rw [hsent] at hs
        cases hs

theorem leaves_handleInitAck (callbacks : Callbacks) (headers : InitAckHeaders)
    (body : InitAckBody) (h : Final s trace) (hs : s.stateValue = .initializing) :
    Leaves instant (finality sends resumes) c s trace
      (handleInitAck callbacks headers body s) := by
  unfold handleInitAck
  split
  · exact leaves_fail h _
  · refine ⟨⟨fun hclosed => ?_, id⟩, keeps_notify ?_ callbacks _ fun _ hlater => keeps_done hlater⟩
    · rw [hs] at hclosed
      cases hclosed
    · exact ⟨h.silent, h.sent, fun _ => .inl rfl⟩

theorem leaves_handleInitError (callbacks : Callbacks) (frame : InitErrorFrame)
    (h : Final s trace) :
    Leaves instant (finality sends resumes) c s trace (handleInitError callbacks frame s) := by
  refine ⟨⟨fun _ => rfl, id⟩, keeps_notify ?_ callbacks _ fun _ hlater => keeps_done hlater⟩
  exact ⟨h.silent, h.sent, fun _ => .inr rfl⟩

/-- An auth-response goes out when the token comes before any close. -/
theorem keeps_handleAuthRefresh (callbacks : Callbacks) (nonce : Text) (h : Final s trace) :
    Upholds instant (finality sends resumes) c (handleAuthRefresh callbacks nonce) s trace := by
  unfold handleAuthRefresh
  split
  · exact keeps_failWithClose h _ _
  · refine upholds_awaits rfl (h.quiet rfl rfl) fun answer t later _ ht hsettles => ?_
    cases answer with
    | none => exact keeps_failWithClose ht _ _
    | some token => exact keeps_dispatch_done (ht.send (hsettles (by simp)) rfl)

theorem leaves_clientEstablished (rt : Runtime) (callbacks : Callbacks) (now : ℤ)
    (frame : CulpeoMessage) (h : Final s trace) (hs : s.stateValue = .established)
    (henter : s.Echoing → ∀ ts, frame ≠ .ping ts) :
    Leaves instant (finality sends resumes) c s trace
      (clientEstablished rt callbacks now frame s) := by
  cases frame with
  | media headers body => exact leaves_handleMedia rt callbacks headers body h
  | ping ts =>
      have hsent : s.closeSent = false :=
        not_sent_of_not_echoing (fun hecho => henter hecho ts rfl) hs
      exact leaves_same rfl rfl (keeps_handlePing now ts h hsent)
  | pong ts serverTs => exact leaves_handlePong callbacks now ts serverTs h
  | authRefresh nonce => exact leaves_same rfl rfl (keeps_handleAuthRefresh callbacks nonce h)
  | close code reason => exact leaves_same rfl rfl (keeps_handleClose callbacks code reason h hs)
  | init headers body => exact leaves_failWithClose h _ _
  | initAck headers body => exact leaves_failWithClose h _ _
  | initError frame => exact leaves_failWithClose h _ _
  | authResponse authorization nonce => exact leaves_failWithClose h _ _
  | application event => exact leaves_handleApplication callbacks event h

theorem leaves_clientFrame (rt : Runtime) (callbacks : Callbacks) (now : ℤ)
    (frame : CulpeoMessage) (h : Final s trace)
    (henter : s.Echoing → ∀ ts, frame ≠ .ping ts) :
    Leaves instant (finality sends resumes) c s trace (clientFrame rt callbacks now frame s) := by
  unfold clientFrame
  split
  · exact leaves_fail h _
  · rename_i hs
    exact leaves_handleInitAck callbacks _ _ h hs
  · exact leaves_handleInitError callbacks _ h
  · exact leaves_failWithClose h _ _
  · exact leaves_failWithClose h _ _
  · rename_i hs
    exact leaves_clientEstablished rt callbacks now _ h hs henter

/-! ### The server -/

theorem keeps_sendInitErrorAndClose (callbacks : Callbacks) (frame : InitErrorFrame)
    (h : Final s trace) (hs : s.closeSent = false) :
    Upholds instant (finality sends resumes) c (sendInitErrorAndClose callbacks frame) s trace := by
  refine keeps_notify h callbacks _ fun later hlater => ?_
  refine keeps_dispatch (hlater.send hs rfl) fun _ t later' _ ht _ => ?_
  refine upholds_critical ⟨⟨fun _ => rfl, id⟩, ?_⟩
  exact ⟨ht.silent, ht.sent, fun _ => .inr rfl⟩

theorem leaves_acceptInit (options : ServerSessionOptions) (callbacks : Callbacks)
    (headers : InitHeaders) (body : InitBody) (sessionId : Text)
    (streams : List ConfirmedStreamDeclaration) (h : Final s trace)
    (hsent : s.closeSent = false) :
    Leaves instant (finality sends resumes) c s trace
      (acceptInit options callbacks headers body sessionId streams s) := by
  unfold acceptInit
  split
  · exact leaves_fail h _
  · rename_i registry _
    have hconfirmed : Final { s with
        registry
        sessionIdValue := some sessionId
        bufferWindowValue := grantBufferWindow options headers.bufferWindow
        versionValue := body.version } trace := h.same rfl rfl
    refine leaves_same rfl rfl (keeps_dispatch (hconfirmed.send hsent rfl) ?_)
    intro answer t later _ ht hsettles
    have hopen : t.stateValue ≠ .closed := hsettles (by simp)
    refine upholds_critical ⟨⟨fun hclosed => absurd hclosed hopen, id⟩, ?_⟩
    refine keeps_notify ?_ callbacks _ fun _ hlater => keeps_done hlater
    exact ⟨ht.silent, ht.sent, fun _ => .inl rfl⟩

theorem leaves_handleInit (options : ServerSessionOptions) (callbacks : Callbacks) (now : ℤ)
    (headers : InitHeaders) (body : InitBody) (h : Final s trace)
    (hs : s.stateValue = .uninitialized) :
    Leaves instant (finality sends resumes) c s trace
      (handleInit options callbacks now headers body s) := by
  have hsent : s.closeSent = false := h.not_sent (by rw [hs]; decide) (by rw [hs]; decide)
  -- Whatever else changes, the session is now initializing.
  have hbegun : ∀ t : Session, t.closeSent = s.closeSent → Final t trace ∧ Retains s t := by
    intro t ht
    refine ⟨⟨h.silent, fun o ho hclose => ht.trans (h.sent o ho hclose), fun hclose => ?_⟩,
      fun hclosed => ?_, fun hclose => ht.trans hclose⟩
    · rw [ht, hsent] at hclose
      cases hclose
    · rw [hs] at hclosed
      cases hclosed
  unfold handleInit
  split
  · obtain ⟨hfinal, hretains⟩ := hbegun { s with stateValue := .initializing } rfl
    exact ⟨hretains, keeps_sendInitErrorAndClose callbacks _ hfinal hsent⟩
  · dsimp only
    split
    · obtain ⟨hfinal, hretains⟩ := hbegun { s with
        stateValue := .initializing
        generated := if headers.sessionId.isSome then s.generated else s.generated + 1 } rfl
      exact ⟨hretains, keeps_sendInitErrorAndClose callbacks _ hfinal hsent⟩
    · refine Leaves.after ?_ (leaves_acceptInit options callbacks headers body _ _ ?_ hsent)
      · exact (hbegun _ (by rfl)).2
      · exact (hbegun _ (by rfl)).1

theorem leaves_handleIncomingPing (now ts : ℤ) (h : Final s trace)
    (hs : s.stateValue = .established)
    (henter : s.Echoing → ¬ ServerEntry.Resumes (.receive now (.ping ts)) s) :
    Leaves instant (finality sends resumes) c s trace (handleIncomingPing now ts s) := by
  unfold handleIncomingPing
  dsimp only
  split
  · refine leaves_same rfl rfl ?_
    exact h.same rfl rfl
  · rename_i hfew
    have hsent : s.closeSent = false :=
      not_sent_of_not_echoing (fun hecho => henter hecho (not_le.mp hfew)) hs
    refine leaves_same rfl rfl (keeps_handlePing now ts ?_ hsent)
    exact h.same rfl rfl

theorem leaves_handleAuthResponse (authorization nonce : Text) (h : Final s trace) :
    Leaves instant (finality sends resumes) c s trace
      (handleAuthResponse authorization nonce s) := by
  unfold handleAuthResponse
  split
  · refine leaves_same rfl rfl ?_
    exact h.same rfl rfl
  · exact leaves_failWithClose h _ _

theorem keeps_checkTimeouts (options : ServerSessionOptions) (now : ℤ) (h : Final s trace)
    {next : Rest} (hnext : Upholds instant (finality sends resumes) c next s trace) :
    Upholds instant (finality sends resumes) c (checkTimeouts options now next) s trace := by
  apply upholds_critical
  split
  · split
    · exact leaves_failWithClose h _ _
    · exact leaves_same rfl rfl hnext
  · exact leaves_same rfl rfl hnext

theorem keeps_requestAuthRefresh (options : ServerSessionOptions) (now : ℤ) (h : Final s trace)
    (henter : ¬ s.Echoing) :
    Upholds instant (finality sends resumes) c (requestAuthRefresh options now) s trace := by
  apply upholds_critical
  split
  · exact leaves_fail h _
  · rename_i hestablished
    have hsent := not_sent_of_not_echoing henter (not_not.mp hestablished)
    have hissued : Final { s with
        generated := s.generated + 1
        pendingAuthNonce := some (options.generateId s.generated)
        authChallengeIssuedAt := some now } trace := h.same rfl rfl
    exact leaves_same rfl rfl (keeps_dispatch_done (hissued.send hsent rfl))

theorem leaves_serverEstablished (rt : Runtime) (callbacks : Callbacks) (now : ℤ)
    (frame : CulpeoMessage) (h : Final s trace) (hs : s.stateValue = .established)
    (henter : s.Echoing → ¬ ServerEntry.Resumes (.receive now frame) s) :
    Leaves instant (finality sends resumes) c s trace
      (serverEstablished rt callbacks now frame s) := by
  cases frame with
  | media headers body => exact leaves_handleMedia rt callbacks headers body h
  | ping ts => exact leaves_handleIncomingPing now ts h hs henter
  | pong ts serverTs => exact leaves_handlePong callbacks now ts serverTs h
  | authResponse authorization nonce => exact leaves_handleAuthResponse authorization nonce h
  | close code reason => exact leaves_same rfl rfl (keeps_handleClose callbacks code reason h hs)
  | init headers body => exact leaves_failWithClose h _ _
  | initAck headers body => exact leaves_failWithClose h _ _
  | initError frame => exact leaves_failWithClose h _ _
  | authRefresh nonce => exact leaves_failWithClose h _ _
  | application event => exact leaves_handleApplication callbacks event h

theorem leaves_serverFrame (rt : Runtime) (options : ServerSessionOptions)
    (callbacks : Callbacks) (now : ℤ) (frame : CulpeoMessage) (h : Final s trace)
    (henter : s.Echoing → ¬ ServerEntry.Resumes (.receive now frame) s) :
    Leaves instant (finality sends resumes) c s trace
      (serverFrame rt options callbacks now frame s) := by
  unfold serverFrame
  split
  · exact leaves_fail h _
  · rename_i hs
    exact leaves_handleInit options callbacks now _ _ h hs
  · exact leaves_failWithClose h _ _
  · exact leaves_failWithClose h _ _
  · rename_i hs
    exact leaves_serverEstablished rt callbacks now _ h hs henter

end Methods

/-! ### Calls and runs -/

/-- **Calls of a client.** -/
theorem client_upholds (o : LinkOptions) (entry : ClientEntry) (s : Session)
    (trace : List Output) (h : Final s trace)
    (henter : (clientFinality o.runtime).enters entry s) :
    Upholds instant (clientFinality o.runtime) entry (entry.program o) s trace := by
  cases entry with
  | receive now frame =>
      refine upholds_critical (leaves_clientFrame o.runtime o.client now frame h ?_)
      rintro hecho ts rfl
      exact henter hecho trivial
  | call call =>
      cases call with
      | start options => exact keeps_start options h
      | sendMedia streamId body timestamp =>
          exact keeps_sendMedia o.runtime streamId body timestamp h henter
      | sendEvent event body streamId => exact keeps_sendEvent event body streamId h henter
      | sendPing now => exact keeps_sendPing now h fun hecho => henter hecho trivial
      | close code reason => exact keeps_close h code reason fun _ _ ht => ht

/-- **Calls of a server.** -/
theorem server_upholds (o : LinkOptions) (entry : ServerEntry) (s : Session)
    (trace : List Output) (h : Final s trace)
    (henter : (serverFinality o.runtime).enters entry s) :
    Upholds instant (serverFinality o.runtime) entry (entry.program o) s trace := by
  cases entry with
  | receive now frame =>
      refine keeps_checkTimeouts o.options now h ?_
      refine upholds_awaits rfl (h.quiet rfl rfl) fun _ t later _ ht hsettles => ?_
      exact upholds_critical (leaves_serverFrame o.runtime o.options o.server now frame ht hsettles)
  | call call =>
      cases call with
      | sendMedia streamId body timestamp =>
          exact keeps_sendMedia o.runtime streamId body timestamp h henter
      | sendEvent event body streamId => exact keeps_sendEvent event body streamId h henter
      | sendPing now => exact keeps_sendPing now h fun hecho => henter hecho trivial
      | close code reason => exact keeps_close h code reason fun _ _ ht => ht
      | requestAuthRefresh now =>
          exact keeps_requestAuthRefresh o.options now h fun hecho => henter hecho trivial
      | checkTimeouts now => exact keeps_checkTimeouts o.options now h h

/-- In this run, a closed session stays closed and no frame follows a close. -/
structure ClosesForGood {C : Type} (program : C → Rest) (s : Session)
    (moves : List (SessionMove C)) : Prop where
  silent : Silent (run instant program { state := s } moves).trace
  stays : ∀ before after, moves = before ++ after →
    (run instant program { state := s } before).state.stateValue = .closed →
      (run instant program { state := s } moves).state.stateValue = .closed

theorem closesForGood {C : Type} {sends resumes : C → Session → Prop} {program : C → Rest}
    (hprogram : ∀ c s trace, Final s trace → (finality sends resumes).enters c s →
      Upholds instant (finality sends resumes) c (program c) s trace)
    {s : Session} (hs : Final s []) {moves : List (SessionMove C)}
    (hmoves : Along instant program (finality sends resumes).Admits { state := s } moves) :
    ClosesForGood program s moves := by
  have hkept : Kept instant (finality sends resumes)
      ({ state := s } : SessionLoop C) := ⟨hs, fun w hw => absurd hw List.not_mem_nil⟩
  refine ⟨(run_kept hprogram moves hkept hmoves).1.inv.silent,
    fun before after hsplit hclosed => ?_⟩
  rw [hsplit, along_append] at hmoves
  obtain ⟨hkept', _⟩ := run_kept hprogram before hkept hmoves.1
  rw [hsplit, run_append]
  exact (run_kept hprogram after hkept' hmoves.2).2.closed hclosed

/-- A session that has sent nothing. -/
theorem final_fresh {s : Session} (hs : s.closeSent = false) : Final s [] := by
  refine ⟨List.Pairwise.nil, fun o ho => absurd ho List.not_mem_nil, fun hclose => ?_⟩
  rw [hs] at hclose
  cases hclose

theorem createClient_closeSent {streams : List ResumeStreamDeclaration} {version : Text}
    {client : Session} (h : Session.createClient streams version = .ok client) :
    client.closeSent = false := by
  unfold Session.createClient at h
  cases hvalid : validateStreamDeclarations
      (streams.map ResumeStreamDeclaration.toStreamDeclaration) maxStreamCount with
  | error e =>
      rw [hvalid] at h
      cases h
  | ok _ =>
      rw [hvalid] at h
      cases h
      rfl

/-- **Closing for good.**  In every run whose moves the policy admits. -/
theorem sessions_close_for_good (o : LinkOptions) :
    (∀ streams version client, Session.createClient streams version = .ok client →
      ∀ moves, Along instant (ClientEntry.program o) (clientFinality o.runtime).Admits
          { state := client } moves →
        ClosesForGood (ClientEntry.program o) client moves) ∧
    ∀ moves, Along instant (ServerEntry.program o) (serverFinality o.runtime).Admits
        { state := .createServer } moves →
      ClosesForGood (ServerEntry.program o) .createServer moves := by
  refine ⟨fun streams version client hclient moves hmoves => ?_, fun moves hmoves => ?_⟩
  · exact closesForGood (client_upholds o) (final_fresh (createClient_closeSent hclient)) hmoves
  · exact closesForGood (server_upholds o) (final_fresh rfl) hmoves

/-! ### Examples -/

def startUpload : StartOptions where
  authorization := utf16 "Bearer t"
  bufferWindowMs := 1000

/-- An upload is agreed on, and the server closes. -/
def closedClient : List (SessionMove ClientEntry) :=
  [.enter (.call (.start startUpload)), .settle 0 (some []),
    .enter (.receive 0 (.initAck { sessionId := utf16 "a" }
      { version := utf16 "0.3"
        streams := [{ contentType := utf16 "text/plain", type := .input, offsetType := .message
                      id := utf16 "aa" }] })),
    .enter (.receive 1 (.close .normal []))]

/-- The server takes up the init of the client; its init-ack is on the way. -/
def greetedServer : List (SessionMove ServerEntry) :=
  [.enter (.receive 0 (.init { authorization := utf16 "Bearer t" }
      { version := utf16 "0.3", streams := uploads })),
    .settle 0 (some [])]

theorem sessions_close_for_good_example :
    ClosesForGood (ClientEntry.program uploadLink) uploadingClient
        (closedClient ++ [.settle 0 (some []), .enter (.call (.sendPing 2))]) ∧
      ClosesForGood (ServerEntry.program uploadLink) .createServer
        (greetedServer ++ [.settle 0 (some []), .enter (.call (.close .normal [])),
          .settle 0 (some [])]) := by
  obtain ⟨hclient, hserver⟩ := sessions_close_for_good uploadLink
  constructor
  · refine hclient uploads (utf16 "0.3") uploadingClient rfl _ ⟨?_, ?_, ?_, ?_, ?_, ?_, trivial⟩
    · exact fun _ => id
    · intro w hw
      obtain rfl := Option.some.inj hw
      trivial
    · exact fun _ => id
    · exact fun _ => id
    · intro w hw
      obtain rfl := Option.some.inj hw
      trivial
    · rintro ⟨_, hstate⟩
      cases hstate
  · refine hserver _ ⟨?_, ?_, ?_, ?_, ?_, trivial⟩
    · exact fun _ => id
    · intro w hw
      obtain rfl := Option.some.inj hw
      exact fun _ => id
    · intro w hw
      obtain rfl := Option.some.inj hw
      exact fun _ => by decide
    · exact fun _ => id
    · intro w hw
      obtain rfl := Option.some.inj hw
      trivial

/-- A client pings behind the close that it echoes, and a server that was closed while its
init-ack was on the way is established. -/
theorem sessions_do_not_close_for_good :
    ¬ ClosesForGood (ClientEntry.program uploadLink) uploadingClient
        (closedClient ++ [.enter (.call (.sendPing 2))]) ∧
      ¬ ClosesForGood (ServerEntry.program uploadLink) .createServer
        (greetedServer ++ [.enter (.call (.close .normal [])), .settle 0 (some [])]) := by
  constructor
  · intro h
    exact absurd h.silent (by decide)
  · intro h
    have hclosed := h.stays (greetedServer ++ [.enter (.call (.close .normal []))])
      [.settle 0 (some [])] (by simp) (by decide)
    exact absurd hclosed (by decide)

end CulpeoStream.Typescript
