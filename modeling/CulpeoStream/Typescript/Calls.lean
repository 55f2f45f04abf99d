import CulpeoStream.Lib.Checks
import CulpeoStream.Lib.Turns
import CulpeoStream.Typescript.Session

/-!
# What every call leaves alone

The remaining public methods of the two sessions, and the contract `routine` that all of
them keep, at whatever point other calls cut in: outside the handshake a session keeps its
id and its streams, never becomes uninitialized again, and sends neither an init nor an
init-ack.  The invariant of the contract is about positions: a session expects no frame
before the last one that it received (`Noted`).
-/

namespace CulpeoStream.Typescript

open Checks Message Utf16 Resumption

/-! ### The remaining methods -/

def notEstablished : CulpeoError := protocolError (utf16 "The session is not established.")

/-- An application event.  The peer would take one with a reserved name (`culpeo.close`) for the
control frame of that name; this is left out. -/
def sendEvent (event : Text) (body : Text) (streamId : Option Text) : Rest :=
  .critical fun s =>
    if s.stateValue ≠ .established then (s, fail notEstablished)
    else if streamId.any fun streamId => !s.registry.has streamId then
      (s, fail (protocolError (utf16 "Unknown stream identifier.")))
    else (s, dispatch (.application { event, streamId, body }) done)

def sendPing (now : ℤ) : Rest :=
  .critical fun s =>
    if s.stateValue ≠ .established then (s, fail notEstablished)
    else
      ({ s with
          pendingPings := (now, now) :: s.pendingPings.filter fun entry => entry.1 ≠ now },
        dispatch (.ping now) done)

/-- The nonce of the frame is also the result of the call. -/
def requestAuthRefresh (options : ServerSessionOptions) (now : ℤ) : Rest :=
  .critical fun s =>
    if s.stateValue ≠ .established then (s, fail notEstablished)
    else
      ({ s with
          generated := s.generated + 1
          pendingAuthNonce := some (options.generateId s.generated)
          authChallengeIssuedAt := some now },
        dispatch (.authRefresh (options.generateId s.generated)) done)

/-! ### Positions -/

/-- No stream expects a frame before the last one that was received on it. -/
def OffsetTracker.Noted (tracker : OffsetTracker) : Prop :=
  ∀ id state, tracker.states id = some state →
    state.lastReceivedOffset.getD 0 ≤ state.expectedReceiveOffset

theorem noted_empty : OffsetTracker.Noted {} := by
  intro id state h
  cases h

theorem OffsetTracker.Noted.set {tracker : OffsetTracker} (h : tracker.Noted) {streamId : Text}
    {state : OffsetState}
    (hstate : state.lastReceivedOffset.getD 0 ≤ state.expectedReceiveOffset) :
    (tracker.set streamId state).Noted := by
  intro id state' hfound
  rw [OffsetTracker.states_set] at hfound
  split at hfound
  · cases hfound
    exact hstate
  · exact h id state' hfound

theorem mustGet_ok {tracker : OffsetTracker} {streamId : Text} {state : OffsetState}
    (h : tracker.mustGet streamId = .ok state) : tracker.states streamId = some state := by
  unfold OffsetTracker.mustGet at h
  split at h
  · cases h
    assumption
  · cases h

theorem OffsetTracker.Noted.allocate {tracker : OffsetTracker} (h : tracker.Noted) (rt : Runtime)
    (streamId : Text) (offsetType : OffsetType) (payloadLength : ℕ) (contentType : Text) :
    (tracker.allocate rt streamId offsetType payloadLength contentType).1.Noted := by
  unfold OffsetTracker.allocate
  split
  · exact h
  · rename_i state hstate
    have hnoted := h streamId state (mustGet_ok hstate)
    dsimp only
    split
    · exact h.set hnoted
    · exact h.set hnoted

theorem OffsetTracker.Noted.recordReceived {tracker tracker' : OffsetTracker} (h : tracker.Noted)
    {streamId : Text} {offset : ℤ} {increment : ℕ}
    (hreceived : tracker.recordReceived streamId offset increment = .ok tracker') :
    tracker'.Noted := by
  unfold OffsetTracker.recordReceived at hreceived
  split at hreceived
  · cases hreceived
  · split at hreceived
    · cases hreceived
    · rename_i state hstate hexpected
      cases hreceived
      refine h.set ?_
      show offset ≤ state.expectedReceiveOffset + increment
      omega

/-- A stream that is not registered stays so. -/
theorem unregistered_set {tracker : OffsetTracker} {streamId : Text} {state new : OffsetState}
    (hstate : tracker.mustGet streamId = .ok state) {id : Text} (h : tracker.states id = none) :
    (tracker.set streamId new).states id = none := by
  rw [OffsetTracker.states_set, if_neg]
  · exact h
  · rintro rfl
    rw [mustGet_ok hstate] at h
    cases h

theorem unregistered_allocate {tracker : OffsetTracker} (rt : Runtime) (streamId : Text)
    (offsetType : OffsetType) (payloadLength : ℕ) (contentType : Text) {id : Text}
    (h : tracker.states id = none) :
    (tracker.allocate rt streamId offsetType payloadLength contentType).1.states id = none := by
  unfold OffsetTracker.allocate
  split
  · exact h
  · rename_i hstate
    dsimp only
    split
    · exact unregistered_set hstate h
    · exact unregistered_set hstate h

theorem unregistered_recordReceived {tracker tracker' : OffsetTracker} {streamId : Text}
    {offset : ℤ} {increment : ℕ}
    (hreceived : tracker.recordReceived streamId offset increment = .ok tracker') {id : Text}
    (h : tracker.states id = none) : tracker'.states id = none := by
  unfold OffsetTracker.recordReceived at hreceived
  split at hreceived
  · cases hreceived
  · rename_i hstate
    split at hreceived
    · cases hreceived
    · cases hreceived
      exact unregistered_set hstate h

/-- Registering a confirmed stream; its first position is one it is seeded with. -/
theorem OffsetTracker.Noted.registerStream {tracker tracker' : OffsetTracker} (h : tracker.Noted)
    {stream : ConfirmedStreamDeclaration}
    (hregister : StreamRegistry.registerStream tracker stream = .ok tracker') :
    tracker'.Noted := by
  unfold StreamRegistry.registerStream at hregister
  cases hoffset : stream.resumeOffset with
  | none =>
      rw [hoffset] at hregister
      cases hregister
      unfold OffsetTracker.register
      split
      · exact h
      · exact h.set (le_refl 0)
  | some offset =>
      rw [hoffset] at hregister
      dsimp only [Option.getD_some] at hregister
      unfold OffsetTracker.seedResumeOffset at hregister
      split at hregister
      · cases hregister
      · cases hregister
        -- The state that is seeded may be new; the seed decides its position.
        intro id state hfound
        rw [OffsetTracker.states_set] at hfound
        split at hfound
        · cases hfound
          exact le_refl offset
        · rename_i hne
          unfold OffsetTracker.register at hfound
          split at hfound
          · exact h id state hfound
          · rw [OffsetTracker.states_set, if_neg hne] at hfound
            exact h id state hfound

theorem noted_registerStreams :
    ∀ {streams : List ConfirmedStreamDeclaration} {tracker tracker' : OffsetTracker},
      tracker.Noted → streams.foldlM StreamRegistry.registerStream tracker = .ok tracker' →
      tracker'.Noted := by
  intro streams
  induction streams with
  | nil =>
      intro tracker tracker' h hfold
      cases hfold
      exact h
  | cons stream rest ih =>
      intro tracker tracker' h hfold
      rw [List.foldlM_cons] at hfold
      obtain ⟨next, hnext, hfold⟩ := exists_of_bind_ok hfold
      exact ih (h.registerStream hnext) hfold

/-- **What a registry is after it has confirmed streams.** -/
theorem confirm_ok {registry registry' : StreamRegistry}
    {streams : List ConfirmedStreamDeclaration} (h : registry.confirm streams = .ok registry') :
    registry'.plannedStreams = registry.plannedStreams ∧ registry'.confirmedOrder = streams ∧
      (registry.offsets.Noted → registry'.offsets.Noted) := by
  unfold StreamRegistry.confirm at h
  obtain ⟨_, -, h⟩ := exists_of_bind_ok h
  obtain ⟨offsets, hoffsets, h⟩ := exists_of_bind_ok h
  cases h
  exact ⟨rfl, rfl, fun hnoted => noted_registerStreams hnoted hoffsets⟩

/-- What media leaves alone in a registry. -/
structure Tracks (registry registry' : StreamRegistry) : Prop where
  planned : registry'.plannedStreams = registry.plannedStreams
  order : registry'.confirmedOrder = registry.confirmedOrder
  noted : registry.offsets.Noted → registry'.offsets.Noted
  unregistered : ∀ id, registry.offsets.states id = none → registry'.offsets.states id = none

theorem Tracks.refl (registry : StreamRegistry) : Tracks registry registry :=
  ⟨rfl, rfl, id, fun _ => id⟩

theorem tracks_trackSend (rt : Runtime) (registry : StreamRegistry) (streamId : Text)
    (payloadLength : ℕ) :
    Tracks registry (registry.trackSend rt streamId payloadLength).1 := by
  unfold StreamRegistry.trackSend
  split
  · exact .refl registry
  · split
    · exact .refl registry
    · exact ⟨rfl, rfl, fun h => h.allocate rt _ _ _ _, fun _ => unregistered_allocate rt _ _ _ _⟩

theorem tracks_trackReceive {rt : Runtime} {registry registry' : StreamRegistry} {streamId : Text}
    {offset : ℤ} {contentType : Text} {payloadLength : ℕ}
    (h : registry.trackReceive rt streamId offset contentType payloadLength = .ok registry') :
    Tracks registry registry' := by
  unfold StreamRegistry.trackReceive at h
  obtain ⟨stream, -, h⟩ := exists_of_bind_ok h
  dsimp only at h
  split at h
  · obtain ⟨_, hthrow, -⟩ := exists_of_bind_ok h
    cases hthrow
  · split at h
    · obtain ⟨_, hthrow, -⟩ := exists_of_bind_ok h
      cases hthrow
    · obtain ⟨increment, -, h⟩ := exists_of_bind_ok h
      obtain ⟨offsets, hoffsets, h⟩ := exists_of_bind_ok h
      cases h
      exact ⟨rfl, rfl, fun hnoted => hnoted.recordReceived hoffsets,
        fun _ => unregistered_recordReceived hoffsets⟩

/-! ### The contract -/

/-- What stays of a session. -/
structure Stays (s s' : Session) : Prop where
  planned : s'.registry.plannedStreams = s.registry.plannedStreams
  order : s'.registry.confirmedOrder = s.registry.confirmedOrder
  sessionId : s'.sessionIdValue = s.sessionIdValue
  begun : s'.stateValue = .uninitialized → s.stateValue = .uninitialized
  unregistered : ∀ id, s.registry.offsets.states id = none →
    s'.registry.offsets.states id = none

theorem Stays.refl (s : Session) : Stays s s := ⟨rfl, rfl, rfl, id, fun _ => id⟩

theorem Stays.trans {s t r : Session} (h : Stays s t) (h' : Stays t r) : Stays s r :=
  ⟨h'.planned.trans h.planned, h'.order.trans h.order, h'.sessionId.trans h.sessionId,
    fun hstate => h.begun (h'.begun hstate),
    fun id hid => h'.unregistered id (h.unregistered id hid)⟩

/-- A change of the registry by media alone. -/
theorem Tracks.stays {s : Session} {registry : StreamRegistry} (h : Tracks s.registry registry) :
    Stays s { s with registry } :=
  ⟨h.planned, h.order, rfl, id, h.unregistered⟩

/-- An action that is no part of a handshake. -/
def Plain : Output → Prop
  | .send (.init _ _) => False
  | .send (.initAck _ _) => False
  | _ => True

/-- The contract of every call outside the handshake. -/
def routine : Contract Session Output (Option Text) where
  inv s := s.registry.offsets.Noted
  rel := Stays
  out := Plain
  ans _ _ := True

theorem meets_done : done.Meets routine := trivial

theorem meets_fail (e : CulpeoError) : (fail e).Meets routine := trivial

theorem meets_dispatch {frame : CulpeoMessage} (hframe : Plain (.send frame)) {next : Rest}
    (h : next.Meets routine) : (dispatch frame next).Meets routine := by
  refine ⟨hframe, fun answer _ => ?_⟩
  cases answer with
  | none => trivial
  | some _ => exact h

theorem meets_notify (callbacks : Callbacks) (notification : Notification) {next : Rest}
    (h : next.Meets routine) : (notify callbacks notification next).Meets routine := by
  unfold notify
  split
  · exact ⟨trivial, fun _ _ => h⟩
  · exact h

/-- A session that goes on as it is. -/
theorem holds_same {s : Session} (hs : s.registry.offsets.Noted) {next : Rest}
    (h : next.Meets routine) : routine.Holds s (s, next) :=
  ⟨hs, .refl s, h⟩

theorem meets_close (code : Code) (reason : Text) {next : Rest} (h : next.Meets routine) :
    (close code reason next).Meets routine := by
  refine Prog.meets_critical fun s hs => ?_
  split
  · exact holds_same hs h
  · split
    · exact ⟨hs, ⟨rfl, rfl, rfl, nofun, fun _ => id⟩, h⟩
    · exact ⟨hs, ⟨rfl, rfl, rfl, nofun, fun _ => id⟩, meets_dispatch (by trivial) h⟩

theorem meets_failWithClose (code : Code) (reason : Text) :
    (failWithClose code reason).Meets routine :=
  meets_close code reason (meets_fail _)

theorem meets_sendMedia (rt : Runtime) (streamId : Text) (body : Bytes) (timestamp : Option ℤ) :
    (sendMedia rt streamId body timestamp).Meets routine := by
  refine Prog.meets_critical fun s hs => ?_
  split
  · exact holds_same hs (meets_fail _)
  · have htracks := tracks_trackSend rt s.registry streamId body.length
    refine ⟨htracks.noted hs, htracks.stays, ?_⟩
    dsimp only
    split
    · exact meets_fail _
    · exact meets_dispatch (by trivial) meets_done

theorem meets_sendEvent (event body : Text) (streamId : Option Text) :
    (sendEvent event body streamId).Meets routine := by
  refine Prog.meets_critical fun s hs => ?_
  split
  · exact holds_same hs (meets_fail _)
  · split
    · exact holds_same hs (meets_fail _)
    · exact holds_same hs (meets_dispatch (by trivial) meets_done)

theorem meets_sendPing (now : ℤ) : (sendPing now).Meets routine := by
  refine Prog.meets_critical fun s hs => ?_
  split
  · exact holds_same hs (meets_fail _)
  · exact ⟨hs, ⟨rfl, rfl, rfl, id, fun _ => id⟩, meets_dispatch (by trivial) meets_done⟩

theorem meets_requestAuthRefresh (options : ServerSessionOptions) (now : ℤ) :
    (requestAuthRefresh options now).Meets routine := by
  refine Prog.meets_critical fun s hs => ?_
  split
  · exact holds_same hs (meets_fail _)
  · exact ⟨hs, ⟨rfl, rfl, rfl, id, fun _ => id⟩, meets_dispatch (by trivial) meets_done⟩

theorem meets_checkTimeouts (options : ServerSessionOptions) (now : ℤ) {next : Rest}
    (h : next.Meets routine) : (checkTimeouts options now next).Meets routine := by
  refine Prog.meets_critical fun s hs => ?_
  split
  · split
    · exact holds_same hs (meets_failWithClose _ _)
    · exact holds_same hs h
  · exact holds_same hs h

theorem meets_handleClose (callbacks : Callbacks) (code : Code) (reason : Text) :
    (handleClose callbacks code reason).Meets routine := by
  refine meets_notify callbacks _ (Prog.meets_critical fun s hs => ?_)
  split
  · exact ⟨hs, ⟨rfl, rfl, rfl, nofun, fun _ => id⟩, meets_done⟩
  · refine ⟨hs, ⟨rfl, rfl, rfl, id, fun _ => id⟩,
      meets_dispatch (by trivial) (Prog.meets_critical fun s hs => ?_)⟩
    exact ⟨hs, ⟨rfl, rfl, rfl, nofun, fun _ => id⟩, meets_done⟩

theorem meets_handleAuthRefresh (callbacks : Callbacks) (nonce : Text) :
    (handleAuthRefresh callbacks nonce).Meets routine := by
  unfold handleAuthRefresh
  split
  · exact meets_failWithClose _ _
  · refine ⟨trivial, fun answer _ => ?_⟩
    cases answer with
    | none => exact meets_failWithClose _ _
    | some token => exact meets_dispatch (by trivial) meets_done

theorem meets_sendInitErrorAndClose (callbacks : Callbacks) (frame : InitErrorFrame) :
    (sendInitErrorAndClose callbacks frame).Meets routine := by
  refine meets_notify callbacks _ (meets_dispatch (by trivial) (Prog.meets_critical fun s hs => ?_))
  exact ⟨hs, ⟨rfl, rfl, rfl, nofun, fun _ => id⟩, meets_done⟩

section Frames

variable {s : Session} (hs : s.registry.offsets.Noted)

include hs

theorem holds_handleMedia (rt : Runtime) (callbacks : Callbacks) (headers : MediaHeaders)
    (body : Bytes) : routine.Holds s (handleMedia rt callbacks headers body s) := by
  unfold handleMedia
  split
  · exact holds_same hs (meets_fail _)
  · rename_i registry hreceive
    have htracks := tracks_trackReceive hreceive
    exact ⟨htracks.noted hs, htracks.stays, meets_notify callbacks _ meets_done⟩

theorem holds_handlePong (callbacks : Callbacks) (now ts serverTs : ℤ) :
    routine.Holds s (handlePong callbacks now ts serverTs s) := by
  unfold handlePong
  split
  · exact holds_same hs meets_done
  · refine ⟨hs, ⟨rfl, rfl, rfl, id, fun _ => id⟩, ?_⟩
    dsimp only
    split
    · exact ⟨trivial, fun _ _ => meets_done⟩
    · exact meets_done

theorem holds_handleApplication (callbacks : Callbacks) (event : ApplicationEvent) :
    routine.Holds s (handleApplication callbacks event s) := by
  unfold handleApplication
  split
  · exact holds_same hs (meets_fail _)
  · split
    · exact holds_same hs meets_done
    · exact holds_same hs (meets_notify callbacks _ meets_done)

theorem holds_handleIncomingPing (now ts : ℤ) :
    routine.Holds s (handleIncomingPing now ts s) := by
  unfold handleIncomingPing
  dsimp only
  split
  · exact ⟨hs, ⟨rfl, rfl, rfl, id, fun _ => id⟩, meets_done⟩
  · exact ⟨hs, ⟨rfl, rfl, rfl, id, fun _ => id⟩, meets_dispatch (by trivial) meets_done⟩

theorem holds_handleAuthResponse (authorization nonce : Text) :
    routine.Holds s (handleAuthResponse authorization nonce s) := by
  unfold handleAuthResponse
  split
  · exact ⟨hs, ⟨rfl, rfl, rfl, id, fun _ => id⟩, meets_done⟩
  · exact holds_same hs (meets_failWithClose _ _)

theorem holds_handleInitError (callbacks : Callbacks) (frame : InitErrorFrame) :
    routine.Holds s (handleInitError callbacks frame s) :=
  ⟨hs, ⟨rfl, rfl, rfl, nofun, fun _ => id⟩, meets_notify callbacks _ meets_done⟩

/-- A frame at a client, unless it establishes the session. -/
theorem holds_clientFrame (rt : Runtime) (callbacks : Callbacks) (now : ℤ)
    {frame : CulpeoMessage}
    (hframe : s.stateValue = .initializing → ∀ headers body registry,
      frame = .initAck headers body → s.registry.confirmFromAck body.streams ≠ .ok registry) :
    routine.Holds s (clientFrame rt callbacks now frame s) := by
  unfold clientFrame
  split
  · exact holds_same hs (meets_fail _)
  · rename_i headers body hstate
    unfold handleInitAck
    split
    · exact holds_same hs (meets_fail _)
    · rename_i registry hconfirm
      exact absurd hconfirm (hframe hstate headers body registry rfl)
  · exact holds_handleInitError hs callbacks _
  · exact holds_same hs (meets_failWithClose _ _)
  · exact holds_same hs (meets_failWithClose _ _)
  · unfold clientEstablished
    split
    · exact holds_handleMedia hs rt callbacks _ _
    · exact holds_same hs (meets_dispatch (by trivial) meets_done)
    · exact holds_handlePong hs callbacks now _ _
    · exact holds_same hs (meets_handleAuthRefresh callbacks _)
    · exact holds_same hs (meets_handleClose callbacks _ _)
    · exact holds_same hs (meets_failWithClose _ _)
    · exact holds_same hs (meets_failWithClose _ _)
    · exact holds_same hs (meets_failWithClose _ _)
    · exact holds_same hs (meets_failWithClose _ _)
    · exact holds_handleApplication hs callbacks _

/-- A frame at a server, unless it is an init that is taken up. -/
theorem holds_serverFrame (rt : Runtime) (options : ServerSessionOptions) (callbacks : Callbacks)
    (now : ℤ) {frame : CulpeoMessage}
    (hframe : s.stateValue = .uninitialized → ∀ headers body, frame ≠ .init headers body) :
    routine.Holds s (serverFrame rt options callbacks now frame s) := by
  unfold serverFrame
  split
  · exact holds_same hs (meets_fail _)
  · rename_i hstate
    exact absurd rfl (hframe hstate _ _)
  · exact holds_same hs (meets_failWithClose _ _)
  · exact holds_same hs (meets_failWithClose _ _)
  · unfold serverEstablished
    split
    · exact holds_handleMedia hs rt callbacks _ _
    · exact holds_handleIncomingPing hs now _
    · exact holds_handlePong hs callbacks now _ _
    · exact holds_handleAuthResponse hs _ _
    · exact holds_same hs (meets_handleClose callbacks _ _)
    · exact holds_same hs (meets_failWithClose _ _)
    · exact holds_same hs (meets_failWithClose _ _)
    · exact holds_same hs (meets_failWithClose _ _)
    · exact holds_same hs (meets_failWithClose _ _)
    · exact holds_handleApplication hs callbacks _

end Frames

end CulpeoStream.Typescript
