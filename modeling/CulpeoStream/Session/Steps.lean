import CulpeoStream.Lib.Checks
import CulpeoStream.Session.Calls

/-!
# What a call can do in its first critical section

`Enters` lists the outcomes of `enter` once and for all: the guard under which each
of them arises, the new state, and the rest of the call, which is always one of the
endings of `Session.Impl` or waits for a callback.  `enter_cases` says that the list
is complete; everything proved later about the session goes through it, and no
later proof unfolds a handler.

`completeInit_cases` does the same for the critical section that ends a handshake.
-/

namespace CulpeoStream.Session

open Message Resumption Checks

/-! ### Control frames by their event -/

/-- The `Event` slot of the frame, when the call is `process_control_frame` on a
control frame. -/
def Call.controlEvent : Call → Option (Option Bytes)
  | .processControlFrame f => if f.frameType = .control then some f.event else none
  | _ => none

/-- The call delivers `culpeo.init`. -/
def Call.DeliversInit (call : Call) : Prop :=
  call.controlEvent = some (some (ascii "culpeo.init"))

/-- The call delivers a control frame without an `Event` header. -/
def Call.LacksEvent (call : Call) : Prop :=
  call.controlEvent = some none

/-- The call delivers a control frame whose event name is malformed. -/
def Call.Misnames (call : Call) : Prop :=
  ∃ event, call.controlEvent = some (some event) ∧ isValidEventName event = false

theorem Call.DeliversInit.exists_frame {call : Call} (h : call.DeliversInit) :
    ∃ f, call = .processControlFrame f ∧ f.event = some (ascii "culpeo.init") := by
  cases call with
  | processControlFrame f =>
      rw [DeliversInit, controlEvent] at h
      split at h
      · exact ⟨f, rfl, Option.some.inj h⟩
      · cases h
  | _ => cases h

instance (call : Call) : Decidable call.DeliversInit :=
  inferInstanceAs (Decidable (_ = _))

instance (call : Call) : Decidable call.LacksEvent :=
  inferInstanceAs (Decidable (_ = _))

/-! ### Frames of the session -/

/-- The state as seen by a call that does not touch the life of the session. -/
structure Impl.Agrees (s s' : Impl) : Prop where
  state : s'.state = s.state
  sessionIdStr : s'.sessionIdStr = s.sessionIdStr
  registry : s'.registry = s.registry
  isResumedSession : s'.isResumedSession = s.isResumedSession

theorem Impl.Agrees.refl (s : Impl) : s.Agrees s := ⟨rfl, rfl, rfl, rfl⟩

/-- A handshake is refused in its first critical section: nothing has happened yet,
or a frame came that no handshake allows. -/
def Refusable (call : Call) (s : Impl) : Prop :=
  s.state = .uninitialized ∨ (call.LacksEvent ∧ s.state = .initializing) ∨
    (call.DeliversInit ∧ s.state ≠ .uninitialized)

/-- The events of the frames with which a call may simply answer. -/
def plainEvents : List Bytes :=
  [ascii "culpeo.pong", ascii "culpeo.ping", ascii "culpeo.auth-refresh"]

/-- The rest of a handshake that waits for the authentication callback. -/
def awaitAuthValidate (setup : Setup) (amb : Ambient) (f : ParsedHeadersView) (bodyJson : Json)
    (version : Bytes) : Rest :=
  .call (.onAuthValidate (bearerToken f.authorization)) fun authOk =>
    .critical (afterAuthValidate setup amb f bodyJson version authOk)

/-- The rest of an auth-response that waits for the verdict on the new token. -/
def awaitAuthResponse (f : ParsedHeadersView) : Rest :=
  .call (.onAuthResponse (bearerToken f.authorization)) fun tokenOk =>
    if tokenOk then .ret (.ok ()) else .critical afterAuthRejected

/-- The rest of a media frame that has been accepted. -/
def deliver (setup : Setup) (stream : StreamInfo) (timestampUs : UInt64) (body : Bytes) : Rest :=
  if setup.callbacks.onMediaReceived then
    .call (.onMediaReceived stream timestampUs body) fun _ => .ret (.ok ())
  else .ret (.ok ())

/-- **What entering a call can do.** -/
inductive Enters (setup : Setup) (inv : Invocation) (s : Impl) : Impl × Rest → Prop where
  /-- The call returns at once; a media frame is not accepted this way. -/
  | returns {s' : Impl} {result : Result} (hagree : s.Agrees s')
      (hmedia : result = .ok () → ∀ f, inv.call ≠ .processMediaFrame f) :
      Enters setup inv s (s', .ret result)
  | replies {s' : Impl} {event : Bytes} {headers : List HeaderField} {body : Bytes}
      (hstate : s.state = .established) (hagree : s.Agrees s') (hevent : event ∈ plainEvents)
      (hmedia : ∀ f, inv.call ≠ .processMediaFrame f) :
      Enters setup inv s (s', reply (field .event event :: headers) body)
  | measures {s' : Impl} {rtt : ℤ} (hstate : s.state = .established) (hagree : s.Agrees s')
      (hmedia : ∀ f, inv.call ≠ .processMediaFrame f) :
      Enters setup inv s (s', .call (.onRtt rtt) fun _ => .ret (.ok ()))
  | refuses {r : Rejection} (h : Refusable inv.call s) :
      Enters setup inv s ({ s with state := .initializing }, rejectInit r)
  /-- A malformed event name outside an established session closes it at once. -/
  | misnamed {reason : Bytes} {e : Error} (hname : inv.call.Misnames)
      (hstate : s.state ≠ .established) :
      Enters setup inv s
        (transitionToClosed s,
          sendInitErrorAndClose (ascii "protocol-error") reason emptyObject (.ret (.error e)))
  | aborts {reason : Bytes} {e : Error} (hstate : s.state = .established) :
      Enters setup inv s (transitionToClosed s, abort (ascii "protocol-error") reason e)
  | closesAfterSend {s' : Impl} {code reason : Bytes} {e : Error}
      (hstate : s.state = .established) (hagree : s.Agrees s') :
      Enters setup inv s (s', closeAfterSend code reason e)
  | farewells {code reason : Bytes} (hstate : s.state ≠ .closed)
      (hmedia : ∀ f, inv.call ≠ .processMediaFrame f) :
      Enters setup inv s (transitionToClosed s, farewell setup.callbacks code reason)
  | authorizes {s' : Impl} {f : ParsedHeadersView} (hstate : s.state = .established)
      (hagree : s.Agrees s') (hmedia : ∀ f, inv.call ≠ .processMediaFrame f) :
      Enters setup inv s (s', awaitAuthResponse f)
  | validates {f : ParsedHeadersView} {bodyJson : Json} {version : Bytes}
      (hstate : s.state = .uninitialized) (hcall : inv.call = .processControlFrame f)
      (hinit : inv.call.DeliversInit) (hcallback : setup.callbacks.onAuthValidate = true) :
      Enters setup inv s
        ({ s with state := .initializing },
          awaitAuthValidate setup inv.ambient f bodyJson version)
  | admits {f : ParsedHeadersView} {bodyJson : Json} {version : Bytes}
      (hstate : s.state = .uninitialized) (hcall : inv.call = .processControlFrame f)
      (hinit : inv.call.DeliversInit) (hcallback : setup.callbacks.onAuthValidate = false) :
      Enters setup inv s
        (completeInit setup inv.ambient f bodyJson version { s with state := .initializing })
  | accepts {f : ParsedHeadersView} {stream : StreamInfo} {timestampUs : UInt64}
      (hstate : s.state = .established) (hcall : inv.call = .processMediaFrame f)
      (haccept : acceptMedia s.registry f = .ok (stream, timestampUs)) :
      Enters setup inv s
        ({ s with registry := s.registry.update stream },
          deliver setup stream timestampUs f.body)
  | sends {streamId payload : Bytes} {timestampUs : UInt64} {stream advanced : StreamInfo}
      (hstate : s.state = .established)
      (hcall : inv.call = .sendMedia streamId payload timestampUs)
      (hstream : s.registry.validateServerSend streamId = .ok stream)
      (hadvance : advanceOffset stream payload.length.toUInt64 = .ok advanced) :
      Enters setup inv s
        ({ s with registry := s.registry.update advanced },
          handOver (mediaHeaders streamId stream timestampUs) payload)

/-! ### The list is complete -/

/-- **What `send_media` can do**: fail and change nothing, or move the offset of its
stream and hand a frame over. -/
theorem sendMedia_spec (streamId payload : Bytes) (timestampUs : UInt64) (s : Impl) :
    (∃ e, sendMedia streamId payload timestampUs s = (s, .ret (.error e))) ∨
    ∃ stream advanced, s.state = .established ∧
      s.registry.validateServerSend streamId = .ok stream ∧
      advanceOffset stream payload.length.toUInt64 = .ok advanced ∧
      sendMedia streamId payload timestampUs s =
        ({ s with registry := s.registry.update advanced },
          handOver (mediaHeaders streamId stream timestampUs) payload) := by
  unfold sendMedia
  split
  · exact .inl ⟨_, rfl⟩
  · rename_i hstate
    cases hstream : s.registry.validateServerSend streamId with
    | error e => exact .inl ⟨e, rfl⟩
    | ok stream =>
        cases hadvance : advanceOffset stream payload.length.toUInt64 with
        | error e => exact .inl ⟨e, by simp only [hadvance]⟩
        | ok advanced =>
            exact .inr ⟨stream, advanced, not_not.mp hstate, rfl, hadvance, by
              simp only [hadvance]⟩

section Cases

variable (setup : Setup) (inv : Invocation) (s : Impl)

theorem countPing_agrees (config : SessionConfig) (now : ℤ) :
    s.Agrees (countPing config now s).1 := by
  rw [countPing]
  split
  · exact ⟨rfl, rfl, rfl, rfl⟩
  · exact ⟨rfl, rfl, rfl, rfl⟩

variable {setup inv s} {f : ParsedHeadersView}

theorem handleInit_cases (hcall : inv.call = .processControlFrame f)
    (hinit : inv.call.DeliversInit) :
    Enters setup inv s (handleInit setup inv.ambient f s) := by
  rw [handleInit]
  split
  · exact .refuses (.inr (.inr ⟨hinit, ‹_›⟩))
  · rename_i hstate
    have huninit : s.state = .uninitialized := not_not.mp hstate
    cases hbody : parseInitBody setup f.body with
    | error r => simpa only using .refuses (.inl huninit)
    | ok read =>
        obtain ⟨bodyJson, version⟩ := read
        simp only
        cases hcb : setup.callbacks.onAuthValidate with
        | true => exact .validates huninit hcall hinit hcb
        | false => exact .admits huninit hcall hinit hcb

variable (hmedia : ∀ f, inv.call ≠ .processMediaFrame f)
include hmedia

theorem handlePing_cases : Enters setup inv s (handlePing setup inv.ambient f s) := by
  rw [handlePing]
  split
  · exact .returns (.refl s) fun _ => hmedia
  · rename_i hstate
    split
    · exact .returns (countPing_agrees s _ _) fun _ => hmedia
    · exact .replies (not_not.mp hstate) (countPing_agrees s _ _) (by decide) hmedia

theorem handlePong_cases : Enters setup inv s (handlePong setup inv.ambient f s) := by
  have hreset : s.Agrees (resetPing s) := ⟨rfl, rfl, rfl, rfl⟩
  rw [handlePong]
  split
  · exact .returns (.refl s) fun _ => hmedia
  · rename_i hstate
    split
    · exact .returns (.refl s) fun _ => hmedia
    · split
      · exact .returns hreset fun _ => hmedia
      · split
        · exact .measures (not_not.mp hstate) hreset hmedia
        · exact .returns hreset fun _ => hmedia

theorem handleAuthResponse_cases :
    Enters setup inv s (handleAuthResponse setup inv.ambient f s) := by
  have hauth : ∀ authMgr, s.Agrees { s with authMgr } := fun _ => ⟨rfl, rfl, rfl, rfl⟩
  rw [handleAuthResponse]
  split
  · exact .returns (.refl s) fun _ => hmedia
  · rename_i hstate
    have hest := not_not.mp hstate
    split
    · exact .closesAfterSend hest (.refl s)
    · split
      · exact .closesAfterSend hest (hauth _)
      · split
        · exact .closesAfterSend hest (hauth _)
        · split
          · exact .authorizes hest (hauth _) hmedia
          · exact .returns (hauth _) fun _ => hmedia

theorem handleClose_cases : Enters setup inv s (handleClose setup f s) := by
  rw [handleClose]
  split
  · exact .returns (.refl s) fun _ => hmedia
  · exact .farewells ‹_› hmedia

omit hmedia in
theorem missingEvent_cases (hevent : inv.call.LacksEvent) :
    Enters setup inv s (missingEvent s) := by
  rw [missingEvent]
  cases hstate : s.state with
  | uninitialized => exact .refuses (.inl hstate)
  | initializing => exact .refuses (.inr (.inl ⟨hevent, hstate⟩))
  | established => exact .aborts hstate
  | closed => exact .returns (.refl s) fun h => by cases h

omit hmedia in
theorem invalidEventName_cases (hname : inv.call.Misnames) :
    Enters setup inv s (invalidEventName s) := by
  rw [invalidEventName]
  split
  · exact .aborts ‹_›
  · exact .misnamed hname ‹_›

theorem dispatch_cases {event : Bytes} (hcall : inv.call = .processControlFrame f)
    (hevent : inv.call.controlEvent = some (some event)) :
    Enters setup inv s (dispatch setup inv.ambient f event s) := by
  rw [dispatch]
  split
  · rename_i hfirst
    exact .refuses (.inl hfirst.1)
  · split
    · rename_i hinit
      exact handleInit_cases hcall (by rw [Call.DeliversInit, hevent, hinit])
    · split
      · exact handlePing_cases hmedia
      · split
        · exact handlePong_cases hmedia
        · split
          · exact handleAuthResponse_cases hmedia
          · split
            · exact handleClose_cases hmedia
            · exact .returns (.refl s) fun _ => hmedia

omit hmedia in
theorem processControlFrame_cases (hcall : inv.call = .processControlFrame f) :
    Enters setup inv s (processControlFrame setup inv.ambient f s) := by
  have hmedia : ∀ g, inv.call ≠ .processMediaFrame g := by
    intro g h
    rw [hcall] at h
    cases h
  rw [processControlFrame]
  split
  · exact .returns (.refl s) fun h => by cases h
  · rename_i htype
    have hevent : inv.call.controlEvent = some f.event := by
      rw [hcall, Call.controlEvent, if_pos (not_not.mp htype)]
    cases hname : f.event with
    | none => exact missingEvent_cases (by rw [Call.LacksEvent, hevent, hname])
    | some event =>
        rw [hname] at hevent
        simp only
        split
        · rename_i hbad
          exact invalidEventName_cases ⟨event, hevent, by simpa using hbad⟩
        · exact dispatch_cases hmedia hcall hevent

omit hmedia in
theorem processMediaFrame_cases (hcall : inv.call = .processMediaFrame f) :
    Enters setup inv s (processMediaFrame setup f s) := by
  rw [processMediaFrame]
  split
  · exact .returns (.refl s) fun h => by cases h
  · split
    · exact .refuses (.inl ‹_›)
    · split
      · exact .returns (.refl s) fun h => by cases h
      · rename_i hstate
        cases haccept : acceptMedia s.registry f with
        | error fault => exact .aborts (not_not.mp hstate)
        | ok accepted =>
            obtain ⟨stream, timestampUs⟩ := accepted
            exact .accepts (not_not.mp hstate) hcall haccept

omit hmedia in
theorem sendMedia_cases {streamId payload : Bytes} {timestampUs : UInt64}
    (hcall : inv.call = .sendMedia streamId payload timestampUs) :
    Enters setup inv s (sendMedia streamId payload timestampUs s) := by
  rcases sendMedia_spec streamId payload timestampUs s with ⟨e, h⟩ |
    ⟨stream, advanced, hstate, hstream, hadvance, h⟩
  · rw [h]
    exact .returns (.refl s) nofun
  · rw [h]
    exact .sends hstate hcall hstream hadvance

theorem sendAuthRefresh_cases : Enters setup inv s (sendAuthRefresh setup inv.ambient s) := by
  have hauth : ∀ authMgr, s.Agrees { s with authMgr } := fun _ => ⟨rfl, rfl, rfl, rfl⟩
  rw [sendAuthRefresh]
  split
  · exact .returns (.refl s) fun _ => hmedia
  · rename_i hstate
    split
    · exact .returns (hauth _) fun _ => hmedia
    · exact .replies (not_not.mp hstate) (hauth _) (by decide) hmedia

theorem sendPing_cases : Enters setup inv s (sendPing inv.ambient s) := by
  rw [sendPing]
  split
  · exact .returns (.refl s) fun _ => hmedia
  · rename_i hstate
    exact .replies (not_not.mp hstate) ⟨rfl, rfl, rfl, rfl⟩ (by decide) hmedia

theorem close_cases {code reason : Bytes} : Enters setup inv s (close setup code reason s) := by
  rw [close]
  split
  · exact .returns (.refl s) fun _ => hmedia
  · exact .farewells ‹_› hmedia

omit hmedia in
/-- **Every call enters in one of the listed ways.** -/
theorem enter_cases (setup : Setup) (inv : Invocation) (s : Impl) :
    Enters setup inv s (enter setup inv s) := by
  rw [enter]
  cases hcall : inv.call with
  | processControlFrame f => exact processControlFrame_cases hcall
  | processMediaFrame f => exact processMediaFrame_cases hcall
  | sendMedia streamId payload timestampUs => exact sendMedia_cases hcall
  | sendAuthRefresh => exact sendAuthRefresh_cases (by simp [hcall])
  | sendPing => exact sendPing_cases (by simp [hcall])
  | close code reason => exact close_cases (by simp [hcall])

end Cases

/-! ### Media frames -/

theorem required_ok {reason value : Bytes} {header : Option Bytes}
    (h : required reason header = .ok value) : header = some value := by
  cases header with
  | none => cases h
  | some v =>
      cases h
      rfl

theorem faulty_ok {α : Type} {reason : Bytes} {x : Except Error α} {a : α}
    (h : faulty reason x = .ok a) : x = .ok a := by
  cases x with
  | error e => cases h
  | ok b =>
      cases h
      rfl

/-- The offset that a frame carries, when its header can be read. -/
def offsetOf (header : Option Bytes) : Option ℕ :=
  header.bind fun text => (parseUint64 text).toOption.map UInt64.toNat

/-- **What an accepted media frame went through.** -/
structure Accepts (registry : StreamRegistry) (f : ParsedHeadersView) (id : Bytes)
    (stream advanced : StreamInfo) : Prop where
  streamId : f.streamId = some id
  found : registry.find id = some stream
  direction : stream.direction ≠ .output
  offset : offsetOf f.offset = some stream.offset.toNat
  advance : advanceOffset stream f.body.length.toUInt64 = .ok advanced

/-- The stream of an incoming frame is not an output stream. -/
theorem validateClientSend_ok {registry : StreamRegistry} {id : Bytes} {stream : StreamInfo}
    (h : registry.validateClientSend id = .ok stream) :
    registry.find id = some stream ∧ stream.direction ≠ .output := by
  unfold StreamRegistry.validateClientSend at h
  split at h
  · cases h
  · split at h
    · cases h
    · cases h
      exact ⟨‹_›, ‹_›⟩

theorem acceptMedia_ok {registry : StreamRegistry} {f : ParsedHeadersView}
    {advanced : StreamInfo} {timestampUs : UInt64}
    (h : acceptMedia registry f = .ok (advanced, timestampUs)) :
    ∃ id stream, Accepts registry f id stream advanced := by
  unfold acceptMedia at h
  obtain ⟨id, hid, h⟩ := exists_of_bind_ok h
  obtain ⟨stream, hstream, h⟩ := exists_of_bind_ok h
  obtain ⟨text, htext, h⟩ := exists_of_bind_ok h
  obtain ⟨n, hn, h⟩ := exists_of_bind_ok h
  obtain ⟨_, hcheck, h⟩ := exists_of_bind_ok h
  obtain ⟨_, -, h⟩ := exists_of_bind_ok h
  obtain ⟨_, -, h⟩ := exists_of_bind_ok h
  obtain ⟨_, -, h⟩ := exists_of_bind_ok h
  obtain ⟨_, hadvance, h⟩ := exists_of_bind_ok h
  cases h
  have hfound := validateClientSend_ok (faulty_ok hstream)
  have hoffset : n = stream.offset := by
    have hsame := faulty_ok hcheck
    unfold checkOffset at hsame
    split at hsame
    · cases hsame
    · exact not_not.mp ‹_›
  refine ⟨id, stream, required_ok hid, hfound.1, hfound.2, ?_, faulty_ok hadvance⟩
  rw [required_ok htext, offsetOf, Option.bind_some, faulty_ok hn, hoffset]
  rfl

/-- The stream of an outgoing frame is not an input stream. -/
theorem validateServerSend_ok {registry : StreamRegistry} {id : Bytes} {stream : StreamInfo}
    (h : registry.validateServerSend id = .ok stream) :
    registry.find id = some stream ∧ stream.direction ≠ .input := by
  unfold StreamRegistry.validateServerSend at h
  split at h
  · cases h
  · split at h
    · cases h
    · cases h
      exact ⟨‹_›, ‹_›⟩

/-! ### The end of a handshake -/

/-- **How a session gets established**: afresh, with every stream at offset zero
under a generated id, or from the prior state, under the id the client named. -/
inductive Earned (setup : Setup) (amb : Ambient) (f : ParsedHeadersView)
    (registry : StreamRegistry) (e : Establishment) : Prop where
  | fresh {k : ℕ} (hresumption : e.resumption = false)
      (hid : generateCsprngId amb k 16 = .ok e.sessionId)
      (hoffset : ∀ stream ∈ e.registry.streams, stream.offset = 0)
  | resumed {ps : PersistedSessionState} {decls : List StreamDeclaration}
      {restored : List StreamInfo} (hresumption : e.resumption = true)
      (hid : f.sessionId = some e.sessionId) (hprior : setup.priorState = some ps)
      (hrestored : ps.streams.mapM (restoreStream decls) = .ok restored)
      (hregistry : e.registry = registry.registerFromPersisted restored)

theorem handleFresh_error {setup : Setup} {amb : Ambient} {f : ParsedHeadersView}
    {decls : List StreamDeclaration} {version : Bytes} {registry registry' : StreamRegistry}
    {r : Rejection}
    (h : handleFresh setup amb f decls version registry = .error (r, registry')) :
    registry' = registry ∨ ∀ stream ∈ registry'.streams, stream.offset = 0 := by
  have hzero : ∀ stream ∈ (registry.registerFromDeclarations amb decls).2.streams,
      stream.offset = 0 :=
    StreamRegistry.registerFrom_offset (by simp [StreamRegistry.clear])
  rw [handleFresh] at h
  split at h
  · cases h
    exact .inl rfl
  · split at h
    · rename_i hregister
      rw [hregister] at hzero
      cases h
      exact .inr hzero
    · rename_i hregister
      rw [hregister] at hzero
      split at h
      · cases h
        exact .inr hzero
      · cases h

theorem handleFresh_ok {setup : Setup} {amb : Ambient} {f : ParsedHeadersView}
    {decls : List StreamDeclaration} {version : Bytes} {registry : StreamRegistry}
    {e : Establishment} (h : handleFresh setup amb f decls version registry = .ok e) :
    Earned setup amb f registry e := by
  have hzero : ∀ stream ∈ (registry.registerFromDeclarations amb decls).2.streams,
      stream.offset = 0 :=
    StreamRegistry.registerFrom_offset (by simp [StreamRegistry.clear])
  rw [handleFresh] at h
  split at h
  · cases h
  · split at h
    · cases h
    · rename_i hregister
      rw [hregister] at hzero
      split at h
      · cases h
      · rename_i hid
        cases h
        exact .fresh rfl hid hzero

theorem handleResumption_ok {setup : Setup} {amb : Ambient} {f : ParsedHeadersView}
    {sid : Bytes} {decls : List StreamDeclaration} {version : Bytes} {registry : StreamRegistry}
    {e : Establishment} (hsid : f.sessionId = some sid)
    (h : handleResumption setup amb f sid decls version registry = .ok e) :
    Earned setup amb f registry e := by
  rw [handleResumption] at h
  split at h
  · cases h
  · rename_i ps hprior
    split at h
    · cases h
    · rename_i hmatch
      split at h
      · cases h
      · split at h
        · cases h
        · split at h
          · cases h
          · rename_i restored hrestored
            cases h
            exact .resumed rfl (by rw [hsid, not_not.mp hmatch]) hprior hrestored rfl

/-- **A handshake ends in a refusal or in an established session.**  A refusal leaves
the streams of the registry alone, or at offset zero. -/
theorem completeInit_cases (setup : Setup) (amb : Ambient) (f : ParsedHeadersView) (bodyJson : Json)
    (version : Bytes) (s : Impl) :
    (∃ r registry,
      completeInit setup amb f bodyJson version s = ({ s with registry }, rejectInit r) ∧
      (registry = s.registry ∨ ∀ stream ∈ registry.streams, stream.offset = 0)) ∨
    ∃ e, completeInit setup amb f bodyJson version s = finalizeEstablished setup e s ∧
      Earned setup amb f s.registry e := by
  rw [completeInit]
  cases hdecls : parseDeclarations bodyJson with
  | error r => exact .inl ⟨r, s.registry, rfl, .inl rfl⟩
  | ok decls =>
      simp only
      cases hsid : f.sessionId with
      | some sid =>
          simp only
          cases hresume : handleResumption setup amb f sid decls version s.registry with
          | error r => exact .inl ⟨r, s.registry, rfl, .inl rfl⟩
          | ok e => exact .inr ⟨e, rfl, handleResumption_ok hsid hresume⟩
      | none =>
          simp only
          cases hfresh : handleFresh setup amb f decls version s.registry with
          | error refusal =>
              obtain ⟨r, registry⟩ := refusal
              exact .inl ⟨r, registry, rfl, handleFresh_error hfresh⟩
          | ok e => exact .inr ⟨e, rfl, handleFresh_ok hfresh⟩

/-- **After the authentication callback**: the session was closed meanwhile, the client
is turned away, or the handshake goes on. -/
theorem afterAuthValidate_cases (setup : Setup) (amb : Ambient) (f : ParsedHeadersView)
    (bodyJson : Json) (version : Bytes) (authOk : Bool) (s : Impl) :
    (s.state = .closed ∧ ∃ e, afterAuthValidate setup amb f bodyJson version authOk s =
      (s, .ret (.error e))) ∨
    (s.state ≠ .closed ∧ authOk = false ∧
      ∃ r, afterAuthValidate setup amb f bodyJson version authOk s = (s, rejectInit r)) ∨
    (s.state ≠ .closed ∧ authOk = true ∧
      afterAuthValidate setup amb f bodyJson version authOk s =
        completeInit setup amb f bodyJson version s) := by
  rw [afterAuthValidate]
  by_cases hs : s.state = .closed
  · rw [if_pos hs]
    exact .inl ⟨hs, _, rfl⟩
  · rw [if_neg hs]
    cases authOk with
    | false => exact .inr (.inl ⟨hs, rfl, _, rfl⟩)
    | true => exact .inr (.inr ⟨hs, rfl, rfl⟩)

/-- **After a new token was rejected**: the session is closed, now or already. -/
theorem afterAuthRejected_cases (s : Impl) :
    (s.state = .closed ∧ ∃ e, afterAuthRejected s = (s, .ret (.error e))) ∨
    (s.state ≠ .closed ∧
      ∃ code reason e, afterAuthRejected s = (transitionToClosed s, abort code reason e)) := by
  rw [afterAuthRejected]
  by_cases hs : s.state = .closed
  · rw [if_pos hs]
    exact .inl ⟨hs, _, rfl⟩
  · rw [if_neg hs]
    exact .inr ⟨hs, _, _, _, rfl⟩

/-! ### Frames that reach a closed session -/

/-- `process_control_frame` on a control frame, by its event. -/
theorem enter_of_controlEvent (setup : Setup) {inv : Invocation} {event : Bytes}
    (h : inv.call.controlEvent = some (some event)) (s : Impl) :
    ∃ f, enter setup inv s =
      if !isValidEventName event then invalidEventName s
      else dispatch setup inv.ambient f event s := by
  rw [enter]
  cases hcall : inv.call with
  | processControlFrame f =>
      rw [hcall, Call.controlEvent] at h
      split at h
      · rename_i htype
        refine ⟨f, ?_⟩
        rw [Option.some.injEq] at h
        simp only [processControlFrame, htype, ne_eq, not_true_eq_false, if_false, h]
      · cases h
  | _ =>
      rw [hcall] at h
      cases h

theorem enter_init_of_closed {setup : Setup} {inv : Invocation} (h : inv.call.DeliversInit)
    {s : Impl} (hs : s.state = .closed) :
    enter setup inv s = ({ s with state := .initializing }, rejectInit
      { code := ascii "protocol-error"
        reason := ascii "culpeo.init received after session established"
        error := .protocolError }) := by
  obtain ⟨f, hf⟩ := enter_of_controlEvent setup h s
  have hvalid : isValidEventName (ascii "culpeo.init") = true := by decide
  have hopened : s.state ≠ .uninitialized := by rw [hs]; decide
  rw [hf, hvalid]
  simp only [Bool.not_true, Bool.false_eq_true, if_false, dispatch, ne_eq, not_true_eq_false,
    and_false, if_true, handleInit, hopened, not_false_eq_true]

theorem enter_misnamed_of_closed {setup : Setup} {inv : Invocation} (h : inv.call.Misnames)
    {s : Impl} (hs : s.state = .closed) :
    enter setup inv s = (transitionToClosed s,
      sendInitErrorAndClose (ascii "protocol-error") (ascii "Invalid event name syntax")
        emptyObject (.ret (.error .invalidEventName))) := by
  obtain ⟨event, hevent, hinvalid⟩ := h
  obtain ⟨f, hf⟩ := enter_of_controlEvent setup hevent s
  have hclosed : s.state ≠ .established := by rw [hs]; decide
  rw [hf, hinvalid]
  simp only [Bool.not_false, if_true, invalidEventName, if_neg hclosed]

end CulpeoStream.Session
