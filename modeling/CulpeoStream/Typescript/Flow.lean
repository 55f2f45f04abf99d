import CulpeoStream.Lib.Ledger
import CulpeoStream.Typescript.Session

/-!
# One direction of a link

The registry of a sender, the registry of the receiver, and the frames between them.  A
`Flow` says that the two agree: the frames of each stream that are in flight are
contiguous from the offset that the receiver expects, and the offset that the sender uses
next is where they end.

`trackSend` and `trackReceive` keep a flow (`Flow.send`, `Flow.receive`), and a flow never
lets `trackReceive` fail.  Two registries that have confirmed the same streams start in
agreement (`flow_confirmed`).
-/

namespace CulpeoStream.Typescript

open Message Utf16 Ledger

/-! ### What the operations do -/

/-- **What `trackSend` can do**: fail at once, fail after it has noted the offset, or take
the next offset of its stream and advance it. -/
theorem trackSend_cases (rt : Runtime) (registry : StreamRegistry) (streamId : Text)
    (payloadLength : ℕ) :
    (∃ e, registry.trackSend rt streamId payloadLength = (registry, .error e)) ∨
    (∃ state new e, registry.offsets.states streamId = some state ∧
      new.nextSendOffset = state.nextSendOffset ∧
      new.expectedReceiveOffset = state.expectedReceiveOffset ∧
      registry.trackSend rt streamId payloadLength =
        ({ registry with offsets := registry.offsets.set streamId new }, .error e)) ∨
    ∃ stream state new n, registry.confirmedStreams streamId = some stream ∧
      allowsSender stream.type registry.localRole = true ∧
      computeOffsetIncrement rt stream.offsetType payloadLength stream.contentType = .ok n ∧
      registry.offsets.states streamId = some state ∧
      new.nextSendOffset = state.nextSendOffset + n ∧
      new.expectedReceiveOffset = state.expectedReceiveOffset ∧
      registry.trackSend rt streamId payloadLength =
        ({ registry with offsets := registry.offsets.set streamId new },
          .ok (stream.contentType, state.nextSendOffset)) := by
  unfold StreamRegistry.trackSend StreamRegistry.get
  cases hstream : registry.confirmedStreams streamId with
  | none => exact .inl ⟨_, rfl⟩
  | some stream =>
      dsimp only
      split
      · exact .inl ⟨_, rfl⟩
      · rename_i hallowed
        rw [Bool.not_eq_true, Bool.not_eq_false'] at hallowed
        unfold OffsetTracker.allocate OffsetTracker.mustGet
        cases hstate : registry.offsets.states streamId with
        | none => exact .inl ⟨_, rfl⟩
        | some state =>
            cases hinc : computeOffsetIncrement rt stream.offsetType payloadLength
                stream.contentType with
            | error e =>
                -- `allocate` has noted the offset as sent before the increment fails.
                exact .inr (.inl ⟨state,
                  { state with lastSentOffset := some state.nextSendOffset }, e, rfl, rfl, rfl,
                  rfl⟩)
            | ok n =>
                exact .inr (.inr ⟨stream, state,
                  { state with
                    lastSentOffset := some state.nextSendOffset
                    nextSendOffset := state.nextSendOffset + n }, n, rfl, hallowed, hinc, rfl, rfl,
                  rfl, rfl⟩)

/-- **When `trackReceive` succeeds**, and what it does: the expected offset of the stream
advances. -/
theorem trackReceive_ok {rt : Runtime} {registry : StreamRegistry} {streamId : Text}
    {payloadLength n : ℕ} {offset : ℤ} {stream : ConfirmedStreamDeclaration}
    (hstream : registry.confirmedStreams streamId = some stream)
    (hallowed : allowsSender stream.type registry.remoteRole = true)
    (hinc : computeOffsetIncrement rt stream.offsetType payloadLength stream.contentType = .ok n)
    (hexpected : registry.offsets.expectedReceive streamId = some offset) :
    ∃ state new, registry.offsets.states streamId = some state ∧
      new.nextSendOffset = state.nextSendOffset ∧ new.expectedReceiveOffset = offset + n ∧
      registry.trackReceive rt streamId offset stream.contentType payloadLength =
        .ok { registry with offsets := registry.offsets.set streamId new } := by
  obtain ⟨state, hstate, rfl⟩ := Option.map_eq_some_iff.mp hexpected
  refine ⟨state,
    { state with
      lastReceivedOffset := some state.expectedReceiveOffset
      expectedReceiveOffset := state.expectedReceiveOffset + n }, hstate, rfl, rfl, ?_⟩
  simp [StreamRegistry.trackReceive, StreamRegistry.get, hstream, hallowed, hinc,
    OffsetTracker.recordReceived, OffsetTracker.mustGet, hstate, bind, Except.bind, pure,
    Except.pure]

/-! ### Flows -/

/-- A media frame. -/
abbrev MediaFrame := MediaHeaders × Bytes

/-- The frame, when it is a media frame of the stream. -/
def mediaOn (id : Text) : CulpeoMessage → Option MediaFrame
  | .media headers body => if headers.streamId = id then some (headers, body) else none
  | _ => none

/-- The media frames of a stream in a queue, in order. -/
def inFlight (id : Text) (queue : List CulpeoMessage) : List MediaFrame :=
  queue.filterMap (mediaOn id)

/-- How far a frame moves the offsets of a stream. -/
def frameIncrement (rt : Runtime) (stream : ConfirmedStreamDeclaration) (frame : MediaFrame) : ℤ :=
  match computeOffsetIncrement rt stream.offsetType frame.2.length stream.contentType with
  | .ok n => n
  | .error _ => 0

/-- A media frame that its sender was allowed to send. -/
structure WellSent (rt : Runtime) (role : EndpointRole)
    (confirmed : Text → Option ConfirmedStreamDeclaration) (headers : MediaHeaders)
    (body : Bytes) (stream : ConfirmedStreamDeclaration) : Prop where
  found : confirmed headers.streamId = some stream
  allowed : allowsSender stream.type role = true
  contentType : headers.contentType = stream.contentType
  counts : ∃ n, computeOffsetIncrement rt stream.offsetType body.length stream.contentType = .ok n

/-- Where a stream stands at both ends, with these frames in between. -/
structure Position (rt : Runtime) (sender receiver : StreamRegistry) (id : Text)
    (stream : ConfirmedStreamDeclaration) (frames : List MediaFrame) (next expected : ℤ) :
    Prop where
  sends : sender.offsets.nextSend id = some next
  expects : receiver.offsets.expectedReceive id = some expected
  contiguous : Contiguous (fun frame : MediaFrame => some frame.1.offset)
    (frameIncrement rt stream) expected frames
  sum : next = expected + total (frameIncrement rt stream) frames

/-- **One direction of a link in agreement.** -/
structure Flow (rt : Runtime) (role : EndpointRole) (sender receiver : StreamRegistry)
    (queue : List CulpeoMessage) : Prop where
  streams : receiver.confirmedStreams = sender.confirmedStreams
  wellSent : ∀ headers body, .media headers body ∈ queue →
    ∃ stream, WellSent rt role sender.confirmedStreams headers body stream
  positions : ∀ id stream, sender.confirmedStreams id = some stream →
    ∃ next expected, Position rt sender receiver id stream (inFlight id queue) next expected

section Flow

variable {rt : Runtime} {role : EndpointRole} {sender receiver sender' receiver' : StreamRegistry}
  {queue : List CulpeoMessage}

/-- A flow sees the next offsets of the sender and the expected ones of the receiver. -/
theorem Flow.congr (h : Flow rt role sender receiver queue)
    (hsender : sender'.confirmedStreams = sender.confirmedStreams)
    (hnext : ∀ id, sender'.offsets.nextSend id = sender.offsets.nextSend id)
    (hreceiver : receiver'.confirmedStreams = receiver.confirmedStreams)
    (hexpected : ∀ id, receiver'.offsets.expectedReceive id = receiver.offsets.expectedReceive id) :
    Flow rt role sender' receiver' queue := by
  refine ⟨?_, fun headers body hmem => ?_, fun id stream hstream => ?_⟩
  · rw [hreceiver, hsender, h.streams]
  · obtain ⟨stream, hwell⟩ := h.wellSent headers body hmem
    rw [hsender]
    exact ⟨stream, hwell⟩
  · rw [hsender] at hstream
    obtain ⟨next, expected, hposition⟩ := h.positions id stream hstream
    exact ⟨next, expected, by rw [hnext]; exact hposition.sends,
      by rw [hexpected]; exact hposition.expects, hposition.contiguous, hposition.sum⟩

/-- **A send keeps the flow**: the frame goes to the end of the queue. -/
theorem Flow.send (h : Flow rt role sender receiver queue) (hrole : sender.localRole = role)
    {streamId : Text} {body : Bytes} {contentType : Text} {offset : ℤ} (timestamp : Option ℤ)
    (hsend : (sender.trackSend rt streamId body.length).2 = .ok (contentType, offset)) :
    Flow rt role (sender.trackSend rt streamId body.length).1 receiver
      (queue ++ [.media { streamId, offset, contentType, timestamp } body]) := by
  rcases trackSend_cases rt sender streamId body.length with ⟨e, hcase⟩ |
    ⟨state, new, e, -, -, -, hcase⟩ |
    ⟨stream, state, new, n, hstream, hallowed, hinc, hstate, hnext, -, hcase⟩
  · rw [hcase] at hsend
    cases hsend
  · rw [hcase] at hsend
    cases hsend
  rw [hcase] at hsend ⊢
  cases hsend
  refine ⟨h.streams, fun headers body' hmem => ?_, fun id other hother => ?_⟩
  · rcases List.mem_append.mp hmem with hold | hnew
    · exact h.wellSent headers body' hold
    · rw [List.mem_singleton] at hnew
      cases hnew
      exact ⟨stream, hstream, by rw [← hrole]; exact hallowed, rfl, n, hinc⟩
  · obtain ⟨next, expected, hposition⟩ := h.positions id other hother
    by_cases hid : id = streamId
    · subst hid
      obtain rfl : other = stream := Option.some.inj (hother.symm.trans hstream)
      -- The frame takes the offset at which the frames in flight end.
      obtain rfl : state.nextSendOffset = next := by
        have hsends := hposition.sends
        rw [OffsetTracker.nextSend, hstate, Option.map_some, Option.some.injEq] at hsends
        exact hsends
      have hlength : ∀ headers : MediaHeaders, frameIncrement rt other (headers, body) = n := by
        intro headers
        rw [frameIncrement]
        simp only [hinc]
      refine ⟨state.nextSendOffset + n, expected, ?_, hposition.expects, ?_, ?_⟩
      · rw [OffsetTracker.nextSend_set, if_pos rfl, hnext]
      · rw [inFlight, List.filterMap_append, contiguous_append]
        refine ⟨hposition.contiguous, ?_⟩
        rw [List.filterMap_cons, mediaOn, if_pos rfl, List.filterMap_nil, contiguous_cons]
        exact ⟨congrArg some hposition.sum, contiguous_nil⟩
      · rw [inFlight, List.filterMap_append, total_append, List.filterMap_cons, mediaOn,
          if_pos rfl, List.filterMap_nil, total_cons, total_nil, hlength, add_zero, ← add_assoc]
        exact congrArg (· + (n : ℤ)) hposition.sum
    · -- A frame of another stream.
      have hnone : ∀ headers : MediaHeaders, headers.streamId = streamId →
          mediaOn id (.media headers body) = none := by
        intro headers hheaders
        rw [mediaOn, if_neg (by rw [hheaders]; exact Ne.symm hid)]
      refine ⟨next, expected, ?_, hposition.expects, ?_, ?_⟩
      · rw [OffsetTracker.nextSend_set, if_neg hid]
        exact hposition.sends
      · rw [inFlight, List.filterMap_append, List.filterMap_cons, hnone _ rfl, List.filterMap_nil,
          List.append_nil]
        exact hposition.contiguous
      · rw [inFlight, List.filterMap_append, List.filterMap_cons, hnone _ rfl, List.filterMap_nil,
          List.append_nil]
        exact hposition.sum

/-- Whatever a send does to its sender, it does not disturb what comes in, nor, if it
fails, what goes out. -/
theorem Flow.trackSend_receiver (h : Flow rt role sender receiver queue) (streamId : Text)
    (payloadLength : ℕ) :
    Flow rt role sender (receiver.trackSend rt streamId payloadLength).1 queue := by
  rcases trackSend_cases rt receiver streamId payloadLength with ⟨e, hcase⟩ |
    ⟨state, new, e, hstate, -, hsame, hcase⟩ | ⟨_, state, new, _, -, -, -, hstate, -, hsame, hcase⟩
  · rw [hcase]
    exact h
  · rw [hcase]
    exact h.congr rfl (fun _ => rfl) rfl (OffsetTracker.expectedReceive_set_eq hstate hsame)
  · rw [hcase]
    exact h.congr rfl (fun _ => rfl) rfl (OffsetTracker.expectedReceive_set_eq hstate hsame)

theorem Flow.trackSend_failed (h : Flow rt role sender receiver queue) {streamId : Text}
    {payloadLength : ℕ} {e : CulpeoError}
    (hfail : (sender.trackSend rt streamId payloadLength).2 = .error e) :
    Flow rt role (sender.trackSend rt streamId payloadLength).1 receiver queue := by
  rcases trackSend_cases rt sender streamId payloadLength with ⟨e, hcase⟩ |
    ⟨state, new, e, hstate, hsame, -, hcase⟩ | ⟨_, _, _, _, -, -, -, -, -, -, hcase⟩
  · rw [hcase]
    exact h
  · rw [hcase]
    exact h.congr rfl (OffsetTracker.nextSend_set_eq hstate hsame) rfl fun _ => rfl
  · rw [hcase] at hfail
    cases hfail

/-- **A receive keeps the flow**, and it does not fail: the frame at the head of the queue
is the one that the receiver expects. -/
theorem Flow.receive {headers : MediaHeaders} {body : Bytes}
    (h : Flow rt role sender receiver (.media headers body :: queue))
    (hrole : receiver.remoteRole = role) :
    ∃ state new, receiver.offsets.states headers.streamId = some state ∧
      new.nextSendOffset = state.nextSendOffset ∧
      receiver.trackReceive rt headers.streamId headers.offset headers.contentType body.length =
        .ok { receiver with offsets := receiver.offsets.set headers.streamId new } ∧
      Flow rt role sender
        { receiver with offsets := receiver.offsets.set headers.streamId new } queue := by
  obtain ⟨stream, hwell⟩ := h.wellSent headers body List.mem_cons_self
  obtain ⟨n, hinc⟩ := hwell.counts
  obtain ⟨next, expected, hposition⟩ := h.positions headers.streamId stream hwell.found
  have hfirst : inFlight headers.streamId (.media headers body :: queue) =
      (headers, body) :: inFlight headers.streamId queue := by
    rw [inFlight, List.filterMap_cons, mediaOn, if_pos rfl]
    rfl
  have hlength : frameIncrement rt stream (headers, body) = n := by
    rw [frameIncrement]
    simp only [hinc]
  -- The first frame in flight stands at the expected offset.
  have hcontiguous := hposition.contiguous
  rw [hfirst, contiguous_cons, hlength, Option.some.injEq] at hcontiguous
  obtain ⟨hoffset, hrest⟩ := hcontiguous
  have hsum := hposition.sum
  rw [hfirst, total_cons, hlength, ← add_assoc] at hsum
  obtain ⟨state, new, hstate, hsame, hmove, hreceive⟩ := trackReceive_ok
    (by rw [h.streams]; exact hwell.found) (by rw [hrole]; exact hwell.allowed) hinc
    hposition.expects
  rw [← hwell.contentType, ← hoffset] at hreceive
  refine ⟨state, new, hstate, hsame, hreceive, h.streams, fun headers' body' hmem => ?_,
    fun id other hother => ?_⟩
  · exact h.wellSent headers' body' (List.mem_cons_of_mem _ hmem)
  · by_cases hid : id = headers.streamId
    · subst hid
      obtain rfl : other = stream := Option.some.inj (hother.symm.trans hwell.found)
      refine ⟨next, expected + n, hposition.sends, ?_, hrest, hsum⟩
      rw [OffsetTracker.expectedReceive_set, if_pos rfl, hmove]
    · obtain ⟨next', expected', hother'⟩ := h.positions id other hother
      have hskip : inFlight id (.media headers body :: queue) = inFlight id queue := by
        rw [inFlight, List.filterMap_cons, mediaOn, if_neg (Ne.symm hid)]
        rfl
      rw [hskip] at hother'
      refine ⟨next', expected', hother'.sends, ?_, hother'.contiguous, hother'.sum⟩
      rw [OffsetTracker.expectedReceive_set, if_neg hid]
      exact hother'.expects

end Flow

/-! ### The beginning -/

/-- Both offsets of every confirmed stream are the same. -/
def Balanced (tracker : OffsetTracker) (confirmed : Text → Option ConfirmedStreamDeclaration) :
    Prop :=
  ∀ id stream, confirmed id = some stream →
    ∃ n, tracker.nextSend id = some n ∧ tracker.expectedReceive id = some n

/-- A stream that is new to the tracker starts with both offsets the same. -/
theorem registerStream_new {tracker : OffsetTracker} {stream : ConfirmedStreamDeclaration}
    (h : tracker.states stream.id = none) :
    ∃ state, StreamRegistry.registerStream tracker stream = .ok (tracker.set stream.id state) ∧
      state.nextSendOffset = state.expectedReceiveOffset := by
  have hregister : ∀ offset, tracker.register stream.id offset =
      tracker.set stream.id ⟨offset, offset, none, none⟩ := by
    intro offset
    rw [OffsetTracker.register, h]
  unfold StreamRegistry.registerStream
  cases hoffset : stream.resumeOffset with
  | none => exact ⟨⟨0, 0, none, none⟩, by rw [hregister]; rfl, rfl⟩
  | some offset =>
      refine ⟨⟨offset, offset, none, some offset⟩, ?_, rfl⟩
      simp [hregister, OffsetTracker.seedResumeOffset, OffsetTracker.mustGet, OffsetTracker.set]

theorem balanced_set {tracker : OffsetTracker}
    {confirmed : Text → Option ConfirmedStreamDeclaration} (h : Balanced tracker confirmed)
    (stream : ConfirmedStreamDeclaration) {state : OffsetState}
    (hstate : state.nextSendOffset = state.expectedReceiveOffset) :
    Balanced (tracker.set stream.id state)
      (Function.update confirmed stream.id (some stream)) := by
  intro id other hother
  rw [Function.update_apply] at hother
  rw [OffsetTracker.nextSend_set, OffsetTracker.expectedReceive_set]
  split at hother
  · rename_i hid
    exact ⟨state.nextSendOffset, by rw [if_pos hid], by rw [if_pos hid, hstate]⟩
  · rename_i hid
    rw [if_neg hid, if_neg hid]
    exact h id other hother

/-- The loop of `confirm` over new streams with distinct ids. -/
theorem registerStreams_balanced :
    ∀ (streams : List ConfirmedStreamDeclaration) {tracker : OffsetTracker}
      {confirmed : Text → Option ConfirmedStreamDeclaration}, Balanced tracker confirmed →
      (∀ stream ∈ streams, tracker.states stream.id = none) →
      (streams.map ConfirmedStreamDeclaration.id).Nodup →
      ∃ tracker', streams.foldlM StreamRegistry.registerStream tracker = .ok tracker' ∧
        Balanced tracker' (streams.foldl (fun confirmed stream =>
          Function.update confirmed stream.id (some stream)) confirmed) := by
  intro streams
  induction streams with
  | nil =>
      intro tracker confirmed hbalanced _ _
      exact ⟨tracker, rfl, hbalanced⟩
  | cons stream streams ih =>
      intro tracker confirmed hbalanced hnew hnodup
      rw [List.map_cons, List.nodup_cons] at hnodup
      obtain ⟨state, hregister, hstate⟩ := registerStream_new (hnew stream List.mem_cons_self)
      obtain ⟨tracker', hloop, hbalanced'⟩ := ih (balanced_set hbalanced stream hstate)
        (fun other hother => by
          have hne : other.id ≠ stream.id := by
            intro heq
            exact hnodup.1 (heq ▸ List.mem_map_of_mem hother)
          rw [OffsetTracker.states_set, if_neg hne]
          exact hnew other (List.mem_cons_of_mem _ hother))
        hnodup.2
      refine ⟨tracker', ?_, hbalanced'⟩
      rw [List.foldlM_cons, hregister]
      exact hloop

/-- **Streams with distinct ids are confirmed alike by every fresh registry.** -/
theorem confirm_fresh {streams : List ConfirmedStreamDeclaration}
    (hvalid : validateStreamDeclarations
      (streams.map ConfirmedStreamDeclaration.toStreamDeclaration) maxStreamCount = .ok ())
    (hnodup : (streams.map ConfirmedStreamDeclaration.id).Nodup) :
    ∃ tracker, Balanced tracker (StreamRegistry.streamMap streams) ∧
      ∀ registry : StreamRegistry, registry.offsets = {} →
        registry.confirm streams = .ok
          { registry with
            offsets := tracker
            confirmedStreams := StreamRegistry.streamMap streams
            confirmedOrder := streams } := by
  have hempty : Balanced {} fun _ => none := nofun
  obtain ⟨tracker, hloop, hbalanced⟩ := registerStreams_balanced streams hempty
    (fun _ _ => rfl) hnodup
  refine ⟨tracker, hbalanced, fun registry hfresh => ?_⟩
  rw [StreamRegistry.confirm, hvalid, hfresh]
  show (do let offsets ← streams.foldlM StreamRegistry.registerStream {}; _) = _
  rw [hloop]
  rfl

/-- **Two registries that have just confirmed the same streams agree.** -/
theorem flow_confirmed (rt : Runtime) (role : EndpointRole) {tracker : OffsetTracker}
    {confirmed : Text → Option ConfirmedStreamDeclaration} (h : Balanced tracker confirmed)
    {sender receiver : StreamRegistry}
    (hsender : sender.offsets = tracker ∧ sender.confirmedStreams = confirmed)
    (hreceiver : receiver.offsets = tracker ∧ receiver.confirmedStreams = confirmed) :
    Flow rt role sender receiver [] := by
  refine ⟨hreceiver.2.trans hsender.2.symm, nofun, fun id stream hstream => ?_⟩
  rw [hsender.2] at hstream
  obtain ⟨n, hnext, hexpected⟩ := h id stream hstream
  exact ⟨n, n, by rw [hsender.1]; exact hnext, by rw [hreceiver.1]; exact hexpected,
    contiguous_nil, (add_zero n).symm⟩

end CulpeoStream.Typescript
