import CulpeoStream.Typescript.Flow
import CulpeoStream.Typescript.Resume

/-!
# Media frames that are received

`trackReceive` makes five checks, in three classes, and throws from any of them.  Nothing
catches what it throws: `receive` rejects, no close is sent and the session stays
established.  A frame that passes the checks moves the receive position of its stream, and
nothing else.
-/

namespace CulpeoStream.Typescript

open Checks Message Utf16 Resumption

section Checks

variable (rt : Runtime) (registry : StreamRegistry) (headers : MediaHeaders) (body : Bytes)

/-- The checks on a media frame, for its stream and its increment. -/
structure Passes (stream : ConfirmedStreamDeclaration) (increment : ℕ) : Prop where
  known : registry.confirmedStreams headers.streamId = some stream
  allowed : allowsSender stream.type registry.remoteRole = true
  contentType :
    normalizeContentType rt headers.contentType = normalizeContentType rt stream.contentType
  aligned :
    computeOffsetIncrement rt stream.offsetType body.length stream.contentType = .ok increment
  contiguous : registry.offsets.expectedReceive headers.streamId = some headers.offset

/-- The stream is known, the peer may send on it, the content type is that of the stream,
the offset is the expected one, and the payload is made of complete samples. -/
def Acceptable : Prop := ∃ stream increment, Passes rt registry headers body stream increment

/-- The receive position of the stream has moved behind the frame. -/
def StreamRegistry.Receives (registry' : StreamRegistry) (increment : ℕ) : Prop :=
  ∃ state, registry.offsets.states headers.streamId = some state ∧
    registry' = { registry with
      offsets := registry.offsets.set headers.streamId
        { state with
          lastReceivedOffset := some headers.offset
          expectedReceiveOffset := headers.offset + increment } }

variable {rt registry headers body}

/-- **When `trackReceive` succeeds**, and what it does then. -/
theorem trackReceive_ok_iff {registry' : StreamRegistry} :
    registry.trackReceive rt headers.streamId headers.offset headers.contentType body.length =
        .ok registry' ↔
      ∃ stream increment, Passes rt registry headers body stream increment ∧
        registry.Receives headers registry' increment := by
  constructor
  · intro h
    unfold StreamRegistry.trackReceive at h
    obtain ⟨stream, hstream, h⟩ := exists_of_bind_ok h
    have hknown : registry.confirmedStreams headers.streamId = some stream := by
      unfold StreamRegistry.get at hstream
      split at hstream
      · cases hstream
        assumption
      · cases hstream
    dsimp only at h
    split at h
    · obtain ⟨_, hthrow, -⟩ := exists_of_bind_ok h
      cases hthrow
    · rename_i hallowed
      split at h
      · obtain ⟨_, hthrow, -⟩ := exists_of_bind_ok h
        cases hthrow
      · rename_i htype
        obtain ⟨increment, haligned, h⟩ := exists_of_bind_ok h
        obtain ⟨offsets, hoffsets, h⟩ := exists_of_bind_ok h
        cases h
        unfold OffsetTracker.recordReceived at hoffsets
        split at hoffsets
        · cases hoffsets
        · rename_i state hstate
          split at hoffsets
          · cases hoffsets
          · rename_i hoffset
            cases hoffsets
            rw [not_not] at hoffset
            refine ⟨stream, increment, ⟨hknown, by simpa using hallowed, not_not.mp htype,
              haligned, ?_⟩, state, mustGet_ok hstate, by rw [hoffset]⟩
            rw [OffsetTracker.expectedReceive, mustGet_ok hstate, Option.map_some, hoffset]
  · rintro ⟨stream, increment, hpasses, state, hstate, rfl⟩
    have hoffset : state.expectedReceiveOffset = headers.offset := by
      have hcontiguous := hpasses.contiguous
      rw [OffsetTracker.expectedReceive, hstate, Option.map_some] at hcontiguous
      exact Option.some.inj hcontiguous
    simp [StreamRegistry.trackReceive, StreamRegistry.get, hpasses.known, hpasses.allowed,
      hpasses.contentType, hpasses.aligned, OffsetTracker.recordReceived, OffsetTracker.mustGet,
      hstate, hoffset, bind, Except.bind, pure, Except.pure]

/-- A frame that passes moves the receive position of its stream. -/
theorem Passes.trackReceive {stream : ConfirmedStreamDeclaration} {increment : ℕ}
    (h : Passes rt registry headers body stream increment) :
    ∃ registry', registry.Receives headers registry' increment ∧
      registry.trackReceive rt headers.streamId headers.offset headers.contentType body.length =
        .ok registry' := by
  obtain ⟨state, hstate, -⟩ := Option.map_eq_some_iff.mp h.contiguous
  refine ⟨_, ⟨state, hstate, rfl⟩, trackReceive_ok_iff.mpr ⟨stream, increment, h, ?_⟩⟩
  exact ⟨state, hstate, rfl⟩

end Checks

/-! ### What becomes of a media frame -/

/-- The code of a close that is sent. -/
def Output.closeCode : Output → Option Code
  | .send (.close code _) => some code
  | _ => none

/-- What is to become of a media frame: it is accepted, and only the receive position of its
stream changes, or the session ends with a protocol error. -/
inductive MediaHandled (rt : Runtime) (headers : MediaHeaders) (body : Bytes) (s : Session)
    (r : Outcome Session Output Result) : Prop where
  | accepted {stream : ConfirmedStreamDeclaration} {increment : ℕ} {registry : StreamRegistry}
      (passes : Passes rt s.registry headers body stream increment)
      (receives : s.registry.Receives headers registry increment)
      (state : r.state = { s with registry })
  | ended (registry : r.state.registry = s.registry)
      (closes : r.outputs.filterMap Output.closeCode = [.protocolError])
      (state : r.state.stateValue = .closed)

/-- An auth challenge has gone without an answer for too long. -/
def Session.Overdue (options : ServerSessionOptions) (now : ℤ) (s : Session) : Prop :=
  s.pendingAuthNonce.isSome ∧ ∃ issuedAt, s.authChallengeIssuedAt = some issuedAt ∧
    max 1 options.authChallengeTimeoutMs * 1000 < now - issuedAt

section Handled

variable {rt : Runtime} {headers : MediaHeaders} {body : Bytes} {s : Session}

theorem MediaHandled.acceptable {r : Outcome Session Output Result}
    (h : MediaHandled rt headers body s r) (hstate : r.state.stateValue ≠ .closed) :
    Acceptable rt s.registry headers body := by
  cases h with
  | accepted passes receives state => exact ⟨_, _, passes⟩
  | ended registry closes state => exact absurd state hstate

/-- The session is looked at when the frame is: the same for both ends. -/
theorem handleMedia_handled_iff (callbacks : Callbacks) (hs : s.stateValue = .established)
    (answers : ℕ → Option Text) :
    MediaHandled rt headers body s
        ((handleMedia rt callbacks headers body s).2.exec answers
          (handleMedia rt callbacks headers body s).1) ↔
      Acceptable rt s.registry headers body := by
  unfold handleMedia
  constructor
  · intro h
    split at h
    · refine h.acceptable ?_
      change s.stateValue ≠ .closed
      rw [hs]
      decide
    · rename_i registry hreceive
      obtain ⟨stream, increment, hpasses, -⟩ := trackReceive_ok_iff.mp hreceive
      exact ⟨stream, increment, hpasses⟩
  · rintro ⟨stream, increment, hpasses⟩
    obtain ⟨registry, hreceives, hreceive⟩ := hpasses.trackReceive
    rw [hreceive]
    exact .accepted hpasses hreceives (exec_notify_done callbacks _ answers _)

theorem clientFrame_media (callbacks : Callbacks) (now : ℤ) (hs : s.stateValue = .established) :
    clientFrame rt callbacks now (.media headers body) s =
      handleMedia rt callbacks headers body s := by
  unfold clientFrame
  rw [hs]
  rfl

theorem serverFrame_media (options : ServerSessionOptions) (callbacks : Callbacks) (now : ℤ)
    (hs : s.stateValue = .established) :
    serverFrame rt options callbacks now (.media headers body) s =
      handleMedia rt callbacks headers body s := by
  unfold serverFrame
  rw [hs]
  rfl

/-- What the timeout check of a server leaves to do. -/
theorem exec_checkTimeouts (options : ServerSessionOptions) (now : ℤ) (next : Rest)
    (answers : ℕ → Option Text) (hs : ¬ s.Overdue options now) :
    (checkTimeouts options now next).exec answers s = next.exec answers s := by
  unfold checkTimeouts
  rw [Prog.exec_critical]
  split
  · rename_i nonce issuedAt hnonce hissued
    split
    · rename_i hlate
      exact absurd ⟨by rw [hnonce]; rfl, issuedAt, hissued, hlate⟩ hs
    · rfl
  · rfl

/-- An overdue challenge ends the session, with another code. -/
theorem exec_checkTimeouts_overdue (options : ServerSessionOptions) (now : ℤ) (next : Rest)
    (answers : ℕ → Option Text) (hs : s.Overdue options now) :
    (checkTimeouts options now next).exec answers s =
      (failWithClose .authExpired (utf16 "Authentication challenge timed out.")).exec answers
        s := by
  obtain ⟨hnonce, issuedAt, hissued, hlate⟩ := hs
  obtain ⟨nonce, hnonce⟩ := Option.isSome_iff_exists.mp hnonce
  unfold checkTimeouts
  rw [Prog.exec_critical, hnonce, hissued]
  dsimp only
  rw [if_pos hlate]

theorem exec_failWithClose_closes (code : Code) (reason : Text) (answers : ℕ → Option Text)
    (hs : s.stateValue = .established) :
    ((failWithClose code reason).exec answers s).state.registry = s.registry ∧
      ((failWithClose code reason).exec answers s).state.stateValue = .closed ∧
      ((failWithClose code reason).exec answers s).outputs.filterMap Output.closeCode =
        if s.closeSent then [] else [code] := by
  unfold failWithClose close
  rw [Prog.exec_critical, hs]
  cases hsent : s.closeSent with
  | true => exact ⟨rfl, rfl, rfl⟩
  | false =>
      cases hanswer : answers 0 <;> simp [dispatch, fail, Output.closeCode, hanswer]

/-- An `await` for nothing changes nothing. -/
theorem handled_turn_iff {next : Option Text → Rest} {answers : ℕ → Option Text} :
    MediaHandled rt headers body s ((Prog.call .turn next).exec answers s) ↔
      MediaHandled rt headers body s
        ((next (answers 0)).exec (fun n => answers (n + 1)) s) := by
  constructor
  · intro h
    cases h with
    | accepted passes receives state => exact .accepted passes receives state
    | ended registry closes state => exact .ended registry closes state
  · intro h
    cases h with
    | accepted passes receives state => exact .accepted passes receives state
    | ended registry closes state => exact .ended registry closes state

/-- A frame that comes with an overdue challenge is not handled as it should be. -/
theorem not_handled_overdue (options : ServerSessionOptions) (now : ℤ) (next : Rest)
    (answers : ℕ → Option Text) (hs : s.stateValue = .established)
    (hoverdue : s.Overdue options now) :
    ¬ MediaHandled rt headers body s ((checkTimeouts options now next).exec answers s) := by
  rw [exec_checkTimeouts_overdue options now next answers hoverdue]
  obtain ⟨-, hclosed, hcloses⟩ := exec_failWithClose_closes .authExpired
    (utf16 "Authentication challenge timed out.") answers hs
  intro h
  cases h with
  | accepted passes receives state =>
      rw [state, hs] at hclosed
      cases hclosed
  | ended registry closes state =>
      rw [closes] at hcloses
      split at hcloses <;> cases hcloses

/-- **Media frames.**  An established client handles those that pass the checks, and no
others.  A server must have no overdue challenge, either; the last part is about the state in
which it takes up the frame, after its `await`. -/
theorem media_handled_iff (rt : Runtime) (options : ServerSessionOptions) (callbacks : Callbacks)
    (now : ℤ) (headers : MediaHeaders) (body : Bytes) (answers : ℕ → Option Text) {s : Session}
    (hs : s.stateValue = .established) :
    (MediaHandled rt headers body s
        ((clientReceive rt callbacks now (.media headers body)).exec answers s) ↔
      Acceptable rt s.registry headers body) ∧
    (MediaHandled rt headers body s
        ((serverReceive rt options callbacks now (.media headers body)).exec answers s) ↔
      ¬ s.Overdue options now ∧ Acceptable rt s.registry headers body) ∧
    (MediaHandled rt headers body s
        ((serverFrame rt options callbacks now (.media headers body) s).2.exec answers
          (serverFrame rt options callbacks now (.media headers body) s).1) ↔
      Acceptable rt s.registry headers body) := by
  refine ⟨?_, ?_, ?_⟩
  · rw [clientReceive, Prog.exec_critical, clientFrame_media callbacks now hs]
    exact handleMedia_handled_iff callbacks hs answers
  · by_cases hoverdue : s.Overdue options now
    · refine ⟨fun h => (not_handled_overdue options now _ answers hs hoverdue h).elim, ?_⟩
      rintro ⟨hnot, -⟩
      exact absurd hoverdue hnot
    · rw [serverReceive, exec_checkTimeouts options now _ answers hoverdue, and_iff_right hoverdue]
      rw [handled_turn_iff, Prog.exec_critical, serverFrame_media options callbacks now hs]
      exact handleMedia_handled_iff callbacks hs _
  · rw [serverFrame_media options callbacks now hs]
    exact handleMedia_handled_iff callbacks hs answers

end Handled

/-! ### Examples -/

/-- A server to which one stream of messages is uploaded, before the first of them. -/
def uploadServer : Session where
  registry := {
    localRole := .server
    offsets := OffsetTracker.register {} (utf16 "aa") 0
    confirmedStreams := Function.update (fun _ => none) (utf16 "aa")
      (some { contentType := utf16 "text/plain", type := .input, offsetType := .message
              id := utf16 "aa" }) }
  stateValue := .established

def uploadHeaders (offset : ℤ) : MediaHeaders where
  streamId := utf16 "aa"
  offset := offset
  contentType := utf16 "text/plain"

/-- The first message. -/
theorem media_handled_iff_example :
    MediaHandled uploadLink.runtime (uploadHeaders 0) [1] uploadServer
      ((serverReceive uploadLink.runtime uploadLink.options {} 0
        (.media (uploadHeaders 0) [1])).exec (fun _ => some []) uploadServer) := by
  refine ((media_handled_iff uploadLink.runtime uploadLink.options {} 0 (uploadHeaders 0) [1]
    (fun _ => some []) (s := uploadServer) rfl).2.1).mpr ⟨?_, ?_⟩
  · rintro ⟨hnonce, -⟩
    cases hnonce
  · exact ⟨_, 1, rfl, rfl, rfl, rfl, by decide⟩

/-- A server that gets the sixth message instead of the first one neither accepts it nor
closes. -/
theorem gap_is_not_handled :
    ¬ MediaHandled uploadLink.runtime (uploadHeaders 5) [1] uploadServer
      ((serverReceive uploadLink.runtime uploadLink.options {} 0
        (.media (uploadHeaders 5) [1])).exec (fun _ => some []) uploadServer) := by
  intro h
  cases h with
  | accepted passes receives state => exact absurd passes.contiguous (by decide)
  | ended registry closes state => exact absurd closes (by decide)

end CulpeoStream.Typescript
