import CulpeoStream.Lib.Reactions
import CulpeoStream.Typescript.Resume

/-!
# What a failed send leaves behind

`allocate` notes the offset of a frame as the last one sent before it counts the payload, which
may fail.  What has been noted shows in the offset to resume from, so a failed send can be told
from none exactly if that offset has moved (`trackSend_leavesNoTrace_iff`).
-/

namespace CulpeoStream.Typescript

open Utf16 Checks

/-! ### Calls of a registry -/

inductive RegistryCall where
  | trackSend (streamId : Text) (payloadLength : ℕ)
  | trackReceive (streamId : Text) (offset : ℤ) (contentType : Text) (payloadLength : ℕ)
  | snapshot (sessionId version : Text) (bufferWindowMs : ℤ)
  | getConfirmedStreams

inductive RegistryAnswer where
  | sent (frame : Except CulpeoError (Text × ℤ))
  | received (result : Except CulpeoError Unit)
  | taken (snapshot : Except CulpeoError SessionSnapshot)
  | confirmed (streams : Except CulpeoError (List ConfirmedStreamDeclaration))

/-- The registry after a call, and the answer. -/
def RegistryCall.answer (rt : Runtime) (registry : StreamRegistry) :
    RegistryCall → Reactions.Reaction StreamRegistry RegistryAnswer
  | .trackSend streamId payloadLength =>
      ((registry.trackSend rt streamId payloadLength).1,
        [.sent (registry.trackSend rt streamId payloadLength).2])
  | .trackReceive streamId offset contentType payloadLength =>
      match registry.trackReceive rt streamId offset contentType payloadLength with
      | .error e => (registry, [.received (.error e)])
      | .ok next => (next, [.received (.ok ())])
  | .snapshot sessionId version bufferWindowMs =>
      (registry, [.taken (registry.snapshot sessionId version bufferWindowMs)])
  | .getConfirmedStreams => (registry, [.confirmed registry.getConfirmedStreams])

/-- The answers to later calls. -/
def observe (rt : Runtime) (registry : StreamRegistry) (calls : List RegistryCall) :
    List RegistryAnswer :=
  (Reactions.run (RegistryCall.answer rt) registry calls).2

/-- The registries of a program: a new one, and what its calls leave. -/
inductive StreamRegistry.Reachable (rt : Runtime) : StreamRegistry → Prop where
  | create (localRole : EndpointRole) (plannedStreams : List ResumeStreamDeclaration) :
      Reachable rt { localRole, plannedStreams }
  | confirm {registry next : StreamRegistry} {streams : List ConfirmedStreamDeclaration} :
      Reachable rt registry → registry.confirm streams = .ok next → Reachable rt next
  | call {registry : StreamRegistry} (call : RegistryCall) :
      Reachable rt registry → Reachable rt (call.answer rt registry).1

/-! ### Registries that answer alike -/

/-- Positions that differ at most in the last offset sent, and not to be seen. -/
structure OffsetState.Alike (a b : OffsetState) : Prop where
  next : a.nextSendOffset = b.nextSendOffset
  expected : a.expectedReceiveOffset = b.expectedReceiveOffset
  received : a.lastReceivedOffset = b.lastReceivedOffset
  cursor : a.cursor = b.cursor
  /-- What is received next is not behind what was received last. -/
  ahead : a.lastReceivedOffset.getD 0 ≤ a.expectedReceiveOffset

def OffsetTracker.Alike (t t' : OffsetTracker) : Prop :=
  ∀ streamId, Option.Rel OffsetState.Alike (t.states streamId) (t'.states streamId)

/-- Registries whose positions are alike, and that are the same otherwise. -/
inductive StreamRegistry.Alike (r : StreamRegistry) : StreamRegistry → Prop where
  | intro {offsets : OffsetTracker} :
      r.offsets.Alike offsets → StreamRegistry.Alike r { r with offsets }

namespace OffsetTracker.Alike

variable {t t' : OffsetTracker}

theorem set (h : t.Alike t') (streamId : Text) {a b : OffsetState} (hab : a.Alike b) :
    (t.set streamId a).Alike (t'.set streamId b) := by
  intro id
  rw [states_set, states_set]
  split
  · exact .some hab
  · exact h id

/-- A stream is known to both or to none. -/
theorem mustGet (h : t.Alike t') (streamId : Text) :
    (∃ e, t.mustGet streamId = .error e ∧ t'.mustGet streamId = .error e) ∨
      ∃ a b, t.mustGet streamId = .ok a ∧ t'.mustGet streamId = .ok b ∧ a.Alike b := by
  have hid := h streamId
  unfold OffsetTracker.mustGet
  cases hstate : t.states streamId with
  | none =>
      rw [hstate] at hid
      cases hstate' : t'.states streamId with
      | none => exact .inl ⟨_, rfl, rfl⟩
      | some b =>
          rw [hstate'] at hid
          cases hid
  | some a =>
      rw [hstate] at hid
      cases hstate' : t'.states streamId with
      | none =>
          rw [hstate'] at hid
          cases hid
      | some b =>
          rw [hstate'] at hid
          cases hid with
          | some hab => exact .inr ⟨a, b, rfl, rfl, hab⟩

theorem allocate (h : t.Alike t') (rt : Runtime) (streamId : Text) (offsetType : OffsetType)
    (payloadLength : ℕ) (contentType : Text) :
    (t.allocate rt streamId offsetType payloadLength contentType).2 =
        (t'.allocate rt streamId offsetType payloadLength contentType).2 ∧
      (t.allocate rt streamId offsetType payloadLength contentType).1.Alike
        (t'.allocate rt streamId offsetType payloadLength contentType).1 := by
  unfold OffsetTracker.allocate
  rcases h.mustGet streamId with ⟨e, ha, hb⟩ | ⟨a, b, ha, hb, hab⟩
  · rw [ha, hb]
    exact ⟨rfl, h⟩
  rw [ha, hb]
  dsimp only
  rw [hab.next]
  cases computeOffsetIncrement rt offsetType payloadLength contentType with
  | error e =>
      exact ⟨rfl, h.set streamId ⟨rfl, hab.expected, hab.received,
        by simp only [OffsetState.cursor, hab.received], hab.ahead⟩⟩
  | ok n =>
      exact ⟨rfl, h.set streamId ⟨rfl, hab.expected, hab.received,
        by simp only [OffsetState.cursor, hab.received], hab.ahead⟩⟩

theorem recordReceived (h : t.Alike t') (streamId : Text) (offset : ℤ) (increment : ℕ) :
    (∃ e, t.recordReceived streamId offset increment = .error e ∧
        t'.recordReceived streamId offset increment = .error e) ∨
      ∃ u u', t.recordReceived streamId offset increment = .ok u ∧
        t'.recordReceived streamId offset increment = .ok u' ∧ u.Alike u' := by
  unfold OffsetTracker.recordReceived
  rcases h.mustGet streamId with ⟨e, ha, hb⟩ | ⟨a, b, ha, hb, hab⟩
  · rw [ha, hb]
    exact .inl ⟨e, rfl, rfl⟩
  rw [ha, hb]
  dsimp only
  rw [← hab.expected]
  split
  · exact .inl ⟨_, rfl, rfl⟩
  · rename_i hoffset
    refine .inr ⟨_, _, rfl, rfl, h.set streamId ⟨hab.next, rfl, rfl, ?_, ?_⟩⟩
    · -- The new offset is not behind the one that the cursors agreed on.
      have hcursor := hab.cursor
      have hahead := hab.ahead
      simp only [OffsetState.cursor, ← hab.received] at hcursor ⊢
      rw [Option.getD_some]
      omega
    · dsimp only
      rw [Option.getD_some]
      omega

theorem getResumeOffset (h : t.Alike t') (streamId : Text) :
    t.getResumeOffset streamId = t'.getResumeOffset streamId := by
  unfold OffsetTracker.getResumeOffset
  rcases h.mustGet streamId with ⟨e, ha, hb⟩ | ⟨a, b, ha, hb, hab⟩
  · rw [ha, hb]
  · rw [ha, hb]
    exact congrArg Except.ok hab.cursor

end OffsetTracker.Alike

namespace StreamRegistry

variable {rt : Runtime} {r r' : StreamRegistry}

theorem Alike.trackSend (h : r.Alike r') (rt : Runtime) (streamId : Text) (payloadLength : ℕ) :
    (r.trackSend rt streamId payloadLength).2 = (r'.trackSend rt streamId payloadLength).2 ∧
      (r.trackSend rt streamId payloadLength).1.Alike
        (r'.trackSend rt streamId payloadLength).1 := by
  obtain ⟨hoffsets⟩ := h
  rename_i offsets'
  have hget : StreamRegistry.get { r with offsets := offsets' } streamId = r.get streamId := rfl
  unfold StreamRegistry.trackSend
  rw [hget]
  cases r.get streamId with
  | error e => exact ⟨rfl, .intro hoffsets⟩
  | ok stream =>
      dsimp only
      split
      · exact ⟨rfl, .intro hoffsets⟩
      · obtain ⟨hanswer, hnext⟩ := hoffsets.allocate rt streamId stream.offsetType payloadLength
          stream.contentType
        exact ⟨congrArg (Except.map _) hanswer, .intro hnext⟩

theorem Alike.getConfirmedStreams (h : r.Alike r') :
    r.getConfirmedStreams = r'.getConfirmedStreams := by
  obtain ⟨hoffsets⟩ := h
  unfold StreamRegistry.getConfirmedStreams
  congr 1
  funext stream
  rw [hoffsets.getResumeOffset]

/-- The part of `trackReceive` that reads no positions: the checks, and the increment. -/
def receiveIncrement (rt : Runtime) (registry : StreamRegistry) (streamId contentType : Text)
    (payloadLength : ℕ) : Except CulpeoError ℕ :=
  match registry.get streamId with
  | .error e => .error e
  | .ok stream =>
      if !allowsSender stream.type registry.remoteRole then
        .error (protocolError (utf16 "Media direction is invalid for this stream."))
      else if normalizeContentType rt contentType ≠ normalizeContentType rt stream.contentType then
        .error (protocolError
          (utf16 "Media frame content type does not match stream declaration."))
      else computeOffsetIncrement rt stream.offsetType payloadLength stream.contentType

theorem trackReceive_eq (registry : StreamRegistry) (streamId : Text) (offset : ℤ)
    (contentType : Text) (payloadLength : ℕ) :
    registry.trackReceive rt streamId offset contentType payloadLength =
      match registry.receiveIncrement rt streamId contentType payloadLength with
      | .error e => .error e
      | .ok increment =>
          (registry.offsets.recordReceived streamId offset increment).map fun offsets =>
            { registry with offsets } := by
  unfold StreamRegistry.trackReceive receiveIncrement
  cases registry.get streamId with
  | error e => rfl
  | ok stream =>
      by_cases hallowed : allowsSender stream.type registry.remoteRole = true
      · by_cases htype : normalizeContentType rt contentType =
            normalizeContentType rt stream.contentType
        · cases hcount : computeOffsetIncrement rt stream.offsetType payloadLength
              stream.contentType with
          | error e => simp [hallowed, htype, hcount, bind, Except.bind]
          | ok increment =>
              cases hrecord : registry.offsets.recordReceived streamId offset increment with
              | error e => simp [hallowed, htype, hcount, hrecord, bind, Except.bind, Except.map]
              | ok offsets =>
                  simp [hallowed, htype, hcount, hrecord, bind, Except.bind, Except.map, pure,
                    Except.pure]
        · simp [hallowed, htype, bind, Except.bind]
          rfl
      · simp [hallowed, bind, Except.bind]
        rfl

theorem Alike.trackReceive (h : r.Alike r') (rt : Runtime) (streamId : Text) (offset : ℤ)
    (contentType : Text) (payloadLength : ℕ) :
    (∃ e, r.trackReceive rt streamId offset contentType payloadLength = .error e ∧
        r'.trackReceive rt streamId offset contentType payloadLength = .error e) ∨
      ∃ u u', r.trackReceive rt streamId offset contentType payloadLength = .ok u ∧
        r'.trackReceive rt streamId offset contentType payloadLength = .ok u' ∧ u.Alike u' := by
  obtain ⟨hoffsets⟩ := h
  rename_i offsets'
  have hsame : receiveIncrement rt { r with offsets := offsets' } streamId contentType
      payloadLength = r.receiveIncrement rt streamId contentType payloadLength := rfl
  rw [trackReceive_eq, trackReceive_eq, hsame]
  cases r.receiveIncrement rt streamId contentType payloadLength with
  | error e => exact .inl ⟨e, rfl, rfl⟩
  | ok increment =>
      dsimp only
      rcases hoffsets.recordReceived streamId offset increment with
        ⟨e, ha, hb⟩ | ⟨u, u', ha, hb, hnext⟩
      · rw [ha, hb]
        exact .inl ⟨e, rfl, rfl⟩
      · rw [ha, hb]
        exact .inr ⟨_, _, rfl, rfl, .intro hnext⟩

/-- Registries that are alike give the same answer to a call, and stay alike. -/
theorem Alike.answer (h : r.Alike r') (call : RegistryCall) :
    (call.answer rt r).2 = (call.answer rt r').2 ∧
      (call.answer rt r).1.Alike (call.answer rt r').1 := by
  cases call with
  | trackSend streamId payloadLength =>
      obtain ⟨hanswer, hnext⟩ := h.trackSend rt streamId payloadLength
      exact ⟨congrArg (fun answer => [RegistryAnswer.sent answer]) hanswer, hnext⟩
  | trackReceive streamId offset contentType payloadLength =>
      unfold RegistryCall.answer
      dsimp only
      rcases h.trackReceive rt streamId offset contentType payloadLength with
        ⟨e, ha, hb⟩ | ⟨u, u', ha, hb, hnext⟩
      · rw [ha, hb]
        exact ⟨rfl, h⟩
      · rw [ha, hb]
        exact ⟨rfl, hnext⟩
  | snapshot sessionId version bufferWindowMs =>
      refine ⟨?_, h⟩
      show [RegistryAnswer.taken _] = [RegistryAnswer.taken _]
      rw [StreamRegistry.snapshot, StreamRegistry.snapshot, h.getConfirmedStreams]
  | getConfirmedStreams =>
      exact ⟨congrArg (fun answer => [RegistryAnswer.confirmed answer]) h.getConfirmedStreams, h⟩

theorem Alike.observe (h : r.Alike r') (calls : List RegistryCall) :
    observe rt r calls = observe rt r' calls :=
  Reactions.run_alike (R := StreamRegistry.Alike) (fun call h => Alike.answer h call) calls h

end StreamRegistry

/-! ### What holds of every registry -/

/-- What is expected next is not behind what was received last. -/
def OffsetTracker.Ahead (tracker : OffsetTracker) : Prop :=
  ∀ streamId state, tracker.states streamId = some state →
    state.lastReceivedOffset.getD 0 ≤ state.expectedReceiveOffset

/-- A tracker that is ahead has become one that is, and that still has its streams. -/
structure OffsetTracker.Grows (t t' : OffsetTracker) : Prop where
  ahead : t'.Ahead
  known : ∀ streamId, (t.states streamId).isSome = true → (t'.states streamId).isSome = true

namespace OffsetTracker

variable {t : OffsetTracker}

theorem Ahead.grows (h : t.Ahead) : t.Grows t := ⟨h, fun _ hknown => hknown⟩

theorem Grows.trans {t' t'' : OffsetTracker} (h : t.Grows t') (h' : t'.Grows t'') :
    t.Grows t'' :=
  ⟨h'.ahead, fun streamId hknown => h'.known streamId (h.known streamId hknown)⟩

theorem Ahead.set (h : t.Ahead) (streamId : Text) {state : OffsetState}
    (hstate : state.lastReceivedOffset.getD 0 ≤ state.expectedReceiveOffset) :
    t.Grows (t.set streamId state) := by
  refine ⟨fun id found hfound => ?_, fun id hknown => ?_⟩
  · rw [states_set] at hfound
    split at hfound
    · cases hfound
      exact hstate
    · exact h id found hfound
  · rw [states_set]
    split
    · rfl
    · exact hknown

theorem Ahead.allocate (h : t.Ahead) (rt : Runtime) (streamId : Text) (offsetType : OffsetType)
    (payloadLength : ℕ) (contentType : Text) :
    t.Grows (t.allocate rt streamId offsetType payloadLength contentType).1 := by
  unfold OffsetTracker.allocate
  cases hget : t.mustGet streamId with
  | error e => exact h.grows
  | ok state =>
      have hstate := h streamId state (mustGet_ok hget)
      dsimp only
      split
      · exact h.set streamId hstate
      · exact h.set streamId hstate

theorem Ahead.recordReceived (h : t.Ahead) {t' : OffsetTracker} {streamId : Text} {offset : ℤ}
    {increment : ℕ} (hrecord : t.recordReceived streamId offset increment = .ok t') :
    t.Grows t' := by
  unfold OffsetTracker.recordReceived at hrecord
  split at hrecord
  · cases hrecord
  split at hrecord
  · cases hrecord
  · rename_i hoffset
    cases hrecord
    refine h.set streamId ?_
    dsimp only
    rw [Option.getD_some]
    omega

theorem states_register_ne {streamId id : Text} (h : id ≠ streamId) (offset : ℤ) :
    (t.register streamId offset).states id = t.states id := by
  unfold register
  split
  · rfl
  · rw [states_set, if_neg h]

theorem Ahead.registerStream (h : t.Ahead) {t' : OffsetTracker}
    {stream : ConfirmedStreamDeclaration}
    (hregister : StreamRegistry.registerStream t stream = .ok t') :
    t.Grows t' ∧ (t'.states stream.id).isSome = true := by
  unfold StreamRegistry.registerStream at hregister
  cases hoffset : stream.resumeOffset with
  | none =>
      rw [hoffset] at hregister
      cases hregister
      rw [Option.getD_none]
      unfold register
      cases hstate : t.states stream.id with
      | some state => exact ⟨h.grows, by rw [hstate]; rfl⟩
      | none => exact ⟨h.set stream.id (le_refl _), by rw [states_set, if_pos rfl]; rfl⟩
  | some offset =>
      rw [hoffset] at hregister
      dsimp only [Option.getD_some, seedResumeOffset] at hregister
      split at hregister
      · cases hregister
      · cases hregister
        -- The stream has been seeded, and the others are as they were.
        have hother : ∀ new id, id ≠ stream.id →
            ((t.register stream.id offset).set stream.id new).states id = t.states id := by
          intro new id hid
          rw [states_set, if_neg hid, states_register_ne hid]
        refine ⟨⟨fun id found hfound => ?_, fun id hknown => ?_⟩, by
          rw [states_set, if_pos rfl]; rfl⟩
        · by_cases hid : id = stream.id
          · rw [states_set, if_pos hid] at hfound
            cases hfound
            exact le_refl _
          · rw [hother _ id hid] at hfound
            exact h id found hfound
        · by_cases hid : id = stream.id
          · rw [states_set, if_pos hid]
            rfl
          · rw [hother _ id hid]
            exact hknown

theorem Ahead.registerStreams {streams : List ConfirmedStreamDeclaration} :
    ∀ {t t' : OffsetTracker}, t.Ahead →
      streams.foldlM StreamRegistry.registerStream t = .ok t' →
      t.Grows t' ∧ ∀ stream ∈ streams, (t'.states stream.id).isSome = true := by
  induction streams with
  | nil =>
      intro t t' h hregister
      cases hregister
      exact ⟨h.grows, List.forall_mem_nil _⟩
  | cons stream rest ih =>
      intro t t' h hregister
      obtain ⟨middle, hfirst, hrest⟩ := exists_of_bind_ok hregister
      obtain ⟨hgrows, hknown⟩ := h.registerStream hfirst
      obtain ⟨hgrows', hknown'⟩ := ih hgrows.ahead hrest
      exact ⟨hgrows.trans hgrows',
        List.forall_mem_cons.mpr ⟨hgrows'.known stream.id hknown, hknown'⟩⟩

end OffsetTracker

namespace StreamRegistry

/-- What holds of the registries of a program. -/
structure Sound (registry : StreamRegistry) : Prop where
  ahead : registry.offsets.Ahead
  known : ∀ stream ∈ registry.confirmedOrder,
    (registry.offsets.states stream.id).isSome = true
  listed : ∀ streamId stream, registry.confirmedStreams streamId = some stream →
    stream ∈ registry.confirmedOrder ∧ stream.id = streamId

theorem mem_of_streamMap {streams : List ConfirmedStreamDeclaration} {streamId : Text}
    {stream : ConfirmedStreamDeclaration} (h : streamMap streams streamId = some stream) :
    stream ∈ streams ∧ stream.id = streamId := by
  induction streams using List.reverseRecOn with
  | nil => cases h
  | append_singleton rest last ih =>
      rw [streamMap, List.foldl_append, List.foldl_cons, List.foldl_nil, Function.update_apply] at h
      split at h
      · cases h
        rename_i hid
        exact ⟨by simp, hid.symm⟩
      · obtain ⟨hmem, hid⟩ := ih h
        exact ⟨by simp [hmem], hid⟩

theorem Sound.with_offsets {registry : StreamRegistry} (h : registry.Sound) {t : OffsetTracker}
    (ht : registry.offsets.Grows t) : Sound { registry with offsets := t } :=
  ⟨ht.ahead, fun stream hmem => ht.known stream.id (h.known stream hmem), h.listed⟩

theorem Sound.confirm {registry next : StreamRegistry} (h : registry.Sound)
    {streams : List ConfirmedStreamDeclaration} (hconfirm : registry.confirm streams = .ok next) :
    next.Sound := by
  unfold StreamRegistry.confirm at hconfirm
  obtain ⟨-, -, hconfirm⟩ := exists_of_bind_ok hconfirm
  obtain ⟨offsets, hoffsets, hconfirm⟩ := exists_of_bind_ok hconfirm
  cases hconfirm
  obtain ⟨hgrows, hknown⟩ := h.ahead.registerStreams hoffsets
  exact ⟨hgrows.ahead, hknown, fun _ _ => mem_of_streamMap⟩

theorem Sound.trackSend {registry : StreamRegistry} (h : registry.Sound) (rt : Runtime)
    (streamId : Text) (payloadLength : ℕ) :
    (registry.trackSend rt streamId payloadLength).1.Sound := by
  unfold StreamRegistry.trackSend
  split
  · exact h
  · split
    · exact h
    · exact h.with_offsets (h.ahead.allocate rt streamId _ payloadLength _)

theorem Sound.trackReceive {rt : Runtime} {registry next : StreamRegistry} (h : registry.Sound)
    {streamId contentType : Text} {offset : ℤ} {payloadLength : ℕ}
    (hreceive : registry.trackReceive rt streamId offset contentType payloadLength = .ok next) :
    next.Sound := by
  rw [trackReceive_eq] at hreceive
  split at hreceive
  · cases hreceive
  · obtain ⟨offsets, hoffsets, rfl⟩ := map_ok_iff.mp hreceive
    exact h.with_offsets (h.ahead.recordReceived hoffsets)

theorem Sound.answer {registry : StreamRegistry} (h : registry.Sound) (rt : Runtime)
    (call : RegistryCall) : (call.answer rt registry).1.Sound := by
  cases call with
  | trackSend streamId payloadLength => exact h.trackSend rt streamId payloadLength
  | trackReceive streamId offset contentType payloadLength =>
      unfold RegistryCall.answer
      dsimp only
      split
      · exact h
      · exact h.trackReceive ‹_›
  | snapshot sessionId version bufferWindowMs => exact h
  | getConfirmedStreams => exact h

theorem Reachable.sound {rt : Runtime} {registry : StreamRegistry} (h : registry.Reachable rt) :
    registry.Sound := by
  induction h with
  | create localRole plannedStreams => exact ⟨nofun, nofun, nofun⟩
  | confirm _ hconfirm ih => exact ih.confirm hconfirm
  | call call _ ih => exact ih.answer rt call

/-- The confirmed streams with the cursors of their positions. -/
theorem Sound.getConfirmedStreams_eq {registry : StreamRegistry} (h : registry.Sound) :
    registry.getConfirmedStreams = .ok (registry.confirmedOrder.map fun stream =>
      { stream with resumeOffset := some (registry.offsets.cursor stream.id) }) := by
  have hoffset : ∀ stream ∈ registry.confirmedOrder,
      registry.offsets.getResumeOffset stream.id = .ok (registry.offsets.cursor stream.id) := by
    intro stream hmem
    obtain ⟨state, hstate⟩ := Option.isSome_iff_exists.mp (h.known stream hmem)
    simp only [OffsetTracker.getResumeOffset, OffsetTracker.mustGet, hstate,
      OffsetTracker.cursor, Option.map_some, Option.getD_some, OffsetState.cursor]
  unfold StreamRegistry.getConfirmedStreams
  generalize registry.confirmedOrder = order at hoffset ⊢
  induction order with
  | nil => rfl
  | cons stream rest ih =>
      obtain ⟨hstream, hrest⟩ := List.forall_mem_cons.mp hoffset
      rw [List.mapM_cons, hstream, ih hrest]
      rfl

end StreamRegistry

/-! ### The failed send -/

/-- The next offset, noted as the last one sent, gives the same offset to resume from. -/
def OffsetState.Unmoved (state : OffsetState) : Prop :=
  max (state.lastReceivedOffset.getD 0) state.nextSendOffset =
    max (state.lastReceivedOffset.getD 0) (state.lastSentOffset.getD 0)

section FailedSend

variable {rt : Runtime} {registry : StreamRegistry} {streamId : Text} {payloadLength : ℕ}

/-- A send that fails otherwise than on its payload changes nothing; one that fails there notes
the offset. -/
theorem trackSend_error_cases {e : CulpeoError}
    (h : (registry.trackSend rt streamId payloadLength).2 = .error e) :
    (registry.trackSend rt streamId payloadLength).1 = registry ∨
      ∃ stream state, registry.confirmedStreams streamId = some stream ∧
        allowsSender stream.type registry.localRole = true ∧
        registry.offsets.states streamId = some state ∧
        computeOffsetIncrement rt stream.offsetType payloadLength stream.contentType = .error e ∧
        (registry.trackSend rt streamId payloadLength).1 = { registry with
          offsets := registry.offsets.set streamId
            { state with lastSentOffset := some state.nextSendOffset } } := by
  unfold StreamRegistry.trackSend at h ⊢
  cases hget : registry.get streamId with
  | error _ => exact .inl rfl
  | ok stream =>
      rw [hget] at h
      dsimp only at h ⊢
      split
      · exact .inl rfl
      · rename_i hallowed
        rw [if_neg hallowed] at h
        unfold OffsetTracker.allocate at h ⊢
        cases hstate : registry.offsets.mustGet streamId with
        | error _ => exact .inl rfl
        | ok state =>
            rw [hstate] at h
            dsimp only at h ⊢
            cases hcount : computeOffsetIncrement rt stream.offsetType payloadLength
                stream.contentType with
            | error e' =>
                rw [hcount] at h
                cases h
                -- The offset was noted before the payload was counted.
                refine .inr ⟨stream, state, ?_, ?_, mustGet_ok hstate, hcount, rfl⟩
                · unfold StreamRegistry.get at hget
                  split at hget
                  · cases hget
                    assumption
                  · cases hget
                · rw [Bool.not_eq_true, Bool.not_eq_false'] at hallowed
                  exact hallowed
            | ok n =>
                rw [hcount] at h
                cases h

/-- A send that fails on its payload. -/
theorem trackSend_uncounted {stream : ConfirmedStreamDeclaration} {state : OffsetState}
    {e : CulpeoError} (hstream : registry.confirmedStreams streamId = some stream)
    (hallowed : allowsSender stream.type registry.localRole = true)
    (hstate : registry.offsets.states streamId = some state)
    (hcount : computeOffsetIncrement rt stream.offsetType payloadLength stream.contentType =
      .error e) :
    registry.trackSend rt streamId payloadLength =
      ({ registry with
          offsets := registry.offsets.set streamId
            { state with lastSentOffset := some state.nextSendOffset } }, .error e) := by
  simp [StreamRegistry.trackSend, StreamRegistry.get, hstream, hallowed, OffsetTracker.allocate,
    OffsetTracker.mustGet, hstate, hcount, Except.map]

/-- **A failed send leaves no trace** exactly if it does not fail on its payload, or the offset
that it has noted does not move the one to resume from. -/
theorem trackSend_leavesNoTrace_iff (h : registry.Reachable rt) :
    ((∃ e, (registry.trackSend rt streamId payloadLength).2 = .error e) →
      ∀ calls, observe rt (registry.trackSend rt streamId payloadLength).1 calls =
        observe rt registry calls) ↔
    ∀ stream state e, registry.confirmedStreams streamId = some stream →
      allowsSender stream.type registry.localRole = true →
      registry.offsets.states streamId = some state →
      computeOffsetIncrement rt stream.offsetType payloadLength stream.contentType = .error e →
      state.Unmoved := by
  have hsound := h.sound
  constructor
  · intro traceless stream state e hstream hallowed hstate hcount
    have hsend := trackSend_uncounted hstream hallowed hstate hcount
    -- The call that tells the difference.
    have hseen := traceless ⟨e, by rw [hsend]⟩ [.getConfirmedStreams]
    have hsound' := hsound.trackSend rt streamId payloadLength
    rw [hsend] at hseen hsound'
    have hsame : StreamRegistry.getConfirmedStreams _ = StreamRegistry.getConfirmedStreams _ :=
      RegistryAnswer.confirmed.inj (List.cons.inj hseen).1
    rw [hsound'.getConfirmedStreams_eq, hsound.getConfirmedStreams_eq] at hsame
    obtain ⟨hmem, hid⟩ := hsound.listed streamId stream hstream
    have hcursor := List.map_inj_left.mp (Except.ok.inj hsame) stream hmem
    rw [ConfirmedStreamDeclaration.mk.injEq] at hcursor
    have hmoved := Option.some.inj hcursor.2.2
    simp only [OffsetTracker.cursor, hid, OffsetTracker.states_set, if_pos, hstate,
      Option.map_some, Option.getD_some, OffsetState.cursor] at hmoved
    exact hmoved
  · rintro hunmoved ⟨e, herror⟩ calls
    rcases trackSend_error_cases herror with
      hkept | ⟨stream, state, hstream, hallowed, hstate, hcount, hnoted⟩
    · rw [hkept]
    · rw [hnoted]
      refine (StreamRegistry.Alike.observe (.intro fun id => ?_) calls).symm
      rw [OffsetTracker.states_set]
      split
      · rename_i hid
        rw [hid, hstate]
        exact .some ⟨rfl, rfl, rfl, (hunmoved stream state e hstream hallowed hstate hcount).symm,
          hsound.ahead streamId state hstate⟩
      · cases hother : registry.offsets.states id with
        | none => exact .none
        | some other => exact .some ⟨rfl, rfl, rfl, rfl, hsound.ahead id other hother⟩

end FailedSend

/-! ### Half a sample -/

/-- Samples of two bytes. -/
def speech : ConfirmedStreamDeclaration where
  contentType := utf16 "audio/pcm;rate=8000;channels=1;bits=16"
  type := .output
  offsetType := .time
  id := utf16 "speech"

def speechRegistry : StreamRegistry where
  localRole := .server
  offsets := ({} : OffsetTracker).register speech.id 0
  confirmedStreams := StreamRegistry.streamMap [speech]
  confirmedOrder := [speech]

theorem speechRegistry_reachable : speechRegistry.Reachable ⟨id⟩ :=
  have hconfirm : StreamRegistry.confirm { localRole := .server } [speech] = .ok speechRegistry :=
    rfl
  .confirm (.create .server []) hconfirm

/-- What is thrown when a payload ends within a sample. -/
def unaligned : CulpeoError :=
  protocolError (utf16 "PCM payload length must align to complete samples.")

/-- After a frame of two samples, half a sample is not sent, but moves the offset to resume
from. -/
theorem not_trackSend_leavesNoTrace :
    ¬ ∀ (rt : Runtime) (registry : StreamRegistry) (streamId : Text) (payloadLength : ℕ),
      registry.Reachable rt →
      (∃ e, (registry.trackSend rt streamId payloadLength).2 = .error e) →
      ∀ calls, observe rt (registry.trackSend rt streamId payloadLength).1 calls =
        observe rt registry calls := by
  intro noTrace
  have same := noTrace ⟨id⟩ (speechRegistry.trackSend ⟨id⟩ speech.id 4).1 speech.id 1
    (.call (.trackSend speech.id 4) speechRegistry_reachable) ⟨unaligned, by decide +kernel⟩
    [.getConfirmedStreams]
  have streams : StreamRegistry.getConfirmedStreams _ = StreamRegistry.getConfirmedStreams _ :=
    RegistryAnswer.confirmed.inj (List.cons.inj same).1
  have offsets := congrArg (fun streams => streams.toOption.map
    (List.map ConfirmedStreamDeclaration.resumeOffset)) streams
  exact absurd offsets (by decide +kernel)

theorem trackSend_leavesNoTrace_speech :
    observe ⟨id⟩ (speechRegistry.trackSend ⟨id⟩ speech.id 1).1 [.getConfirmedStreams] =
      observe ⟨id⟩ speechRegistry [.getConfirmedStreams] := by
  refine (trackSend_leavesNoTrace_iff speechRegistry_reachable).mpr ?_
    ⟨unaligned, by decide +kernel⟩ [.getConfirmedStreams]
  intro stream state e _ _ hstate _
  -- Nothing has been sent yet, and the next offset is zero.
  have hfirst : state = ⟨0, 0, none, none⟩ := (Option.some.inj hstate).symm
  rw [hfirst]
  rfl

end CulpeoStream.Typescript
