import Mathlib.Algebra.Order.BigOperators.Group.List
import Mathlib.Algebra.Order.Ring.Int
import CulpeoStream.Lib.History
import CulpeoStream.Lib.SharedCounter
import CulpeoStream.Dotnet.Media

/-!
# Duplex streams of a C# connection

`HandleIncomingMedia` and `SendMediaAsync` both use `CurrentOffset`, for the frames of
the client and for those of the server.  As in the C++ session, a duplex stream is a
`SharedCounter`, and the two directions are independent only as long as no frame follows
a frame of nonzero increment in the other direction.

The additions of the source wrap around, so the offsets also have to stay below `2^63`.
-/

namespace CulpeoStream.Dotnet

open Message Utf16 History Ledger SharedCounter

/-! ### Calls -/

/-- The calls that are about media: `ReceiveAsync` of a media frame, and
`SendMediaAsync`. -/
inductive MediaCall where
  | receive (now : Ticks) (frame : CulpeoMessage)
  | send (now : Ticks) (streamId : Text) (payload : Bytes) (timestamp : Int64)

/-- What a call returns. -/
inductive Reply where
  | processed (result : Except Exn CulpeoProcessResult)
  | message (result : Except Exn CulpeoMessage)

def MediaCall.act (rt : Runtime) (call : MediaCall) (e : Endpoint) : Endpoint × Reply :=
  match call with
  | .receive now frame =>
      ((e.receiveMedia rt now frame).1, .processed (e.receiveMedia rt now frame).2)
  | .send now streamId payload timestamp =>
      ((e.sendMedia now streamId payload timestamp).1,
        .message (e.sendMedia now streamId payload timestamp).2)

abbrev MediaRecord := Record Endpoint MediaCall (Endpoint × Reply)

/-- The records of a run. -/
def mediaHistory (rt : Runtime) (e : Endpoint) (calls : List MediaCall) : List MediaRecord :=
  history (MediaCall.act rt) Prod.fst e calls

/-- The reply rejects a frame because of its offset. -/
def Reply.rejectsOffset : Reply → Bool
  | .processed (.ok result) => result.outboundFrames.any fun frame =>
      frame.reason = some (utf16 "Media frame offset is out of sequence.")
  | _ => false

/-- The message of the stream that a call returns for sending. -/
def sentMessages (id : Text) (rec : MediaRecord) : List CulpeoMessage :=
  match rec.result.2 with
  | .message (.ok message) => if message.streamId = some id then [message] else []
  | _ => []

/-- How far a body moves the offset of a stream; not at all when it is refused. -/
def increment (info : StreamState) (body : Bytes) : ℤ :=
  match info.getIncrement body.length with
  | .ok n => n
  | .error _ => 0

def CulpeoMessage.position (message : CulpeoMessage) : Option ℤ :=
  message.offset.map Int64.toInt

def CulpeoMessage.length (info : StreamState) (message : CulpeoMessage) : ℤ :=
  increment info message.body

/-! ### Traffic on a stream -/

/-- What passes over a stream: a frame that is received, or a payload to be sent. -/
inductive Traffic where
  | received (frame : CulpeoMessage)
  | sending (payload : Bytes)
  deriving DecidableEq

def Traffic.isInward : Traffic → Bool
  | received _ => true
  | sending _ => false

/-- How far it moves the offset of the stream. -/
def Traffic.length (info : StreamState) : Traffic → ℤ
  | received frame => frame.length info
  | sending payload => increment info payload

def Traffic.entry (info : StreamState) : Traffic → Entry ℤ
  | received frame => .inward frame.position (frame.length info)
  | sending payload => .outward (increment info payload)

def trafficOn (id : Text) : MediaCall → Option Traffic
  | .receive _ frame => if frame.streamId = some id then some (.received frame) else none
  | .send _ streamId payload _ => if streamId = id then some (.sending payload) else none

/-- The traffic on a stream. -/
def traffic (id : Text) (calls : List MediaCall) : List Traffic :=
  calls.filterMap (trafficOn id)

/-- The frames received on a stream. -/
def receivedFrames (id : Text) (calls : List MediaCall) : List CulpeoMessage :=
  (traffic id calls).filterMap fun
    | .received frame => some frame
    | .sending _ => none

/-- Where a stream stands. -/
def position (id : Text) (e : Endpoint) : Option ℤ :=
  (e.openStream id).map fun now => now.currentOffset.toInt

/-- The entry that a call offers to the offset of a stream. -/
def offer (id : Text) (info : StreamState) (call : MediaCall) : Option (Entry ℤ) :=
  (trafficOn id call).map (Traffic.entry info)

/-- What a call returns for sending on a stream, as positions and lengths. -/
def stampsOf (id : Text) (info : StreamState) (rec : MediaRecord) : List (Option ℤ × ℤ) :=
  (sentMessages id rec).map fun m => (m.position, m.length info)

/-! ### Offsets -/

/-- The two states of a stream count in the same unit. -/
def SameUnit (info now : StreamState) : Prop :=
  now.offsetType = info.offsetType ∧ now.pcmStride = info.pcmStride

theorem increment_congr {info now : StreamState} (h : SameUnit info now) (body : Bytes) :
    increment info body = increment now body := by
  simp only [increment, StreamState.getIncrement, h.1, h.2]

theorem increment_nonneg (info : StreamState) (body : Bytes) : 0 ≤ increment info body := by
  unfold increment
  split
  · exact Int.natCast_nonneg _
  · exact Int.le_refl 0

/-- A successful advance adds the increment, when the sum is below `2^63`. -/
theorem advanceOffset_ok {stream advanced : StreamState} {body : Bytes}
    (h : stream.advanceOffset body.length = .ok advanced)
    (hbound : stream.currentOffset.toInt + increment stream body < 2 ^ 63) :
    advanced.currentOffset.toInt = stream.currentOffset.toInt + increment stream body ∧
      advanced.id = stream.id ∧ SameUnit stream advanced := by
  unfold StreamState.advanceOffset at h
  unfold increment at hbound ⊢
  cases hinc : stream.getIncrement body.length with
  | error ex => simp [hinc] at h
  | ok n =>
      simp only [hinc, Except.ok.injEq] at h hbound ⊢
      subst h
      exact ⟨toInt_add_ofNat hbound, rfl, rfl, rfl⟩

/-! ### Media frames -/

theorem checkPendingAuthTimeout_some {e e' : Endpoint} {now : Ticks}
    {result : CulpeoProcessResult} (h : e.checkPendingAuthTimeout now = some (e', result)) :
    e'.connection.state = .closed ∧ Reply.rejectsOffset (.processed (.ok result)) = false := by
  unfold Endpoint.checkPendingAuthTimeout at h
  split at h
  · split at h
    · cases h
    · cases h
      exact ⟨rfl, by decide⟩
  · cases h

theorem receiveMedia_closed (rt : Runtime) {e : Endpoint} (now : Ticks) (frame : CulpeoMessage)
    (h : e.connection.state = .closed) :
    (e.receiveMedia rt now frame).1.connection.state = .closed ∧
      Reply.rejectsOffset (.processed (e.receiveMedia rt now frame).2) = false := by
  unfold Endpoint.receiveMedia
  cases htimeout : e.checkPendingAuthTimeout now with
  | some timedOut => exact checkPendingAuthTimeout_some htimeout
  | none =>
      simp only [h]
      exact ⟨trivial, rfl⟩

/-- A violation ends the session; the reply names it. -/
theorem rejectsOffset_closeOnViolation {e : Endpoint} {now : Ticks} {reason : Text}
    (h : Reply.rejectsOffset (.processed (e.closeOnViolation now (protocolError reason)).2) =
      true) : reason = utf16 "Media frame offset is out of sequence." := by
  simpa [Reply.rejectsOffset, Endpoint.closeOnViolation, protocolError,
    Endpoint.closeWithCloseFrame, Endpoint.closeFrame] using h

/-- **What becomes of a media frame on an open stream**: it ends the session, or it is
accepted at the offset of the stream. -/
theorem receiveMedia_open (rt : Runtime) {e : Endpoint} (now : Ticks) {frame : CulpeoMessage}
    {id : Text} {stream : StreamState} (hopen : e.openStream id = some stream)
    (hid : frame.streamId = some id) :
    ((e.receiveMedia rt now frame).1.connection.state = .closed ∧
      (Reply.rejectsOffset (.processed (e.receiveMedia rt now frame).2) = true →
        frame.offset ≠ some stream.currentOffset)) ∨
    ∃ advanced, frame.offset = some stream.currentOffset ∧
      (stream.recordFrame stream.currentOffset now).advanceOffset frame.body.length =
        .ok advanced ∧
      (e.receiveMedia rt now frame).1 = e.modifySnapshot (·.putStream advanced) ∧
      Reply.rejectsOffset (.processed (e.receiveMedia rt now frame).2) = false := by
  have hstate := openStream_established hopen
  have hopen' : e.openStream (frame.streamId.getD []) = some stream := by
    rw [hid]
    exact hopen
  unfold Endpoint.receiveMedia
  cases htimeout : e.checkPendingAuthTimeout now with
  | some timedOut =>
      obtain ⟨hclosed, hquiet⟩ := checkPendingAuthTimeout_some htimeout
      refine .inl ⟨hclosed, fun hrejects => ?_⟩
      rw [hquiet] at hrejects
      cases hrejects
  | none =>
      simp only [hstate]
      unfold Endpoint.handleIncomingMedia
      cases hcheck : e.checkMedia rt frame with
      | error ex =>
          obtain ⟨reason, rfl, hreason⟩ := checkMedia_error hopen' hcheck
          exact .inl ⟨state_closeOnViolation e now reason, fun hrejects =>
            hreason (rejectsOffset_closeOnViolation hrejects)⟩
      | ok checked =>
          obtain ⟨stream', offset⟩ := checked
          obtain ⟨id', hid', hstream, hoffset, rfl⟩ := checkMedia_ok hcheck
          obtain rfl : id = id' := Option.some.inj (hid.symm.trans hid')
          obtain rfl : stream = stream' := Option.some.inj (hopen.symm.trans hstream)
          dsimp only
          cases hadvance : (stream.recordFrame stream.currentOffset now).advanceOffset
              frame.body.length with
          | error ex =>
              -- A payload of half a sample is a violation too, but not one of the offset.
              obtain ⟨reason, rfl, hreason⟩ := advanceOffset_error hadvance
              exact .inl ⟨state_closeOnViolation _ now reason, fun hrejects =>
                absurd (rejectsOffset_closeOnViolation hrejects) hreason⟩
          | ok advanced => exact .inr ⟨advanced, hoffset, rfl, rfl, rfl⟩

/-! ### Calls on a stream -/

/-- The session is over, or the stream is there and counts in the same unit. -/
def Serves (id : Text) (info : StreamState) (e : Endpoint) : Prop :=
  e.connection.state = .closed ∨ ∃ now, e.openStream id = some now ∧ SameUnit info now

theorem position_closed {id : Text} {e : Endpoint} (h : e.connection.state = .closed) :
    position id e = none := by
  rw [position, openStream_eq_none (by rw [h]; nofun), Option.map_none]

theorem position_open {id : Text} {e : Endpoint} {now : StreamState}
    (h : e.openStream id = some now) : position id e = some now.currentOffset.toInt := by
  rw [position, h, Option.map_some]

/-- A stream on which a frame was recorded and that was advanced, and the place it stands
at then. -/
theorem open_advanced {e : Endpoint} {id : Text} {info stream advanced : StreamState}
    {offset : Int64} {now : Ticks} {body : Bytes} (hopen : e.openStream id = some stream)
    (hunit : SameUnit info stream)
    (hadvance : (stream.recordFrame offset now).advanceOffset body.length = .ok advanced)
    (hbound : stream.currentOffset.toInt + increment info body < 2 ^ 63) :
    Serves id info (e.modifySnapshot (·.putStream advanced)) ∧
      position id (e.modifySnapshot (·.putStream advanced)) =
        some (stream.currentOffset.toInt + increment info body) := by
  have hunit' : SameUnit info (stream.recordFrame offset now) := hunit
  have hoffset : (stream.recordFrame offset now).currentOffset = stream.currentOffset := rfl
  rw [increment_congr hunit', ← hoffset] at hbound ⊢
  obtain ⟨hadd, hid, hsame⟩ := advanceOffset_ok hadvance hbound
  have hopen' : (e.modifySnapshot (·.putStream advanced)).openStream id = some advanced := by
    have hself : id = advanced.id := hid ▸ (openStream_id hopen).symm
    rw [openStream_putStream, if_pos hself, hopen, Option.map_some]
  refine ⟨.inr ⟨advanced, hopen', hsame.1.trans hunit'.1, hsame.2.trans hunit'.2⟩, ?_⟩
  rw [position_open hopen', hadd]

theorem legal_receive {rt : Runtime} {e : Endpoint} {id : Text} {info : StreamState}
    {now : Ticks} {frame : CulpeoMessage} (hs : Serves id info e)
    (hid : frame.streamId = some id)
    (hbound : ∀ p, position id e = some p → p + frame.length info < 2 ^ 63) :
    Serves id info (e.receiveMedia rt now frame).1 ∧
      Legal True ⟨position id e, .inward frame.position (frame.length info),
        position id (e.receiveMedia rt now frame).1, []⟩ := by
  rcases hs with hs | ⟨stream, hopen, hunit⟩
  · obtain ⟨hclosed, -⟩ := receiveMedia_closed rt now frame hs
    rw [position_closed hs, position_closed hclosed]
    exact ⟨.inl hclosed, .finished _⟩
  · have hposition := position_open hopen
    rcases receiveMedia_open rt now hopen hid with ⟨hclosed, -⟩ |
      ⟨advanced, hoffset, hadvance, hafter, -⟩
    · rw [hposition, position_closed hclosed]
      exact ⟨.inl hclosed, .ended _ _ _⟩
    · obtain ⟨hserves, hnext⟩ := open_advanced hopen hunit hadvance
        (hbound _ hposition)
      rw [hafter, hposition, hnext, CulpeoMessage.position, hoffset, Option.map_some]
      exact ⟨hserves, .accepted _ _⟩

theorem legal_send {e : Endpoint} {id : Text} {info : StreamState} {now : Ticks}
    {payload : Bytes} {timestamp : Int64} (hs : Serves id info e)
    (hbound : ∀ p, position id e = some p → p + increment info payload < 2 ^ 63) :
    Serves id info (e.sendMedia now id payload timestamp).1 ∧
      Legal True ⟨position id e, .outward (increment info payload),
        position id (e.sendMedia now id payload timestamp).1,
        stampsOf id info ⟨e, .send now id payload timestamp,
          (e.sendMedia now id payload timestamp).1,
          .message (e.sendMedia now id payload timestamp).2⟩⟩ := by
  unfold Endpoint.sendMedia
  rcases hs with hs | ⟨stream, hopen, hunit⟩
  · have hclosed : e.openStream id = none := openStream_eq_none (by rw [hs]; nofun) id
    cases hstream : e.getStreamOrThrow id with
    | ok stream =>
        rw [openStream_of_getStreamOrThrow hstream] at hclosed
        cases hclosed
    | error ex =>
        simp only [position_closed hs]
        exact ⟨.inl hs, .finished _⟩
  · have hposition := position_open hopen
    rw [getStreamOrThrow_of_openStream hopen]
    dsimp only
    split
    · rw [hposition]
      exact ⟨.inr ⟨stream, hopen, hunit⟩, .refused _ _⟩
    · cases hadvance : (stream.recordFrame stream.currentOffset now).advanceOffset
          payload.length with
      | error ex =>
          -- Only a checkpoint has been added.
          have hopen' : (e.modifySnapshot (·.putStream
              (stream.recordFrame stream.currentOffset now))).openStream id =
              some (stream.recordFrame stream.currentOffset now) := by
            have hself : id = (stream.recordFrame stream.currentOffset now).id :=
              (openStream_id hopen).symm
            rw [openStream_putStream, if_pos hself, hopen, Option.map_some]
          rw [hposition, position_open hopen']
          exact ⟨.inr ⟨_, hopen', hunit⟩, .refused _ _⟩
      | ok advanced =>
          obtain ⟨hserves, hnext⟩ := open_advanced hopen hunit hadvance
            (hbound _ hposition)
          have hsent : (Endpoint.mediaMessage stream payload timestamp).streamId = some id :=
            congrArg some (openStream_id hopen)
          simp only [stampsOf, sentMessages, hsent, if_true, List.map_cons, List.map_nil]
          rw [hposition, hnext]
          exact ⟨hserves, .sent trivial _ _⟩

/-- Another stream may have changed. -/
def Elsewhere (id : Text) (e e' : Endpoint) : Prop :=
  e'.connection.state = .closed ∨
    e'.connection.state = e.connection.state ∧ e'.openStream id = e.openStream id

theorem elsewhere_putStream {e : Endpoint} {id : Text} {new : StreamState} (h : id ≠ new.id) :
    Elsewhere id e (e.modifySnapshot (·.putStream new)) := by
  refine .inr ⟨by rw [connection_modifySnapshot], ?_⟩
  rw [openStream_putStream, if_neg h]

theorem receiveMedia_elsewhere {rt : Runtime} {e : Endpoint} {id : Text} {now : Ticks}
    {frame : CulpeoMessage}
    (hstate : e.connection.state = .closed ∨ e.connection.state = .established)
    (hid : frame.streamId ≠ some id) : Elsewhere id e (e.receiveMedia rt now frame).1 := by
  rcases hstate with hstate | hstate
  · exact .inl (receiveMedia_closed rt now frame hstate).1
  · unfold Endpoint.receiveMedia
    cases htimeout : e.checkPendingAuthTimeout now with
    | some timedOut => exact .inl (checkPendingAuthTimeout_some htimeout).1
    | none =>
        simp only [hstate]
        unfold Endpoint.handleIncomingMedia
        cases hcheck : e.checkMedia rt frame with
        | error ex =>
            cases ex with
            | protocolValidation code reason =>
                exact .inl (state_closeWithCloseFrame e now code reason)
            | _ => exact .inr ⟨rfl, rfl⟩
        | ok checked =>
            obtain ⟨stream, offset⟩ := checked
            obtain ⟨id', hid', hstream, -, -⟩ := checkMedia_ok hcheck
            dsimp only
            cases hadvance : (stream.recordFrame offset now).advanceOffset frame.body.length with
            | error ex =>
                obtain ⟨reason, rfl, -⟩ := advanceOffset_error hadvance
                exact .inl (state_closeOnViolation _ now reason)
            | ok advanced =>
                refine elsewhere_putStream fun hsame => hid ?_
                have hstreamId : stream.id = id' := openStream_id hstream
                have hadvanced : advanced.id = id' := (advanceOffset_id hadvance).trans hstreamId
                rw [hid', hsame, hadvanced]

theorem sendMedia_elsewhere {e : Endpoint} {id streamId : Text} {now : Ticks} {payload : Bytes}
    {timestamp : Int64} (hid : streamId ≠ id) :
    Elsewhere id e (e.sendMedia now streamId payload timestamp).1 ∧
      ∀ message, (e.sendMedia now streamId payload timestamp).2 = .ok message →
        message.streamId = some streamId := by
  have hsame : Elsewhere id e e := .inr ⟨rfl, rfl⟩
  unfold Endpoint.sendMedia
  cases hstream : e.getStreamOrThrow streamId with
  | error ex => exact ⟨hsame, fun message hmessage => by cases hmessage⟩
  | ok stream =>
      have hstreamId : stream.id = streamId :=
        openStream_id (openStream_of_getStreamOrThrow hstream)
      dsimp only
      split
      · exact ⟨hsame, fun message hmessage => by cases hmessage⟩
      · cases hadvance : (stream.recordFrame stream.currentOffset now).advanceOffset
            payload.length with
        | error ex =>
            refine ⟨elsewhere_putStream fun heq => hid ?_, fun message hmessage => ?_⟩
            · rw [heq]
              exact hstreamId.symm
            · cases hmessage
        | ok advanced =>
            have hadvanced : advanced.id = streamId := (advanceOffset_id hadvance).trans hstreamId
            refine ⟨elsewhere_putStream fun heq => hid ?_, fun message hmessage => ?_⟩
            · rw [heq, hadvanced]
            · cases hmessage
              exact congrArg some hstreamId

/-- A frame is rejected for its offset only on a stream that stands elsewhere. -/
theorem act_rejects {rt : Runtime} {e : Endpoint} {id : Text} {info : StreamState}
    {call : MediaCall} {frame : CulpeoMessage} (hs : Serves id info e)
    (ht : trafficOn id call = some (.received frame))
    (hrejects : (call.act rt e).2.rejectsOffset = true) :
    ∃ p, position id e = some p ∧ frame.position ≠ some p := by
  cases call with
  | send now streamId payload timestamp => cases hrejects
  | receive now frame' =>
      rw [trafficOn] at ht
      split at ht
      · rename_i hid
        cases ht
        rcases hs with hs | ⟨stream, hopen, -⟩
        · have hquiet := (receiveMedia_closed rt now frame hs).2
          rw [MediaCall.act, hquiet] at hrejects
          cases hrejects
        · refine ⟨_, position_open hopen, ?_⟩
          rcases receiveMedia_open rt now hopen hid with ⟨-, hmismatch⟩ | ⟨_, -, -, -, hquiet⟩
          · have hne := hmismatch hrejects
            rw [CulpeoMessage.position]
            intro hsame
            obtain ⟨offset, hoffset, heq⟩ := Option.map_eq_some_iff.mp hsame
            rw [hoffset, Int64.toInt_inj.mp heq] at hne
            exact hne rfl
          · rw [MediaCall.act, hquiet] at hrejects
            cases hrejects
      · cases ht

/-! ### Runs -/

/-- What the run keeps: the stream is served, and what is still to come keeps its offset
below `2^63`. -/
structure Kept (id : Text) (info : StreamState) (e : Endpoint) (calls : List MediaCall) :
    Prop where
  serves : Serves id info e
  bound : ∀ p, position id e = some p →
    p + total (Traffic.length info) (traffic id calls) < 2 ^ 63

theorem Serves.state {id : Text} {info : StreamState} {e : Endpoint} (h : Serves id info e) :
    e.connection.state = .closed ∨ e.connection.state = .established := by
  rcases h with h | ⟨now, hopen, -⟩
  · exact .inl h
  · exact .inr (openStream_established hopen)

theorem Serves.elsewhere {id : Text} {info : StreamState} {e e' : Endpoint}
    (h : Serves id info e) (he : Elsewhere id e e') :
    Serves id info e' ∧ (position id e' = position id e ∨ position id e' = none) := by
  rcases he with hclosed | ⟨hstate, hopen⟩
  · exact ⟨.inl hclosed, .inr (position_closed hclosed)⟩
  · refine ⟨?_, .inl (by rw [position, position, hopen])⟩
    rw [Serves, hstate, hopen]
    exact h

theorem total_nonneg (info : StreamState) (ts : List Traffic) :
    0 ≤ total (Traffic.length info) ts := by
  refine List.sum_nonneg ?_
  intro n hn
  obtain ⟨t, -, rfl⟩ := List.mem_map.mp hn
  cases t <;> exact increment_nonneg info _

/-- **Every call on the stream is an act on its offset.** -/
theorem legal_act {rt : Runtime} {e : Endpoint} {id : Text} {info : StreamState}
    {call : MediaCall} {t : Traffic} (hs : Serves id info e) (ht : trafficOn id call = some t)
    (hbound : ∀ p, position id e = some p → p + t.length info < 2 ^ 63) :
    Serves id info (call.act rt e).1 ∧
      Legal True ⟨position id e, t.entry info, position id (call.act rt e).1,
        stampsOf id info ⟨e, call, call.act rt e⟩⟩ := by
  cases call with
  | receive now frame =>
      rw [trafficOn] at ht
      split at ht
      · cases ht
        exact legal_receive hs ‹_› hbound
      · cases ht
  | send now streamId payload timestamp =>
      rw [trafficOn] at ht
      split at ht
      · rename_i hsame
        subst hsame
        cases ht
        exact legal_send hs hbound
      · cases ht

theorem act_elsewhere {rt : Runtime} {e : Endpoint} {id : Text} {info : StreamState}
    {call : MediaCall} (hs : Serves id info e) (ht : trafficOn id call = none) :
    Serves id info (call.act rt e).1 ∧
      (position id (call.act rt e).1 = position id e ∨ position id (call.act rt e).1 = none) ∧
      sentMessages id ⟨e, call, call.act rt e⟩ = [] := by
  cases call with
  | receive now frame =>
      have hid : frame.streamId ≠ some id := by
        intro hsame
        rw [trafficOn, if_pos hsame] at ht
        cases ht
      obtain ⟨hserves, hposition⟩ := hs.elsewhere (receiveMedia_elsewhere hs.state hid)
      exact ⟨hserves, hposition, rfl⟩
  | send now streamId payload timestamp =>
      have hid : streamId ≠ id := by
        intro hsame
        rw [trafficOn, if_pos hsame] at ht
        cases ht
      obtain ⟨helsewhere, hmessage⟩ := @sendMedia_elsewhere e id streamId now payload timestamp hid
      obtain ⟨hserves, hposition⟩ := hs.elsewhere helsewhere
      refine ⟨hserves, hposition, ?_⟩
      rw [sentMessages, MediaCall.act]
      cases hresult : (e.sendMedia now streamId payload timestamp).2 with
      | error ex => rfl
      | ok message =>
          dsimp only
          rw [if_neg]
          rw [hmessage message hresult, Option.some.injEq]
          exact hid

/-- **A stream of a connection is a shared counter.** -/
theorem simulates (rt : Runtime) (id : Text) (info : StreamState) :
    Simulates (MediaCall.act rt) Prod.fst (offer id info) (position id) (stampsOf id info) True
      (Kept id info) := by
  have hbound : ∀ {e : Endpoint} {call : MediaCall} {calls : List MediaCall} {t : Traffic},
      Kept id info e (call :: calls) → trafficOn id call = some t → ∀ p, position id e = some p →
      p + t.length info + total (Traffic.length info) (traffic id calls) < 2 ^ 63 := by
    intro e call calls t hkept ht p hp
    have h := hkept.bound p hp
    rw [traffic, List.filterMap_cons, ht, total_cons, ← add_assoc] at h
    exact h
  have hstep : ∀ {e : Endpoint} {call : MediaCall} {calls : List MediaCall} {t : Traffic},
      Kept id info e (call :: calls) → trafficOn id call = some t → ∀ p, position id e = some p →
      p + t.length info < 2 ^ 63 := by
    intro e call calls t hkept ht p hp
    have h := hbound hkept ht p hp
    have hrest := total_nonneg info (traffic id calls)
    omega
  refine ⟨fun e call calls hkept => ?_, fun e call calls entry hkept hoffer => ?_,
    fun e call calls hkept hoffer => ?_⟩
  · -- The bound is kept: what a call adds to the offset it takes from what is to come.
    cases ht : trafficOn id call with
    | none =>
        obtain ⟨hserves, hposition, -⟩ := @act_elsewhere rt e id info call hkept.serves ht
        refine ⟨hserves, fun p hp => ?_⟩
        have h := hkept.bound p (by
          rcases hposition with hsame | hnone
          · rw [← hsame, hp]
          · rw [hnone] at hp
            cases hp)
        rw [traffic, List.filterMap_cons, ht] at h
        exact h
    | some t =>
        obtain ⟨hserves, hlegal⟩ := @legal_act rt e id info call t hkept.serves ht
          (hstep hkept ht)
        refine ⟨hserves, fun q hq => ?_⟩
        obtain ⟨p, hp, hmove⟩ := hlegal.after hq
        have h := hbound hkept ht p hp
        have hlen : (t.entry info).len = t.length info := by cases t <;> rfl
        have hnonneg : 0 ≤ t.length info := by cases t <;> exact increment_nonneg info _
        rcases hmove with rfl | rfl
        · omega
        · rw [hlen]
          exact h
  · obtain ⟨t, ht, rfl⟩ := Option.map_eq_some_iff.mp hoffer
    exact (legal_act hkept.serves ht (hstep hkept ht)).2
  · obtain ⟨-, hposition, hsilent⟩ := @act_elsewhere rt e id info call hkept.serves
      (Option.map_eq_none_iff.mp hoffer)
    exact ⟨hposition, by rw [stampsOf, hsilent, List.map_nil]⟩

theorem filterMap_offer (info : StreamState) (id : Text) (calls : List MediaCall) :
    calls.filterMap (offer id info) = (traffic id calls).map (Traffic.entry info) := by
  rw [traffic, List.map_filterMap]
  rfl

theorem filter_entries (info : StreamState) (id : Text) (calls : List MediaCall) :
    ((traffic id calls).map (Traffic.entry info)).filter Entry.isInward =
      (receivedFrames id calls).map fun frame =>
        .inward frame.position (frame.length info) := by
  apply filter_inward
  · rintro (frame | payload) frame' h <;> cases h
    rfl
  · rintro (frame | payload) h <;> cases h
    rfl

/-- **Duplex streams of a connection.**  In every run of media calls of an established
connection, if the frames received on a stream are contiguous from its offset, on this
stream no frame follows a frame of nonzero increment in the other direction, and all
increments together stay below `2^63`, then none of the frames is rejected for its
offset, and the messages sent on the stream are contiguous from its offset. -/
theorem duplex_run (rt : Runtime) (e : Endpoint) (id : Text) (info : StreamState)
    (hopen : e.openStream id = some info) (calls : List MediaCall)
    (hreceived : Contiguous CulpeoMessage.position (CulpeoMessage.length info)
      info.currentOffset.toInt (receivedFrames id calls))
    (honeWay : OneWay Traffic.isInward (Traffic.length info) (traffic id calls))
    (hbound : info.currentOffset.toInt + total (Traffic.length info) (traffic id calls) <
      2 ^ 63) :
    (∀ rec ∈ mediaHistory rt e calls, ∀ frame,
      trafficOn id rec.call = some (.received frame) → rec.result.2.rejectsOffset = false) ∧
    Contiguous CulpeoMessage.position (CulpeoMessage.length info) info.currentOffset.toInt
      ((mediaHistory rt e calls).flatMap (sentMessages id)) := by
  have hkept : Kept id info e calls := by
    refine ⟨.inr ⟨info, hopen, rfl, rfl⟩, fun p hp => ?_⟩
    rw [position_open hopen, Option.some.injEq] at hp
    rwa [← hp]
  have hsimulates := simulates rt id info
  obtain ⟨hmeets, hsent⟩ := hsimulates.independent hkept (position_open hopen)
    (by
      rw [filterMap_offer, oneWay_map]
      refine honeWay.imp fun {t u} h hne => ?_
      cases t <;> cases u <;> exact h hne)
    (by
      rw [filterMap_offer, filter_entries, contiguous_map]
      exact hreceived)
  have hmessages : ∀ records : List MediaRecord, records.flatMap (stampsOf id info) =
      (records.flatMap (sentMessages id)).map fun m => (m.position, m.length info) := by
    intro records
    rw [List.map_flatMap]
    rfl
  rw [hmessages, contiguous_map] at hsent
  refine ⟨fun rec hrec frame ht => ?_, hsent⟩
  obtain ⟨hact, rest, hbefore⟩ := hsimulates.before hkept rec hrec
  have hoffer : offer id info rec.call = some (Traffic.entry info (.received frame)) := by
    rw [offer, ht, Option.map_some]
  by_contra hrejects
  rw [hact, Bool.not_eq_false] at hrejects
  obtain ⟨p, hp, hne⟩ := act_rejects hbefore.serves ht hrejects
  exact hne (hmeets rec hrec _ p hoffer rfl hp)

end CulpeoStream.Dotnet
