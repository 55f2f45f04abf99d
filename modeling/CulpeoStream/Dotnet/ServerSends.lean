import Mathlib.Data.List.Nodup
import CulpeoStream.Lib.Ledger
import CulpeoStream.Lib.Reactions
import CulpeoStream.Dotnet.Duplex

/-!
# Concurrent sends of a C# server

`WebSocketTransportAdapter.SendMediaAsync` first lets `CulpeoConnection.SendMediaAsync` make the
frame, which reads the offset of the stream and then advances it, and takes the lock for the
send when the frame has been serialized.  Nothing orders the calls before that.

The frames of a stream are contiguous on the WebSocket as long as its calls do not read the
offset while another one is about to advance it, and take their turns at the socket in the order
in which they have advanced the offset (`written_contiguous`).
-/

namespace CulpeoStream.Dotnet

open Message Utf16

/-! ### The adapter -/

/-- How far a call of `SendMediaAsync` has come. -/
inductive SendPoint where
  /-- It has not got beyond `GetStreamOrThrow` and the check of the stream's type. -/
  | entered
  /-- It has the stream. -/
  | found
  /-- `var offset = stream.CurrentOffset;` -/
  | read (offset : Int64)
  /-- `stream.RecordFrame(offset, …);` -/
  | recorded (offset : Int64)
  /-- `CurrentOffset += …` has computed the sum. -/
  | summed (offset sum : Int64)
  /-- `CulpeoConnection.SendMediaAsync` has returned the frame. -/
  | made (frame : CulpeoMessage)
  | serialized (frame : CulpeoMessage)
  /-- It holds the lock. -/
  | locked (frame : CulpeoMessage)
  /-- The socket is open. -/
  | sending (frame : CulpeoMessage)
  /-- In the `finally`. -/
  | leaving
  /-- It has returned or thrown. -/
  | ended

structure SendCall where
  streamId : Text
  payload : Bytes
  timestamp : Int64
  point : SendPoint := .entered

structure WebSocketTransportAdapter where
  /-- `_connection`. -/
  connection : Endpoint
  /-- `_closed`. -/
  closed : Bool := false
  /-- The calls of `SendMediaAsync`. -/
  calls : List SendCall := []

/-- How something ends that a call waits for. -/
inductive SendAnswer where
  | done
  | throws
  | now (time : Ticks)
  | isOpen (isOpen : Bool)

/-- What happens to an adapter: a call is made or goes on, or another method has changed the
fields. -/
inductive SendMove where
  | sendMediaAsync (streamId : Text) (payload : Bytes) (timestamp : Int64)
  | resume (call : ℕ) (answer : SendAnswer)
  | other (connection : Endpoint) (closed : Bool)

/-- What can be observed of the call with a number: it has advanced the offset of a stream past
a frame, or written a frame to the WebSocket. -/
inductive SendEvent where
  | advanced (call : ℕ) (frame : CulpeoMessage)
  | wrote (call : ℕ) (frame : CulpeoMessage)

/-- The stream object with an id. -/
def Endpoint.streamObject (e : Endpoint) (streamId : Text) : Option StreamState :=
  e.snapshot.bind (·.stream streamId)

/-- The call is between the lock and its release. -/
def SendPoint.holdsLock : SendPoint → Bool
  | .locked _ | .sending _ | .leaving => true
  | _ => false

/-- The call has read the offset and has not advanced it. -/
def SendPoint.allocates : SendPoint → Bool
  | .read _ | .recorded _ | .summed _ _ => true
  | _ => false

/-- The frame that a call has. -/
def SendPoint.frame : SendPoint → Option CulpeoMessage
  | .made frame | .serialized frame | .locked frame | .sending frame => some frame
  | _ => none

namespace WebSocketTransportAdapter

open Reactions (Reaction)

abbrev Sends := Reaction WebSocketTransportAdapter SendEvent

/-- The call is at another point. -/
def moveTo (a : WebSocketTransportAdapter) (i : ℕ) (call : SendCall) (point : SendPoint) :
    WebSocketTransportAdapter :=
  { a with calls := a.calls.set i { call with point } }

/-- The stream object has changed. -/
def putStream (a : WebSocketTransportAdapter) (stream : StreamState) :
    WebSocketTransportAdapter :=
  { a with connection := a.connection.modifySnapshot (·.putStream stream) }

/-- The checks before a stream is used. -/
def mayUse (a : WebSocketTransportAdapter) (streamId : Text) : Bool :=
  !a.closed &&
    match a.connection.getStreamOrThrow streamId with
    | .ok stream => stream.type ≠ .input
    | .error _ => false

/-- The steps of `CulpeoConnection.SendMediaAsync` on its stream. -/
def onStream (a : WebSocketTransportAdapter) (i : ℕ) (call : SendCall) (stream : StreamState)
    (answer : SendAnswer) : Sends :=
  match call.point with
  | .found => (a.moveTo i call (.read stream.currentOffset), [])
  | .read offset =>
      match answer with
      | .now time =>
          ((a.putStream (stream.recordFrame offset time)).moveTo i call (.recorded offset), [])
      | _ => (a, [])
  | .recorded offset =>
      match stream.getIncrement call.payload.length with
      | .error _ => (a.moveTo i call .ended, [])
      | .ok n => (a.moveTo i call (.summed offset (stream.currentOffset + Int64.ofNat n)), [])
  | .summed offset sum =>
      let frame := Endpoint.mediaMessage { stream with currentOffset := offset } call.payload
        call.timestamp
      ((a.putStream { stream with currentOffset := sum }).moveTo i call (.made frame),
        [.advanced i frame])
  | _ => (a, [])

def allocate (a : WebSocketTransportAdapter) (i : ℕ) (call : SendCall) (answer : SendAnswer) :
    Sends :=
  match a.connection.streamObject call.streamId with
  | none => (a, [])
  | some stream => a.onStream i call stream answer

/-- A call goes on. -/
def resume (a : WebSocketTransportAdapter) (i : ℕ) (call : SendCall) (answer : SendAnswer) :
    Sends :=
  match call.point, answer with
  -- A token that is cancelled throws here, in the serializer, and for the lock.
  | .entered, .throws | .made _, .throws | .serialized _, .throws => (a.moveTo i call .ended, [])
  | .entered, _ => (a.moveTo i call (if a.mayUse call.streamId then .found else .ended), [])
  | .made frame, _ => (a.moveTo i call (.serialized frame), [])
  | .serialized frame, _ =>
      (if a.calls.any (·.point.holdsLock) then a else a.moveTo i call (.locked frame), [])
  | .locked frame, .isOpen isOpen =>
      (a.moveTo i call (if isOpen then .sending frame else .leaving), [])
  | .locked _, _ => (a, [])
  | .sending _, .throws => (a.moveTo i call .leaving, [])
  | .sending frame, _ => (a.moveTo i call .leaving, [.wrote i frame])
  | .leaving, _ => (a.moveTo i call .ended, [])
  | .ended, _ => (a, [])
  | .found, _ | .read _, _ | .recorded _, _ | .summed _ _, _ => a.allocate i call answer

/-- One move of an adapter. -/
def step (a : WebSocketTransportAdapter) : SendMove → Sends
  | .sendMediaAsync streamId payload timestamp =>
      ({ a with calls := a.calls ++ [{ streamId, payload, timestamp }] }, [])
  | .resume i answer =>
      match a.calls[i]? with
      | none => (a, [])
      | some call => a.resume i call answer
  | .other connection closed => ({ a with connection, closed }, [])

/-! ### The frames of one stream -/

/-- A frame of the call with a number. -/
structure CallFrame where
  call : ℕ
  frame : CulpeoMessage

/-- The frames of a stream past which its offset has been advanced. -/
def advancesOn (streamId : Text) (events : List SendEvent) : List CallFrame :=
  events.filterMap fun
    | .advanced call frame => if frame.streamId = some streamId then some ⟨call, frame⟩ else none
    | .wrote _ _ => none

/-- The frames of a stream that have been written to the WebSocket. -/
def writtenOn (streamId : Text) (events : List SendEvent) : List CallFrame :=
  events.filterMap fun
    | .wrote call frame => if frame.streamId = some streamId then some ⟨call, frame⟩ else none
    | .advanced _ _ => none

/-- The payload of the call can be counted on the stream. -/
def Countable (info : StreamState) (call : SendCall) : Prop :=
  ∃ n, info.getIncrement call.payload.length = .ok n

/-- The call has read the offset of the stream, and is going to advance it. -/
def Allocating (info : StreamState) (call : SendCall) : Prop :=
  call.streamId = info.id ∧ Countable info call ∧ call.point.allocates = true

/-- The calls take their turns on a stream, and other methods leave its offset as it is. -/
structure InTurn (info : StreamState) (a : WebSocketTransportAdapter) (events : List SendEvent)
    (m : SendMove) : Prop where
  other : ∀ connection closed, m = .other connection closed →
    ∀ now, a.connection.streamObject info.id = some now →
      ∃ now', connection.streamObject info.id = some now' ∧ SameUnit now now' ∧
        now'.currentOffset = now.currentOffset
  /-- A call reads the offset while no other one is going to advance it. -/
  reads : ∀ i answer call, m = .resume i answer → a.calls[i]? = some call →
    call.streamId = info.id → call.point = .found → Countable info call →
    ∀ other ∈ a.calls, ¬ Allocating info other
  /-- The sum is a `long`. -/
  fits : ∀ i answer call offset n now, m = .resume i answer → a.calls[i]? = some call →
    call.streamId = info.id → call.point = .recorded offset →
    info.getIncrement call.payload.length = .ok n →
    a.connection.streamObject info.id = some now → now.currentOffset.toInt + n < 2 ^ 63
  /-- A call writes its frame when the frames before it have been written. -/
  writes : ∀ i answer call frame, m = .resume i answer → a.calls[i]? = some call →
    call.streamId = info.id → call.point = .sending frame → answer ≠ .throws →
    ((advancesOn info.id events)[(writtenOn info.id events).length]?).map CallFrame.call = some i

/-! ### The invariant -/

/-- The offset that comes next after some advances. -/
def nextOffset (info : StreamState) (advances : List CallFrame) : ℤ :=
  info.currentOffset.toInt + Ledger.total (CulpeoMessage.length info) (advances.map CallFrame.frame)

/-- The number is not that of a call that has advanced the offset. -/
def NotAmong (i : ℕ) (advances : List CallFrame) : Prop := ∀ x ∈ advances, x.call ≠ i

/-- What a call on the stream has in its variables is right. -/
def PointRight (info : StreamState) (advances : List CallFrame) (i : ℕ) (call : SendCall) :
    Prop :=
  match call.point with
  | .entered | .found => NotAmong i advances
  | .read offset | .recorded offset => NotAmong i advances ∧
      (Countable info call → offset.toInt = nextOffset info advances)
  | .summed offset sum => NotAmong i advances ∧ offset.toInt = nextOffset info advances ∧
      ∃ n, info.getIncrement call.payload.length = .ok n ∧
        sum.toInt = nextOffset info advances + n
  | .made frame | .serialized frame | .locked frame | .sending frame => ⟨i, frame⟩ ∈ advances
  | .leaving | .ended => True

/-- What holds of the calls, for a stream that began as `info`, after the advances of its offset
and the frames written for it so far. -/
structure Tally (info : StreamState) (a : WebSocketTransportAdapter)
    (advances written : List CallFrame) : Prop where
  stream : ∃ now, a.connection.streamObject info.id = some now ∧ SameUnit info now ∧
    now.currentOffset.toInt = nextOffset info advances
  contiguous : Ledger.Contiguous CulpeoMessage.position (CulpeoMessage.length info)
    info.currentOffset.toInt (advances.map CallFrame.frame)
  before : written <+: advances
  once : (advances.map CallFrame.call).Nodup
  entered : ∀ x ∈ advances, x.call < a.calls.length
  points : ∀ (i : ℕ) (call : SendCall), a.calls[i]? = some call → call.streamId = info.id →
    PointRight info advances i call
  /-- At most one call is going to advance the offset. -/
  alone : ∀ (i j : ℕ) (call call' : SendCall), a.calls[i]? = some call →
    a.calls[j]? = some call' → Allocating info call → Allocating info call' → i = j
  frames : ∀ (i : ℕ) (call : SendCall) (frame : CulpeoMessage), a.calls[i]? = some call →
    call.point.frame = some frame → frame.streamId = some call.streamId

variable {info : StreamState} {a : WebSocketTransportAdapter} {advances written : List CallFrame}
  {i : ℕ} {call : SendCall} {frame : CulpeoMessage}

/-! ### Streams and calls -/

theorem streamObject_id {e : Endpoint} {id : Text} {stream : StreamState}
    (h : e.streamObject id = some stream) : stream.id = id := by
  obtain ⟨snapshot, -, hstream⟩ := Option.bind_eq_some_iff.mp h
  simpa using List.find?_some hstream

theorem streamObject_of_openStream {e : Endpoint} {id : Text} {stream : StreamState}
    (h : e.openStream id = some stream) : e.streamObject id = some stream := by
  unfold Endpoint.openStream at h
  split at h
  · exact h
  · cases h

/-- Changing a stream is not seen by the others. -/
theorem streamObject_putStream (stream : StreamState) (id : Text) :
    (a.putStream stream).connection.streamObject id =
      if id = stream.id then (a.connection.streamObject id).map fun _ => stream
      else a.connection.streamObject id := by
  unfold putStream Endpoint.streamObject
  rw [snapshot_modifySnapshot]
  cases a.connection.snapshot with
  | none => simp
  | some snapshot => exact Table.find?_replace StreamState.id stream id snapshot.streams

/-- What the list of calls holds after one of them has moved. -/
theorem calls_moveTo {point : SendPoint} {j : ℕ} {found : SendCall}
    (h : (a.moveTo i call point).calls[j]? = some found) :
    (j = i ∧ found = { call with point }) ∨ (j ≠ i ∧ a.calls[j]? = some found) := by
  unfold moveTo at h
  rw [List.getElem?_set] at h
  split at h
  · rename_i hij
    split at h
    · exact .inl ⟨hij.symm, (Option.some.inj h).symm⟩
    · cases h
  · rename_i hij
    exact .inr ⟨fun hji => hij hji.symm, h⟩

theorem length_moveTo (point : SendPoint) :
    (a.moveTo i call point).calls.length = a.calls.length :=
  List.length_set

/-! ### What keeps the invariant -/

/-- A call moves, and neither a stream nor the events change. -/
theorem Tally.moveTo (h : Tally info a advances written) (hcall : a.calls[i]? = some call)
    (point : SendPoint)
    (hpoint : call.streamId = info.id →
      PointRight info advances i { call with point })
    (hframe : ∀ frame, point.frame = some frame → frame.streamId = some call.streamId)
    (halone : Allocating info { call with point } → Allocating info call ∨
      ∀ other ∈ a.calls, ¬ Allocating info other) :
    Tally info (a.moveTo i call point) advances written := by
  refine ⟨h.stream, h.contiguous, h.before, h.once, fun x hx => ?_, fun j found hj hid => ?_,
    fun j k found found' hj hk hfound hfound' => ?_, fun j found frame hj hframe' => ?_⟩
  · rw [length_moveTo]
    exact h.entered x hx
  · obtain ⟨rfl, rfl⟩ | ⟨-, hj⟩ := calls_moveTo hj
    · exact hpoint hid
    · exact h.points j found hj hid
  · obtain ⟨rfl, rfl⟩ | ⟨-, hj'⟩ := calls_moveTo hj <;>
      obtain ⟨rfl, rfl⟩ | ⟨-, hk'⟩ := calls_moveTo hk
    · rfl
    · obtain hsame | hnone := halone hfound
      · exact h.alone j k call found' hcall hk' hsame hfound'
      · exact absurd hfound' (hnone found' (List.mem_of_getElem? hk'))
    · obtain hsame | hnone := halone hfound'
      · exact h.alone j k found call hj' hcall hfound hsame
      · exact absurd hfound (hnone found (List.mem_of_getElem? hj'))
    · exact h.alone j k found found' hj' hk' hfound hfound'
  · obtain ⟨rfl, rfl⟩ | ⟨-, hj⟩ := calls_moveTo hj
    · exact hframe frame hframe'
    · exact h.frames j found frame hj hframe'

/-- A stream changes, and its offset does not; or another one does. -/
theorem Tally.putStream (h : Tally info a advances written) (stream : StreamState)
    (hsame : stream.id = info.id → ∀ now, a.connection.streamObject info.id = some now →
      SameUnit now stream ∧ stream.currentOffset = now.currentOffset) :
    Tally info (a.putStream stream) advances written := by
  refine { h with stream := ?_ }
  obtain ⟨now, hnow, hunit, hoffset⟩ := h.stream
  rw [streamObject_putStream, hnow]
  split
  · rename_i hid
    obtain ⟨hunit', hoffset'⟩ := hsame hid.symm now hnow
    exact ⟨stream, rfl, ⟨hunit'.1.trans hunit.1, hunit'.2.trans hunit.2⟩, by rw [hoffset', hoffset]⟩
  · exact ⟨now, rfl, hunit, hoffset⟩

theorem advancesOn_append (id : Text) (events events' : List SendEvent) :
    advancesOn id (events ++ events') = advancesOn id events ++ advancesOn id events' :=
  List.filterMap_append

theorem writtenOn_append (id : Text) (events events' : List SendEvent) :
    writtenOn id (events ++ events') = writtenOn id events ++ writtenOn id events' :=
  List.filterMap_append

theorem nextOffset_concat (advances : List CallFrame) (x : CallFrame) :
    nextOffset info (advances ++ [x]) = nextOffset info advances + x.frame.length info := by
  rw [nextOffset, nextOffset, List.map_append, Ledger.total_append, add_assoc]
  simp

/-- What the other calls have stays right when a call advances the offset, since none of them is
going to. -/
theorem PointRight.advance {x : CallFrame} (h : PointRight info advances i call) (hne : x.call ≠ i)
    (hid : call.streamId = info.id) (hidle : ¬ Allocating info call) :
    PointRight info (advances ++ [x]) i call := by
  have hnot : NotAmong i advances → NotAmong i (advances ++ [x]) := by
    intro hadvances y hy
    obtain hy | hy := List.mem_append.mp hy
    · exact hadvances y hy
    · rwa [List.mem_singleton.mp hy]
  unfold PointRight at h ⊢
  cases hpoint : call.point with
  | entered | found =>
      rw [hpoint] at h
      exact hnot h
  | read offset | recorded offset =>
      rw [hpoint] at h
      exact ⟨hnot h.1, fun hcountable => absurd ⟨hid, hcountable, by rw [hpoint]; rfl⟩ hidle⟩
  | summed offset sum =>
      rw [hpoint] at h
      obtain ⟨-, -, n, hn, -⟩ := h
      exact absurd ⟨hid, ⟨n, hn⟩, by rw [hpoint]; rfl⟩ hidle
  | made frame | serialized frame | locked frame | sending frame =>
      rw [hpoint] at h
      exact List.mem_append_left _ h
  | leaving | ended => trivial

/-- **Advancing the offset.** -/
theorem Tally.advance (h : Tally info a advances written) {offset sum : Int64}
    (hcall : a.calls[i]? = some call) (hpoint : call.point = .summed offset sum)
    (hid : call.streamId = info.id) {stream : StreamState}
    (hstream : a.connection.streamObject info.id = some stream) (frame : CulpeoMessage)
    (hframe : frame.streamId = some call.streamId) (hoffset : frame.offset = some offset)
    (hbody : frame.body = call.payload) :
    Tally info ((a.putStream { stream with currentOffset := sum }).moveTo i call (.made frame))
      (advances ++ [⟨i, frame⟩]) written := by
  obtain ⟨now, hnow, hunit, -⟩ := h.stream
  obtain rfl : stream = now := Option.some.inj (hstream.symm.trans hnow)
  have hright := h.points i call hcall hid
  rw [PointRight, hpoint] at hright
  obtain ⟨hnot, hoffset', n, hn, hsum⟩ := hright
  have hallocating : Allocating info call := ⟨hid, ⟨n, hn⟩, by rw [hpoint]; rfl⟩
  have hlength : frame.length info = n := by
    rw [CulpeoMessage.length, increment, hbody, hn]
  -- The new advance is the last one; the other calls keep theirs, as only this one was allocating.
  refine ⟨?_, ?_, h.before.trans (List.prefix_append _ _), ?_, fun x hx => ?_,
    fun j found hj hfound => ?_, fun j k found found' hj hk hfound hfound' => ?_,
    fun j found frame' hj hframe' => ?_⟩
  · refine ⟨{ stream with currentOffset := sum }, ?_, hunit, ?_⟩
    · have hkey : info.id = stream.id := (streamObject_id hstream).symm
      exact (streamObject_putStream _ _).trans (by rw [if_pos hkey, hstream]; rfl)
    · rw [nextOffset_concat, hlength]
      exact hsum
  · rw [List.map_append, Ledger.contiguous_append]
    refine ⟨h.contiguous, Ledger.contiguous_cons.mpr ⟨?_, Ledger.contiguous_nil⟩⟩
    rw [CulpeoMessage.position, hoffset, Option.map_some, hoffset']
    rfl
  · rw [List.map_append, List.nodup_append]
    refine ⟨h.once, List.nodup_singleton _, ?_⟩
    rintro j hj k hk rfl
    obtain ⟨x, hx, rfl⟩ := List.mem_map.mp hj
    exact hnot x hx (by simpa using hk)
  · rw [length_moveTo]
    obtain hx | hx := List.mem_append.mp hx
    · exact h.entered x hx
    · rw [List.mem_singleton.mp hx]
      exact (List.getElem?_eq_some_iff.mp hcall).1
  · obtain ⟨rfl, rfl⟩ | ⟨hne, hj⟩ := calls_moveTo hj
    · exact List.mem_append_right _ (List.mem_singleton.mpr rfl)
    · exact (h.points j found hj hfound).advance hne.symm hfound
        fun hbusy => hne (h.alone j i found call hj hcall hbusy hallocating)
  · obtain ⟨rfl, rfl⟩ | ⟨-, hj'⟩ := calls_moveTo hj
    · exact absurd hfound.2.2 (by simp [SendPoint.allocates])
    · obtain ⟨rfl, rfl⟩ | ⟨-, hk'⟩ := calls_moveTo hk
      · exact absurd hfound'.2.2 (by simp [SendPoint.allocates])
      · exact h.alone j k found found' hj' hk' hfound hfound'
  · obtain ⟨rfl, rfl⟩ | ⟨-, hj⟩ := calls_moveTo hj
    · obtain rfl : frame = frame' := Option.some.inj hframe'
      exact hframe
    · exact h.frames j found frame' hj hframe'

/-- A call is made. -/
theorem Tally.enter (h : Tally info a advances written) (new : SendCall)
    (hnew : new.point = .entered) :
    Tally info { a with calls := a.calls ++ [new] } advances written := by
  have hfound : ∀ {j found}, (a.calls ++ [new])[j]? = some found →
      a.calls[j]? = some found ∨ (j = a.calls.length ∧ found = new) := by
    intro j found hj
    obtain hlt | hle := Nat.lt_or_ge j a.calls.length
    · exact .inl ((List.getElem?_append_left hlt).symm.trans hj)
    · rw [List.getElem?_append_right hle] at hj
      obtain ⟨hlength, hget⟩ := List.getElem?_eq_some_iff.mp hj
      rw [List.length_singleton] at hlength
      exact .inr ⟨by omega, (List.mem_singleton.mp (hget ▸ List.getElem_mem hlength))⟩
  have hidle : ¬ Allocating info new := fun hbusy =>
    absurd hbusy.2.2 (by rw [hnew]; exact Bool.false_ne_true)
  refine ⟨h.stream, h.contiguous, h.before, h.once, fun x hx => ?_, fun j found hj hid => ?_,
    fun j k found found' hj hk hbusy hbusy' => ?_, fun j found frame hj hframe => ?_⟩
  · rw [List.length_append]
    exact Nat.lt_add_right _ (h.entered x hx)
  · obtain hj | ⟨rfl, rfl⟩ := hfound hj
    · exact h.points j found hj hid
    · rw [PointRight, hnew]
      exact fun x hx => (h.entered x hx).ne
  · obtain hj | ⟨rfl, rfl⟩ := hfound hj
    · obtain hk | ⟨rfl, rfl⟩ := hfound hk
      · exact h.alone j k found found' hj hk hbusy hbusy'
      · exact absurd hbusy' hidle
    · exact absurd hbusy hidle
  · obtain hj | ⟨rfl, rfl⟩ := hfound hj
    · exact h.frames j found frame hj hframe
    · rw [hnew] at hframe
      cases hframe

/-- **Writing a frame.** -/
theorem Tally.write (h : Tally info a advances written) (hcall : a.calls[i]? = some call)
    (hpoint : call.point = .sending frame) (hid : call.streamId = info.id)
    (hturn : (advances[written.length]?).map CallFrame.call = some i) :
    Tally info (a.moveTo i call .leaving) advances (written ++ [⟨i, frame⟩]) := by
  have hright := h.points i call hcall hid
  rw [PointRight, hpoint] at hright
  obtain ⟨x, hx, hxi⟩ := Option.map_eq_some_iff.mp hturn
  obtain rfl : x = ⟨i, frame⟩ :=
    List.inj_on_of_nodup_map h.once (List.mem_of_getElem? hx) hright hxi
  have hnext : written ++ [⟨i, frame⟩] <+: advances := by
    obtain ⟨rest, rfl⟩ := h.before
    cases rest with
    | nil => simp at hx
    | cons y rest =>
        obtain rfl : y = ⟨i, frame⟩ := by simpa using hx
        exact ⟨rest, by simp⟩
  exact { h.moveTo hcall .leaving (fun _ => trivial) (fun _ hframe => by cases hframe)
    (fun hbusy => absurd hbusy.2.2 (by simp [SendPoint.allocates])) with before := hnext }

/-! ### One move -/

/-- The invariant, for the events so far. -/
def Balanced (info : StreamState) (a : WebSocketTransportAdapter) (events : List SendEvent) :
    Prop :=
  Tally info a (advancesOn info.id events) (writtenOn info.id events)

theorem Balanced.quiet {events : List SendEvent}
    (h : Tally info a (advancesOn info.id events) (writtenOn info.id events)) :
    Balanced info a (events ++ []) := by
  rw [List.append_nil]
  exact h

/-- A call that gets nowhere, or to its end. -/
theorem Tally.leave (h : Tally info a advances written) (hcall : a.calls[i]? = some call)
    {point : SendPoint} (hpoint : point = .leaving ∨ point = .ended) :
    Tally info (a.moveTo i call point) advances written := by
  obtain rfl | rfl := hpoint
  all_goals
    exact h.moveTo hcall _ (fun _ => trivial) (fun _ hframe => by cases hframe)
      fun hbusy => absurd hbusy.2.2 (by simp [SendPoint.allocates])

/-- A call takes its frame a step further. -/
theorem Tally.carry (h : Tally info a advances written) (hcall : a.calls[i]? = some call)
    (hpoint : call.point.frame = some frame) {point : SendPoint}
    (hnext : point = .serialized frame ∨ point = .locked frame ∨ point = .sending frame) :
    Tally info (a.moveTo i call point) advances written := by
  have hmember : call.streamId = info.id → ⟨i, frame⟩ ∈ advances := by
    intro hid
    have hright := h.points i call hcall hid
    unfold PointRight at hright
    cases hat : call.point <;> rw [hat] at hpoint hright <;> cases hpoint <;> exact hright
  have hstream : frame.streamId = some call.streamId := h.frames i call frame hcall hpoint
  obtain rfl | rfl | rfl := hnext
  all_goals
    exact h.moveTo hcall _ hmember (fun _ hframe => by cases hframe; exact hstream)
      fun hbusy => absurd hbusy.2.2 (by simp [SendPoint.allocates])

/-- Advancing the offset of another stream. -/
theorem Tally.advanceOther (h : Tally info a advances written) (hcall : a.calls[i]? = some call)
    (hid : call.streamId ≠ info.id) (stream : StreamState) (frame : CulpeoMessage)
    (hstream : stream.id = call.streamId) (hframe : frame.streamId = some call.streamId) :
    Tally info ((a.putStream stream).moveTo i call (.made frame)) advances written :=
  (h.putStream stream fun hsame => absurd (hstream.symm.trans hsame) hid).moveTo hcall _
    (fun hsame => absurd hsame hid) (fun _ hmade => by cases hmade; exact hframe)
    fun hbusy => absurd hbusy.1 hid

/-- **The steps on the stream.** -/
theorem Balanced.onStream {events : List SendEvent} (h : Balanced info a events)
    (hcall : a.calls[i]? = some call) {stream : StreamState}
    (hstream : a.connection.streamObject call.streamId = some stream) (answer : SendAnswer)
    (hm : InTurn info a events (.resume i answer)) :
    Balanced info (a.onStream i call stream answer).1
      (events ++ (a.onStream i call stream answer).2) := by
  have hnow : call.streamId = info.id → SameUnit info stream ∧
      a.connection.streamObject info.id = some stream ∧
      stream.currentOffset.toInt = nextOffset info (advancesOn info.id events) := by
    intro hid
    obtain ⟨now, hnow, hunit, hoffset⟩ := h.stream
    rw [hid] at hstream
    obtain rfl : stream = now := Option.some.inj (hstream.symm.trans hnow)
    exact ⟨hunit, hstream, hoffset⟩
  unfold WebSocketTransportAdapter.onStream
  -- Only the last of these points moves the offset; the ones before it collect what it is set to.
  cases hpoint : call.point with
  | found =>
      refine .quiet (h.moveTo hcall _ (fun hid => ?_) (fun _ hframe => by cases hframe)
        fun hbusy => .inr (hm.reads i answer call rfl hcall hbusy.1 hpoint hbusy.2.1))
      have hright := h.points i call hcall hid
      rw [PointRight, hpoint] at hright
      exact ⟨hright, fun _ => (hnow hid).2.2⟩
  | read offset =>
      cases answer with
      | now time =>
          have hput : Tally info (a.putStream (stream.recordFrame offset time))
              (advancesOn info.id events) (writtenOn info.id events) := by
            refine h.putStream _ fun hsame now hlookup => ?_
            have hid : call.streamId = info.id := (streamObject_id hstream).symm.trans hsame
            obtain rfl : stream = now := Option.some.inj ((hnow hid).2.1.symm.trans hlookup)
            exact ⟨⟨rfl, rfl⟩, rfl⟩
          refine .quiet (hput.moveTo hcall _ (fun hid => ?_) (fun _ hframe => by cases hframe)
            fun hbusy => .inl ⟨hbusy.1, hbusy.2.1, by rw [hpoint]; rfl⟩)
          have hright := h.points i call hcall hid
          rw [PointRight, hpoint] at hright
          exact hright
      | _ => exact .quiet h
  | recorded offset =>
      cases hinc : stream.getIncrement call.payload.length with
      | error _ => exact .quiet (h.leave hcall (.inr rfl))
      | ok n =>
          have hcount : call.streamId = info.id →
              info.getIncrement call.payload.length = .ok n := by
            intro hid
            rw [← hinc]
            simp only [StreamState.getIncrement, (hnow hid).1.1, (hnow hid).1.2]
          refine .quiet (h.moveTo hcall _ (fun hid => ?_) (fun _ hframe => by cases hframe)
            fun hbusy => .inl ⟨hbusy.1, hbusy.2.1, by rw [hpoint]; rfl⟩)
          have hright := h.points i call hcall hid
          rw [PointRight, hpoint] at hright
          have hbound := hm.fits i answer call offset n stream rfl hcall hid hpoint (hcount hid)
            (hnow hid).2.1
          refine ⟨hright.1, hright.2 ⟨n, hcount hid⟩, n, hcount hid, ?_⟩
          rw [toInt_add_ofNat hbound, (hnow hid).2.2]
  -- The frame is made with the offset that was read, and the stream moves to the sum.
  | summed offset sum =>
      have hkey := streamObject_id hstream
      by_cases hid : call.streamId = info.id
      · have hadvance := h.advance hcall hpoint hid (hnow hid).2.1
          (Endpoint.mediaMessage { stream with currentOffset := offset } call.payload
            call.timestamp) (congrArg some hkey) rfl rfl
        unfold Balanced
        rw [advancesOn_append, writtenOn_append]
        simpa [advancesOn, writtenOn, Endpoint.mediaMessage, hkey, hid] using hadvance
      · have hother := h.advanceOther hcall hid { stream with currentOffset := sum }
          (Endpoint.mediaMessage { stream with currentOffset := offset } call.payload
            call.timestamp) hkey (congrArg some hkey)
        unfold Balanced
        rw [advancesOn_append, writtenOn_append]
        simpa [advancesOn, writtenOn, Endpoint.mediaMessage, hkey, hid] using hother
  | _ => exact .quiet h

theorem Balanced.allocate {events : List SendEvent} (h : Balanced info a events)
    (hcall : a.calls[i]? = some call) (answer : SendAnswer)
    (hm : InTurn info a events (.resume i answer)) :
    Balanced info (a.allocate i call answer).1 (events ++ (a.allocate i call answer).2) := by
  unfold WebSocketTransportAdapter.allocate
  cases hstream : a.connection.streamObject call.streamId with
  | none => exact .quiet h
  | some stream => exact h.onStream hcall hstream answer hm

/-- A call that is going to write its frame, on the stream or on another one. -/
theorem Balanced.send {events : List SendEvent} (h : Balanced info a events)
    (hcall : a.calls[i]? = some call) (hpoint : call.point = .sending frame)
    (hturn : call.streamId = info.id →
      ((advancesOn info.id events)[(writtenOn info.id events).length]?).map CallFrame.call =
        some i) :
    Balanced info (a.moveTo i call .leaving) (events ++ [.wrote i frame]) := by
  have hstream : frame.streamId = some call.streamId :=
    h.frames i call frame hcall (by rw [hpoint]; rfl)
  unfold Balanced
  rw [advancesOn_append, writtenOn_append]
  by_cases hid : call.streamId = info.id
  · have hwrite := h.write hcall hpoint hid (hturn hid)
    simpa [advancesOn, writtenOn, hstream, hid] using hwrite
  · have hleave := h.leave hcall (.inl rfl)
    simpa [advancesOn, writtenOn, hstream, hid] using hleave

/-- **A call goes on.** -/
theorem Balanced.resume {events : List SendEvent} (h : Balanced info a events)
    (hcall : a.calls[i]? = some call) (answer : SendAnswer)
    (hm : InTurn info a events (.resume i answer)) :
    Balanced info (a.resume i call answer).1 (events ++ (a.resume i call answer).2) := by
  have hend : Tally info (a.moveTo i call .ended) (advancesOn info.id events)
      (writtenOn info.id events) := h.leave hcall (.inr rfl)
  unfold WebSocketTransportAdapter.resume
  -- A throw ends the call at any point, and then it owes nothing.
  cases hpoint : call.point with
  | entered =>
      have hfound : Tally info (a.moveTo i call .found) (advancesOn info.id events)
          (writtenOn info.id events) := by
        refine h.moveTo hcall _ (fun hid => ?_) (fun _ hframe => by cases hframe)
          fun hbusy => absurd hbusy.2.2 (by simp [SendPoint.allocates])
        have hright := h.points i call hcall hid
        rw [PointRight, hpoint] at hright
        exact hright
      cases answer with
      | throws => exact .quiet hend
      | _ =>
          dsimp only
          split
          · exact .quiet hfound
          · exact .quiet hend
  | found | read _ | recorded _ | summed _ _ => exact h.allocate hcall answer hm
  | made frame =>
      have hcarry := h.carry hcall (by rw [hpoint]; rfl) (.inl rfl)
      cases answer with
      | throws => exact .quiet hend
      | _ => exact .quiet hcarry
  | serialized frame =>
      have hcarry := h.carry hcall (by rw [hpoint]; rfl) (.inr (.inl rfl))
      cases answer with
      | throws => exact .quiet hend
      | _ =>
          dsimp only
          split
          · exact .quiet h
          · exact .quiet hcarry
  | locked frame =>
      have hcarry := h.carry hcall (by rw [hpoint]; rfl) (.inr (.inr rfl))
      cases answer with
      | isOpen isOpen =>
          cases isOpen with
          | true => exact .quiet hcarry
          | false => exact .quiet (h.leave hcall (.inl rfl))
      | _ => exact .quiet h
  | sending frame =>
      have hturn : answer ≠ .throws → call.streamId = info.id →
          ((advancesOn info.id events)[(writtenOn info.id events).length]?).map CallFrame.call =
            some i :=
        fun hanswer hid => hm.writes i answer call frame rfl hcall hid hpoint hanswer
      cases answer with
      | throws => exact .quiet (h.leave hcall (.inl rfl))
      | _ => exact h.send hcall hpoint (hturn nofun)
  | leaving => exact .quiet hend
  | ended => exact .quiet h

/-- **One move.** -/
theorem Balanced.step {events : List SendEvent} (h : Balanced info a events) (m : SendMove)
    (hm : InTurn info a events m) :
    Balanced info (a.step m).1 (events ++ (a.step m).2) := by
  cases m with
  | sendMediaAsync streamId payload timestamp =>
      exact .quiet (h.enter { streamId, payload, timestamp } rfl)
  | resume i answer =>
      unfold WebSocketTransportAdapter.step
      cases hcall : a.calls[i]? with
      | none =>
          simp only [hcall]
          exact .quiet h
      | some call =>
          simp only [hcall]
          exact h.resume hcall answer hm
  | other connection closed =>
      obtain ⟨now, hnow, hunit, hoffset⟩ := h.stream
      obtain ⟨now', hnow', hunit', hoffset'⟩ := hm.other connection closed rfl now hnow
      exact .quiet { h with
        stream := ⟨now', hnow', ⟨hunit'.1.trans hunit.1, hunit'.2.trans hunit.2⟩, by
          rw [hoffset', hoffset]⟩ }

/-! ### Runs -/

/-- **Outbound order.**  If the calls take their turns on a stream of an established connection,
then the frames that are written for it are contiguous from its offset. -/
theorem written_contiguous {connection : Endpoint} {id : Text} (closed : Bool)
    (hopen : connection.openStream id = some info) (moves : List SendMove)
    (hturns : Reactions.Throughout step (InTurn info) { connection, closed } [] moves) :
    Ledger.Contiguous CulpeoMessage.position (CulpeoMessage.length info)
      info.currentOffset.toInt
      ((writtenOn id (Reactions.run step { connection, closed } moves).2).map
        CallFrame.frame) := by
  obtain rfl : info.id = id := openStream_id hopen
  have hbegin : Balanced info { connection, closed } [] := by
    refine ⟨⟨info, streamObject_of_openStream hopen, ⟨rfl, rfl⟩, ?_⟩, Ledger.contiguous_nil,
      List.prefix_refl _, List.nodup_nil, List.forall_mem_nil _, ?_, ?_, ?_⟩
    · exact (add_zero _).symm
    · intro j found hj
      cases hj
    · intro j k found found' hj
      cases hj
    · intro j found frame hj
      cases hj
  have hend : Balanced info (Reactions.run step { connection, closed } moves).1
      ([] ++ (Reactions.run step { connection, closed } moves).2) :=
    Reactions.run_keeps_throughout (fun m h hm => h.step m hm) moves hbegin hturns
  obtain ⟨rest, hrest⟩ := hend.before
  have hcontiguous := hend.contiguous
  rw [← hrest, List.map_append, Ledger.contiguous_append] at hcontiguous
  exact hcontiguous.1

/-! ### Two calls -/

/-- A stream on which the server sends. -/
def ticker : StreamState where
  id := utf16 "t"
  contentType := utf16 "a/b"
  type := .output
  purpose := none
  offsetType := .message
  currentOffset := 0
  stride_pos := no_stride

def tickerEndpoint : Endpoint where
  server :=
    { snapshots := [⟨utf16 "s", 30000, [ticker], none, 0⟩]
      sessions := [(utf16 "s", 0)] }
  connection := { state := .established, snapshot := some 0 }

/-- A call gets its frame. -/
def makes (i : ℕ) : List SendMove :=
  [.resume i .done, .resume i .done, .resume i (.now 0), .resume i .done, .resume i .done]

/-- A call writes its frame. -/
def sends (i : ℕ) : List SendMove :=
  [.resume i .done, .resume i .done, .resume i (.isOpen true), .resume i .done,
    .resume i .done]

/-- Two calls on the stream. -/
def enterBoth : List SendMove :=
  [.sendMediaAsync (utf16 "t") [1] 0, .sendMediaAsync (utf16 "t") [2] 0]

/-- The second call takes the lock first, and its frame has the offset 1. -/
theorem not_written_contiguous :
    ¬ ∀ (connection : Endpoint) (id : Text) (info : StreamState) (moves : List SendMove),
      connection.openStream id = some info → info.type ≠ .input →
      (∀ connection' closed', .other connection' closed' ∉ moves) →
      Ledger.Contiguous CulpeoMessage.position (CulpeoMessage.length info)
        info.currentOffset.toInt
        ((writtenOn id (Reactions.run step { connection } moves).2).map CallFrame.frame) := by
  intro hordered
  have hcontiguous := hordered tickerEndpoint (utf16 "t") ticker
    (enterBoth ++ makes 0 ++ makes 1 ++ sends 1 ++ sends 0) rfl nofun
    (by simp [enterBoth, makes, sends])
  have hoffset := hcontiguous 0
    (Endpoint.mediaMessage { ticker with currentOffset := 1 } [2] 0) (by rfl)
  exact absurd hoffset (by decide)

/-- What the call has to wait for before it goes on. -/
def Ready (info : StreamState) (a : WebSocketTransportAdapter) (events : List SendEvent) (i : ℕ)
    (call : SendCall) : Prop :=
  match call.point with
  | .found => (a.calls.all fun other => !other.point.allocates) = true
  | .recorded _ => ∃ now n, a.connection.streamObject info.id = some now ∧
      info.getIncrement call.payload.length = .ok n ∧ now.currentOffset.toInt + n < 2 ^ 63
  | .sending _ =>
      ((advancesOn info.id events)[(writtenOn info.id events).length]?).map CallFrame.call = some i
  | _ => True

theorem inTurn_enter {events : List SendEvent} (streamId : Text) (payload : Bytes)
    (timestamp : Int64) : InTurn info a events (.sendMediaAsync streamId payload timestamp) :=
  ⟨fun _ _ h => (by cases h), fun _ _ _ h => (by cases h), fun _ _ _ _ _ _ h => (by cases h),
    fun _ _ _ _ h => (by cases h)⟩

theorem inTurn_resume {events : List SendEvent} (answer : SendAnswer)
    (hcall : a.calls[i]? = some call) (hready : Ready info a events i call) :
    InTurn info a events (.resume i answer) := by
  unfold Ready at hready
  refine ⟨fun _ _ h => (by cases h), ?_, ?_, ?_⟩
  · rintro _ _ call' ⟨⟩ hcall' - hpoint - other hother hbusy
    obtain rfl : call = call' := Option.some.inj (hcall.symm.trans hcall')
    rw [hpoint] at hready
    have hidle := List.all_eq_true.mp hready other hother
    rw [hbusy.2.2] at hidle
    exact Bool.false_ne_true hidle
  · rintro _ _ call' offset n now ⟨⟩ hcall' - hpoint hinc hnow
    obtain rfl : call = call' := Option.some.inj (hcall.symm.trans hcall')
    rw [hpoint] at hready
    obtain ⟨now', n', hnow', hinc', hbound⟩ := hready
    obtain rfl : now' = now := Option.some.inj (hnow'.symm.trans hnow)
    obtain rfl : n' = n := Except.ok.inj (hinc'.symm.trans hinc)
    exact hbound
  · rintro _ _ call' frame ⟨⟩ hcall' - hpoint -
    obtain rfl : call = call' := Option.some.inj (hcall.symm.trans hcall')
    rw [hpoint] at hready
    exact hready

/-- The first call takes the lock first. -/
theorem written_contiguous_ticker :
    Ledger.Contiguous CulpeoMessage.position (CulpeoMessage.length ticker) 0
      ((writtenOn (utf16 "t") (Reactions.run step { connection := tickerEndpoint }
        (enterBoth ++ makes 0 ++ makes 1 ++ sends 0 ++ sends 1)).2).map CallFrame.frame) := by
  refine written_contiguous false rfl _ ?_
  refine .intro (inTurn_enter _ _ _) (.intro (inTurn_enter _ _ _) ?_)
  -- The calls make their frames.
  refine .intro (inTurn_resume _ rfl trivial) (.intro (inTurn_resume _ rfl rfl) ?_)
  refine .intro (inTurn_resume _ rfl trivial) ?_
  refine .intro (inTurn_resume _ rfl ⟨_, 1, rfl, rfl, by decide⟩) ?_
  refine .intro (inTurn_resume _ rfl trivial) ?_
  refine .intro (inTurn_resume _ rfl trivial) (.intro (inTurn_resume _ rfl rfl) ?_)
  refine .intro (inTurn_resume _ rfl trivial) ?_
  refine .intro (inTurn_resume _ rfl ⟨_, 1, rfl, rfl, by decide⟩) ?_
  refine .intro (inTurn_resume _ rfl trivial) ?_
  -- They write them.
  refine .intro (inTurn_resume _ rfl trivial) (.intro (inTurn_resume _ rfl trivial) ?_)
  refine .intro (inTurn_resume _ rfl trivial) (.intro (inTurn_resume _ rfl rfl) ?_)
  refine .intro (inTurn_resume _ rfl trivial) ?_
  refine .intro (inTurn_resume _ rfl trivial) (.intro (inTurn_resume _ rfl trivial) ?_)
  refine .intro (inTurn_resume _ rfl trivial) (.intro (inTurn_resume _ rfl rfl) ?_)
  exact .intro (inTurn_resume _ rfl trivial) trivial

end WebSocketTransportAdapter

end CulpeoStream.Dotnet
