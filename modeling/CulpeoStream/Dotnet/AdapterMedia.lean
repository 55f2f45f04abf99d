import CulpeoStream.Lib.Checks
import CulpeoStream.Dotnet.AdapterLifecycle
import CulpeoStream.Dotnet.ServerSends
import CulpeoStream.Dotnet.Snapshots

/-!
# What a connection and its handler receive

A message comes in fragments, and `ReceiveMessageAsync` puts it together.  The frames that the
connection is given are those of the messages, each one once and in order, wherever the messages
have been cut; at most the last one is still to come (`receives_messages`).

The media frames that the handler gets on an input stream follow on one another, and end where
the stream stands (`hands_over_in_order`).  The stream has to be left alone by the other
connections of the server.
-/

open Resumption

namespace CulpeoStream.Dotnet.Adapter

open Message Utf16

/-! ### Messages and their fragments -/

/-- What `_ws.ReceiveAsync` gives. -/
structure Fragment where
  messageType : WebSocketMessageType
  data : Bytes
  endOfMessage : Bool
  deriving DecidableEq

/-- The frames of the messages that have come in, and what there is of the next message; none
when no more is received. -/
structure Inbox where
  frames : List CulpeoMessage := []
  accumulated : Option Bytes := some []

/-- The frame that a message is. -/
def readMessage (messageType : WebSocketMessageType) (messageBytes : Bytes) :
    Except ParseExn CulpeoMessage :=
  parseAsync {} messageBytes (if messageType = .text then .control else .media)

/-- A message has come in. -/
def Inbox.put (inbox : Inbox) (messageType : WebSocketMessageType) (messageBytes : Bytes) : Inbox :=
  match readMessage messageType messageBytes with
  | .ok frame => ⟨inbox.frames ++ [frame], some []⟩
  | .error _ => ⟨inbox.frames, none⟩

/-- A fragment has come in. -/
def Inbox.next (limit : ℤ) (inbox : Inbox) (fragment : Fragment) : Inbox :=
  match inbox.accumulated with
  | none => inbox
  | some accumulator =>
      if fragment.messageType = .close then ⟨inbox.frames, none⟩
      else if limit < accumulator.length + fragment.data.length then ⟨inbox.frames, none⟩
      else if fragment.endOfMessage then
        inbox.put fragment.messageType (accumulator ++ fragment.data)
      else ⟨inbox.frames, some (accumulator ++ fragment.data)⟩

def Inbox.of (limit : ℤ) (fragments : List Fragment) : Inbox :=
  fragments.foldl (Inbox.next limit) {}

/-- The fragments of a message. -/
inductive Cut (messageType : WebSocketMessageType) : Bytes → List Fragment → Prop where
  | last (data : Bytes) : Cut messageType data [⟨messageType, data, true⟩]
  | more (data : Bytes) {rest : Bytes} {fragments : List Fragment} :
      Cut messageType rest fragments →
        Cut messageType (data ++ rest) (⟨messageType, data, false⟩ :: fragments)

/-- The fragments of some messages, and what there is of another one. -/
inductive Cuts : List (WebSocketMessageType × Bytes) → List Fragment → Prop where
  | begun {fragments : List Fragment} (h : ∀ fragment ∈ fragments, fragment.endOfMessage = false) :
      Cuts [] fragments
  | message {message : WebSocketMessageType × Bytes}
      {messages : List (WebSocketMessageType × Bytes)} {fragments rest : List Fragment} :
      Cut message.1 message.2 fragments → Cuts messages rest →
        Cuts (message :: messages) (fragments ++ rest)

/-- The message as one fragment. -/
def whole (message : WebSocketMessageType × Bytes) : Fragment := ⟨message.1, message.2, true⟩

section Cuts

variable {limit : ℤ} {frames : List CulpeoMessage} {accumulator : Bytes}

theorem foldl_next_none (frames : List CulpeoMessage) (fragments : List Fragment) :
    fragments.foldl (Inbox.next limit) ⟨frames, none⟩ = ⟨frames, none⟩ := by
  induction fragments with
  | nil => rfl
  | cons fragment fragments ih => exact ih

theorem next_some (fragment : Fragment) :
    Inbox.next limit ⟨frames, some accumulator⟩ fragment =
      if fragment.messageType = .close ∨ limit < accumulator.length + fragment.data.length then
        ⟨frames, none⟩
      else if fragment.endOfMessage then
        Inbox.put ⟨frames, none⟩ fragment.messageType (accumulator ++ fragment.data)
      else ⟨frames, some (accumulator ++ fragment.data)⟩ := by
  unfold Inbox.next
  dsimp only
  split
  · rename_i hclose
    rw [if_pos (.inl hclose)]
  · rename_i hopen
    split
    · rename_i hlimit
      rw [if_pos (.inr hlimit)]
    · rename_i hfits
      rw [if_neg (not_or.mpr ⟨hopen, hfits⟩)]
      rfl

/-- It does not matter where a message is cut. -/
theorem foldl_next_cut {messageType : WebSocketMessageType} {data : Bytes}
    {fragments : List Fragment} (h : Cut messageType data fragments) (accumulator : Bytes) :
    fragments.foldl (Inbox.next limit) ⟨frames, some accumulator⟩ =
      Inbox.next limit ⟨frames, some accumulator⟩ ⟨messageType, data, true⟩ := by
  induction h generalizing accumulator with
  | last data => rfl
  | @more data rest fragments _ ih =>
      rw [List.foldl_cons, next_some, next_some]
      have hlength : (accumulator.length : ℤ) + (data ++ rest).length =
          (accumulator ++ data).length + rest.length := by
        simp only [List.length_append, Nat.cast_add]
        omega
      dsimp only
      rw [hlength, ← List.append_assoc]
      split
      · rename_i hrefused
        rw [foldl_next_none, if_pos]
        refine hrefused.imp_right fun hlimit => ?_
        simp only [List.length_append, Nat.cast_add]
        omega
      · rename_i hfits
        rw [if_neg Bool.false_ne_true, ih, next_some]

theorem frames_next_of_more {inbox : Inbox} {fragment : Fragment}
    (h : fragment.endOfMessage = false) :
    (Inbox.next limit inbox fragment).frames = inbox.frames := by
  unfold Inbox.next
  split
  · rfl
  · split
    · rfl
    · split
      · rfl
      · rw [if_neg (by rw [h]; exact Bool.false_ne_true)]

theorem frames_of_more {fragments : List Fragment}
    (h : ∀ fragment ∈ fragments, fragment.endOfMessage = false) (inbox : Inbox) :
    (fragments.foldl (Inbox.next limit) inbox).frames = inbox.frames := by
  induction fragments generalizing inbox with
  | nil => rfl
  | cons fragment fragments ih =>
      rw [List.foldl_cons, ih fun f hf => h f (List.mem_cons_of_mem _ hf)]
      exact frames_next_of_more (h fragment List.mem_cons_self)

/-- The inbox is at the end of a message. -/
def Inbox.Apart (inbox : Inbox) : Prop := inbox.accumulated = none ∨ inbox.accumulated = some []

theorem apart_put (inbox : Inbox) (messageType : WebSocketMessageType) (messageBytes : Bytes) :
    (inbox.put messageType messageBytes).Apart := by
  unfold Inbox.put
  split
  · exact .inr rfl
  · exact .inl rfl

theorem apart_next_whole {inbox : Inbox} (h : inbox.Apart)
    (message : WebSocketMessageType × Bytes) : (inbox.next limit (whole message)).Apart := by
  obtain ⟨frames, accumulated⟩ := inbox
  obtain rfl | rfl := h
  · exact .inl rfl
  · rw [next_some]
    split
    · exact .inl rfl
    · exact apart_put _ _ _

/-- **Reassembly.**  The frames are those of the messages, wherever they have been cut. -/
theorem frames_cuts {messages : List (WebSocketMessageType × Bytes)} {fragments : List Fragment}
    (h : Cuts messages fragments) (inbox : Inbox) (hinbox : inbox.Apart) :
    (fragments.foldl (Inbox.next limit) inbox).frames =
      ((messages.map whole).foldl (Inbox.next limit) inbox).frames := by
  induction h generalizing inbox with
  | begun h => exact frames_of_more h inbox
  | @message message messages fragments rest hcut _ ih =>
      have hwhole : fragments.foldl (Inbox.next limit) inbox =
          inbox.next limit (whole message) := by
        obtain ⟨frames, accumulated⟩ := inbox
        obtain rfl | rfl := hinbox
        · exact foldl_next_none frames fragments
        · exact foldl_next_cut hcut []
      rw [List.foldl_append, List.map_cons, List.foldl_cons, hwhole]
      exact ih _ (apart_next_whole hinbox message)

end Cuts

/-! ### What passes -/

inductive Passage where
  | fragment (fragment : Fragment)
  /-- The connection has been given a frame. -/
  | received (frame : CulpeoMessage)
  /-- The handler has been given a media frame. -/
  | media (frame : CulpeoMediaFrameContext)

def passageOf : AdapterAction → AdapterAnswer → Option Passage
  | .receiveFragment, .fragment messageType data endOfMessage =>
      some (.fragment ⟨messageType, data, endOfMessage⟩)
  | .receive frame, .surroundings _ => some (.received frame)
  | .onMediaFrame frame, _ => some (.media frame)
  | _, _ => none

def fragmentOf : Passage → Option Fragment
  | .fragment fragment => some fragment
  | _ => none

def frameOf : Passage → Option CulpeoMessage
  | .received frame => some frame
  | _ => none

def mediaOf : Passage → Option CulpeoMediaFrameContext
  | .media frame => some frame
  | _ => none

/-- What the fragments of a log amount to. -/
def inboxOf (o : CulpeoStreamOptions) (log : List Passage) : Inbox :=
  Inbox.of o.maxMessageBytes.toInt (log.filterMap fragmentOf)

/-- The frames that the connection has been given. -/
def framesOf (log : List Passage) : List CulpeoMessage := log.filterMap frameOf

/-- The media frames of a stream that the handler has been given. -/
def mediaOn (id : Text) (log : List Passage) : List CulpeoMediaFrameContext :=
  (log.filterMap mediaOf).filter fun frame => frame.streamId = id

/-- What a frame of the stream has for the handler, if it is a media frame. -/
def contextsOf (id : Text) (frame : CulpeoMessage) : List CulpeoMediaFrameContext :=
  if frame.kind = .media ∧ frame.streamId.getD [] = id then [mediaFrameContext frame] else []

/-- The frame that the connection has been given last, if nothing has been handed over
since. -/
def lastGiven (log : List Passage) : Option CulpeoMessage :=
  log.foldl (fun last passage =>
    match passage with
    | .fragment _ => last
    | .received frame => some frame
    | .media _ => none) none

/-- What the handler may be about to get on a stream. -/
def awaited (id : Text) (log : List Passage) : List CulpeoMediaFrameContext :=
  (lastGiven log).elim [] (contextsOf id)

theorem lastGiven_received (log : List Passage) (frame : CulpeoMessage) :
    lastGiven (log ++ [.received frame]) = some frame := by
  rw [lastGiven, List.foldl_append]
  rfl

/-- Where a media frame begins. -/
def offsetOf (frame : CulpeoMediaFrameContext) : Option Int64 := some frame.offset

/-- How far a media frame moves the offset of a stream. -/
def lengthOn (stream : StreamState) (frame : CulpeoMediaFrameContext) : Int64 :=
  match stream.getIncrement frame.payload.length with
  | .ok n => Int64.ofNat n
  | .error _ => 0

/-! ### One stream of a connection -/

/-- A stream on which the client sends stays where it is, and so does the session. -/
structure Stays (id : Text) (e e' : Endpoint) : Prop where
  snapshot : e'.connection.snapshot = e.connection.snapshot
  state : e'.connection.state = .uninitialized → e.connection.state = .uninitialized
  stream : ∀ now', e'.streamObject id = some now' → now'.type = .input →
    ∃ now, e.streamObject id = some now ∧ now.type = .input ∧ SameUnit now now' ∧
      now'.currentOffset = now.currentOffset

section Streams

variable {id : Text} {e e' e'' : Endpoint} {frame : CulpeoMessage}

theorem stays_of_eq (hserver : e'.server = e.server)
    (hsnapshot : e'.connection.snapshot = e.connection.snapshot)
    (hstate : e'.connection.state = .uninitialized → e.connection.state = .uninitialized) :
    Stays id e e' := by
  refine ⟨hsnapshot, hstate, fun now' hnow' hinput => ⟨now', ?_, hinput, ⟨rfl, rfl⟩, rfl⟩⟩
  unfold Endpoint.streamObject Endpoint.snapshot at hnow' ⊢
  rw [← hserver, ← hsnapshot]
  exact hnow'

theorem Stays.refl (id : Text) (e : Endpoint) : Stays id e e := stays_of_eq rfl rfl fun h => h

theorem Stays.trans (h : Stays id e e') (h' : Stays id e' e'') : Stays id e e'' where
  snapshot := h'.snapshot.trans h.snapshot
  state hstate := h.state (h'.state hstate)
  stream now'' hnow'' hinput := by
    obtain ⟨now', hnow', hinput', hunit', hoffset'⟩ := h'.stream now'' hnow'' hinput
    obtain ⟨now, hnow, hinput, hunit, hoffset⟩ := h.stream now' hnow' hinput'
    exact ⟨now, hnow, hinput, ⟨hunit'.1.trans hunit.1, hunit'.2.trans hunit.2⟩,
      hoffset'.trans hoffset⟩

theorem streamObject_modifySnapshot (e : Endpoint) (new : StreamState) (id : Text) :
    (e.modifySnapshot (·.putStream new)).streamObject id =
      if id = new.id then (e.streamObject id).map fun _ => new else e.streamObject id := by
  unfold Endpoint.streamObject
  rw [snapshot_modifySnapshot]
  cases e.snapshot with
  | none => simp
  | some snapshot => exact Table.find?_replace StreamState.id new id snapshot.streams

/-- A stream changes, and its offset does not. -/
theorem stays_putStream {old new : StreamState} (hold : e.streamObject new.id = some old)
    (htype : new.type = old.type) (hunit : SameUnit old new)
    (hoffset : new.currentOffset = old.currentOffset) :
    Stays id e (e.modifySnapshot (·.putStream new)) where
  snapshot := by rw [connection_modifySnapshot]
  state := by
    rw [connection_modifySnapshot]
    exact fun h => h
  stream now' hnow' hinput := by
    rw [streamObject_modifySnapshot] at hnow'
    split at hnow'
    · rename_i hid
      cases hid
      rw [hold, Option.map_some] at hnow'
      cases hnow'
      exact ⟨old, hold, htype.symm.trans hinput, hunit, hoffset⟩
    · exact ⟨now', hnow', hinput, ⟨rfl, rfl⟩, rfl⟩

/-- A stream on which the client does not send may move. -/
theorem stays_putStream_of_output {new : StreamState} (htype : new.type ≠ .input) :
    Stays id e (e.modifySnapshot (·.putStream new)) where
  snapshot := by rw [connection_modifySnapshot]
  state := by
    rw [connection_modifySnapshot]
    exact fun h => h
  stream now' hnow' hinput := by
    rw [streamObject_modifySnapshot] at hnow'
    split at hnow'
    · obtain ⟨old, -, rfl⟩ := Option.map_eq_some_iff.mp hnow'
      exact absurd hinput htype
    · exact ⟨now', hnow', hinput, ⟨rfl, rfl⟩, rfl⟩

theorem streamObject_congr (hsnapshot : e'.connection.snapshot = e.connection.snapshot)
    (hsnapshots : e'.server.snapshots = e.server.snapshots) (id : Text) :
    e'.streamObject id = e.streamObject id := by
  unfold Endpoint.streamObject Endpoint.snapshot
  rw [hsnapshot, hsnapshots]

theorem snapshots_saveSession (server : CulpeoSessionServer) (sessionId : Text) (ref : ℕ) :
    (server.saveSession sessionId ref).snapshots = server.snapshots := by
  unfold CulpeoSessionServer.saveSession
  split <;> rfl

theorem streamObject_stampDisconnected (e : Endpoint) (now : Ticks) (id : Text) :
    (e.stampDisconnected now).streamObject id = e.streamObject id := by
  unfold Endpoint.stampDisconnected
  split
  · rename_i ref snapshot href hsnapshot
    have hstamped : (e.modifySnapshot fun s => { s with disconnectedAt := some now }).streamObject
        id = e.streamObject id := by
      unfold Endpoint.streamObject
      rw [snapshot_modifySnapshot, hsnapshot]
      rfl
    refine Eq.trans (streamObject_congr ?_ ?_ id) hstamped
    · rfl
    · exact snapshots_saveSession _ _ _
  · rfl

theorem stays_stampDisconnected (e : Endpoint) (now : Ticks) (id : Text) :
    Stays id e (e.stampDisconnected now) where
  snapshot := (snapshot_stampDisconnected e now).1
  state h := (snapshot_stampDisconnected e now).2.symm.trans h
  stream now' hnow' hinput :=
    ⟨now', (streamObject_stampDisconnected e now id).symm.trans hnow', hinput, ⟨rfl, rfl⟩, rfl⟩

theorem stays_setState (e : Endpoint) (state : CulpeoSessionState) (id : Text)
    (hstate : state ≠ .uninitialized) : Stays id e (e.setState state) :=
  stays_of_eq rfl rfl fun h => absurd h hstate

theorem stays_close (e : Endpoint) (now : Ticks) (id : Text) :
    Stays id e ((e.setState .closed).stampDisconnected now) :=
  (stays_setState e .closed id nofun).trans (stays_stampDisconnected _ now id)

theorem stays_closeOnViolation (e : Endpoint) (now : Ticks) (ex : Exn) (id : Text) :
    Stays id e (e.closeOnViolation now ex).1 := by
  unfold Endpoint.closeOnViolation
  split
  · exact stays_close e now id
  · exact Stays.refl id e

theorem stays_checkTimeouts (s : Surroundings) (e : Endpoint) (id : Text) :
    Stays id e (e.checkTimeouts s).1 := by
  unfold Endpoint.checkTimeouts Endpoint.checkPendingAuthTimeout
  split
  · split
    · exact Stays.refl id e
    · exact stays_of_eq rfl rfl fun h => (by cases h)
  · exact Stays.refl id e

theorem connection_handlePing (env : Environment) (e : Endpoint) (now : Ticks)
    (frame : CulpeoMessage) :
    (e.handlePing env now frame).1.connection.snapshot = e.connection.snapshot ∧
      (e.handlePing env now frame).1.connection.state = e.connection.state := by
  rcases handlePing_cases env e now frame with ⟨ex, hfailed⟩ | ⟨pings, pongs, -, hhandled⟩
  · rw [hfailed]
    exact ⟨rfl, rfl⟩
  · rw [hhandled]
    exact ⟨rfl, rfl⟩

theorem connection_handleAuthResponse (env : Environment) (e : Endpoint) (frame : CulpeoMessage) :
    (e.handleAuthResponse env frame).1.connection.snapshot = e.connection.snapshot ∧
      (e.handleAuthResponse env frame).1.connection.state = e.connection.state := by
  unfold Endpoint.handleAuthResponse
  split
  · exact ⟨rfl, rfl⟩
  · split
    · exact ⟨rfl, rfl⟩
    · split
      · exact ⟨rfl, rfl⟩
      · split <;> exact ⟨rfl, rfl⟩

theorem stays_controlFrame (env : Environment) (e : Endpoint) (now : Ticks)
    (frame : CulpeoMessage) (id : Text) : Stays id e (e.controlFrame env now frame).1 := by
  unfold Endpoint.controlFrame
  split
  · refine stays_of_eq (server_handlePing env e now frame) ?_ ?_
    · exact (connection_handlePing env e now frame).1
    · exact fun h => (connection_handlePing env e now frame).2 ▸ h
  · split
    · refine stays_of_eq (server_handleAuthResponse env e frame) ?_ ?_
      · exact (connection_handleAuthResponse env e frame).1
      · exact fun h => (connection_handleAuthResponse env e frame).2 ▸ h
    · split
      · exact stays_close e now id
      · split
        · exact stays_close e now id
        · exact Stays.refl id e

/-! ### What the connection does with a frame -/

/-- The handler gets the media frame. -/
def Hands (frame : CulpeoMessage) (handled : Except Exn CulpeoProcessResult) : Prop :=
  frame.kind = .media ∧ ∃ result, handled = .ok result ∧ result.state = .established ∧
    result.shouldClose = false

/-- A payload has moved a stream. -/
structure Advances (stream : StreamState) (payloadLength : ℕ) (advanced : StreamState) : Prop where
  id : advanced.id = stream.id
  type : advanced.type = stream.type
  unit : SameUnit stream advanced
  offset : ∃ n, stream.getIncrement payloadLength = .ok n ∧
    advanced.currentOffset = stream.currentOffset + Int64.ofNat n

theorem advances_recordFrame {stream advanced : StreamState} {offset : Int64} {now : Ticks}
    {payloadLength : ℕ}
    (h : (stream.recordFrame offset now).advanceOffset payloadLength = .ok advanced) :
    Advances stream payloadLength advanced := by
  unfold StreamState.advanceOffset at h
  split at h
  · cases h
  · rename_i n hlength
    cases h
    exact ⟨rfl, rfl, ⟨rfl, rfl⟩, n, hlength, rfl⟩

/-- What the connection does with a frame, as far as a stream on which the client sends is
concerned. -/
inductive Handles (id : Text) (frame : CulpeoMessage) (e e' : Endpoint)
    (handled : Except Exn CulpeoProcessResult) : Prop where
  /-- The first frame has opened a session, or has been refused. -/
  | opens (hstate : e.connection.state = .uninitialized)
      (hnext : e'.connection.state ≠ .uninitialized) (hhands : ¬ Hands frame handled)
  | stays (hstays : Stays id e e') (hhands : ¬ Hands frame handled)
  /-- A media frame has moved its stream. -/
  | accepts (stream advanced : StreamState) (hstream : e.streamObject stream.id = some stream)
      (hid : frame.streamId = some stream.id) (hoffset : frame.offset = some stream.currentOffset)
      (hadvanced : Advances stream frame.body.length advanced) (hhands : Hands frame handled)
      (he' : e' = e.modifySnapshot (·.putStream advanced))

theorem not_hands_of_closed {handled : Except Exn CulpeoProcessResult}
    (h : ∀ result, handled = .ok result → result.state = .closed) : ¬ Hands frame handled := by
  rintro ⟨-, result, hresult, hstate, -⟩
  exact absurd ((h result hresult).symm.trans hstate) nofun

theorem not_hands_closeOnViolation (e : Endpoint) (now : Ticks) (ex : Exn) :
    ¬ Hands frame (e.closeOnViolation now ex).2 := by
  unfold Endpoint.closeOnViolation
  split
  · refine not_hands_of_closed ?_
    rintro result ⟨⟩
    rfl
  · rintro ⟨-, result, hresult, -⟩
    cases hresult

theorem handles_handleIncomingMedia (rt : Runtime) (e : Endpoint) (now : Ticks)
    (hkind : frame.kind = .media) (id : Text) :
    Handles id frame e (e.handleIncomingMedia rt now frame).1
      (e.handleIncomingMedia rt now frame).2 := by
  unfold Endpoint.handleIncomingMedia
  split
  · exact .stays (stays_closeOnViolation e now _ id) (not_hands_closeOnViolation e now _)
  · rename_i stream offset hcheck
    obtain ⟨streamId, hid, hopen, hoffset, rfl⟩ := checkMedia_ok hcheck
    obtain rfl := openStream_id hopen
    have hstream := WebSocketTransportAdapter.streamObject_of_openStream hopen
    dsimp only
    cases hadvanced : (stream.recordFrame stream.currentOffset now).advanceOffset
        frame.body.length with
    | error ex =>
        refine .stays (Stays.trans ?_ (stays_closeOnViolation _ now ex id))
          (not_hands_closeOnViolation _ now ex)
        exact @stays_putStream id e _ (stream.recordFrame stream.currentOffset now) hstream rfl
          ⟨rfl, rfl⟩ rfl
    | ok advanced =>
        exact .accepts stream advanced hstream hid hoffset (advances_recordFrame hadvanced)
          ⟨hkind, _, rfl, openStream_established hopen, rfl⟩ rfl

/-- What the first frame leads to, other than a session. -/
theorem state_refuseInit (e : Endpoint) (ex : Exn) (h : e.connection.state ≠ .uninitialized) :
    (e.refuseInit ex).1.connection.state ≠ .uninitialized := by
  unfold Endpoint.refuseInit
  split
  · exact nofun
  · exact h

theorem handles_handleInitialFrame (env : Environment) (s : Surroundings)
    (hstate : e.connection.state = .uninitialized) (id : Text) :
    Handles id frame e (e.handleInitialFrame env s frame).1
      (e.handleInitialFrame env s frame).2 := by
  unfold Endpoint.handleInitialFrame
  split
  · refine .stays (stays_close e (s.clock 1) id) (not_hands_of_closed ?_)
    rintro result ⟨⟩
    rfl
  · rename_i hfirst
    have hhands : ∀ handled, ¬ Hands frame handled := fun handled h =>
      hfirst (.inl (h.1 ▸ nofun))
    refine .opens hstate ?_ (hhands _)
    have hbusy : (e.setState .initializing).connection.state ≠ .uninitialized := nofun
    dsimp only
    split
    · exact nofun
    · split
      · exact state_refuseInit _ _ hbusy
      · split
        · exact nofun
        · unfold Endpoint.acceptInit
          dsimp only
          split
          · exact state_refuseInit _ _ hbusy
          · exact nofun

theorem handles_receive (env : Environment) (s : Surroundings) (e : Endpoint)
    (frame : CulpeoMessage) (id : Text) :
    Handles id frame e (e.receive env s frame).1 (e.receive env s frame).2 := by
  unfold Endpoint.receive
  split
  · rename_i timedOut result htimeout
    unfold Endpoint.checkPendingAuthTimeout at htimeout
    split at htimeout
    · split at htimeout
      · cases htimeout
      · cases htimeout
        refine .stays (stays_of_eq rfl rfl fun h => (by cases h)) (not_hands_of_closed ?_)
        rintro result ⟨⟩
        rfl
    · cases htimeout
  · -- A first frame, one while the first is handled, one of an open session, or one after its end.
    split
    · rename_i hstate
      exact handles_handleInitialFrame env s hstate id
    · exact .stays (stays_closeOnViolation e _ _ id) (not_hands_closeOnViolation e _ _)
    · unfold Endpoint.handleEstablishedFrame
      split
      · rename_i hkind
        exact handles_handleIncomingMedia env.toRuntime e (s.clock 1) hkind id
      · rename_i hkind
        have hhands : ∀ handled, ¬ Hands frame handled := fun handled h =>
          absurd (hkind.symm.trans h.1) nofun
        have hcontrol := stays_controlFrame env e (s.clock 1) frame id
        dsimp only
        split
        · exact .stays hcontrol (hhands _)
        · exact .stays (hcontrol.trans (stays_closeOnViolation _ _ _ id)) (hhands _)
        · exact .stays (hcontrol.trans (stays_closeOnViolation _ _ _ id)) (hhands _)
    · refine .stays (Stays.refl id e) (not_hands_of_closed ?_)
      rintro result ⟨⟩
      rfl

end Streams

/-! ### How far an input stream has come -/

/-- The media frames that have been handed over, and the one that is about to be, follow on one
another and end where the stream stands. -/
structure Even (id : Text) (inFlight : List CulpeoMediaFrameContext) (log : List Passage)
    (e : Endpoint) : Prop where
  fresh : e.connection.state = .uninitialized → e.connection.snapshot = none
  unopened : e.connection.snapshot = none → mediaOn id log ++ inFlight = []
  even : ∀ now, e.streamObject id = some now → now.type = .input → ∃ first,
    Ledger.Contiguous offsetOf (lengthOn now) first (mediaOn id log ++ inFlight) ∧
      now.currentOffset = first + Ledger.total (lengthOn now) (mediaOn id log ++ inFlight)

section Even

variable {id : Text} {inFlight : List CulpeoMediaFrameContext} {log : List Passage}
  {e e' : Endpoint} {frame : CulpeoMessage}

theorem lengthOn_congr {now now' : StreamState} (h : SameUnit now now') :
    lengthOn now' = lengthOn now := by
  funext frame
  unfold lengthOn StreamState.getIncrement
  rw [h.1, h.2]

theorem Even.stays (h : Even id inFlight log e) (hstays : Stays id e e') :
    Even id inFlight log e' where
  fresh hstate := hstays.snapshot.trans (h.fresh (hstays.state hstate))
  unopened hnone := h.unopened (hstays.snapshot.symm.trans hnone)
  even now' hnow' hinput := by
    obtain ⟨now, hnow, hinput, hunit, hoffset⟩ := hstays.stream now' hnow' hinput
    rw [lengthOn_congr hunit, hoffset]
    exact h.even now hnow hinput

/-- What is handed over moves from what is about to be. -/
theorem Even.congr {log' : List Passage} {inFlight' : List CulpeoMediaFrameContext}
    (h : Even id inFlight log e)
    (hmedia : mediaOn id log' ++ inFlight' = mediaOn id log ++ inFlight) :
    Even id inFlight' log' e where
  fresh := h.fresh
  unopened hnone := by rw [hmedia]; exact h.unopened hnone
  even now hnow hinput := by rw [hmedia]; exact h.even now hnow hinput

/-- The media frame of a stream that the handler is about to get. -/
def inFlightOf (id : Text) (frame : CulpeoMessage) (result : CulpeoProcessResult) :
    List CulpeoMediaFrameContext :=
  if frame.kind = .media ∧ result.state = .established ∧ result.shouldClose = false ∧
      frame.streamId.getD [] = id then [mediaFrameContext frame] else []

theorem inFlightOf_cases (id : Text) (frame : CulpeoMessage) (result : CulpeoProcessResult) :
    inFlightOf id frame result = [] ∨ inFlightOf id frame result = contextsOf id frame := by
  unfold inFlightOf contextsOf
  split
  · rename_i hand
    rw [if_pos ⟨hand.1, hand.2.2.2⟩]
    exact .inr rfl
  · exact .inl rfl

/-- A stream object belongs to a session. -/
theorem snapshot_ne_none {stream : StreamState} (hstream : e.streamObject id = some stream) :
    e.connection.snapshot ≠ none := by
  intro hnone
  simp [Endpoint.streamObject, Endpoint.snapshot, hnone] at hstream

/-- Another stream is written. -/
theorem Even.putStream_ne {advanced : StreamState} (h : Even id inFlight log e)
    (hsnapshot : e.connection.snapshot ≠ none) (hne : advanced.id ≠ id) :
    Even id inFlight log (e.modifySnapshot (·.putStream advanced)) where
  fresh := by rw [connection_modifySnapshot]; exact h.fresh
  unopened hnone := absurd (by rwa [connection_modifySnapshot] at hnone) hsnapshot
  even now' hnow' hinput := by
    rw [streamObject_modifySnapshot, if_neg (Ne.symm hne)] at hnow'
    exact h.even now' hnow' hinput

/-- The stream moves by the frame that the handler is about to get. -/
theorem Even.advances {stream advanced : StreamState} (h : Even stream.id [] log e)
    (hstream : e.streamObject stream.id = some stream)
    (hoffset : frame.offset = some stream.currentOffset)
    (hadvanced : Advances stream frame.body.length advanced) :
    Even stream.id [mediaFrameContext frame] log (e.modifySnapshot (·.putStream advanced)) where
  fresh := by rw [connection_modifySnapshot]; exact h.fresh
  unopened hnone :=
    absurd (by rwa [connection_modifySnapshot] at hnone) (snapshot_ne_none hstream)
  even now' hnow' hinput := by
    rw [streamObject_modifySnapshot, if_pos hadvanced.id.symm, hstream, Option.map_some] at hnow'
    cases hnow'
    obtain ⟨n, hlength, hnext⟩ := hadvanced.offset
    obtain ⟨first, hcontiguous, hcurrent⟩ :=
      h.even stream hstream (hadvanced.type.symm.trans hinput)
    rw [lengthOn_congr hadvanced.unit, hnext]
    rw [List.append_nil] at hcontiguous hcurrent
    have hnow : offsetOf (mediaFrameContext frame) =
        some (first + Ledger.total (lengthOn stream) (mediaOn stream.id log)) := by
      rw [offsetOf, mediaFrameContext, hoffset, Option.getD_some]
      exact congrArg some hcurrent
    have hmoves : lengthOn stream (mediaFrameContext frame) = Int64.ofNat n := by
      rw [lengthOn, mediaFrameContext, hlength]
    refine ⟨first, Ledger.contiguous_append.mpr ⟨hcontiguous,
      Ledger.contiguous_cons.mpr ⟨hnow, Ledger.contiguous_nil⟩⟩, ?_⟩
    rw [Ledger.total_append, Ledger.total_cons, Ledger.total_nil, add_zero, ← add_assoc]
    exact congrArg₂ (· + ·) hcurrent hmoves.symm

/-- After the connection has dealt with a frame. -/
theorem Even.handles {handled : Except Exn CulpeoProcessResult} (h : Even id [] log e)
    (hhandles : Handles id frame e e' handled) :
    (∀ result, handled = .ok result → Even id (inFlightOf id frame result) log e') ∧
      ∃ inFlight, (inFlight = [] ∨ inFlight = contextsOf id frame) ∧
        Even id inFlight log e' := by
  have hidle : Even id [] log e' → ¬ Hands frame handled →
      (∀ result, handled = .ok result → Even id (inFlightOf id frame result) log e') ∧
        ∃ inFlight, (inFlight = [] ∨ inFlight = contextsOf id frame) ∧
          Even id inFlight log e' := by
    refine fun heven hnot => ⟨fun result hresult => ?_, [], .inl rfl, heven⟩
    have hnone : inFlightOf id frame result = [] :=
      if_neg fun hand => hnot ⟨hand.1, result, hresult, hand.2.1, hand.2.2.1⟩
    rw [hnone]
    exact heven
  cases hhandles with
  | opens hstate hnext hhands =>
      have hnil := h.unopened (h.fresh hstate)
      refine hidle ⟨fun h => absurd h hnext, fun _ => hnil, fun now _ _ => ?_⟩ hhands
      rw [hnil]
      exact ⟨now.currentOffset, Ledger.contiguous_nil, (add_zero _).symm⟩
  | stays hstays hhands => exact hidle (h.stays hstays) hhands
  | accepts stream advanced hstream hid hoffset hadvanced hhands he' =>
      obtain ⟨hkind, result, rfl, hstate, hopen⟩ := hhands
      suffices heven : Even id (inFlightOf id frame result) log e' by
        refine ⟨fun result' hresult' => ?_, _, inFlightOf_cases id frame result, heven⟩
        cases hresult'
        exact heven
      cases he'
      -- The frame that is accepted is one of this stream, or of another one.
      by_cases hsame : stream.id = id
      · cases hsame
        have hlist : inFlightOf stream.id frame result = [mediaFrameContext frame] :=
          if_pos ⟨hkind, hstate, hopen, by rw [hid, Option.getD_some]⟩
        rw [hlist]
        exact h.advances hstream hoffset hadvanced
      · have hlist : inFlightOf id frame result = [] :=
          if_neg fun hand => hsame (by rw [← hand.2.2.2, hid, Option.getD_some])
        rw [hlist]
        exact h.putStream_ne (snapshot_ne_none hstream) (hadvanced.id.trans_ne hsame)

/-! ### Streams that are watched -/

/-- As `Stays`, for a stream that is watched. -/
def Kept (track : Prop) (id : Text) (e e' : Endpoint) : Prop := track → Stays id e e'

/-- As `Even`, for a stream that is watched. -/
def Tracked (track : Prop) (id : Text) (inFlight : List CulpeoMediaFrameContext)
    (log : List Passage) (e : Endpoint) : Prop :=
  track → Even id inFlight log e

variable {track : Prop}

theorem Kept.refl (id : Text) (e : Endpoint) : Kept track id e e := fun _ => Stays.refl id e

theorem Tracked.kept (h : Tracked track id inFlight log e) (hkept : Kept track id e e') :
    Tracked track id inFlight log e' :=
  fun htrack => (h htrack).stays (hkept htrack)

theorem Tracked.congr {log' : List Passage} {inFlight' : List CulpeoMediaFrameContext}
    (h : Tracked track id inFlight log e)
    (hmedia : mediaOn id log' ++ inFlight' = mediaOn id log ++ inFlight) :
    Tracked track id inFlight' log' e :=
  fun htrack => (h htrack).congr hmedia

theorem Tracked.handles {handled : Except Exn CulpeoProcessResult}
    (h : Tracked track id [] log e) (hhandles : Handles id frame e e' handled) :
    (∀ result, handled = .ok result → Tracked track id (inFlightOf id frame result) log e') ∧
      ∃ inFlight, (inFlight = [] ∨ inFlight = contextsOf id frame) ∧
        Tracked track id inFlight log e' := by
  by_cases htrack : track
  · obtain ⟨hok, inFlight, hcontexts, heven⟩ := (h htrack).handles hhandles
    exact ⟨fun result hresult _ => hok result hresult, inFlight, hcontexts, fun _ => heven⟩
  · exact ⟨fun _ _ h => absurd h htrack, [], .inl rfl, fun h => absurd h htrack⟩

end Even

/-! ### The watch -/

/-- The connection has been given the frames that have come in, but for the last one. -/
def Behind (inbox : Inbox) (frames : List CulpeoMessage) : Prop :=
  ∃ rest, inbox.frames = frames ++ rest ∧ rest.length ≤ 1

section Flow

variable (o : CulpeoStreamOptions) (track : Prop) (id : Text)

/-- What holds at every point. -/
def Over (log : List Passage) (a : Adapter) : Prop :=
  Behind (inboxOf o log) (framesOf log) ∧
    ∃ inFlight, (inFlight = [] ∨ inFlight = awaited id log) ∧
      Tracked track id inFlight log a.endpoint

def flow : Watch Adapter AdapterAction AdapterAnswer Result Passage where
  rely a a' := Kept track id a.endpoint a'.endpoint
  note := passageOf
  assume _ := True
  holds log a _ := Over o track id log a

/-- How the inbox stands, while one media frame at most is to be handed over. -/
structure Flow (X : Inbox → List CulpeoMessage → Prop) (inFlight : List CulpeoMediaFrameContext)
    (log : List Passage) (a : Adapter) : Prop where
  inbox : X (inboxOf o log) (framesOf log)
  waits : inFlight = [] ∨ inFlight = awaited id log
  even : Tracked track id inFlight log a.endpoint

variable {o track id} {log : List Passage} {a a' : Adapter} {X : Inbox → List CulpeoMessage → Prop}
  {inFlight : List CulpeoMediaFrameContext} {α β : Type}

theorem Over.kept (h : Over o track id log a) (hkept : Kept track id a.endpoint a'.endpoint) :
    Over o track id log a' := by
  obtain ⟨hbehind, inFlight, hawaited, heven⟩ := h
  exact ⟨hbehind, inFlight, hawaited, heven.kept hkept⟩

theorem Flow.kept (h : Flow o track id X inFlight log a)
    (hkept : Kept track id a.endpoint a'.endpoint) :
    Flow o track id X inFlight log a' :=
  ⟨h.inbox, h.waits, h.even.kept hkept⟩

theorem Flow.toOver (h : Flow o track id X inFlight log a)
    (hX : ∀ inbox frames, X inbox frames → Behind inbox frames) : Over o track id log a :=
  ⟨hX _ _ h.inbox, inFlight, h.waits, h.even⟩

/-- A condition that is enough at every point, and stands what leaves the stream alone. -/
structure Firm (o : CulpeoStreamOptions) (track : Prop) (id : Text)
    (P : List Passage → Adapter → Prop) :
    Prop where
  toOver : ∀ {log a}, P log a → Over o track id log a
  kept : ∀ {log a a'}, P log a → Kept track id a.endpoint a'.endpoint → P log a'

theorem firm_over : Firm o track id (Over o track id) := ⟨fun h => h, fun h => h.kept⟩

theorem firm_flow (hX : ∀ inbox frames, X inbox frames → Behind inbox frames) :
    Firm o track id (Flow o track id X inFlight) :=
  ⟨fun h => h.toOver hX, fun h => h.kept⟩

variable {P : List Passage → Adapter → Prop}

theorem Firm.stable (hP : Firm o track id P) : Stable (flow o track id) P where
  rely h hkept := hP.kept h hkept
  locked _ _ h := hP.toOver h
  call _ _ h := hP.toOver h

/-- The method leads from `P` to `Q`, or throws. -/
def Passes (o : CulpeoStreamOptions) (track : Prop) (id : Text) (P : List Passage → Adapter → Prop)
    (x : Method α) (Q : α → List Passage → Adapter → Prop) : Prop :=
  Async.Triple (flow o track id) P x fun r log a =>
    Over o track id log a ∧ ∀ value, r = .ok value → Q value log a

variable {Q : α → List Passage → Adapter → Prop}

theorem passes_pure {value : α} (hP : Firm o track id P) (h : ∀ log a, P log a → Q value log a) :
    Passes o track id P (pure value) Q := by
  refine Async.triple_pure fun log a h' => ⟨hP.toOver h', ?_⟩
  rintro _ ⟨⟩
  exact h log a h'

theorem passes_throw {e : AdapterExn} (hP : Firm o track id P) : Passes o track id P (throw e) Q :=
  Async.triple_throw fun _ _ h => ⟨hP.toOver h, nofun⟩

theorem Passes.bind {x : Method α} {f : α → Method β} {R : α → List Passage → Adapter → Prop}
    {Q : β → List Passage → Adapter → Prop} (h : Passes o track id P x R)
    (hf : ∀ a, Passes o track id (R a) (f a) Q) : Passes o track id P (x >>= f) Q := by
  refine Async.Triple.bind h (fun value => ?_) fun e log a h => ⟨h.1, nofun⟩
  exact (hf value).weaken (fun log a h => h.2 value rfl) fun _ _ _ h => h

theorem Passes.weaken {P' : List Passage → Adapter → Prop} {x : Method α}
    (h : Passes o track id P x Q) (hP : ∀ log a, P' log a → P log a) : Passes o track id P' x Q :=
  Async.Triple.weaken h hP fun _ _ _ h => h

/-- An action that does not pass anything on. -/
def Still (action : AdapterAction) : Prop := ∀ answer, passageOf action answer = none

theorem still_of_transport (action : AdapterAction) (h : action.transport = true) :
    Still action := by
  cases action with
  | receiveFragment => cases h
  | receive frame => cases h
  | onMediaFrame frame => cases h
  | _ => exact fun _ => rfl

theorem Firm.closed (hP : Firm o track id P) :
    Async.Closed (fun a a' : Adapter => Kept track id a.endpoint a'.endpoint) Still
      fun p : Rest => ∀ log a, P log a → p.Safe (flow o track id) log a :=
  hP.stable.closed.narrow (fun _ _ hkept _ h => hP.kept h hkept) fun _ => fun h => h

/-- What sends only. -/
theorem Firm.closedTransport (hP : Firm o track id P) :
    Async.Closed (fun a a' : Adapter => a' = a) Still
      fun p : Rest => ∀ log a, P log a → p.Safe (flow o track id) log a :=
  hP.closed.narrow (fun a a' heq => by rw [heq]; exact Kept.refl id a.endpoint) fun _ h => h

theorem passes_keeps {x : Method α} (hP : Firm o track id P)
    (h : Async.Keeps (fun p : Rest => ∀ log a, P log a → p.Safe (flow o track id) log a) x) :
    Passes o track id P x fun _ => P :=
  (Async.Triple.of_keeps h).weaken (fun _ _ h => h) fun _ _ _ h => ⟨hP.toOver h, fun _ _ => h⟩

theorem passes_sendFrameAsync (hP : Firm o track id P) (frame : CulpeoMessage) :
    Passes o track id P (sendFrameAsync frame) fun _ => P :=
  passes_keeps hP (keeps_sendFrameAsync hP.closedTransport still_of_transport frame)

theorem passes_sendFramesAsync (hP : Firm o track id P) (frames : List CulpeoMessage) :
    Passes o track id P (sendFramesAsync frames) fun _ => P :=
  passes_keeps hP (keeps_sendFramesAsync hP.closedTransport still_of_transport frames)

theorem passes_await {action : AdapterAction} {answer : AdapterAnswer → Except AdapterExn α}
    (hP : Firm o track id P) (hstill : Still action) :
    Passes o track id P (.await action answer) fun _ => P :=
  passes_keeps hP (hP.closed.await hstill answer)

theorem passes_update {f : Adapter → Adapter} (hP : Firm o track id P)
    (hkept : ∀ a, Kept track id a.endpoint (f a).endpoint) :
    Passes o track id P (.update f) fun _ => P :=
  passes_keeps hP (hP.closed.update hkept)

theorem passes_setCloseCode (hP : Firm o track id P) (code : Option Text) :
    Passes o track id P (setCloseCode code) fun _ => P :=
  passes_update hP fun a => Kept.refl id a.endpoint

theorem passes_read {f : Adapter → α} (hP : Firm o track id P) :
    Passes o track id P (.read f) fun _ => P :=
  passes_keeps hP (hP.closed.read (fun a => Kept.refl id a.endpoint) f)

/-! ### One message -/

/-- The connection has been given everything, and this much of the next message is there. -/
def Level (accumulator : Bytes) (inbox : Inbox) (frames : List CulpeoMessage) : Prop :=
  inbox = ⟨frames, some accumulator⟩

/-- A fragment has come. -/
def Come (o : CulpeoStreamOptions) (accumulator : Bytes) (fragment : Fragment) (inbox : Inbox)
    (frames : List CulpeoMessage) : Prop :=
  inbox = Inbox.next o.maxMessageBytes.toInt ⟨frames, some accumulator⟩ fragment

/-- A message has come. -/
def Put (messageType : WebSocketMessageType) (messageBytes : Bytes) (inbox : Inbox)
    (frames : List CulpeoMessage) : Prop :=
  inbox = Inbox.put ⟨frames, none⟩ messageType messageBytes

/-- A frame has come. -/
def Held (frame : CulpeoMessage) (inbox : Inbox) (frames : List CulpeoMessage) : Prop :=
  inbox = ⟨frames ++ [frame], some []⟩

theorem behind_self (frames : List CulpeoMessage) (accumulated : Option Bytes) :
    Behind ⟨frames, accumulated⟩ frames :=
  ⟨[], (List.append_nil frames).symm, Nat.zero_le 1⟩

theorem Level.behind {accumulator : Bytes} (inbox : Inbox) (frames : List CulpeoMessage)
    (h : Level accumulator inbox frames) : Behind inbox frames := by
  rw [h]
  exact behind_self frames _

theorem Put.behind {messageType : WebSocketMessageType} {messageBytes : Bytes} (inbox : Inbox)
    (frames : List CulpeoMessage) (h : Put messageType messageBytes inbox frames) :
    Behind inbox frames := by
  rw [h]
  unfold Inbox.put
  split
  · exact ⟨_, rfl, le_rfl⟩
  · exact behind_self frames _

theorem Held.behind {frame : CulpeoMessage} (inbox : Inbox) (frames : List CulpeoMessage)
    (h : Held frame inbox frames) : Behind inbox frames := by
  rw [h]
  exact ⟨[frame], rfl, le_rfl⟩

theorem Come.behind {accumulator : Bytes} {fragment : Fragment} (inbox : Inbox)
    (frames : List CulpeoMessage) (h : Come o accumulator fragment inbox frames) :
    Behind inbox frames := by
  rw [h]
  unfold Inbox.next
  dsimp only
  split
  · exact behind_self frames _
  · split
    · exact behind_self frames _
    · split
      · exact Put.behind _ frames rfl
      · exact behind_self frames _

theorem inboxOf_fragment (o : CulpeoStreamOptions) (log : List Passage) (fragment : Fragment) :
    inboxOf o (log ++ [.fragment fragment]) =
      Inbox.next o.maxMessageBytes.toInt (inboxOf o log) fragment := by
  unfold inboxOf Inbox.of
  rw [List.filterMap_append, List.foldl_append]
  rfl

theorem passes_receiveFragment (accumulator : Bytes) :
    Passes o track id (Flow o track id (Level accumulator) [])
      (.await .receiveFragment AdapterAnswer.asFragment) fun received =>
        Flow o track id (Come o accumulator ⟨received.1, received.2.1, received.2.2⟩) [] := by
  have hfirm : Firm o track id (Flow o track id (Level accumulator) []) :=
    firm_flow Level.behind
  refine Async.triple_await hfirm.stable fun log a answer h _ => ?_
  cases answer with
  | fragment messageType data endOfMessage =>
      have hcome : Flow o track id (Come o accumulator ⟨messageType, data, endOfMessage⟩) []
          (log ++ [.fragment ⟨messageType, data, endOfMessage⟩]) a := by
        refine ⟨?_, .inl rfl, h.even.congr (by simp [mediaOn, mediaOf])⟩
        have hframes : framesOf (log ++ [.fragment ⟨messageType, data, endOfMessage⟩]) =
            framesOf log := by simp [framesOf, frameOf]
        rw [Come, hframes, inboxOf_fragment, h.inbox]
      refine ⟨hcome.toOver Come.behind, ?_⟩
      rintro _ ⟨⟩
      exact hcome
  | _ => exact ⟨(List.append_nil log).symm ▸ hfirm.toOver h, nofun⟩

/-- A message that has been received. -/
def Gathered (o : CulpeoStreamOptions) (track : Prop) (id : Text)
    (message : WebSocketMessageType × Bytes)
    (log : List Passage) (a : Adapter) : Prop :=
  Over o track id log a ∧ (message.1 ≠ .close → Flow o track id (Put message.1 message.2) [] log a)

theorem firm_gathered (message : WebSocketMessageType × Bytes) :
    Firm o track id (Gathered o track id message) :=
  ⟨And.left, fun h hkept => ⟨h.1.kept hkept, fun hopen => (h.2 hopen).kept hkept⟩⟩

theorem passes_receiveMessageAsync (rounds : ℕ) (accumulator : Bytes) :
    Passes o track id (Flow o track id (Level accumulator) [])
      (receiveMessageAsync o rounds accumulator)
      (Gathered o track id) := by
  induction rounds generalizing accumulator with
  | zero =>
      intro next hnext log a h a' hkept
      exact (h.kept hkept).toOver Level.behind
  | succ rounds ih =>
      refine (passes_receiveFragment accumulator).bind fun ⟨messageType, data, endOfMessage⟩ => ?_
      have hcome : Firm o track id (Flow o track id
          (Come o accumulator ⟨messageType, data, endOfMessage⟩) []) :=
        firm_flow Come.behind
      dsimp only
      -- The fragment closes, is too long, ends its message, or is followed by the next one.
      split
      · exact passes_pure hcome fun log a h => ⟨hcome.toOver h, fun hopen => absurd rfl hopen⟩
      · rename_i hopen
        split
        · exact (passes_sendFrameAsync hcome _).bind fun _ => passes_throw hcome
        · rename_i hfits
          split
          · rename_i hend
            refine passes_pure hcome fun log a h =>
              ⟨hcome.toOver h, fun _ => ⟨?_, .inl rfl, h.even⟩⟩
            rw [h.inbox, Inbox.next]
            dsimp only
            rw [if_neg hopen, if_neg hfits, if_pos hend]
            rfl
          · rename_i hmore
            refine (ih (accumulator ++ data)).weaken fun log a h => ⟨?_, .inl rfl, h.even⟩
            rw [h.inbox, Inbox.next]
            dsimp only
            rw [if_neg hopen, if_neg hfits, if_neg hmore]
            rfl

/-! ### One frame -/

/-- Between two messages. -/
abbrev Idle (o : CulpeoStreamOptions) (track : Prop) (id : Text) : List Passage → Adapter → Prop :=
  Flow o track id (Level []) []

theorem firm_idle : Firm o track id (Idle o track id) := firm_flow Level.behind

/-- After a turn of the loop, which may have ended it. -/
def Turn (o : CulpeoStreamOptions) (track : Prop) (id : Text) : Bool → List Passage → Adapter → Prop
  | true => Over o track id
  | false => Idle o track id

theorem passes_authenticateFrame {P : List Passage → Adapter → Prop} (hP : Firm o track id P)
    (frame : CulpeoMessage) : Passes o track id P (authenticateFrame frame) fun _ => P := by
  unfold authenticateFrame
  split
  · refine (passes_await hP fun _ => rfl).bind fun granted => ?_
    split
    · exact passes_pure hP fun _ _ h => h
    · exact (passes_sendFrameAsync hP _).bind fun _ => (passes_setCloseCode hP _).bind fun _ =>
        passes_pure hP fun _ _ h => h
  · exact passes_pure hP fun _ _ h => h

theorem passes_receiveAsync (env : Environment) (frame : CulpeoMessage) :
    Passes o track id (Flow o track id (Held frame) []) (receiveAsync env frame) fun result =>
      Flow o track id (Level []) (inFlightOf id frame result) := by
  have hheld : Firm o track id (Flow o track id (Held frame) []) :=
    firm_flow Held.behind
  -- Until it is dealt with, the frame is the last one that has been given.
  have hgiven : Firm o track id fun log a => Idle o track id log a ∧ lastGiven log = some frame :=
    ⟨fun h => firm_idle.toOver h.1, fun h hkept => ⟨firm_idle.kept h.1 hkept, h.2⟩⟩
  have hgive : Passes o track id (Flow o track id (Held frame) [])
      (.await (.receive frame) AdapterAnswer.asSurroundings) fun _ log a =>
        Idle o track id log a ∧ lastGiven log = some frame := by
    refine Async.triple_await hheld.stable fun log a answer h _ => ?_
    cases answer with
    | surroundings s =>
        have hidle : Idle o track id (log ++ [.received frame]) a := by
          refine ⟨?_, .inl rfl, h.even.congr (by simp [mediaOn, mediaOf])⟩
          have hinbox : inboxOf o (log ++ [.received frame]) = inboxOf o log := by
            simp [inboxOf, fragmentOf, List.filterMap_cons]
          have hframes : framesOf (log ++ [.received frame]) = framesOf log ++ [frame] := by
            simp [framesOf, frameOf]
          rw [Level, hinbox, hframes, h.inbox]
        exact ⟨firm_idle.toOver hidle, fun _ _ => ⟨hidle, lastGiven_received log frame⟩⟩
    | _ => exact ⟨(List.append_nil log).symm ▸ hheld.toOver h, nofun⟩
  refine hgive.bind fun s => Async.triple_step hgiven.stable fun log a h => ?_
  obtain ⟨hidle, hlast⟩ := h
  obtain ⟨hresult, inFlight, hcontexts, heven⟩ :=
    hidle.even.handles (handles_receive env s a.endpoint frame id)
  have hawaited : awaited id log = contextsOf id frame := by rw [awaited, hlast, Option.elim_some]
  rw [← hawaited] at hcontexts
  refine ⟨⟨Level.behind _ _ hidle.inbox, inFlight, hcontexts, heven⟩, fun result hok =>
    ⟨hidle.inbox, ?_, ?_⟩⟩
  · rw [hawaited]
    exact inFlightOf_cases id frame result
  · exact hresult result (Checks.mapError_ok_iff.mp hok)

theorem passes_connectHandler {P : List Passage → Adapter → Prop} (hP : Firm o track id P)
    (result : CulpeoProcessResult) : Passes o track id P (connectHandler result) fun _ => P := by
  refine (passes_read hP).bind fun connected => ?_
  split
  · have hstartedAt : Passes o track id P sessionStartedAt fun _ => P := by
      refine (passes_read hP).bind fun startedAt => ?_
      cases startedAt with
      | some startedAt => exact passes_pure hP fun _ _ h => h
      | none => exact passes_await hP fun _ => rfl
    refine Passes.bind (R := fun _ => P) (passes_update hP fun a => Kept.refl id a.endpoint)
      fun _ => hstartedAt.bind fun startedAt => ?_
    exact Passes.bind (R := fun _ => P) (passes_update hP fun a => Kept.refl id a.endpoint)
      fun _ => passes_await hP fun _ => rfl
  · exact passes_pure hP fun _ _ h => h

theorem passes_dispatchFrame (frame : CulpeoMessage) (result : CulpeoProcessResult) :
    Passes o track id (Flow o track id (Level []) (inFlightOf id frame result))
      (dispatchFrame frame result)
      fun _ => Idle o track id := by
  have hfirm : Firm o track id (Flow o track id (Level []) (inFlightOf id frame result)) :=
    firm_flow Level.behind
  -- Where no media frame is handed over, none has been accepted.
  have hnothing : ∀ {x : Method Unit}, inFlightOf id frame result = [] →
      Passes o track id (Idle o track id) x (fun _ => Idle o track id) →
      Passes o track id (Flow o track id (Level []) (inFlightOf id frame result)) x
        fun _ => Idle o track id := by
    intro x hnil h
    rwa [hnil]
  unfold dispatchFrame
  split
  · rename_i hready
    rw [Bool.and_eq_true, decide_eq_true_eq, Bool.not_eq_true'] at hready
    split
    · rename_i hkind
      refine Async.triple_await hfirm.stable fun log a answer h _ => ?_
      have hidle : Idle o track id (log ++ [.media (mediaFrameContext frame)]) a := by
        refine ⟨?_, .inl rfl, h.even.congr ?_⟩
        · have hinbox : inboxOf o (log ++ [.media (mediaFrameContext frame)]) = inboxOf o log := by
            simp [inboxOf, fragmentOf, List.filterMap_cons]
          have hframes : framesOf (log ++ [.media (mediaFrameContext frame)]) = framesOf log := by
            simp [framesOf, frameOf]
          rw [hinbox, hframes]
          exact h.inbox
        · unfold mediaOn inFlightOf
          by_cases hid : frame.streamId.getD [] = id
          · simp [mediaOf, mediaFrameContext, hid, hkind, hready]
          · simp [mediaOf, mediaFrameContext, hid]
      exact ⟨firm_idle.toOver hidle, fun _ _ => hidle⟩
    · rename_i hkind
      refine hnothing (if_neg fun hand => hkind hand.1) ?_
      split
      · exact passes_await firm_idle fun _ => rfl
      · exact passes_pure firm_idle fun _ _ h => h
  · rename_i hready
    refine hnothing (if_neg fun hand => hready ?_) (passes_pure firm_idle fun _ _ h => h)
    rw [hand.2.1, hand.2.2.1]
    rfl

theorem passes_processFrame (env : Environment) (frame : CulpeoMessage) :
    Passes o track id (Flow o track id (Held frame) []) (processFrame env frame)
      (Turn o track id) := by
  have hheld : Firm o track id (Flow o track id (Held frame) []) :=
    firm_flow Held.behind
  refine (passes_authenticateFrame hheld frame).bind fun authenticated => ?_
  cases authenticated with
  | false => exact passes_pure hheld fun _ _ h => hheld.toOver h
  | true =>
      refine (passes_receiveAsync env frame).bind fun result => ?_
      have hfirm : Firm o track id (Flow o track id (Level []) (inFlightOf id frame result)) :=
        firm_flow Level.behind
      refine (passes_sendFramesAsync hfirm _).bind fun _ =>
        (passes_connectHandler hfirm result).bind fun _ =>
        (passes_dispatchFrame frame result).bind fun _ =>
        Passes.bind (R := fun _ => Idle o track id) ?_ fun timeoutCheck => ?_
      · refine (passes_await firm_idle fun _ => rfl).bind fun s => ?_
        refine passes_keeps firm_idle (firm_idle.closed.step fun a => ?_)
        exact fun _ => stays_checkTimeouts s a.endpoint id
      · split
        · exact (passes_sendFramesAsync firm_idle _).bind fun _ =>
            (passes_setCloseCode firm_idle _).bind fun _ =>
            passes_pure firm_idle fun _ _ => firm_idle.toOver
        · split
          · exact (passes_setCloseCode firm_idle _).bind fun _ =>
              passes_pure firm_idle fun _ _ => firm_idle.toOver
          · exact passes_pure firm_idle fun _ _ h => h

/-! ### The loop and its end -/

theorem passes_closeWith {P : List Passage → Adapter → Prop} (hP : Firm o track id P)
    (code reason : Text) : Passes o track id P (closeWith code reason) (Turn o track id) :=
  (passes_sendFrameAsync hP _).bind fun _ => (passes_setCloseCode hP _).bind fun _ =>
    passes_pure hP fun _ _ => hP.toOver

theorem passes_processMessage (env : Environment) (messageType : WebSocketMessageType)
    (messageBytes : Bytes) :
    Passes o track id (Gathered o track id (messageType, messageBytes))
      (processMessage env messageType messageBytes) (Turn o track id) := by
  unfold processMessage
  split
  · exact passes_pure (firm_gathered _) fun _ _ h => h.1
  · rename_i hopen
    have hput : Firm o track id (Flow o track id (Put messageType messageBytes) []) :=
      firm_flow Put.behind
    refine Passes.weaken ?_ fun log a h => h.2 hopen
    refine (passes_await hput fun _ => rfl).bind fun _ => ?_
    split
    · exact passes_closeWith hput _ _
    · exact passes_throw hput
    · rename_i frame hframe
      refine (passes_processFrame env frame).weaken fun log a h => ⟨?_, .inl rfl, h.even⟩
      rw [h.inbox, Inbox.put, readMessage, hframe]
      rfl

theorem passes_runOnce (env : Environment) (fragments : ℕ) :
    Passes o track id (Idle o track id) (runOnce env o fragments) (Turn o track id) := by
  have hmessage : Async.Triple (flow o track id) (Idle o track id)
      (receiveMessageAsync o fragments []).attempt fun r log a => Over o track id log a ∧
        ∀ value, r = .ok value → Over o track id log a ∧
          ∀ message, value = .ok message → Gathered o track id message log a := by
    refine (passes_receiveMessageAsync fragments []).attempt fun r log a h => ⟨h.1, ?_⟩
    rintro _ ⟨⟩
    exact h
  refine Passes.bind hmessage fun message => ?_
  have hover : ∀ {x : Method Bool}, Passes o track id (Over o track id) x (Turn o track id) →
      Passes o track id (fun log a => Over o track id log a ∧
        ∀ message', message = .ok message' → Gathered o track id message' log a) x
        (Turn o track id) := fun h => h.weaken fun _ _ h => h.1
  split
  · refine hover ((passes_await firm_over fun _ => rfl).bind fun cancelled => ?_)
    split
    · exact passes_throw firm_over
    · exact passes_closeWith firm_over _ _
  · exact hover (passes_throw firm_over)
  · exact (passes_processMessage env _ _).weaken fun _ _ h => h.2 _ rfl

theorem passes_runLoop (env : Environment) (fragments rounds : ℕ) :
    Passes o track id (Idle o track id) (runLoop env o fragments rounds)
      fun _ => Over o track id := by
  induction rounds with
  | zero =>
      exact fun next hnext log a h a' hkept => (h.kept hkept).toOver Level.behind
  | succ rounds ih =>
      refine (passes_await firm_idle fun _ => rfl).bind fun cancelled => ?_
      split
      · exact passes_pure firm_idle fun _ _ => firm_idle.toOver
      · refine (passes_runOnce env fragments).bind fun ended => ?_
        cases ended with
        | true => exact passes_pure firm_over fun _ _ h => h
        | false => exact ih

theorem keeps_leave : Async.Keeps
    (fun p : Rest => ∀ log a, Over o track id log a → p.Safe (flow o track id) log a) leave := by
  have hover : Firm o track id (Over o track id) := firm_over
  have hupdate : ∀ f : Adapter → Adapter,
      (∀ a, Kept track id a.endpoint (f a).endpoint) → Async.Keeps
        (fun p : Rest => ∀ log a, Over o track id log a → p.Safe (flow o track id) log a)
        (.update f : Method Unit) := fun f hkept => hover.closed.update hkept
  have hread : ∀ {α : Type} (f : Adapter → α), Async.Keeps
      (fun p : Rest => ∀ log a, Over o track id log a → p.Safe (flow o track id) log a)
      (.read f : Method α) := fun f => hover.closed.read (fun a => Kept.refl id a.endpoint) f
  refine Async.Keeps.bind (hupdate _ fun a => Kept.refl id a.endpoint) fun _ => ?_
  refine Async.Keeps.bind (hover.closed.await (fun _ => rfl) _) fun s => ?_
  refine Async.Keeps.bind (hupdate _ fun a _ => ?_) fun _ => Async.Keeps.bind ?_ fun _ =>
    (keeps_closeTransport hover.closedTransport still_of_transport).attempt.bind fun _ => ?_
  · exact (stays_stampDisconnected a.endpoint (s.clock 0) id).trans
      (stays_setState _ .closed id nofun)
  · refine (hread _).bind fun connected => ?_
    split
    · refine (hread _).bind fun code => Async.Keeps.bind ?_ fun _ => Async.keeps_pure _
      exact Async.Keeps.attempt (hover.closed.await (fun _ => rfl) _)
    · exact Async.keeps_pure _
  · exact hover.closed.await (fun _ => rfl) _

theorem flow_runAsync (env : Environment) (rounds : ℕ) {log : List Passage} {a : Adapter}
    (h : Idle o track id log a) : (runAsync env o rounds).Safe (flow o track id) log a := by
  have hloop : Async.Triple (flow o track id) (Idle o track id)
      (runLoop env o rounds rounds).attempt fun _ => Over o track id :=
    (passes_runLoop env rounds rounds).attempt fun r log a h => h.1
  have hrun := hloop.bind (fun _ => Async.Triple.of_keeps keeps_leave) fun _ _ _ h => h
  have hret : ∀ r log a, Over o track id log a →
      (Prog.ret (some r) : Rest).Safe (flow o track id) log a :=
    fun r log a hover a' hkept => hover.kept hkept
  exact hrun _ hret log a h

end Flow

/-! ### Runs -/

section Runs

variable {o : CulpeoStreamOptions} {track : Prop} {id : Text}

/-- Calls besides `RunAsync` that leave a stream alone. -/
def aside (track : Prop) (id : Text) : Contract Adapter AdapterAction AdapterAnswer where
  inv _ := True
  rel a a' := Kept track id a.endpoint a'.endpoint
  out := Still
  ans _ _ := True

theorem closed_aside : Async.Closed (fun a a' : Adapter => Kept track id a.endpoint a'.endpoint)
    Still fun p : Rest => p.Meets (aside track id) where
  locked hrel hnext a _ := ⟨trivial, hrel a, hnext a⟩
  call hout hnext := ⟨hout, fun r _ => hnext r⟩

theorem closed_aside_transport : Async.Closed (fun a a' : Adapter => a' = a) Still
    fun p : Rest => p.Meets (aside track id) :=
  closed_aside.narrow (fun a a' heq => by rw [heq]; exact Kept.refl id a.endpoint) fun _ h => h

/-- The server sends on no input stream. -/
theorem stays_sendMedia (e : Endpoint) (now : Ticks) (streamId : Text) (payload : Bytes)
    (timestamp : Int64) : Stays id e (e.sendMedia now streamId payload timestamp).1 := by
  unfold Endpoint.sendMedia
  split
  · exact Stays.refl id e
  · rename_i stream hstream
    split
    · exact Stays.refl id e
    · rename_i houtput
      dsimp only
      split
      · exact stays_putStream_of_output houtput
      · rename_i advanced hadvanced
        refine stays_putStream_of_output fun hinput => houtput ?_
        exact (advances_recordFrame hadvanced).type.symm.trans hinput

theorem aside_sendMediaAsync (streamId : Text) (payload : Bytes) :
    Async.Keeps (fun p : Rest => p.Meets (aside track id)) (sendMediaAsync streamId payload) := by
  refine (closed_aside.step fun a => Kept.refl id a.endpoint).bind fun _ =>
    (closed_aside.await (fun _ => rfl) _).bind fun timestamp =>
    (closed_aside.await (fun _ => rfl) _).bind fun s => Async.Keeps.bind ?_ fun frame =>
    keeps_sendFrameAsync closed_aside_transport still_of_transport frame
  exact closed_aside.step fun a _ => stays_sendMedia a.endpoint (s.clock 0) streamId payload _

theorem aside_sendEventAsync (eventName streamId jsonBody : Option Text) :
    Async.Keeps (fun p : Rest => p.Meets (aside track id))
      (sendEventAsync eventName streamId jsonBody) := by
  refine (closed_aside.step fun a => Kept.refl id a.endpoint).bind fun _ => ?_
  split
  · exact Async.keeps_throw _
  · split
    · exact Async.keeps_throw _
    · exact keeps_sendFrameAsync closed_aside_transport still_of_transport _

theorem aside_closeAsync (code reason : Text) :
    Async.Keeps (fun p : Rest => p.Meets (aside track id)) (closeAsync code reason) := by
  refine (closed_aside.read (fun a => Kept.refl id a.endpoint) _).bind fun isClosed => ?_
  split
  · exact Async.keeps_pure _
  · exact keeps_sendFrameAsync closed_aside_transport still_of_transport _

/-- Other connections leave the stream alone. -/
def LeavesAlone (id : Text) : AdapterCall → Adapter → Prop
  | .others server, a => Stays id a.endpoint { a.endpoint with server }
  | _, _ => True

theorem fits_flow : Fits (restrict (fun call a => track → LeavesAlone id call a) enter
    (some (.ok ()))) (flow o track id) (aside track id) where
  refl a := Kept.refl id a.endpoint
  trans _ _ _ h h' htrack := (h htrack).trans (h' htrack)
  rely _ _ h := h
  inv _ _ _ _ := trivial
  enter call a _ := by
    unfold restrict
    split
    · rename_i hguard
      cases call with
      | sendMediaAsync streamId payload =>
          exact ⟨trivial, Kept.refl id a.endpoint,
            aside_sendMediaAsync streamId payload _ fun _ => trivial⟩
      | sendEventAsync eventName streamId jsonBody =>
          exact ⟨trivial, Kept.refl id a.endpoint,
            aside_sendEventAsync eventName streamId jsonBody _ fun _ => trivial⟩
      | closeAsync code reason =>
          exact ⟨trivial, Kept.refl id a.endpoint,
            aside_closeAsync code reason _ fun _ => trivial⟩
      | others server => exact ⟨trivial, hguard, trivial⟩
    · exact ⟨trivial, Kept.refl id a.endpoint, trivial⟩
  answers _ _ := trivial
  assume _ _ _ := trivial

variable (env : Environment) (o : CulpeoStreamOptions) (rounds : ℕ) (server : CulpeoSessionServer)
  (moves : List (Move AdapterCall AdapterAnswer))

/-- What has passed in a run. -/
def passages : List Passage :=
  answered enter (fun call action answer => if call = 0 then passageOf action answer else none)
    (start env o rounds server) moves

/-- **Every run**, for a stream that the others leave alone. -/
theorem over_after (track : Prop) (id : Text)
    (halone : Along enter (Guarded fun call a => track → LeavesAlone id call a)
      (start env o rounds server) moves) :
    Over o track id (passages env o rounds server moves)
      (after env o rounds server moves).shared := by
  have hidle : Idle o track id [] (start env o rounds server).shared :=
    ⟨rfl, .inl rfl, fun _ => ⟨fun _ => rfl, fun _ => rfl, fun _ hnow => (by cases hnow)⟩⟩
  have hbegin : Watched (flow o track id) (aside track id) [] (start env o rounds server) := by
    refine ⟨_, rfl, flow_runAsync env rounds hidle, fun j p hj hp => ?_⟩
    cases j with
    | zero => exact absurd rfl hj
    | succ j => cases hp
  obtain ⟨point, -, hover⟩ :=
    (watched_run_along fits_flow moves hbegin halone trivial).holds fun a => Kept.refl id a.endpoint
  exact hover

/-- **Nothing is lost on the way in.**  In every run, and wherever the messages that have come
have been cut, the frames that the connection has been given are those of the messages, in order
and each one once, and at most the last one is still to come. -/
theorem receives_messages {messages : List (WebSocketMessageType × Bytes)}
    (hcuts : Cuts messages ((passages env o rounds server moves).filterMap fragmentOf)) :
    ∃ rest, (Inbox.of o.maxMessageBytes.toInt (messages.map whole)).frames =
      framesOf (passages env o rounds server moves) ++ rest ∧ rest.length ≤ 1 := by
  have halone : Along enter (Guarded fun call a => False → LeavesAlone [] call a)
      (start env o rounds server) moves := along_guarded (fun _ _ h => h.elim) moves _
  obtain ⟨rest, hrest, hlength⟩ := (over_after env o rounds server moves False [] halone).1
  refine ⟨rest, ?_, hlength⟩
  rw [← hrest]
  exact (frames_cuts hcuts {} (.inr rfl)).symm

/-- **The handler gets an input stream in order.**  In every run in which the other connections
leave the stream alone, the media frames that the handler has been given on it follow on one
another and end where the stream stands; or they do so together with the frame that the
connection has been given last, while it has not been handed over yet. -/
theorem hands_over_in_order (id : Text) (now : StreamState)
    (halone : Along enter (Guarded (LeavesAlone id)) (start env o rounds server) moves)
    (hnow : (after env o rounds server moves).shared.endpoint.streamObject id = some now)
    (hinput : now.type = .input) :
    ∃ first inFlight,
      (inFlight = [] ∨ inFlight = awaited id (passages env o rounds server moves)) ∧
      Ledger.Contiguous offsetOf (lengthOn now) first
        (mediaOn id (passages env o rounds server moves) ++ inFlight) ∧
      now.currentOffset = first + Ledger.total (lengthOn now)
        (mediaOn id (passages env o rounds server moves) ++ inFlight) := by
  have halone' := halone.imp (fun cfg m h c hc (_ : True) => h c hc)
  obtain ⟨-, inFlight, hawaited, heven⟩ := over_after env o rounds server moves True id halone'
  obtain ⟨first, hcontiguous, hcurrent⟩ := (heven trivial).even now hnow hinput
  exact ⟨first, inFlight, hawaited, hcontiguous, hcurrent⟩

/-! ### A client that talks -/

/-- An init body with one stream. -/
def talkInit : JsonElement :=
  .named [(utf16 "version", .string (some (utf16 "0.3"))),
    (utf16 "streams", .array [.named [
      (utf16 "content_type", .string (some (utf16 "a/b"))),
      (utf16 "type", .string (some (utf16 "input"))),
      (utf16 "offset_type", .string (some (utf16 "message")))]])]

def talkEnvironment : Environment := .reading [talkInit]

def talkMoment : Surroundings :=
  ⟨fun _ => 638396640000000000, fun k _ => UInt8.ofNat (k + 1)⟩

/-- The id of the stream that is made there. -/
def talkStream : Text := generateOpaqueId (talkMoment.random 1) 8

def talkOpening : Bytes := serializeAsync {
  kind := .control
  event := some (utf16 "culpeo.init")
  authorization := some (utf16 "Bearer t")
  body := talkEnvironment.serialize talkInit }

def talkFrame (offset : Int64) (body : Bytes) : Bytes := serializeAsync {
  kind := .media
  streamId := some talkStream
  contentType := some (utf16 "a/b")
  offset := some offset
  body }

/-- A media frame comes, and the connection is given it. -/
def talkReceives (offset : Int64) (body : Bytes) : List (Move AdapterCall AdapterAnswer) :=
  [.resume 0 (.flag false), .resume 0 (.fragment .binary (talkFrame offset body) true),
    .resume 0 .done, .resume 0 (.surroundings talkMoment), .resume 0 .done]

/-- The handler is given it, and the challenge of the connection is looked after. -/
def talkHandsOver : List (Move AdapterCall AdapterAnswer) :=
  [.resume 0 .done, .resume 0 .done, .resume 0 (.surroundings talkMoment), .resume 0 .done]

/-- The opening comes in two parts, then two frames that the handler is given, and a third one
that it is about to get. -/
def talkMoves : List (Move AdapterCall AdapterAnswer) :=
  [.resume 0 (.flag false), .resume 0 (.fragment .text (talkOpening.take 9) false),
    .resume 0 (.fragment .text (talkOpening.drop 9) true), .resume 0 .done,
    .resume 0 (.flag true), .resume 0 (.surroundings talkMoment), .resume 0 .done,
    .resume 0 .done, .resume 0 .done, .resume 0 (.state .open), .resume 0 .done, .resume 0 .done,
    .resume 0 .done, .resume 0 .done, .resume 0 .done, .resume 0 .done, .resume 0 .done,
    .resume 0 (.surroundings talkMoment), .resume 0 .done] ++
  talkReceives 0 [1] ++ talkHandsOver ++ talkReceives 1 [2, 3] ++ talkHandsOver ++
  talkReceives 2 [4]

/-- The messages of the client. -/
def talkMessages : List (WebSocketMessageType × Bytes) :=
  [(.text, talkOpening), (.binary, talkFrame 0 [1]), (.binary, talkFrame 1 [2, 3]),
    (.binary, talkFrame 2 [4])]

theorem receives_messages_talk :
    ∃ rest, (Inbox.of (1048576 : Int32).toInt (talkMessages.map whole)).frames =
      framesOf (passages talkEnvironment {} 4 {} talkMoves) ++ rest ∧ rest.length ≤ 1 := by
  have hfragments : (passages talkEnvironment {} 4 {} talkMoves).filterMap fragmentOf =
      [⟨.text, talkOpening.take 9, false⟩, ⟨.text, talkOpening.drop 9, true⟩] ++
        ([⟨.binary, talkFrame 0 [1], true⟩] ++ ([⟨.binary, talkFrame 1 [2, 3], true⟩] ++
          ([⟨.binary, talkFrame 2 [4], true⟩] ++ []))) := by decide +kernel
  refine receives_messages talkEnvironment {} 4 {} talkMoves ?_
  have hopening : Cut .text talkOpening
      [⟨.text, talkOpening.take 9, false⟩, ⟨.text, talkOpening.drop 9, true⟩] := by
    have hcut : Cut .text (talkOpening.take 9 ++ talkOpening.drop 9) _ := .more _ (.last _)
    rwa [List.take_append_drop] at hcut
  rw [hfragments]
  exact .message hopening (.message (.last _) (.message (.last _) (.message (.last _)
    (.begun (List.forall_mem_nil _)))))

/-- Two frames have been handed over, and the third one is awaited. -/
theorem hands_over_in_order_talk :
    (mediaOn talkStream (passages talkEnvironment {} 4 {} talkMoves)).map
        CulpeoMediaFrameContext.payload = [[1], [2, 3]] ∧
      (awaited talkStream (passages talkEnvironment {} 4 {} talkMoves)).map
        CulpeoMediaFrameContext.payload = [[4]] ∧
      ∃ now, (after talkEnvironment {} 4 {} talkMoves).shared.endpoint.streamObject talkStream =
          some now ∧ now.type = .input ∧
        ∃ first inFlight,
          (inFlight = [] ∨
            inFlight = awaited talkStream (passages talkEnvironment {} 4 {} talkMoves)) ∧
          Ledger.Contiguous offsetOf (lengthOn now) first
            (mediaOn talkStream (passages talkEnvironment {} 4 {} talkMoves) ++ inFlight) ∧
          now.currentOffset = first + Ledger.total (lengthOn now)
            (mediaOn talkStream (passages talkEnvironment {} 4 {} talkMoves) ++ inFlight) := by
  have htype : ((after talkEnvironment {} 4 {} talkMoves).shared.endpoint.streamObject
      talkStream).map StreamState.type = some .input := by decide +kernel
  obtain ⟨now, hnow, hinput⟩ := Option.map_eq_some_iff.mp htype
  refine ⟨by decide +kernel, by decide +kernel, now, hnow, hinput, ?_⟩
  exact hands_over_in_order talkEnvironment {} 4 {} talkMoves talkStream now
    (along_guarded_of_resumes (by decide) _) hnow hinput

end Runs

end CulpeoStream.Dotnet.Adapter
