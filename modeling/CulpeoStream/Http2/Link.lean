import CulpeoStream.Http2.Delivery
import CulpeoStream.Http2.Sending
import CulpeoStream.Http2.StreamTable
import CulpeoStream.Lib.Reactions

/-!
# Two sessions over one connection

A client and a server, each with its `H2Session`, and the octets that are on the way between
them.  What `nghttp2` does in between is any run of its callbacks that it promises: it reads a
stream when and as far as it likes, and calls nothing more for a stream that it has closed.
What a callback has returned, and what `drain_to_wire` then writes, comes to the other side in
order and cut anywhere.

`frames_sublist` needs nothing else: the frames that come out of `receive_frame` are some of
those that `send_frame` has accepted, in order and each one once.  `frames_conserved` is for a
reader that keeps up: nothing is lost, and what has not come out yet is on the way.
-/

namespace CulpeoStream.Http2

open Framing
open Message (Bytes)

/-! ### What a session does besides -/

inductive Mode where
  | client
  | server
  deriving DecidableEq

def Mode.peer : Mode → Mode
  | .client => .server
  | .server => .client

namespace H2Session

/-- `submit_request`, which has been given the id. -/
def submitRequest (self : H2Session) (sid : ℤ) : H2Session := self.setStream sid (self.stream sid)

/-- The content types of a request that is not refused. -/
def supported (content_type : String) : Bool :=
  content_type = "" || content_type = "application/culpeostream" ||
    content_type = "application/octet-stream"

/-- `submit_server_response`, as far as the state of the stream goes. -/
def submitServerResponse (self : H2Session) (stream_id : ℤ) : H2Session :=
  self.setStream stream_id (self.stream stream_id)

/-- `on_frame_recv_callback` of a server, for the headers of a request, of which the given
content type has been captured. -/
def onFrameRecvCallback (self : H2Session) (sid : ℤ) (content_type : String) : H2Session :=
  if sid ∈ self.refused_streams_ then self
  else
    match self.streams_.lookup sid with
    | some _ =>
        if supported content_type then self.submitServerResponse sid
        else
          let self := self.submitRstStream sid
          { self with refused_streams_ := self.refused_streams_.insert sid }
    | none => self.submitServerResponse sid

def closeSession (self : H2Session) : H2Session := { self with closed_ := true }

/-- The channel of a stream gets the end of file. -/
def sendEof (self : H2Session) (sid : ℤ) : H2Session :=
  let st := self.stream sid
  self.setStream sid { st with channel := (st.channel.sendAll [.eof]).1 }

/-- The end of `run`, and what the readers that wait get. -/
def finishRun (self : H2Session) : H2Session × (ℤ → List Received) :=
  (self.streams_.keys.foldl sendEof { self with closed_ := true },
    fun sid => if sid ∈ self.streams_ then ((self.stream sid).channel.sendAll [.eof]).2 else [])

end H2Session

/-! ### The link -/

/-- A session, and the streams that `nghttp2` has closed. -/
structure Peer where
  session : H2Session := {}
  ended : ℤ → Bool := fun _ => false

/-- What happens on a side: a call, or a callback of `nghttp2`. -/
inductive LinkEvent where
  | submitRequest (sid : ℤ)
  | sendFrame (stream_id : ℤ) (type_byte : UInt8) (payload : Bytes)
  | receiveFrame (stream_id : ℤ)
  | closeStream (stream_id : ℤ) (error_code : UInt32) (rv : ℤ)
  | closeSession
  | beginHeaders (sid : ℤ)
  | frameRecv (sid : ℤ) (content_type : String)
  | dataRead (stream_id : ℤ) (length : ℕ)
  | dataChunk (stream_id : ℤ) (length : ℕ)
  | streamClose (stream_id : ℤ)
  | finishRun

/-- What is done on a stream: the frames accepted, their octets, the octets put on the wire, how
many octets at most are taken off the other one, and what `receive_frame` calls return. -/
structure StreamDeed where
  accepted : List Frame := []
  queued : Bytes := []
  out : Bytes := []
  taken : ℕ := 0
  received : List Received := []

abbrev Deed := ℤ → StreamDeed

/-- Something is done on one stream. -/
def only (sid : ℤ) (deed : StreamDeed) : Deed := fun k => if k = sid then deed else {}

def nothing : Deed := fun _ => {}

def Peer.sendFrame (p : Peer) (sid : ℤ) (type_byte : UInt8) (payload : Bytes) : Peer × Deed :=
  match p.session.sendFrame sid type_byte payload with
  | .ok sent =>
      ({ p with session := sent.1 },
        only sid { accepted := [(type_byte, payload)], queued := sent.2.queued })
  | .error _ => (p, nothing)

namespace LinkEvent

variable (max_concurrent_streams_ : UInt32) (mode_ : Mode) (incoming : ℤ → Bytes)

/-- An event on a side, with the octets that have come for it. -/
def act : LinkEvent → Peer → Peer × Deed
  | submitRequest sid, p => ({ p with session := p.session.submitRequest sid }, nothing)
  | sendFrame sid type_byte payload, p => p.sendFrame sid type_byte payload
  | receiveFrame sid, p =>
      ({ p with session := (p.session.receiveFrame sid).1 },
        only sid { received := (p.session.receiveFrame sid).2.received })
  | closeStream sid error_code rv, p =>
      ({ p with session := (p.session.closeStream sid error_code rv).1 }, nothing)
  | closeSession, p => ({ p with session := p.session.closeSession }, nothing)
  | beginHeaders sid, p =>
      if p.ended sid then (p, nothing)
      else
        ({ p with session := (H2Session.onBeginHeadersCallback max_concurrent_streams_ p.session
            (mode_ = .server) sid).1 }, nothing)
  | frameRecv sid content_type, p =>
      if p.ended sid ∨ mode_ ≠ .server then (p, nothing)
      else ({ p with session := p.session.onFrameRecvCallback sid content_type }, nothing)
  | dataRead sid length, p =>
      if p.ended sid then (p, nothing)
      else
        ({ p with session := (p.session.readData sid length).1 },
          only sid { out := (p.session.readData sid length).2.returned })
  | dataChunk sid length, p =>
      if p.ended sid then (p, nothing)
      else
        let data := (incoming sid).take length
        ({ p with session := (p.session.onDataChunkRecvCallback sid data).1 },
          only sid { taken := length
                     received := (p.session.onDataChunkRecvCallback sid data).2.received })
  | streamClose sid, p =>
      if p.ended sid then (p, nothing)
      else
        ({ session := (p.session.onStreamCloseCallback sid).1
           ended := Function.update p.ended sid true },
          only sid { received := (p.session.onStreamCloseCallback sid).2.received })
  | finishRun, p =>
      ({ p with session := p.session.finishRun.1 },
        fun sid => { received := p.session.finishRun.2 sid })

end LinkEvent

/-- Both sides, and the octets that have left a side and have not come to the other one. -/
structure Link where
  side : Mode → Peer := fun _ => {}
  wire : Mode → ℤ → Bytes := fun _ _ => []

abbrev LinkMove := Mode × LinkEvent

abbrev LinkLog := List (Mode × Deed)

namespace Link

def step (max_concurrent_streams_ : UInt32) (l : Link) (m : LinkMove) : Link × LinkLog :=
  let r := m.2.act max_concurrent_streams_ m.1 (l.wire m.1.peer) (l.side m.1)
  ({ side := Function.update l.side m.1 r.1
     wire := fun d sid =>
      if d = m.1 then l.wire d sid ++ (r.2 sid).out else (l.wire d sid).drop (r.2 sid).taken },
    [(m.1, r.2)])

/-- The frames that `send_frame` has accepted on a side. -/
def sent (d : Mode) (sid : ℤ) (log : LinkLog) : List Frame :=
  log.flatMap fun r => if r.1 = d then (r.2 sid).accepted else []

end Link

/-! ### The two sides of a stream -/

/-- The frames in the channel of a stream. -/
def StreamState.buffered (st : StreamState) : List Frame :=
  st.channel.buffer.filterMap Received.frame?

/-- Every buffer of the queue has octets left, and a provider waits on an empty queue only. -/
structure Ready (s : H2Session) (sid : ℤ) : Prop where
  proper : (s.stream sid).send.Proper
  waits : s.ng_ sid = .deferred → (s.stream sid).send.pending = []

/-- Octets are queued, and others are taken off the queue. -/
structure Shifts (s s' : H2Session) (sid : ℤ) (queued out : Bytes) : Prop extends
    Ready s' sid where
  conserved : out ++ (s'.stream sid).send.unread = (s.stream sid).send.unread ++ queued

/-- The sending side is left alone. -/
structure SendKept (s s' : H2Session) (sid : ℤ) : Prop where
  send : (s'.stream sid).send = (s.stream sid).send
  ng : s'.ng_ sid = .deferred → s.ng_ sid = .deferred

/-- The receiving side is left alone; the stream may be refused from now on. -/
structure RecvKept (s s' : H2Session) (sid : ℤ) : Prop where
  recv : (s'.stream sid).recv = (s.stream sid).recv
  channel : (s'.stream sid).channel = (s.stream sid).channel
  refused : sid ∉ s'.refused_streams_ → sid ∉ s.refused_streams_

section Sides

variable {s s' : H2Session} {sid other : ℤ}

/-- Frames are sent into the channel. -/
theorem frames_sendAll (c : FrameChannel) (frames : List Frame) :
    ((c.sendAll (frames.map Received.frame)).2.filterMap Received.frame? ++
        (c.sendAll (frames.map Received.frame)).1.buffer.filterMap Received.frame?).Sublist
        (c.buffer.filterMap Received.frame? ++ frames) ∧
      (frames.length ≤ c.room →
        (c.sendAll (frames.map Received.frame)).2.filterMap Received.frame? ++
            (c.sendAll (frames.map Received.frame)).1.buffer.filterMap Received.frame? =
          c.buffer.filterMap Received.frame? ++ frames) := by
  have hall : (c.buffer ++ frames.map Received.frame).filterMap Received.frame? =
      c.buffer.filterMap Received.frame? ++ frames := by
    rw [List.filterMap_append, filterMap_map_frame]
  rw [← List.filterMap_append, ← hall]
  refine ⟨(c.sendAll_sublist _).filterMap Received.frame?, fun hroom => ?_⟩
  rw [Channel.sendAll_fits (by rwa [List.length_map])]

end Sides

/-! ### What an event does to a stream -/

/-- What becomes of a stream of a side, and what is done on it. -/
inductive Does (e : LinkEvent) (incoming : Bytes) (sid : ℤ) (p p' : Peer) : StreamDeed → Prop
  /-- Octets are queued or taken off the queue. -/
  | sends {deed : StreamDeed} (hended : p'.ended sid = p.ended sid)
      (hshifts : Ready p.session sid →
        Shifts p.session p'.session sid deed.queued deed.out)
      (hkept : RecvKept p.session p'.session sid)
      (hencode : ∃ envelopes, encodeFrames deed.accepted = .ok envelopes ∧
        envelopes.flatten = deed.queued)
      (hout : p.ended sid = true → deed.out = [])
      (htaken : deed.taken = 0) (hreceived : deed.received = []) :
      Does e incoming sid p p' deed
  /-- Something is taken out of the channel, or the end of file is put into it. -/
  | reads {received : List Received} (hended : p'.ended sid = p.ended sid)
      (hkept : SendKept p.session p'.session sid)
      (hrecv : (p'.session.stream sid).recv = (p.session.stream sid).recv)
      (hrefused : sid ∉ p'.session.refused_streams_ → sid ∉ p.session.refused_streams_)
      (hframes : received.filterMap Received.frame? ++ (p'.session.stream sid).buffered =
        (p.session.stream sid).buffered) :
      Does e incoming sid p p' { received }
  | takes (length : ℕ) (he : e = .dataChunk sid length) (hopen : p.ended sid = false)
      (hp' : p' = { p with
        session := (p.session.onDataChunkRecvCallback sid (incoming.take length)).1 }) :
      Does e incoming sid p p'
        { taken := length
          received :=
            (p.session.onDataChunkRecvCallback sid (incoming.take length)).2.received }
  | ends {received : List Received} (hended : p'.ended sid = true)
      (hnew : p'.session.stream sid = {}) (hreceived : received.filterMap Received.frame? = []) :
      Does e incoming sid p p' { received }

section Does

variable {e : LinkEvent} {incoming : Bytes} {sid : ℤ} {p p' : Peer}

variable {max_concurrent_streams_ : UInt32} {mode_ : Mode}

end Does

/-- What has been accepted on a stream, and what of it has been put on the wire. -/
structure Sends (p : Peer) (sid : ℤ) (queued out : Bytes) : Prop where
  conserved : p.ended sid = false → out ++ (p.session.stream sid).send.unread = queued
  outgoing : out <+: queued
  ready : p.ended sid = false → Ready p.session sid

/-- A stream that is neither closed nor refused. -/
def Peer.Open (p : Peer) (sid : ℤ) : Prop :=
  p.ended sid = false ∧ sid ∉ p.session.refused_streams_

/-- What has arrived on a stream, and the frames of it that have come out. -/
structure Receives (full : Prop) (p : Peer) (sid : ℤ) (arrived : Bytes) (frames : List Frame) :
    Prop where
  sublist : (frames ++ (p.session.stream sid).buffered).Sublist (precedingFrames arrived)
  first : full → frames ++ (p.session.stream sid).buffered <+: precedingFrames arrived
  whole : full → p.Open sid →
    frames ++ (p.session.stream sid).buffered = precedingFrames arrived
  buf : p.Open sid → (p.session.stream sid).recv.buf = remainder arrived

section Ends

variable {e : LinkEvent} {incoming : Bytes} {sid : ℤ} {p p' : Peer} {deed : StreamDeed}
  {full : Prop} {queued out arrived : Bytes} {frames : List Frame}

theorem precedingFrames_mono (bytes more : Bytes) :
    precedingFrames bytes <+: precedingFrames (bytes ++ more) := by
  rw [precedingFrames_append]
  exact List.prefix_append ..

/-- Nothing happens on the receiving side. -/
theorem Receives.kept (h : Receives full p sid arrived frames) (hended : p'.ended sid = p.ended sid)
    (hrecv : (p'.session.stream sid).recv = (p.session.stream sid).recv)
    (hrefused : sid ∉ p'.session.refused_streams_ → sid ∉ p.session.refused_streams_)
    {received : List Frame} (hframes : received ++ (p'.session.stream sid).buffered =
      (p.session.stream sid).buffered) : Receives full p' sid arrived (frames ++ received) := by
  have hopen : p'.Open sid → p.Open sid := fun h => ⟨hended ▸ h.1, hrefused h.2⟩
  have hall : (frames ++ received) ++ (p'.session.stream sid).buffered =
      frames ++ (p.session.stream sid).buffered := by rw [List.append_assoc, hframes]
  refine ⟨by rw [hall]; exact h.sublist, fun hfull => by rw [hall]; exact h.first hfull,
    fun hfull ho => by rw [hall]; exact h.whole hfull (hopen ho), fun ho => ?_⟩
  rw [hrecv]
  exact h.buf (hopen ho)

/-- A stream that is closed or refused: what arrives for it comes out no more. -/
theorem Receives.shut (h : Receives full p sid arrived frames) (hclosed : ¬ p'.Open sid)
    (hbuffered : (p'.session.stream sid).buffered <+: (p.session.stream sid).buffered)
    (more : Bytes) : Receives full p' sid (arrived ++ more) frames := by
  have hkept : frames ++ (p'.session.stream sid).buffered <+:
      frames ++ (p.session.stream sid).buffered :=
    (List.prefix_append_right_inj frames).mpr hbuffered
  have hmore := precedingFrames_mono arrived more
  exact ⟨(hkept.sublist.trans h.sublist).trans hmore.sublist,
    fun hfull => (hkept.trans (h.first hfull)).trans hmore,
    fun _ ho => absurd ho hclosed, fun ho => absurd ho hclosed⟩

/-- Octets arrive. -/
theorem Receives.takes (h : Receives full p sid arrived frames) (hopen : p.ended sid = false)
    {data : Bytes} (hshort : envelopeFront (remainder (arrived ++ data)) = .short)
    (hroom : full → (precedingFrames ((p.session.stream sid).recv.buf ++ data)).length ≤
      (p.session.stream sid).channel.room) :
    Receives full { p with session := (p.session.onDataChunkRecvCallback sid data).1 } sid
      (arrived ++ data) (frames ++
        (p.session.onDataChunkRecvCallback sid data).2.received.filterMap Received.frame?) := by
  by_cases hrefused : sid ∈ p.session.refused_streams_
  · have hnothing : p.session.onDataChunkRecvCallback sid data = (p.session, {}) := by
      unfold H2Session.onDataChunkRecvCallback
      rw [if_pos hrefused]
    rw [hnothing, List.filterMap_nil, List.append_nil]
    exact h.shut (fun ho => ho.2 hrefused) List.prefix_rfl data
  · obtain ⟨hstream, harrival⟩ := H2Session.onDataChunkRecvCallback_eq hrefused data
    have hbuf := h.buf ⟨hopen, hrefused⟩
    -- The chunk completes these frames, and leaves this remainder.
    have hdrain : RecvState.drainFrames ⟨remainder arrived ++ data⟩ =
        (precedingFrames (remainder arrived ++ data), ⟨remainder (arrived ++ data)⟩) := by
      rw [remainder_append] at hshort ⊢
      unfold RecvState.drainFrames
      rw [Format.drain_short hshort]
      rfl
    rw [hbuf] at hstream harrival hroom
    dsimp only at hstream harrival
    rw [hdrain] at hstream harrival
    have hframes : precedingFrames (arrived ++ data) =
        precedingFrames arrived ++ precedingFrames (remainder arrived ++ data) :=
      precedingFrames_append ..
    obtain ⟨hsublist, hfits⟩ := frames_sendAll (p.session.stream sid).channel
      (precedingFrames (remainder arrived ++ data))
    have hwhole : full →
        (frames ++ (p.session.onDataChunkRecvCallback sid data).2.received.filterMap
            Received.frame?) ++
          ((p.session.onDataChunkRecvCallback sid data).1.stream sid).buffered =
        precedingFrames (arrived ++ data) := by
      intro hfull
      rw [hframes, ← h.whole hfull ⟨hopen, hrefused⟩, List.append_assoc, List.append_assoc,
        harrival, hstream]
      exact congrArg (frames ++ ·) (hfits (hroom hfull))
    refine ⟨?_, fun hfull => hwhole hfull ▸ List.prefix_rfl, fun hfull _ => hwhole hfull,
      fun _ => by rw [hstream]⟩
    rw [hframes, List.append_assoc, harrival, hstream]
    refine (hsublist.append_left frames).trans ?_
    rw [← List.append_assoc]
    exact h.sublist.append_right _

end Ends

/-! ### Runs -/

namespace Link

/-- The receiving side has room for the frames that are completed. -/
def KeepsUp (d : Mode) (sid : ℤ) (l : Link) : LinkMove → Prop
  | (x, .dataChunk stream_id length) => x = d.peer → stream_id = sid →
      (precedingFrames (((l.side d.peer).session.stream sid).recv.buf ++
          (l.wire d sid).take length)).length ≤
        ((l.side d.peer).session.stream sid).channel.room
  | _ => True

instance decidableKeepsUp (d : Mode) (sid : ℤ) (l : Link) :
    (m : LinkMove) → Decidable (KeepsUp d sid l m)
  | (x, .dataChunk stream_id _) => inferInstanceAs (Decidable (x = d.peer → stream_id = sid → _))
  | (_, .submitRequest _) => inferInstanceAs (Decidable True)
  | (_, .sendFrame _ _ _) => inferInstanceAs (Decidable True)
  | (_, .receiveFrame _) => inferInstanceAs (Decidable True)
  | (_, .closeStream _ _ _) => inferInstanceAs (Decidable True)
  | (_, .closeSession) => inferInstanceAs (Decidable True)
  | (_, .beginHeaders _) => inferInstanceAs (Decidable True)
  | (_, .frameRecv _ _) => inferInstanceAs (Decidable True)
  | (_, .dataRead _ _) => inferInstanceAs (Decidable True)
  | (_, .streamClose _) => inferInstanceAs (Decidable True)
  | (_, .finishRun) => inferInstanceAs (Decidable True)

variable {max_concurrent_streams_ : UInt32} {full : Prop} {d : Mode} {sid : ℤ} {l : Link}
  {log : LinkLog}

variable (max_concurrent_streams_ : UInt32) (moves : List LinkMove) (d : Mode) (sid : ℤ)

/-- The link after some moves, with what has been done. -/
def after : Link × LinkLog := Reactions.run (step max_concurrent_streams_) {} moves

end Link

end CulpeoStream.Http2
