import Mathlib.Data.List.AList
import CulpeoStream.Lib.Channel
import CulpeoStream.Http2.Envelope

/-!
# The HTTP/2 session

`H2Session` keeps for each stream a receive buffer, a send queue and a channel on which
`receive_frame` waits.  Everything here runs on the strand, so one call ends before the
next begins.

`nghttp2` itself is outside.  What is kept of it is how the last call for a stream has left the
data provider (`Provider`), as this is for the callback and the calls of the session to say.
What `nghttp2_session_resume_data` returns is an argument of the one function that looks at it,
and flow control shows in nothing but the lengths that the callback is given.
-/

namespace CulpeoStream.Http2

open Message (Bytes)

/-! ### State -/

/-- What `receive_frame` returns, or the error that it throws. -/
inductive Received where
  | frame (frame : Frame)
  | eof
deriving DecidableEq

def kChannelCapacity : ℕ := 256

abbrev FrameChannel := Channel Received kChannelCapacity

structure SendBuf where
  data : Bytes
  offset : ℕ := 0
deriving DecidableEq

structure SendQueue where
  pending : List SendBuf := []
  closed : Bool := false
deriving DecidableEq

structure StreamState where
  recv : RecvState := {}
  send : SendQueue := {}
  channel : FrameChannel := {}

/-- The data provider of a stream, as far as the session has to do with it.  It is deferred from
the answer `NGHTTP2_ERR_DEFERRED` until `resume_data` is called, and finished by the end-of-data
flag and by `RST_STREAM`.  An active one may all the same have to wait for flow control. -/
inductive Provider where
  | active
  | deferred
  | finished
deriving DecidableEq

structure H2Session where
  closed_ : Bool := false
  streams_ : AList fun _ : ℤ => StreamState := ∅
  refused_streams_ : List ℤ := []
  ng_ : ℤ → Provider := fun _ => .active

namespace H2Session

/-- The state of a stream, as `get_or_create_stream` returns it. -/
def stream (self : H2Session) (stream_id : ℤ) : StreamState :=
  (self.streams_.lookup stream_id).getD {}

/-- `get_or_create_stream`, and what is then stored in the state it returns. -/
def setStream (self : H2Session) (stream_id : ℤ) (st : StreamState) : H2Session :=
  { self with streams_ := self.streams_.insert stream_id st }

@[simp] theorem stream_setStream (self : H2Session) (sid : ℤ) (st : StreamState) :
    (self.setStream sid st).stream sid = st := by
  simp [stream, setStream]

@[simp] theorem stream_setStream_ne {sid other : ℤ} (h : sid ≠ other) (self : H2Session)
    (st : StreamState) : (self.setStream other st).stream sid = self.stream sid := by
  simp [stream, setStream, AList.lookup_insert_ne h]

@[simp] theorem lookup_setStream (self : H2Session) (sid : ℤ) (st : StreamState) :
    (self.setStream sid st).streams_.lookup sid = some st := by
  simp [setStream]

@[simp] theorem refused_setStream (self : H2Session) (sid : ℤ) (st : StreamState) :
    (self.setStream sid st).refused_streams_ = self.refused_streams_ := rfl

/-- What a callback or a call does on the receiving side: the frames that `drain_frames`
returned, and what `receive_frame` calls returned. -/
structure Arrival where
  frames : List Frame := []
  received : List Received := []

/-- `dispatch_recv_frames`.  The answers of `try_send` are not looked at. -/
def dispatchRecvFrames (self : H2Session) (stream_id : ℤ) : H2Session × Arrival :=
  match self.streams_.lookup stream_id with
  | none => (self, {})
  | some st =>
      let drained := st.recv.drainFrames
      let sent := st.channel.sendAll (drained.1.map .frame)
      (self.setStream stream_id { st with recv := drained.2, channel := sent.1 },
        { frames := drained.1, received := sent.2 })

def onDataChunkRecvCallback (self : H2Session) (stream_id : ℤ) (data : Bytes) :
    H2Session × Arrival :=
  if stream_id ∈ self.refused_streams_ then (self, {})
  else
    let st := self.stream stream_id
    (self.setStream stream_id { st with recv := ⟨st.recv.buf ++ data⟩ }).dispatchRecvFrames
      stream_id

/-- `on_stream_close_callback`: the channel is destroyed with the rest of the state. -/
def onStreamCloseCallback (self : H2Session) (stream_id : ℤ) : H2Session × Arrival :=
  let self := { self with refused_streams_ := self.refused_streams_.filter (· ≠ stream_id) }
  match self.streams_.lookup stream_id with
  | none => (self, {})
  | some st =>
      ({ self with streams_ := self.streams_.erase stream_id },
        { received := (st.channel.sendAll [.eof]).2 })

/-- `receive_frame`, up to where it returns or waits. -/
def receiveFrame (self : H2Session) (stream_id : ℤ) : H2Session × Arrival :=
  let st := self.stream stream_id
  (self.setStream stream_id { st with channel := st.channel.receive.1 },
    { received := st.channel.receive.2.toList })

/-! ### Sending -/

/-- What `data_read_callback` returns: `NGHTTP2_ERR_DEFERRED`, or the octets it copies and
whether it sets the end-of-data flag. -/
inductive Read where
  | deferred
  | data (bytes : Bytes) (eof : Bool)
deriving DecidableEq

/-- What `nghttp2` does with a provider after its answer. -/
def Read.provider : Read → Provider
  | .deferred => .deferred
  | .data _ true => .finished
  | .data _ false => .active

/-- What a call does on the sending side: the octets it appends to a queue, the answer of
`data_read_callback`, whether `resume_data` is called, and the code of an `RST_STREAM`. -/
structure Effects where
  queued : Bytes := []
  read : Option Read := none
  resumed : Bool := false
  rst : Option UInt32 := none
deriving DecidableEq

def dataReadCallback (self : H2Session) (stream_id : ℤ) (length : ℕ) : H2Session × Read :=
  match self.streams_.lookup stream_id with
  | none => (self, .data [] true)
  | some st =>
      match st.send.pending with
      | [] => (self, if st.send.closed then .data [] true else .deferred)
      | front :: rest =>
          let avail := front.data.length - front.offset
          let n := min avail length
          let front' := { front with offset := front.offset + n }
          let pending := if front.data.length ≤ front'.offset then rest else front' :: rest
          (self.setStream stream_id { st with send := { st.send with pending } },
            .data ((front.data.drop front.offset).take n) false)

/-- `nghttp2` calls the callback, and acts on its answer. -/
def readData (self : H2Session) (stream_id : ℤ) (length : ℕ) : H2Session × Effects :=
  let (self, read) := self.dataReadCallback stream_id length
  ({ self with ng_ := Function.update self.ng_ stream_id read.provider },
    { read := some read })

/-- What a call of `nghttp2_session_resume_data` does to the provider. -/
def resumeData (self : H2Session) (stream_id : ℤ) : H2Session :=
  if self.ng_ stream_id = .deferred then
    { self with ng_ := Function.update self.ng_ stream_id .active }
  else self

@[simp] theorem streams_resumeData (s : H2Session) (sid : ℤ) :
    (s.resumeData sid).streams_ = s.streams_ := by
  unfold resumeData
  split <;> rfl

def enqueueSend (self : H2Session) (stream_id : ℤ) (envelope : Bytes) : H2Session × Effects :=
  let st := self.stream stream_id
  let pending := st.send.pending ++ [{ data := envelope }]
  let self := self.setStream stream_id { st with send := { st.send with pending } }
  if st.send.pending = [] then
    (self.resumeData stream_id, { queued := envelope, resumed := true })
  else (self, { queued := envelope })

/-- What `send_frame` throws. -/
inductive SendError where
  | broken_pipe
  | invalid_argument (message : String)

/-- `send_frame`, up to where it writes to the wire. -/
def sendFrame (self : H2Session) (stream_id : ℤ) (type_byte : UInt8) (payload : Bytes) :
    Except SendError (H2Session × Effects) :=
  if self.closed_ then .error .broken_pipe
  else if kMaxFrameSize.toNat ≤ payload.length then
    .error (.invalid_argument "send_frame: payload exceeds kMaxFrameSize")
  else
    match encodeH2Envelope type_byte payload with
    | .error message => .error (.invalid_argument message)
    | .ok envelope => .ok (self.enqueueSend stream_id envelope)

/-- `nghttp2_submit_rst_stream`: the stream provides no more data. -/
def submitRstStream (self : H2Session) (stream_id : ℤ) : H2Session :=
  { self with ng_ := Function.update self.ng_ stream_id .finished }

/-- `close_stream`, up to where it writes to the wire.  Where it calls
`nghttp2_session_resume_data`, that returns `rv`. -/
def closeStream (self : H2Session) (stream_id : ℤ) (error_code : UInt32) (rv : ℤ) :
    H2Session × Effects :=
  if self.closed_ then (self, {})
  else
    -- `NGHTTP2_NO_ERROR` is 0 as well
    let ng_err := error_code
    match self.streams_.lookup stream_id with
    | some st =>
        let self := self.setStream stream_id { st with send := { st.send with closed := true } }
        let self := self.resumeData stream_id
        if rv ≠ 0 then
          (self.submitRstStream stream_id, { resumed := true, rst := some ng_err })
        else (self, { resumed := true })
    | none => (self.submitRstStream stream_id, { rst := some ng_err })

end H2Session

end CulpeoStream.Http2
