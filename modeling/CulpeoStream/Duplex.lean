import CulpeoStream.Session.Duplex
import CulpeoStream.Dotnet.Duplex

/-!
# Duplex streams of both servers

The client and the server of a duplex stream each number their own frames from the
offset at which the stream was opened.  The C++ session and the C# connection keep one
offset for both, so their duplex streams work in one direction at a time only.

`duplex_independent` is what both servers do promise, and `duplex_not_independent` shows
that the condition is needed: one frame of the server, and the first frame of the client
ends the session.
-/

namespace CulpeoStream

open Message Utf16 Resumption History Ledger

/-- **Duplex streams, one direction at a time.**  In every run of an established session
in which the client's frames on a stream are contiguous and no frame on it follows a
frame of nonzero increment in the other direction, none of the client's frames is
rejected for its offset and the server's frames are contiguous.  The offsets of the C#
connection have to stay below `2^63` as well. -/
theorem duplex_independent (setup : Session.Setup) (rt : Dotnet.Runtime) :
    (∀ (s : Session.Impl) (id : Bytes) (info : Session.StreamInfo),
      s.state = .established → s.registry.find id = some info →
      ∀ turns : List Session.Turn,
        Contiguous (fun f => Session.offsetOf f.offset) (Session.frameLength info)
          info.offset.toNat (Session.receivedFrames id turns) →
        OneWay Session.Traffic.isInward (Session.Traffic.length info)
          (Session.traffic id turns) →
        (∀ rec ∈ history (Session.Turn.act setup) Outcome.state s turns, ∀ f,
          Session.trafficOn id rec.call.invocation.call = some (.received f) →
          rec.result.result ≠ .error .offsetMismatch) ∧
        Contiguous Session.WireFrame.offset (Session.WireFrame.length info) info.offset.toNat
          ((history (Session.Turn.act setup) Outcome.state s turns).flatMap
            (Session.sentFrames id))) ∧
    (∀ (e : Dotnet.Endpoint) (id : Text) (info : Dotnet.StreamState),
      e.openStream id = some info →
      ∀ calls : List Dotnet.MediaCall,
        Contiguous Dotnet.CulpeoMessage.position (Dotnet.CulpeoMessage.length info)
          info.currentOffset.toInt (Dotnet.receivedFrames id calls) →
        OneWay Dotnet.Traffic.isInward (Dotnet.Traffic.length info) (Dotnet.traffic id calls) →
        info.currentOffset.toInt +
          total (Dotnet.Traffic.length info) (Dotnet.traffic id calls) < 2 ^ 63 →
        (∀ rec ∈ Dotnet.mediaHistory rt e calls, ∀ frame,
          Dotnet.trafficOn id rec.call = some (.received frame) →
          rec.result.2.rejectsOffset = false) ∧
        Contiguous Dotnet.CulpeoMessage.position (Dotnet.CulpeoMessage.length info)
          info.currentOffset.toInt
          ((Dotnet.mediaHistory rt e calls).flatMap (Dotnet.sentMessages id))) :=
  ⟨fun s id info hs hfind turns hreceived honeWay =>
      Session.duplex_run setup s hs id info hfind turns hreceived honeWay,
    fun e id info hopen calls hreceived honeWay hbound =>
      Dotnet.duplex_run rt e id info hopen calls hreceived honeWay hbound⟩

/-! ### A stream on each server -/

/-- The stream of the C++ example session, which counts frames. -/
def exampleDuplex : Session.StreamInfo where
  id := ascii "2a2a2a2a2a2a2a2a"
  contentType := ascii "audio/opus"
  direction := .duplex
  purpose := []
  offset := 0
  codec := .opus
  pcmParams := none
  offsetType := .message

/-- The client sends a frame. -/
def exampleReceive (offset : Bytes) : Session.Turn where
  invocation := { call := .processMediaFrame (Session.exampleMedia offset [1]) }

/-- The server sends a frame. -/
def exampleReply : Session.Turn where
  invocation := Session.exampleSend [2]

/-- A runtime in which only ASCII letters have an upper case. -/
def asciiRuntime : Dotnet.Runtime where
  toUpperOrdinal := fun s => s.map upperAscii

/-- A stream of a C# connection that counts frames. -/
def exampleStream : Dotnet.StreamState where
  id := utf16 "2a2a2a2a2a2a2a2a"
  contentType := utf16 "audio/opus"
  type := .duplex
  purpose := none
  offsetType := .message
  currentOffset := 0
  stride_pos := Dotnet.no_stride

/-- The C++ example session is established, and knows the stream. -/
theorem exampleDuplex_opened :
    (Session.exampleSession (ascii "duplex") (ascii "message")).state = .established ∧
      (Session.exampleSession (ascii "duplex") (ascii "message")).registry.find exampleDuplex.id =
        some exampleDuplex := by
  decide +kernel

/-- An established C# connection with this stream. -/
def exampleEndpoint : Dotnet.Endpoint where
  server :=
    { snapshots := [
        { sessionId := utf16 "5e55", bufferWindowMs := 30000, streams := [exampleStream]
          sessionStartedAt := 0 }]
      sessions := [(utf16 "5e55", 0)] }
  connection := { state := .established, snapshot := some 0 }

/-- A frame of the client. -/
def exampleFrame (offset : Int64) : Dotnet.CulpeoMessage where
  kind := .media
  body := [1]
  contentType := some (utf16 "audio/opus")
  streamId := some (utf16 "2a2a2a2a2a2a2a2a")
  offset := some offset

/-- Two frames of the client on each server. -/
theorem duplex_independent_example :
    (∀ rec ∈ history (Session.Turn.act (Session.exampleSetup (ascii "duplex") (ascii "message")))
        Outcome.state (Session.exampleSession (ascii "duplex") (ascii "message"))
        [exampleReceive (ascii "0"), exampleReceive (ascii "1")], ∀ f,
      Session.trafficOn exampleDuplex.id rec.call.invocation.call = some (.received f) →
      rec.result.result ≠ .error .offsetMismatch) ∧
    (∀ rec ∈ Dotnet.mediaHistory asciiRuntime exampleEndpoint
        [.receive 0 (exampleFrame 0), .receive 0 (exampleFrame 1)], ∀ frame,
      Dotnet.trafficOn exampleStream.id rec.call = some (.received frame) →
      rec.result.2.rejectsOffset = false) := by
  constructor
  · refine ((duplex_independent _ asciiRuntime).1 _ exampleDuplex.id exampleDuplex
      exampleDuplex_opened.1 exampleDuplex_opened.2 _ ?_ (by decide)).1
    have hframes : Session.receivedFrames exampleDuplex.id
        [exampleReceive (ascii "0"), exampleReceive (ascii "1")] =
        [Session.exampleMedia (ascii "0") [1], Session.exampleMedia (ascii "1") [1]] := rfl
    rw [hframes, contiguous_cons, contiguous_cons]
    exact ⟨by decide, by decide, contiguous_nil⟩
  · refine ((duplex_independent (Session.exampleSetup (ascii "duplex") (ascii "message"))
      asciiRuntime).2 exampleEndpoint exampleStream.id exampleStream rfl _ ?_ (by decide)
      (by decide)).1
    have hframes : Dotnet.receivedFrames exampleStream.id
        [.receive 0 (exampleFrame 0), .receive 0 (exampleFrame 1)] =
        [exampleFrame 0, exampleFrame 1] := rfl
    rw [hframes, contiguous_cons, contiguous_cons]
    exact ⟨by decide, by decide, contiguous_nil⟩

/-! ### Two directions at once -/

/-- A frame of the client that the C++ session accepts on its stream at some offset. -/
def Session.Acceptable (registry : Session.StreamRegistry) (info : Session.StreamInfo)
    (f : ParsedHeadersView) : Prop :=
  ∃ offset accepted,
    Session.acceptMedia (registry.update { info with offset := offset }) f = .ok accepted

/-- A frame of the client that the C# connection accepts on its stream at some offset. -/
def Dotnet.Acceptable (rt : Dotnet.Runtime) (e : Dotnet.Endpoint) (info : Dotnet.StreamState)
    (frame : Dotnet.CulpeoMessage) : Prop :=
  ∃ offset accepted advanced,
    (e.modifySnapshot (·.putStream { info with currentOffset := offset })).checkMedia rt frame =
        .ok accepted ∧
      accepted.1.advanceOffset frame.body.length = .ok advanced

/-- One frame of the server, and the first frame of the client is rejected, on either
server. -/
theorem duplex_not_independent :
    (¬ ∀ (setup : Session.Setup) (s : Session.Impl) (id : Bytes) (info : Session.StreamInfo),
      s.state = .established → s.registry.find id = some info → info.direction = .duplex →
      ∀ turns : List Session.Turn,
        (∀ turn ∈ turns, (Session.trafficOn id turn.invocation.call).isSome = true) →
        (∀ f ∈ Session.receivedFrames id turns, Session.Acceptable s.registry info f) →
        Contiguous (fun f => Session.offsetOf f.offset) (Session.frameLength info)
          info.offset.toNat (Session.receivedFrames id turns) →
        (∀ rec ∈ history (Session.Turn.act setup) Outcome.state s turns, ∀ f,
          Session.trafficOn id rec.call.invocation.call = some (.received f) →
          rec.result.result ≠ .error .offsetMismatch) ∧
        Contiguous Session.WireFrame.offset (Session.WireFrame.length info) info.offset.toNat
          ((history (Session.Turn.act setup) Outcome.state s turns).flatMap
            (Session.sentFrames id))) ∧
    (¬ ∀ (rt : Dotnet.Runtime) (e : Dotnet.Endpoint) (id : Text) (info : Dotnet.StreamState),
      e.openStream id = some info → info.type = .duplex →
      ∀ calls : List Dotnet.MediaCall,
        (∀ call ∈ calls, (Dotnet.trafficOn id call).isSome = true) →
        (∀ frame ∈ Dotnet.receivedFrames id calls, Dotnet.Acceptable rt e info frame) →
        Contiguous Dotnet.CulpeoMessage.position (Dotnet.CulpeoMessage.length info)
          info.currentOffset.toInt (Dotnet.receivedFrames id calls) →
        (∀ rec ∈ Dotnet.mediaHistory rt e calls, ∀ frame,
          Dotnet.trafficOn id rec.call = some (.received frame) →
          rec.result.2.rejectsOffset = false) ∧
        Contiguous Dotnet.CulpeoMessage.position (Dotnet.CulpeoMessage.length info)
          info.currentOffset.toInt
          ((Dotnet.mediaHistory rt e calls).flatMap (Dotnet.sentMessages id))) := by
  constructor
  · intro h
    have hframes : Session.receivedFrames exampleDuplex.id
        [exampleReply, exampleReceive (ascii "0")] = [Session.exampleMedia (ascii "0") [1]] := rfl
    obtain ⟨hnone, -⟩ := h (Session.exampleSetup (ascii "duplex") (ascii "message"))
      (Session.exampleSession (ascii "duplex") (ascii "message")) exampleDuplex.id exampleDuplex
      exampleDuplex_opened.1 exampleDuplex_opened.2 rfl [exampleReply, exampleReceive (ascii "0")]
      (by decide)
      (by
        rw [hframes]
        intro f hf
        rw [List.mem_singleton.mp hf]
        exact ⟨0, ({ exampleDuplex with offset := 1 }, 0), by decide +kernel⟩)
      (by
        rw [hframes, contiguous_cons]
        exact ⟨by decide, contiguous_nil⟩)
    refine hnone ⟨_, _, _⟩ (List.mem_cons_of_mem _ List.mem_cons_self)
      (Session.exampleMedia (ascii "0") [1]) (by decide) ?_
    decide +kernel
  · intro h
    have hframes : Dotnet.receivedFrames exampleStream.id
        [.send 0 exampleStream.id [2] 0, .receive 0 (exampleFrame 0)] = [exampleFrame 0] := rfl
    obtain ⟨hnone, -⟩ := h asciiRuntime exampleEndpoint exampleStream.id exampleStream rfl rfl
      [.send 0 exampleStream.id [2] 0, .receive 0 (exampleFrame 0)] (by decide)
      (by
        rw [hframes]
        intro frame hframe
        rw [List.mem_singleton.mp hframe]
        exact ⟨0, (exampleStream, 0), { exampleStream with currentOffset := 1 }, rfl, rfl⟩)
      (by
        rw [hframes, contiguous_cons]
        exact ⟨by decide, contiguous_nil⟩)
    have hquiet := hnone ⟨_, _, _⟩ (List.mem_cons_of_mem _ List.mem_cons_self) (exampleFrame 0)
      (by decide)
    revert hquiet
    decide

end CulpeoStream
