import CulpeoStream.Typescript.Flow

/-!
# A client and a server

`CulpeoClientSession` and `CulpeoServerSession` joined by two queues.  `sendFrame` of each
session puts the frame at the end of a queue, and a delivery takes the frame at its head
and calls `receive` with it.  Every call runs to its end: the message loops of `client.ts`
and `server.ts` await `receive` before they take the next frame, and `sendMedia` does not
wait for anything before it has sent its frame.

For each call of the link this module says what it does when it runs to its end, up to
notifications (`Alike`).
-/

namespace CulpeoStream.Typescript

open Message Utf16 Resumption

/-- What the two sessions were constructed with. -/
structure LinkOptions where
  runtime : Runtime
  client : Callbacks := {}
  server : Callbacks := {}
  options : ServerSessionOptions

structure Link where
  client : Session
  server : Session
  toServer : List CulpeoMessage := []
  toClient : List CulpeoMessage := []

/-- What can happen to a link.  A delivery comes with the reading of the clock. -/
inductive Event where
  | start (options : StartOptions)
  | clientSends (streamId : Text) (body : Bytes) (timestamp : Option ℤ)
  | serverSends (streamId : Text) (body : Bytes) (timestamp : Option ℤ)
  | deliverToServer (now : ℤ)
  | deliverToClient (now : ℤ)

/-- A call that runs to its end; every promise it waits for is resolved. -/
def alone (p : Rest) (s : Session) : Outcome Session Output Result :=
  p.exec (fun _ => some []) s

/-- The frames among the external actions of a call. -/
def sentFrames (outputs : List Output) : List CulpeoMessage :=
  outputs.filterMap fun
    | .send frame => some frame
    | _ => none

namespace Link

/-- A call of the client. -/
def byClient (l : Link) (p : Rest) : Link :=
  { l with
    client := (alone p l.client).state
    toServer := l.toServer ++ sentFrames (alone p l.client).outputs }

/-- A call of the server. -/
def byServer (l : Link) (p : Rest) : Link :=
  { l with
    server := (alone p l.server).state
    toClient := l.toClient ++ sentFrames (alone p l.server).outputs }

def step (o : LinkOptions) (l : Link) : Event → Link
  | .start options => l.byClient (Typescript.start options)
  | .clientSends streamId body timestamp =>
      l.byClient (sendMedia o.runtime streamId body timestamp)
  | .serverSends streamId body timestamp =>
      l.byServer (sendMedia o.runtime streamId body timestamp)
  | .deliverToServer now =>
      match l.toServer with
      | [] => l
      | frame :: rest =>
          { l with toServer := rest }.byServer
            (serverReceive o.runtime o.options o.server now frame)
  | .deliverToClient now =>
      match l.toClient with
      | [] => l
      | frame :: rest =>
          { l with toClient := rest }.byClient (clientReceive o.runtime o.client now frame)

def run (o : LinkOptions) (l : Link) (events : List Event) : Link :=
  events.foldl (step o) l

end Link

/-! ### Calls that run alone -/

section Alone

variable (s : Session)

@[simp] theorem alone_critical (body : Session → Session × Rest) :
    alone (.critical body) s = alone (body s).2 (body s).1 := rfl

theorem alone_dispatch (frame : CulpeoMessage) (next : Rest) :
    alone (dispatch frame next) s =
      ⟨(alone next s).state, .send frame :: (alone next s).outputs, (alone next s).result⟩ := rfl

/-- A call that changes nothing and sends nothing. -/
def Idle (p : Rest) : Prop :=
  (alone p s).state = s ∧ sentFrames (alone p s).outputs = []

variable {s}

theorem idle_sendMedia (h : s.stateValue ≠ .established) (rt : Runtime) (streamId : Text)
    (body : Bytes) (timestamp : Option ℤ) : Idle s (sendMedia rt streamId body timestamp) := by
  unfold Idle sendMedia
  rw [alone_critical, if_pos h]
  exact ⟨rfl, rfl⟩

theorem idle_start (h : s.stateValue ≠ .uninitialized) (options : StartOptions) :
    Idle s (start options) := by
  unfold Idle start
  rw [alone_critical, if_pos h]
  exact ⟨rfl, rfl⟩

/-- **A send of an established session.** -/
theorem alone_sendMedia (h : s.stateValue = .established) (rt : Runtime) (streamId : Text)
    (body : Bytes) (timestamp : Option ℤ) :
    (alone (sendMedia rt streamId body timestamp) s).state =
        { s with registry := (s.registry.trackSend rt streamId body.length).1 } ∧
      sentFrames (alone (sendMedia rt streamId body timestamp) s).outputs =
        match (s.registry.trackSend rt streamId body.length).2 with
        | .error _ => []
        | .ok (contentType, offset) =>
            [.media { streamId, offset, contentType, timestamp } body] := by
  unfold sendMedia
  rw [alone_critical, if_neg (by rw [h]; nofun)]
  dsimp only
  cases (s.registry.trackSend rt streamId body.length).2 with
  | error e => exact ⟨rfl, rfl⟩
  | ok tracked => exact ⟨rfl, rfl⟩

/-- Two calls that the other side cannot tell apart. -/
def Alike (p : Rest) (s : Session) (q : Rest) (s' : Session) : Prop :=
  (alone p s).state = (alone q s').state ∧
    sentFrames (alone p s).outputs = sentFrames (alone q s').outputs ∧
    (alone p s).result = (alone q s').result

/-- A notification is not seen by the other side. -/
theorem alike_notify (callbacks : Callbacks) (notification : Notification) (next : Rest) :
    Alike (notify callbacks notification next) s next s := by
  unfold notify
  split
  · exact ⟨rfl, rfl, rfl⟩
  · exact ⟨rfl, rfl, rfl⟩

theorem Alike.trans {p q r : Rest} {s s' s'' : Session} (h : Alike p s q s')
    (h' : Alike q s' r s'') : Alike p s r s'' :=
  ⟨h.1.trans h'.1, h.2.1.trans h'.2.1, h.2.2.trans h'.2.2⟩

/-- A server without a pending challenge goes straight to the frame. -/
theorem alike_serverReceive (rt : Runtime) (options : ServerSessionOptions)
    (callbacks : Callbacks) (now : ℤ) (frame : CulpeoMessage) (h : s.pendingAuthNonce = none) :
    Alike (serverReceive rt options callbacks now frame) s
      (serverFrame rt options callbacks now frame s).2
      (serverFrame rt options callbacks now frame s).1 := by
  unfold Alike serverReceive checkTimeouts
  rw [alone_critical]
  simp only [h]
  exact ⟨rfl, rfl, rfl⟩

theorem alike_handleMedia {rt : Runtime} {headers : MediaHeaders} {body : Bytes}
    {registry : StreamRegistry} (callbacks : Callbacks)
    (h : s.registry.trackReceive rt headers.streamId headers.offset headers.contentType
      body.length = .ok registry) :
    Alike (handleMedia rt callbacks headers body s).2 (handleMedia rt callbacks headers body s).1
      done { s with registry } := by
  unfold handleMedia
  rw [h]
  exact alike_notify callbacks (.media headers body) done

/-- **A media frame reaches an established client**, whose registry accepts it. -/
theorem alike_clientReceive_media {rt : Runtime} {headers : MediaHeaders} {body : Bytes}
    {registry : StreamRegistry} (callbacks : Callbacks) (now : ℤ)
    (hs : s.stateValue = .established)
    (h : s.registry.trackReceive rt headers.streamId headers.offset headers.contentType
      body.length = .ok registry) :
    Alike (clientReceive rt callbacks now (.media headers body)) s done { s with registry } := by
  have hframe : clientFrame rt callbacks now (.media headers body) s =
      handleMedia rt callbacks headers body s := by
    unfold clientFrame
    rw [hs]
    rfl
  have hhandle := alike_handleMedia callbacks h
  rw [← hframe] at hhandle
  exact hhandle

/-- **A media frame reaches an established server**, whose registry accepts it. -/
theorem alike_serverReceive_media {rt : Runtime} {headers : MediaHeaders} {body : Bytes}
    {registry : StreamRegistry} (options : ServerSessionOptions) (callbacks : Callbacks)
    (now : ℤ) (hs : s.stateValue = .established) (hauth : s.pendingAuthNonce = none)
    (h : s.registry.trackReceive rt headers.streamId headers.offset headers.contentType
      body.length = .ok registry) :
    Alike (serverReceive rt options callbacks now (.media headers body)) s done
      { s with registry } := by
  have hframe : serverFrame rt options callbacks now (.media headers body) s =
      handleMedia rt callbacks headers body s := by
    unfold serverFrame
    rw [hs]
    rfl
  refine (alike_serverReceive rt options callbacks now _ hauth).trans ?_
  rw [hframe]
  exact alike_handleMedia callbacks h

end Alone

end CulpeoStream.Typescript
