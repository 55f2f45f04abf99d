import CulpeoStream.Lib.Reactions
import CulpeoStream.Typescript.Concurrency

/-!
# `client.ts`

`CulpeoStreamClient`.  `connect` goes through once, and from then on there is one thread of
control: a run of `runConnection`, which ends or sets the reconnect timer, which starts the
next run.  `Stage` is where that thread stands: at which `await` it is suspended, or at the
timer.  A move is a public call, or the settlement of what the thread awaits.

A frame is handed to the socket of its session when `serializeFrame` accepts it.  The calls
that `disconnect` and the `send` methods make on the session are not awaited, and do nothing
more once their frame is handed over.  The delays of the timer are left out, and so are the
listeners of the events, which return.
-/

namespace CulpeoStream.Typescript

open Message Utf16 EventLoop Reactions

/-- The limit on attempts; none is `Infinity`. -/
abbrev MaxAttempts := Option ℤ

structure ConnectOptions where
  token : Text
  streams : List ResumeStreamDeclaration
  bufferWindowMs : Option ℤ := none
  version : Option Text := none
  allowInsecure : Bool := false
  /-- Whether `getToken` is set. -/
  getToken : Bool := false
  maxAttempts : Option MaxAttempts := none

/-- What the client gets from outside. -/
structure StreamClientOptions where
  runtime : Runtime
  maxAttempts : Option MaxAttempts := none
  /-- Whether `serializeFrame` accepts a frame. -/
  serializes : CulpeoMessage → Bool

/-- Where the thread of the client stands. -/
inductive Stage where
  /-- No connection attempt is in progress, and no timer is set. -/
  | idle
  /-- At `wsClient.connect`. -/
  | connecting
  /-- At `options.getToken`. -/
  | refreshing
  /-- At `session.start`, which awaits an action. -/
  | starting (action : Output) (resume : Option Text → Rest)
  /-- At the next message of the socket. -/
  | reading
  /-- At `session.receive`, which awaits an action. -/
  | receiving (action : Output) (resume : Option Text → Rest)
  /-- At `wsClient.close`, after `session.start` has failed. -/
  | tearingDown
  /-- At the reconnect timer. -/
  | waiting

/-- The fields of a `CulpeoStreamClient`, with the socket of the current attempt and that of
the session.  Sockets are numbered as they are made. -/
structure StreamClient where
  connectUrl : Option Text := none
  connectOptions : Option ConnectOptions := none
  maxAttempts : MaxAttempts := none
  wsClient : Option ℕ := none
  session : Option Session := none
  snapshot : Option SessionSnapshot := none
  reconnectAttempt : ℕ := 0
  intentionalDisconnect : Bool := false
  /-- Whether the promise of `connect` is still to be settled. -/
  pendingConnect : Bool := false
  stage : Stage := .idle
  sockets : ℕ := 0
  attemptSocket : ℕ := 0
  sessionSocket : ℕ := 0

inductive ClientError where
  | parse
  | session (failure : Failure)
  | initFailed (code : Code)
  | maxAttemptsExceeded
  deriving DecidableEq

inductive ClientEvent where
  | connected
  | reconnecting (attempt : ℕ)
  | disconnected
  | close (code : Code) (reason : Text)
  | media (headers : MediaHeaders) (body : Bytes)
  | event (event : ApplicationEvent)
  | error (error : ClientError)
  | rtt (ts serverTs rttMicros : ℤ)
  deriving DecidableEq

/-- What a client does to the outside. -/
inductive ClientEffect where
  | connects (socket : ℕ)
  /-- A new session is started. -/
  | starts
  | hands (socket : ℕ) (frame : CulpeoMessage)
  | closes (socket : ℕ) (code : ℕ)
  /-- The promise of `connect` is resolved. -/
  | resolves
  | rejects
  /-- A call of `connect` that does not go through. -/
  | refuses
  | emits (event : ClientEvent)
  deriving DecidableEq

/-- A client with what it has done in a move. -/
abbrev ClientReaction := Reaction StreamClient ClientEffect

/-- The end of a run of `runConnection`. -/
def StreamClient.rest (c : StreamClient) : ClientReaction := ({ c with stage := .idle }, [])

def shouldRetry (attempt : ℕ) (maxAttempts : MaxAttempts) : Bool :=
  maxAttempts.all fun limit => decide ((attempt : ℤ) < limit)

namespace StreamClient

/-- `openConnection`, up to the first `await` of `runConnection`: the factory makes a socket,
or throws. -/
def openConnection (c : StreamClient) (made : Bool) : ClientReaction :=
  if made then
    ({ c with
        wsClient := some c.sockets
        attemptSocket := c.sockets
        sockets := c.sockets + 1
        stage := .connecting }, [.connects c.sockets])
  else c.rest

def scheduleReconnect (c : StreamClient) : ClientReaction :=
  if !shouldRetry c.reconnectAttempt c.maxAttempts then
    ({ c with pendingConnect := false, stage := .idle },
      [if c.pendingConnect then .rejects else .emits (.error .maxAttemptsExceeded),
        .emits .disconnected])
  else
    ({ c with reconnectAttempt := c.reconnectAttempt + 1, stage := .waiting },
      [.emits (.reconnecting (c.reconnectAttempt + 1))])

/-- `void this.wsClient?.close(1000, …)`. -/
def closeSocket (c : StreamClient) : List ClientEffect :=
  c.wsClient.toList.map fun socket => .closes socket 1000

def handleNotification (c : StreamClient) : Notification → ClientReaction
  | .initAck _ _ =>
      ({ c with reconnectAttempt := 0, pendingConnect := false },
        (if c.pendingConnect then [.resolves] else []) ++ [.emits .connected])
  | .initError frame =>
      ({ c with intentionalDisconnect := true, pendingConnect := false },
        c.closeSocket ++ [.emits (.close frame.code frame.reason)] ++
          if c.pendingConnect then [.rejects]
          else [.emits (.error (.initFailed frame.code)), .emits .disconnected])
  | .media headers body => (c, [.emits (.media headers body)])
  | .application event => (c, [.emits (.event event)])
  | .close code reason =>
      ({ c with intentionalDisconnect := true },
        c.closeSocket ++ [.emits (.close code reason)])

/-- An action of the session. -/
def perform (o : StreamClientOptions) (c : StreamClient) : Output → ClientReaction
  | .send frame => (c, if o.serializes frame then [.hands c.sessionSocket frame] else [])
  | .notify notification => c.handleNotification notification
  | .onRtt ts serverTs rttMicros => (c, [.emits (.rtt ts serverTs rttMicros)])
  | .refreshAuthToken | .turn => (c, [])

def performAll (o : StreamClientOptions) (c : StreamClient) : List Output → ClientReaction
  | [] => (c, [])
  | action :: actions => (c.perform o action).also fun c => c.performAll o actions

/-- A call on the session up to its first `await`. -/
def call (o : StreamClientOptions) (c : StreamClient) (session : Session) (p : Rest) :
    ClientReaction :=
  { c with session := some (stretch instant p session).state }.performAll o
    (stretch instant p session).actions

/-- The thread goes on with the outlook of `session.receive`. -/
def receives (c : StreamClient) : Outlook Session Output (Option Text) Result → ClientReaction
  | .returned (.ok ()) => ({ c with stage := .reading }, [])
  | .returned (.error failure) =>
      ({ c with stage := .reading }, [.emits (.error (.session failure))])
  | .awaits action resume => ({ c with stage := .receiving action resume }, [])

/-- The thread goes on with the outlook of `session.start`. -/
def starts (c : StreamClient) : Outlook Session Output (Option Text) Result → ClientReaction
  | .returned (.ok ()) => ({ c with stage := .reading }, [])
  | .returned (.error _) =>
      ({ c with pendingConnect := false, stage := .tearingDown },
        (if c.pendingConnect then [.rejects] else []) ++ [.closes c.attemptSocket 4002])
  | .awaits action resume => ({ c with stage := .starting action resume }, [])

def callbacks (options : ConnectOptions) : Callbacks where
  onRtt := true
  onNotification := true
  refreshAuthToken := options.getToken

/-- `runConnection` from the construction of the session on.  Its constructor throws when it
does not accept the streams. -/
def startSession (o : StreamClientOptions) (c : StreamClient) (options : ConnectOptions)
    (authorization : Text) : ClientReaction :=
  match Session.createClient options.streams (options.version.getD (utf16 "0.3")) with
  | .error _ => c.rest
  | .ok session =>
      let p := start
        { authorization
          bufferWindowMs := options.bufferWindowMs.getD 5000
          resumeFrom := c.snapshot }
      Reaction.also ({ c with sessionSocket := c.attemptSocket }, [.starts]) fun c =>
        (c.call o session p).also fun c => c.starts (stretch instant p session).outlook

/-- The answer to an action: a frame is handed over or `serializeFrame` throws, and the token
is that of `getToken`. -/
def answer (o : StreamClientOptions) (token : Option Text) : Output → Option Text
  | .send frame => if o.serializes frame then some [] else none
  | .refreshAuthToken => token
  | .notify _ | .onRtt _ _ _ | .turn => some []

end StreamClient

/-! ### Moves -/

inductive StreamClientMove where
  /-- `connect`; the factory makes a socket, or throws. -/
  | connect (url : Text) (options : ConnectOptions) (made : Bool)
  | disconnect
  | sendMedia (streamId : Text) (body : Bytes)
  | sendEvent (event body : Text) (streamId : Option Text)
  | sendPing (now : ℤ)
  /-- The promise of `wsClient.connect` settles. -/
  | connectSettles (fulfilled : Bool)
  /-- The promise of `getToken`, called before a session, settles. -/
  | tokenSettles (token : Option Text)
  /-- The socket yields a message; none when it is not a frame. -/
  | message (now : ℤ) (frame : Option CulpeoMessage)
  /-- The socket yields no more messages. -/
  | ends (now : ℤ)
  /-- What `session.start` or `session.receive` awaits settles. -/
  | sessionSettles (token : Option Text)
  /-- The promise of `wsClient.close` settles. -/
  | closeSettles
  | timerFires (made : Bool)

/-- Whether `validateUrl` accepts. -/
def validateUrl (rt : Runtime) (url : Text) (allowInsecure : Bool) : Bool :=
  (utf16 "wss://").isPrefixOf (rt.toLowerCase url) ||
    (utf16 "ws://").isPrefixOf (rt.toLowerCase url) && allowInsecure

def bearer (token : Text) : Text := utf16 "Bearer " ++ token

namespace StreamClient

def connect (o : StreamClientOptions) (c : StreamClient) (url : Text) (options : ConnectOptions)
    (made : Bool) : ClientReaction :=
  if c.connectUrl.isSome || !validateUrl o.runtime url options.allowInsecure then (c, [.refuses])
  else
    { c with
      connectUrl := some url
      connectOptions := some options
      maxAttempts := (options.maxAttempts <|> o.maxAttempts).getD none
      reconnectAttempt := 0
      intentionalDisconnect := false
      pendingConnect := true }.openConnection made

/-- A call that is made on an established session, and not awaited. -/
def callEstablished (o : StreamClientOptions) (c : StreamClient) (p : Rest) : ClientReaction :=
  match c.session with
  | none => (c, [])
  | some session => if session.stateValue = .established then c.call o session p else (c, [])

def disconnect (o : StreamClientOptions) (c : StreamClient) : ClientReaction :=
  let stopped : StreamClient :=
    { c with
      intentionalDisconnect := true
      stage := match c.stage with
        | .waiting => .idle
        | stage => stage }
  (stopped.callEstablished o (close .normal (utf16 "Client disconnect") done)).also fun c =>
    ({ c with wsClient := none }, c.closeSocket ++ [.emits .disconnected])

/-- `runConnection` after `wsClient.connect`. -/
def connected (o : StreamClientOptions) (c : StreamClient) (options : ConnectOptions)
    (fulfilled : Bool) : ClientReaction :=
  if c.intentionalDisconnect then c.rest
  else if !fulfilled then c.scheduleReconnect
  else if 0 < c.reconnectAttempt && options.getToken then ({ c with stage := .refreshing }, [])
  else c.startSession o options (bearer options.token)

/-- `runConnection` after its receive loop. -/
def finish (c : StreamClient) (now : ℤ) : ClientReaction :=
  if c.intentionalDisconnect then c.rest
  else
    match c.session.filter fun session => session.stateValue = .established with
    | none => c.scheduleReconnect
    | some session =>
        match createSnapshot now session with
        | .error _ => c.scheduleReconnect
        | .ok snapshot => { c with snapshot := some snapshot }.scheduleReconnect

/-- One move.  Nothing happens when the thread does not stand where the move is about. -/
def step (o : StreamClientOptions) (c : StreamClient) : StreamClientMove → ClientReaction
  | .connect url options made => c.connect o url options made
  | .disconnect => c.disconnect o
  | .sendMedia streamId body =>
      c.callEstablished o (Typescript.sendMedia o.runtime streamId body none)
  | .sendEvent event body streamId => c.callEstablished o (Typescript.sendEvent event body streamId)
  | .sendPing now => c.callEstablished o (Typescript.sendPing now)
  | .connectSettles fulfilled =>
      match c.stage, c.connectOptions with
      | .connecting, some options => c.connected o options fulfilled
      | _, _ => (c, [])
  | .tokenSettles token =>
      match c.stage, c.connectOptions with
      | .refreshing, some options => c.startSession o options (bearer (token.getD options.token))
      | _, _ => (c, [])
  | .message now frame =>
      match c.stage, c.session, c.connectOptions with
      | .reading, some session, some options =>
          match frame with
          | none => (c, [.emits (.error .parse)])
          | some frame =>
              let p := clientReceive o.runtime (callbacks options) now frame
              (c.call o session p).also fun c => c.receives (stretch instant p session).outlook
      | _, _, _ => (c, [])
  | .ends now =>
      match c.stage with
      | .reading => c.finish now
      | _ => (c, [])
  | .sessionSettles token =>
      match c.stage, c.session with
      | .starting action resume, some session =>
          let p := resume (answer o token action)
          (c.call o session p).also fun c => c.starts (stretch instant p session).outlook
      | .receiving action resume, some session =>
          let p := resume (answer o token action)
          (c.call o session p).also fun c => c.receives (stretch instant p session).outlook
      | _, _ => (c, [])
  | .closeSettles =>
      match c.stage with
      | .tearingDown => c.rest
      | _ => (c, [])
  | .timerFires made =>
      match c.stage with
      | .waiting => c.openConnection made
      | _ => (c, [])

/-- A run of a client, with all that it does. -/
def run (o : StreamClientOptions) (c : StreamClient) (ms : List StreamClientMove) :
    ClientReaction :=
  Reactions.run (step o) c ms

/-- A property of every move of a run. -/
def Along (o : StreamClientOptions) (P : StreamClient → StreamClientMove → Prop)
    (c : StreamClient) (ms : List StreamClientMove) : Prop :=
  Reactions.Along (step o) P c ms

/-! ### What the actions of a session change -/

/-- The promise of `connect` is settled. -/
def Settled (effects : List ClientEffect) : Prop := .resolves ∈ effects ∨ .rejects ∈ effects

/-- What the notifications of a session change in the client. -/
structure Notified (c : StreamClient) (r : ClientReaction) : Prop where
  stage : r.1.stage = c.stage
  connectUrl : r.1.connectUrl = c.connectUrl
  intentional : c.intentionalDisconnect = true → r.1.intentionalDisconnect = true
  pending : c.pendingConnect = true → r.1.pendingConnect = true ∨ Settled r.2
  settled : c.pendingConnect = false → r.1.pendingConnect = false

theorem Settled.append_left {effects effects' : List ClientEffect} (h : Settled effects) :
    Settled (effects ++ effects') :=
  h.imp (List.mem_append_left _) (List.mem_append_left _)

theorem Settled.append_right {effects effects' : List ClientEffect} (h : Settled effects') :
    Settled (effects ++ effects') :=
  h.imp (List.mem_append_right _) (List.mem_append_right _)

theorem Notified.refl (c : StreamClient) (effects : List ClientEffect) :
    Notified c (c, effects) :=
  ⟨rfl, rfl, id, .inl, id⟩

theorem Notified.also {c : StreamClient} {r : ClientReaction}
    {next : StreamClient → ClientReaction}
    (h : Notified c r) (hnext : Notified r.1 (next r.1)) : Notified c (r.also next) where
  stage := hnext.stage.trans h.stage
  connectUrl := hnext.connectUrl.trans h.connectUrl
  intentional := fun hc => hnext.intentional (h.intentional hc)
  pending := fun hc => by
    rcases h.pending hc with hpending | hsettled
    · exact (hnext.pending hpending).imp id Settled.append_right
    · exact .inr hsettled.append_left
  settled := fun hc => hnext.settled (h.settled hc)

theorem notified_handleNotification (c : StreamClient) (notification : Notification) :
    Notified c (c.handleNotification notification) := by
  cases notification with
  | initAck headers body =>
      refine ⟨rfl, rfl, id, fun hpending => .inr (.inl ?_), fun _ => rfl⟩
      rw [handleNotification, if_pos hpending]
      exact List.mem_append_left _ (List.mem_singleton_self _)
  | initError frame =>
      refine ⟨rfl, rfl, fun _ => rfl, fun hpending => .inr (.inr ?_), fun _ => rfl⟩
      rw [handleNotification, if_pos hpending]
      exact List.mem_append_right _ (List.mem_singleton_self _)
  | media headers body => exact .refl c _
  | application event => exact .refl c _
  | close code reason => exact ⟨rfl, rfl, fun _ => rfl, .inl, id⟩

theorem notified_perform (o : StreamClientOptions) (c : StreamClient) (action : Output) :
    Notified c (c.perform o action) := by
  cases action with
  | notify notification => exact notified_handleNotification c notification
  | _ => exact .refl c _

/-- **The actions of a stretch.** -/
theorem notified_performAll (o : StreamClientOptions) (actions : List Output) :
    ∀ c : StreamClient, Notified c (c.performAll o actions) := by
  induction actions with
  | nil => exact fun c => .refl c _
  | cons action actions ih => exact fun c => (notified_perform o c action).also (ih _)

theorem notified_call (o : StreamClientOptions) (c : StreamClient) (session : Session) (p : Rest) :
    Notified c (c.call o session p) := by
  obtain ⟨hstage, hurl, hintentional, hpending, hsettled⟩ := notified_performAll o
    (stretch instant p session).actions
    { c with session := some (stretch instant p session).state }
  exact ⟨hstage, hurl, hintentional, hpending, hsettled⟩

theorem notified_callEstablished (o : StreamClientOptions) (c : StreamClient) (p : Rest) :
    Notified c (c.callEstablished o p) := by
  unfold callEstablished
  split
  · exact .refl c _
  · split
    · exact notified_call o c _ p
    · exact .refl c _

end StreamClient

end CulpeoStream.Typescript
