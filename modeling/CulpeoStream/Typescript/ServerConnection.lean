import CulpeoStream.Lib.Reactions
import CulpeoStream.Typescript.Concurrency

/-!
# `server.ts`

`ServerConnection`.  The message loop is one thread of control: it takes a message at a time,
and when the socket yields no more it goes through `handleWsClose`.  `LoopStage` is where it
stands.  Notifications are handled beside it; the handler of an init-ack awaits the store, and
the others do nothing more once they have called the application.

The timers and the application call the session as well.  The state of the socket and the
reports of errors are left out.  A store answers with a promise, and what the application
returns is not looked at.
-/

namespace CulpeoStream.Typescript

open Message Utf16 EventLoop Reactions

/-- What the connection gets from outside. -/
structure ServerConnectionOptions where
  runtime : Runtime
  /-- The ids that `generateId` returns, one after the other. -/
  generateId : ℕ → Text
  pingIntervalMs : Option ℤ := none
  authRefreshIntervalMs : Option ℤ := none
  /-- Whether `serializeFrame` accepts a frame. -/
  serializes : CulpeoMessage → Bool

def ServerConnectionOptions.pingPeriodMs (o : ServerConnectionOptions) : ℤ :=
  o.pingIntervalMs.getD 30000

def ServerConnectionOptions.authRefreshPeriodMs (o : ServerConnectionOptions) : ℤ :=
  o.authRefreshIntervalMs.getD 0

/-- Where the message loop stands. -/
inductive LoopStage where
  /-- At the next message of the socket. -/
  | reading
  /-- At `options.authenticate`. -/
  | authenticating (headers : InitHeaders) (body : InitBody)
  /-- At `store.load`. -/
  | loading (headers : InitHeaders) (body : InitBody)
  /-- At `coreSession.receive`, which awaits an action; `greeting` in `handleInitMessage`. -/
  | receiving (greeting : Bool) (action : Output) (resume : Option Text → Rest)
  /-- At `wsClient.close` in `handleInitMessage`. -/
  | refusing
  /-- At `wsClient.close` after an error. -/
  | breaking
  /-- At `saveSnapshot` in `handleWsClose`. -/
  | saving
  /-- At `handler.onDisconnected`. -/
  | parting
  /-- `handleWsClose` has completed. -/
  | finished

/-- The fields of a `ServerConnection`. -/
structure ServerConnection where
  initialized : Bool := false
  coreSession : Option Session := none
  /-- What the session was made with. -/
  resumeSnapshot : Option SessionSnapshot := none
  /-- The streams of the `ServerSessionImpl`. -/
  serverSession : Option (List ConfirmedStreamDeclaration) := none
  pingTimer : Option ℕ := none
  authRefreshTimer : Option ℕ := none
  closed : Bool := false
  stage : LoopStage := .reading
  /-- How many handlers of an init-ack await `store.save`. -/
  greetings : ℕ := 0
  /-- The calls of the timers and of the application that await an action. -/
  calls : List (Output × (Option Text → Rest)) := []
  /-- The intervals that are running, out of `timers` that have been set. -/
  intervals : List ℕ := []
  timers : ℕ := 0

/-- What a connection does to the outside. -/
inductive ServerEffect where
  | authenticates (authorization : Text) (sessionId : Option Text)
  | loads (sessionId : Text)
  | saves (snapshot : SessionSnapshot)
  /-- An init-error that does not come from the session. -/
  | refuses (code : Code) (reason : Text)
  | hands (frame : CulpeoMessage)
  | closes (code : ℕ)
  | sets (interval : ℕ)
  | clears (interval : ℕ)
  | onConnected
  | onMedia (headers : MediaHeaders) (body : Bytes)
  | onEvent (event : ApplicationEvent)
  | onDisconnected
  | onClose
  deriving DecidableEq

abbrev ServerReaction := Reaction ServerConnection ServerEffect

namespace ServerConnection

def sessionOptions (o : ServerConnectionOptions) (c : ServerConnection) : ServerSessionOptions where
  generateId := o.generateId
  resumeSnapshot := c.resumeSnapshot

def startTimers (o : ServerConnectionOptions) (c : ServerConnection) : ServerReaction :=
  let startPing : ServerReaction :=
    if 0 < o.pingPeriodMs then
      ({ c with
          pingTimer := some c.timers
          intervals := c.timers :: c.intervals
          timers := c.timers + 1 }, [.sets c.timers])
    else (c, [])
  startPing.also fun c =>
    if 0 < o.authRefreshPeriodMs then
      ({ c with
          authRefreshTimer := some c.timers
          intervals := c.timers :: c.intervals
          timers := c.timers + 1 }, [.sets c.timers])
    else (c, [])

def stopTimers (c : ServerConnection) : ServerReaction :=
  let stopped := c.pingTimer.toList ++ c.authRefreshTimer.toList
  ({ c with
      pingTimer := none
      authRefreshTimer := none
      intervals := c.intervals.filter fun interval => interval ∉ stopped },
    stopped.map .clears)

/-- The handler of an init-ack once the session is stored. -/
def greet (o : ServerConnectionOptions) (c : ServerConnection) : ServerReaction :=
  (c.startTimers o).also fun c => (c, [.onConnected])

/-- The session does not change any more in the stretch in which it notifies an init-ack. -/
def handleNotification (o : ServerConnectionOptions) (now : ℤ) (c : ServerConnection) :
    Notification → ServerReaction
  | .initAck _ body =>
      let c := { c with serverSession := some body.streams }
      match c.coreSession.map (createSnapshot now) with
      | some (.ok snapshot) => ({ c with greetings := c.greetings + 1 }, [.saves snapshot])
      | _ => c.greet o
  | .initError _ => (c, [])
  | .media headers body => (c, if c.serverSession.isSome then [.onMedia headers body] else [])
  | .application event => (c, if c.serverSession.isSome then [.onEvent event] else [])
  | .close _ _ => (c, [.closes 1000])

/-- An action of the session. -/
def perform (o : ServerConnectionOptions) (now : ℤ) (c : ServerConnection) : Output → ServerReaction
  | .send frame => (c, if o.serializes frame then [.hands frame] else [])
  | .notify notification => c.handleNotification o now notification
  | .onRtt _ _ _ | .refreshAuthToken | .turn => (c, [])

def performAll (o : ServerConnectionOptions) (now : ℤ) (c : ServerConnection) :
    List Output → ServerReaction
  | [] => (c, [])
  | action :: actions => (c.perform o now action).also fun c => c.performAll o now actions

/-- A call on the session up to its next `await`. -/
def call (o : ServerConnectionOptions) (now : ℤ) (c : ServerConnection) (session : Session)
    (p : Rest) : ServerReaction :=
  { c with coreSession := some (stretch instant p session).state }.performAll o now
    (stretch instant p session).actions

/-- The loop goes on with the outlook of `coreSession.receive`. -/
def receives (c : ServerConnection) (greeting : Bool) :
    Outlook Session Output (Option Text) Result → ServerReaction
  | .returned (.ok ()) =>
      if greeting ∧ c.coreSession.map Session.stateValue = some .closed ∧
          c.serverSession = none then
        ({ c with stage := .refusing }, [.closes 4002])
      else ({ c with stage := .reading }, [])
  | .returned (.error _) => ({ c with stage := .breaking }, [.closes 4002])
  | .awaits action resume => ({ c with stage := .receiving greeting action resume }, [])

/-- The loop runs `coreSession.receive`, or the rest of it. -/
def proceeds (o : ServerConnectionOptions) (now : ℤ) (c : ServerConnection) (greeting : Bool)
    (session : Session) (p : Rest) : ServerReaction :=
  (c.call o now session p).also fun c => c.receives greeting (stretch instant p session).outlook

def callbacks : Callbacks where
  onNotification := true

/-- `handleInitMessage` from the construction of the session on. -/
def openSession (o : ServerConnectionOptions) (now : ℤ) (c : ServerConnection)
    (headers : InitHeaders) (body : InitBody) (resumeSnapshot : Option SessionSnapshot) :
    ServerReaction :=
  let c := { c with resumeSnapshot }
  c.proceeds o now true .createServer
    (serverReceive o.runtime (c.sessionOptions o) callbacks now (.init headers body))

/-- `handleInitMessage` up to its first `await`. -/
def handleInitMessage (c : ServerConnection) : CulpeoMessage → ServerReaction
  | .init headers body =>
      ({ c with stage := .authenticating headers body },
        [.authenticates headers.authorization headers.sessionId])
  | _ =>
      ({ c with stage := .refusing },
        [.refuses .protocolError (utf16 "First frame must be culpeo.init."), .closes 4002])

/-- `handleInitMessage` after `options.authenticate`. -/
def authenticated (o : ServerConnectionOptions) (now : ℤ) (c : ServerConnection)
    (headers : InitHeaders) (body : InitBody) (accepted : Bool) : ServerReaction :=
  if !accepted then
    ({ c with stage := .refusing },
      [.refuses .unauthorized (utf16 "Authentication failed."), .closes 4001])
  else
    match headers.sessionId with
    | some sessionId => ({ c with stage := .loading headers body }, [.loads sessionId])
    | none => c.openSession o now headers body none

def saveSnapshot (now : ℤ) (c : ServerConnection) : List ServerEffect :=
  match c.coreSession with
  | none => []
  | some session =>
      if session.stateValue ≠ .established ∧ session.stateValue ≠ .closed then []
      else
        match createSnapshot now session with
        | .ok snapshot => [.saves snapshot]
        | .error _ => []

def handleWsClose (now : ℤ) (c : ServerConnection) : ServerReaction :=
  if c.closed then ({ c with stage := .finished }, [])
  else
    { c with closed := true }.stopTimers.also fun c =>
      ({ c with stage := .saving }, c.saveSnapshot now)

/-- `handleWsClose` after `saveSnapshot`. -/
def part (c : ServerConnection) : ServerReaction :=
  if c.serverSession.isSome then ({ c with stage := .parting }, [.onDisconnected])
  else ({ c with stage := .finished }, [.onClose])

end ServerConnection

/-- A call of the timers or of the application on the session. -/
inductive SessionCall where
  | sendMedia (streamId : Text) (body : Bytes)
  | sendEvent (event body : Text)
  | sendPing (now : ℤ)
  | requestAuthRefresh (now : ℤ)
  | close (reason : Text)

def SessionCall.prog (o : ServerConnectionOptions) (c : ServerConnection) : SessionCall → Rest
  | sendMedia streamId body => Typescript.sendMedia o.runtime streamId body none
  | sendEvent event body => Typescript.sendEvent event body none
  | sendPing now => Typescript.sendPing now
  | requestAuthRefresh now => Typescript.requestAuthRefresh (c.sessionOptions o) now
  | close reason => Typescript.close .normal reason done

inductive ServerConnectionMove where
  /-- The socket yields a message; none when it is not a frame. -/
  | message (now : ℤ) (frame : Option CulpeoMessage)
  /-- The socket yields no more messages. -/
  | ends (now : ℤ)
  /-- The promise of `options.authenticate` settles. -/
  | authenticated (now : ℤ) (accepted : Bool)
  /-- The promise of `store.load` settles; none when it is rejected. -/
  | loaded (now : ℤ) (stored : Option (Option SessionSnapshot))
  /-- What `coreSession.receive` awaits settles. -/
  | receiveSettles (now : ℤ)
  /-- The promise of `wsClient.close` settles. -/
  | closeSettles (now : ℤ) (fulfilled : Bool)
  /-- The `store.save` of a handler of an init-ack settles. -/
  | greetingSaved
  /-- `saveSnapshot` is over. -/
  | snapshotSaved
  /-- The promise of `handler.onDisconnected` settles. -/
  | parted
  | calls (now : ℤ) (call : SessionCall)
  /-- What the `i`-th of these calls awaits settles. -/
  | callSettles (now : ℤ) (i : ℕ)

namespace ServerConnection

/-- The answer to an action: `serializeFrame` may throw. -/
def answer (o : ServerConnectionOptions) : Output → Option Text
  | .send frame => if o.serializes frame then some [] else none
  | .refreshAuthToken | .notify _ | .onRtt _ _ _ | .turn => some []

/-- A call of the timers or of the application goes on. -/
def goesOn (o : ServerConnectionOptions) (now : ℤ) (c : ServerConnection) (session : Session)
    (p : Rest) : ServerReaction :=
  (c.call o now session p).also fun c =>
    match (stretch instant p session).outlook with
    | .returned _ => (c, [])
    | .awaits action resume => ({ c with calls := c.calls ++ [(action, resume)] }, [])

/-- One move.  Nothing happens when nothing stands where the move is about. -/
def step (o : ServerConnectionOptions) (c : ServerConnection) :
    ServerConnectionMove → ServerReaction
  | .message now frame =>
      match c.stage, frame with
      | .reading, none => ({ c with stage := .breaking }, [.closes 4002])
      | .reading, some frame =>
          if !c.initialized then { c with initialized := true }.handleInitMessage frame
          else
            match c.coreSession with
            | none => (c, [])
            | some session =>
                c.proceeds o now false session
                  (serverReceive o.runtime (c.sessionOptions o) callbacks now frame)
      | _, _ => (c, [])
  | .ends now =>
      match c.stage with
      | .reading => c.handleWsClose now
      | _ => (c, [])
  | .authenticated now accepted =>
      match c.stage with
      | .authenticating headers body => c.authenticated o now headers body accepted
      | _ => (c, [])
  | .loaded now stored =>
      match c.stage, stored with
      | .loading headers body, some stored => c.openSession o now headers body stored
      | .loading _ _, none => ({ c with stage := .breaking }, [.closes 4002])
      | _, _ => (c, [])
  | .receiveSettles now =>
      match c.stage, c.coreSession with
      | .receiving greeting action resume, some session =>
          c.proceeds o now greeting session (resume (answer o action))
      | _, _ => (c, [])
  | .closeSettles now fulfilled =>
      match c.stage with
      | .refusing =>
          if fulfilled then ({ c with stage := .reading }, [])
          else ({ c with stage := .breaking }, [.closes 4002])
      | .breaking => c.handleWsClose now
      | _ => (c, [])
  | .greetingSaved =>
      if c.greetings = 0 then (c, [])
      else { c with greetings := c.greetings - 1 }.greet o
  | .snapshotSaved =>
      match c.stage with
      | .saving => c.part
      | _ => (c, [])
  | .parted =>
      match c.stage with
      | .parting => ({ c with stage := .finished }, [.onClose])
      | _ => (c, [])
  | .calls now call =>
      match c.coreSession with
      | none => (c, [])
      | some session => c.goesOn o now session (call.prog o c)
  | .callSettles now i =>
      match c.calls[i]?, c.coreSession with
      | some (action, resume), some session =>
          { c with calls := c.calls.eraseIdx i }.goesOn o now session (resume (answer o action))
      | _, _ => (c, [])

/-- A run of a connection, with all that it does. -/
def run (o : ServerConnectionOptions) (c : ServerConnection) (ms : List ServerConnectionMove) :
    ServerReaction :=
  Reactions.run (step o) c ms

end ServerConnection

end CulpeoStream.Typescript
