import CulpeoStream.Typescript.Calls
import CulpeoStream.Typescript.Handshake

/-!
# Runs that can be cut anywhere

A client and a server whose calls interleave.  Every public method of the two sessions can
be called at any time, a call is suspended at each of its external actions and goes on with
whatever answer it gets, and a delivery takes the frame at the head of a queue.  A cut can
come after any move; the frames that are queued then are lost.

`Consistent` is what such runs keep.  The two ends agree on the id of the session, and a
client that has confirmed streams has those of the server, which are declared as the
client planned them.
-/

namespace CulpeoStream.Typescript

open Checks Message Utf16 Resumption

abbrev Endpoint := Loop Session Output (Option Text) Result

/-- The two ends, with the frames that are on the way. -/
structure Exchange where
  client : Endpoint
  server : Endpoint
  toServer : List CulpeoMessage := []
  toClient : List CulpeoMessage := []

inductive ClientCall where
  | start (options : StartOptions)
  | sendMedia (streamId : Text) (body : Bytes) (timestamp : Option ℤ)
  | sendEvent (event body : Text) (streamId : Option Text)
  | sendPing (now : ℤ)
  | close (code : Code) (reason : Text)

inductive ServerCall where
  | sendMedia (streamId : Text) (body : Bytes) (timestamp : Option ℤ)
  | sendEvent (event body : Text) (streamId : Option Text)
  | sendPing (now : ℤ)
  | close (code : Code) (reason : Text)
  | requestAuthRefresh (now : ℤ)
  | checkTimeouts (now : ℤ)

def ClientCall.prog (o : LinkOptions) : ClientCall → Rest
  | start options => Typescript.start options
  | sendMedia streamId body timestamp => Typescript.sendMedia o.runtime streamId body timestamp
  | sendEvent event body streamId => Typescript.sendEvent event body streamId
  | sendPing now => Typescript.sendPing now
  | close code reason => Typescript.close code reason done

def ServerCall.prog (o : LinkOptions) : ServerCall → Rest
  | sendMedia streamId body timestamp => Typescript.sendMedia o.runtime streamId body timestamp
  | sendEvent event body streamId => Typescript.sendEvent event body streamId
  | sendPing now => Typescript.sendPing now
  | close code reason => Typescript.close code reason done
  | requestAuthRefresh now => Typescript.requestAuthRefresh o.options now
  | checkTimeouts now => Typescript.checkTimeouts o.options now done

/-- What can happen.  The answer to an action is none when its promise is rejected. -/
inductive Step where
  | clientCalls (call : ClientCall)
  | serverCalls (call : ServerCall)
  | clientAnswered (i : ℕ) (answer : Option Text)
  | serverAnswered (i : ℕ) (answer : Option Text)
  | deliverToServer (now : ℤ)
  | deliverToClient (now : ℤ)

namespace Exchange

/-- The client has taken a turn. -/
def byClient (l : Exchange) (turn : Endpoint × Option Output) : Exchange :=
  { l with client := turn.1, toServer := l.toServer ++ sentFrames turn.2.toList }

/-- The server has taken a turn. -/
def byServer (l : Exchange) (turn : Endpoint × Option Output) : Exchange :=
  { l with server := turn.1, toClient := l.toClient ++ sentFrames turn.2.toList }

def step (o : LinkOptions) (l : Exchange) : Step → Exchange
  | .clientCalls call => l.byClient (l.client.take (call.prog o))
  | .serverCalls call => l.byServer (l.server.take (call.prog o))
  | .clientAnswered i answer => l.byClient (l.client.answer i answer)
  | .serverAnswered i answer => l.byServer (l.server.answer i answer)
  | .deliverToServer now =>
      match l.toServer with
      | [] => l
      | frame :: rest =>
          { l with toServer := rest }.byServer
            (l.server.take (serverReceive o.runtime o.options o.server now frame))
  | .deliverToClient now =>
      match l.toClient with
      | [] => l
      | frame :: rest =>
          { l with toClient := rest }.byClient
            (l.client.take (clientReceive o.runtime o.client now frame))

def run (o : LinkOptions) (l : Exchange) (steps : List Step) : Exchange :=
  steps.foldl (step o) l

/-- A client and a server that have done nothing yet. -/
def opened (client : Session) : Exchange where
  client := ⟨client, []⟩
  server := ⟨.createServer, []⟩

end Exchange

/-! ### Turns outside the handshake -/

/-- A turn that keeps the contract. -/
structure RoutineTurn (s : Session) (turn : Session × Option (Output × (Option Text → Rest))) :
    Prop where
  noted : turn.1.registry.offsets.Noted
  stays : Stays s turn.1
  plain : ∀ out next, turn.2 = some (out, next) → Plain out
  waits : ∀ out next, turn.2 = some (out, next) → ∀ a, (next a).Meets routine

theorem routineTurn_meets {p : Rest} {s : Session} (h : p.Meets routine)
    (hs : s.registry.offsets.Noted) : RoutineTurn s (p.turn s) := by
  obtain ⟨hnoted, hstays, hwaits⟩ := h.turn Stays.refl (fun _ _ _ => Stays.trans) hs
  exact ⟨hnoted, hstays, fun out next hout => (hwaits out next hout).1,
    fun out next hout a => (hwaits out next hout).2 a trivial⟩

/-- The same from the inside of a critical section. -/
theorem routineTurn_holds {s : Session} {r : Session × Rest} (h : routine.Holds s r) :
    RoutineTurn s (r.2.turn r.1) := by
  obtain ⟨hnoted, hstays, hmeets⟩ := h
  have hturn := routineTurn_meets hmeets hnoted
  exact ⟨hturn.noted, hstays.trans hturn.stays, hturn.plain, hturn.waits⟩

/-- The frames of a turn: at most one, at its end. -/
theorem mem_turn_frames {turn : Session × Option (Output × (Option Text → Rest))}
    {frame : CulpeoMessage} (h : frame ∈ sentFrames (turn.2.map Prod.fst).toList) :
    ∃ next, turn.2 = some (.send frame, next) := by
  obtain ⟨state, out⟩ := turn
  cases out with
  | none => cases h
  | some pair =>
      obtain ⟨out, next⟩ := pair
      obtain ⟨action, haction, hframe⟩ := List.mem_filterMap.mp h
      obtain rfl : action = out := List.mem_singleton.mp haction
      split at hframe
      · cases hframe
        exact ⟨next, rfl⟩
      · cases hframe

theorem RoutineTurn.sent {s : Session} {turn : Session × Option (Output × (Option Text → Rest))}
    (h : RoutineTurn s turn) {frame : CulpeoMessage}
    (hframe : frame ∈ sentFrames (turn.2.map Prod.fst).toList) : Plain (.send frame) := by
  obtain ⟨next, hout⟩ := mem_turn_frames hframe
  exact h.plain _ _ hout

/-- An acknowledgement, as the server makes it: the state that goes with the frame. -/
structure Acknowledges (headers : InitHeaders) (body : InitBody) (s s' : Session)
    (ackHeaders : InitAckHeaders) (ackBody : InitAckBody) : Prop where
  declared : ackBody.streams.map ConfirmedStreamDeclaration.toStreamDeclaration =
    body.streams.map ResumeStreamDeclaration.toStreamDeclaration
  confirmed : s.registry.confirm ackBody.streams = .ok s'.registry
  sessionId : s'.sessionIdValue = some ackHeaders.sessionId
  resumed : ∀ id, headers.sessionId = some id → ackHeaders.sessionId = id
  begun : s'.stateValue = .initializing

/-- **What a server does with an init**: nothing out of the routine, or it acknowledges
streams. -/
theorem handleInit_cases (options : ServerSessionOptions) (callbacks : Callbacks) (now : ℤ)
    (headers : InitHeaders) (body : InitBody) {s : Session}
    (hs : s.registry.offsets.Noted) :
    routine.Holds s (handleInit options callbacks now headers body s) ∨
    ∃ s' ackHeaders ackBody, Acknowledges headers body s s' ackHeaders ackBody ∧
      handleInit options callbacks now headers body s =
        (s', dispatch (.initAck ackHeaders ackBody) (.critical fun s =>
          ({ s with stateValue := .established },
            notify callbacks (.initAck ackHeaders ackBody) done))) := by
  unfold handleInit
  split
  · exact .inl ⟨hs, ⟨rfl, rfl, rfl, nofun, fun _ => id⟩, meets_sendInitErrorAndClose callbacks _⟩
  · dsimp only
    split
    · exact .inl ⟨hs, ⟨rfl, rfl, rfl, nofun, fun _ => id⟩, meets_sendInitErrorAndClose callbacks _⟩
    · rename_i confirmed hbuild
      unfold acceptInit StreamRegistry.confirmForServer
      dsimp only
      split
      · exact .inl ⟨hs, ⟨rfl, rfl, rfl, nofun, fun _ => id⟩, meets_fail _⟩
      · rename_i registry hconfirm
        refine .inr ⟨_, _, _, ⟨build_declarations hbuild, hconfirm, rfl, fun id hid => ?_, rfl⟩,
          rfl⟩
        dsimp only
        rw [hid]
        rfl

/-- What follows a frame, once the transport has answered. -/
def onceSent (after : Rest) : Option Text → Rest
  | some _ => after
  | none => .ret (.error .rejected)

theorem turn_dispatch (frame : CulpeoMessage) (after : Rest) (s : Session) :
    (dispatch frame after).turn s = (s, some (.send frame, onceSent after)) := rfl

/-! ### The invariant -/

/-- An init asks for the planned streams of a client, and for the session to resume. -/
def AsksFor (streams : List ResumeStreamDeclaration) (asked : Option Text)
    (headers : InitHeaders) (body : InitBody) : Prop :=
  body.streams.map ResumeStreamDeclaration.toStreamDeclaration =
      streams.map ResumeStreamDeclaration.toStreamDeclaration ∧ headers.sessionId = asked

/-- What a call on the server does when it goes on: nothing out of the routine, or it takes
up an init. -/
inductive ServerWaits (o : LinkOptions) (streams : List ResumeStreamDeclaration)
    (asked : Option Text) (next : Option Text → Rest) : Prop where
  | routine (h : ∀ a, (next a).Meets routine)
  | init {now : ℤ} {headers : InitHeaders} {body : InitBody}
      (hasks : AsksFor streams asked headers body)
      (hnext : ∀ a, next a =
        .critical (serverFrame o.runtime o.options o.server now (.init headers body)))

/-- The server has the session that was asked for, with the planned streams. -/
structure Serves (streams : List ResumeStreamDeclaration) (asked : Option Text) (s : Session)
    (sessionId : Text) : Prop where
  begun : s.stateValue ≠ .uninitialized
  resumed : ∀ id, asked = some id → sessionId = id
  declared : s.registry.confirmedOrder.map ConfirmedStreamDeclaration.toStreamDeclaration =
    streams.map ResumeStreamDeclaration.toStreamDeclaration

/-- What every run keeps; `asked` is the session that the init asks to resume. -/
structure Consistent (o : LinkOptions) (streams : List ResumeStreamDeclaration)
    (asked : Option Text) (l : Exchange) : Prop where
  planned : l.client.state.registry.plannedStreams = streams
  clientNoted : l.client.state.registry.offsets.Noted
  serverNoted : l.server.state.registry.offsets.Noted
  clientWaits : ∀ next ∈ l.client.waiting, ∀ a, (next a).Meets routine
  serverWaits : ∀ next ∈ l.server.waiting, ServerWaits o streams asked next
  asks : ∀ headers body, .init headers body ∈ l.toServer → AsksFor streams asked headers body
  confirms : ∀ headers body, .initAck headers body ∈ l.toClient →
    l.server.state.sessionIdValue = some headers.sessionId ∧
      l.server.state.registry.confirmedOrder = body.streams
  serves : ∀ sessionId, l.server.state.sessionIdValue = some sessionId →
    Serves streams asked l.server.state sessionId
  agrees : (l.client.state.registry.confirmedOrder = [] ∧
      (∀ id, l.client.state.registry.offsets.states id = none) ∧
      l.client.state.sessionIdValue = asked) ∨
    (l.server.state.sessionIdValue.isSome ∧
      l.client.state.sessionIdValue = l.server.state.sessionIdValue ∧
      l.client.state.registry.confirmedOrder = l.server.state.registry.confirmedOrder)
  unstarted : l.client.state.stateValue = .uninitialized →
    l.server.state.sessionIdValue = none ∧
      (∀ headers body, .init headers body ∉ l.toServer) ∧
      ∀ next ∈ l.server.waiting, ∀ a, (next a).Meets routine

section Step

variable {o : LinkOptions} {streams : List ResumeStreamDeclaration} {asked : Option Text}
  {l : Exchange}

theorem mem_waiting_take {s : Session} {waiting : List (Option Text → Rest)} {p : Rest}
    {next : Option Text → Rest}
    (h : next ∈ (Loop.take ⟨s, waiting⟩ p).1.waiting) :
    next ∈ waiting ∨ ∃ out, (p.turn s).2 = some (out, next) := by
  rcases List.mem_append.mp h with h | h
  · exact .inl h
  · obtain ⟨pair, hpair, rfl⟩ := Option.map_eq_some_iff.mp (Option.mem_toList.mp h)
    exact .inr ⟨pair.1, hpair⟩

/-- **A turn of the client outside the handshake.** -/
theorem Consistent.client_turn (h : Consistent o streams asked l)
    {waiting : List (Option Text → Rest)} (hsub : ∀ next ∈ waiting, next ∈ l.client.waiting)
    {p : Rest} (hturn : RoutineTurn l.client.state (p.turn l.client.state)) :
    Consistent o streams asked (l.byClient (Loop.take ⟨l.client.state, waiting⟩ p)) where
  planned := hturn.stays.planned.trans h.planned
  clientNoted := hturn.noted
  serverNoted := h.serverNoted
  clientWaits next hnext := by
    rcases mem_waiting_take hnext with hold | ⟨out, hout⟩
    · exact h.clientWaits next (hsub next hold)
    · exact hturn.waits out next hout
  serverWaits := h.serverWaits
  asks headers body hmem := by
    rcases List.mem_append.mp hmem with hold | hnew
    · exact h.asks headers body hold
    · exact (hturn.sent hnew).elim
  confirms := h.confirms
  serves := h.serves
  agrees := by
    unfold Exchange.byClient Loop.take
    dsimp only
    rw [hturn.stays.order, hturn.stays.sessionId]
    refine h.agrees.imp_left fun ⟨horder, hnone, hid⟩ => ⟨horder, fun id => ?_, hid⟩
    exact hturn.stays.unregistered id (hnone id)
  unstarted hstate := by
    obtain ⟨hserver, hasks, hwaits⟩ := h.unstarted (hturn.stays.begun hstate)
    refine ⟨hserver, fun headers body hmem => ?_, hwaits⟩
    rcases List.mem_append.mp hmem with hold | hnew
    · exact hasks headers body hold
    · exact hturn.sent hnew

/-- **A turn of the server outside the handshake.** -/
theorem Consistent.server_turn (h : Consistent o streams asked l)
    {waiting : List (Option Text → Rest)} (hsub : ∀ next ∈ waiting, next ∈ l.server.waiting)
    {p : Rest} (hturn : RoutineTurn l.server.state (p.turn l.server.state)) :
    Consistent o streams asked (l.byServer (Loop.take ⟨l.server.state, waiting⟩ p)) where
  planned := h.planned
  clientNoted := h.clientNoted
  serverNoted := hturn.noted
  clientWaits := h.clientWaits
  serverWaits next hnext := by
    rcases mem_waiting_take hnext with hold | ⟨out, hout⟩
    · exact h.serverWaits next (hsub next hold)
    · exact .routine (hturn.waits out next hout)
  asks := h.asks
  confirms headers body hmem := by
    rcases List.mem_append.mp hmem with hold | hnew
    · obtain ⟨hid, horder⟩ := h.confirms headers body hold
      exact ⟨hturn.stays.sessionId.trans hid, hturn.stays.order.trans horder⟩
    · exact (hturn.sent hnew).elim
  serves sessionId hid := by
    have hserves := h.serves sessionId (hturn.stays.sessionId.symm.trans hid)
    refine ⟨fun hstate => hserves.begun (hturn.stays.begun hstate), hserves.resumed, ?_⟩
    exact (congrArg _ hturn.stays.order).trans hserves.declared
  agrees := by
    unfold Exchange.byServer Loop.take
    dsimp only
    rw [hturn.stays.order, hturn.stays.sessionId]
    exact h.agrees
  unstarted hstate := by
    obtain ⟨hserver, hasks, hwaits⟩ := h.unstarted hstate
    refine ⟨hturn.stays.sessionId.trans hserver, hasks, fun next hnext => ?_⟩
    rcases mem_waiting_take hnext with hold | ⟨out, hout⟩
    · exact hwaits next (hsub next hold)
    · exact hturn.waits out next hout

/-- **The client starts.**  From here on it is known which session is asked for. -/
theorem Consistent.start (h : Consistent o streams asked l) (options : StartOptions) :
    ∃ asked', Consistent o streams asked'
      (l.byClient (l.client.take (Typescript.start options))) := by
  by_cases hstate : l.client.state.stateValue = .uninitialized
  · obtain ⟨hserver, hasks, hwaits⟩ := h.unstarted hstate
    have hfresh : l.client.state.registry.confirmedOrder = [] ∧
        ∀ id, l.client.state.registry.offsets.states id = none := by
      rcases h.agrees with ⟨horder, hnone, -⟩ | ⟨hsome, -⟩
      · exact ⟨horder, hnone⟩
      · rw [hserver] at hsome
        cases hsome
    refine ⟨options.resumeFrom.map SessionSnapshot.sessionId, ?_⟩
    have hturn : (Typescript.start options).turn l.client.state =
        ({ l.client.state with
            bufferWindowValue := options.bufferWindowMs
            sessionIdValue := options.resumeFrom.map SessionSnapshot.sessionId
            stateValue := .initializing },
          some (.send (.init
            { authorization := options.authorization
              bufferWindow := some options.bufferWindowMs
              sessionId := options.resumeFrom.map SessionSnapshot.sessionId }
            { version := l.client.state.versionValue
              streams := l.client.state.registry.buildInitStreams options.resumeFrom }),
            onceSent done)) := by
      unfold Typescript.start
      rw [Prog.turn_critical, if_neg (not_not_intro hstate)]
      exact turn_dispatch _ _ _
    unfold Exchange.byClient Loop.take
    rw [hturn]
    refine ⟨h.planned, h.clientNoted, h.serverNoted, fun next hnext => ?_,
      fun next hnext => .routine (hwaits next hnext), fun headers body hmem => ?_, h.confirms,
      fun sessionId hid => ?_, .inl ⟨hfresh.1, hfresh.2, rfl⟩, nofun⟩
    · rcases List.mem_append.mp hnext with hold | hnew
      · exact h.clientWaits next hold
      · rw [List.mem_singleton.mp hnew]
        rintro (_ | _)
        · trivial
        · trivial
    · rcases List.mem_append.mp hmem with hold | hnew
      · exact absurd hold (hasks headers body)
      · cases List.mem_singleton.mp hnew
        refine ⟨?_, rfl⟩
        rw [declarations_buildInitStreams, h.planned]
    · rw [hserver] at hid
      cases hid
  · -- A second start is refused.
    refine ⟨asked, h.client_turn (fun _ hnext => hnext) ?_⟩
    have hturn : (Typescript.start options).turn l.client.state =
        (fail (protocolError (utf16 "Session start may only be called once."))).turn
          l.client.state := by
      unfold Typescript.start
      rw [Prog.turn_critical, if_pos hstate]
    rw [hturn]
    exact routineTurn_meets (meets_fail _) h.clientNoted

/-- A client that confirms the streams of the server's answer. -/
theorem Consistent.acknowledged (h : Consistent o streams asked l) {headers : InitAckHeaders}
    {body : InitAckBody} {registry : StreamRegistry}
    (hid : l.server.state.sessionIdValue = some headers.sessionId)
    (horder : l.server.state.registry.confirmedOrder = body.streams)
    (hconfirm : l.client.state.registry.confirmFromAck body.streams = .ok registry)
    (version : Text) (bufferWindow : ℤ) :
    Consistent o streams asked
      { l with
        client :=
          { l.client with
            state :=
              { l.client.state with
                registry
                sessionIdValue := some headers.sessionId
                bufferWindowValue := bufferWindow
                versionValue := version
                stateValue := .established } } } := by
  have hconfirmed : l.client.state.registry.confirm body.streams = .ok registry := by
    unfold StreamRegistry.confirmFromAck at hconfirm
    split at hconfirm
    · cases hconfirm
    · exact hconfirm
  have hkept := confirm_ok hconfirmed
  refine ⟨hkept.1.trans h.planned, hkept.2.2 h.clientNoted, h.serverNoted, h.clientWaits,
    h.serverWaits, h.asks, h.confirms, h.serves, .inr ⟨?_, hid.symm, ?_⟩, nofun⟩
  · rw [hid]
    rfl
  · exact hkept.2.1.trans horder.symm

theorem Consistent.deliverToClient (h : Consistent o streams asked l) (now : ℤ) :
    Consistent o streams asked (l.step o (.deliverToClient now)) := by
  unfold Exchange.step
  cases hqueue : l.toClient with
  | nil => exact h
  | cons frame rest =>
      dsimp only
      have hrest : Consistent o streams asked { l with toClient := rest } :=
        { h with
          confirms := fun headers body hmem =>
            h.confirms headers body (by rw [hqueue]; exact List.mem_cons_of_mem frame hmem) }
      by_cases hack : ∃ registry headers body, frame = .initAck headers body ∧
          l.client.state.stateValue = .initializing ∧
          l.client.state.registry.confirmFromAck body.streams = .ok registry
      · obtain ⟨registry, headers, body, rfl, hstate, hconfirm⟩ := hack
        obtain ⟨hid, horder⟩ := h.confirms headers body (by rw [hqueue]; exact List.mem_cons_self)
        have hframe : clientFrame o.runtime o.client now (.initAck headers body) l.client.state =
            ({ l.client.state with
                registry
                sessionIdValue := some headers.sessionId
                bufferWindowValue := headers.bufferWindow.getD l.client.state.bufferWindowValue
                versionValue := body.version
                stateValue := .established },
              notify o.client (.initAck headers body) done) := by
          unfold clientFrame
          rw [hstate]
          dsimp only
          unfold handleInitAck
          rw [hconfirm]
        have hacknowledged := hrest.acknowledged hid horder hconfirm body.version
          (headers.bufferWindow.getD l.client.state.bufferWindowValue)
        have hturn := hacknowledged.client_turn (fun _ hnext => hnext)
          (routineTurn_meets (meets_notify o.client (.initAck headers body) meets_done)
            hacknowledged.clientNoted)
        unfold clientReceive Loop.take
        rw [Prog.turn_critical, hframe]
        exact hturn
      · refine hrest.client_turn (fun _ hnext => hnext) ?_
        unfold clientReceive
        rw [Prog.turn_critical]
        refine routineTurn_holds (holds_clientFrame h.clientNoted o.runtime o.client now ?_)
        intro hstate headers body registry hframe hconfirm
        exact hack ⟨registry, headers, body, hframe, hstate, hconfirm⟩

/-- The server acknowledges the init. -/
theorem Consistent.server_acknowledges (h : Consistent o streams asked l)
    {headers : InitHeaders} {body : InitBody} {s' : Session} {ackHeaders : InitAckHeaders}
    {ackBody : InitAckBody} {turn : Session → Session × Rest} {after : Rest}
    {waiting : List (Option Text → Rest)} (hsub : ∀ next ∈ waiting, next ∈ l.server.waiting)
    (hasks : AsksFor streams asked headers body)
    (hstarted : l.client.state.stateValue ≠ .uninitialized)
    (hnone : l.server.state.sessionIdValue = none)
    (hack : Acknowledges headers body l.server.state s' ackHeaders ackBody)
    (hafter : after.Meets routine)
    (hturn : turn l.server.state = (s', dispatch (.initAck ackHeaders ackBody) after)) :
    Consistent o streams asked
      (l.byServer (Loop.take ⟨l.server.state, waiting⟩ (.critical turn))) := by
  obtain ⟨hplanned, horder, hnoted⟩ := confirm_ok hack.confirmed
  have htake : Loop.take ⟨l.server.state, waiting⟩ (.critical turn) =
      (⟨s', waiting ++ [onceSent after]⟩,
        some (.send (.initAck ackHeaders ackBody))) := by
    unfold Loop.take
    rw [Prog.turn_critical, hturn, turn_dispatch]
    rfl
  unfold Exchange.byServer
  rw [htake]
  refine ⟨h.planned, h.clientNoted, hnoted h.serverNoted, h.clientWaits, fun next hnext => ?_,
    h.asks, fun headers' body' hmem => ?_, fun sessionId hid => ?_, .inl ?_,
    fun hstate => absurd hstate hstarted⟩
  · rcases List.mem_append.mp hnext with hold | hnew
    · exact h.serverWaits next (hsub next hold)
    · rw [List.mem_singleton.mp hnew]
      refine .routine ?_
      rintro (_ | _)
      · trivial
      · exact hafter
  · rcases List.mem_append.mp hmem with hold | hnew
    · -- Before this turn the server had no session, so nothing was acknowledged.
      have hid := (h.confirms headers' body' hold).1
      rw [hnone] at hid
      cases hid
    · cases List.mem_singleton.mp hnew
      exact ⟨hack.sessionId, horder⟩
  · obtain rfl : ackHeaders.sessionId = sessionId := Option.some.inj (hack.sessionId.symm.trans hid)
    refine ⟨fun hstate => ?_, fun id hasked => hack.resumed id (hasks.2.trans hasked), ?_⟩
    · rw [hack.begun] at hstate
      cases hstate
    · show s'.registry.confirmedOrder.map _ = _
      rw [horder, hack.declared, hasks.1]
  · rcases h.agrees with hagrees | ⟨hsome, -⟩
    · exact hagrees
    · rw [hnone] at hsome
      cases hsome

/-- The server takes up an init. -/
theorem Consistent.server_init (h : Consistent o streams asked l) (now : ℤ)
    {headers : InitHeaders} {body : InitBody} (hasks : AsksFor streams asked headers body)
    {waiting : List (Option Text → Rest)} (hsub : ∀ next ∈ waiting, next ∈ l.server.waiting)
    (hstarted : l.client.state.stateValue ≠ .uninitialized) :
    Consistent o streams asked
      (l.byServer (Loop.take ⟨l.server.state, waiting⟩
        (.critical (serverFrame o.runtime o.options o.server now (.init headers body))))) := by
  by_cases hfresh : l.server.state.stateValue = .uninitialized
  · have hframe : serverFrame o.runtime o.options o.server now (.init headers body)
        l.server.state = handleInit o.options o.server now headers body l.server.state := by
      unfold serverFrame
      rw [hfresh]
    have hnone : l.server.state.sessionIdValue = none := by
      rw [Option.eq_none_iff_forall_ne_some]
      exact fun sessionId hid => (h.serves sessionId hid).begun hfresh
    rcases handleInit_cases o.options o.server now headers body h.serverNoted with
      hroutine | ⟨s', ackHeaders, ackBody, hack, heq⟩
    · refine h.server_turn hsub ?_
      rw [Prog.turn_critical, hframe]
      exact routineTurn_holds hroutine
    · refine h.server_acknowledges hsub hasks hstarted hnone hack ?_ (hframe.trans heq)
      exact Prog.meets_critical fun s hs =>
        ⟨hs, ⟨rfl, rfl, rfl, nofun, fun _ => id⟩, meets_notify o.server _ meets_done⟩
  · refine h.server_turn hsub ?_
    rw [Prog.turn_critical]
    exact routineTurn_holds (holds_serverFrame h.serverNoted o.runtime o.options o.server now
      fun hstate => absurd hstate hfresh)

theorem checkTimeouts_turn (options : ServerSessionOptions) (now : ℤ) (next : Rest)
    (s : Session) :
    (checkTimeouts options now next).turn s =
        (failWithClose .authExpired (utf16 "Authentication challenge timed out.")).turn s ∨
      (checkTimeouts options now next).turn s = next.turn s := by
  unfold checkTimeouts
  rw [Prog.turn_critical]
  split
  · split
    · exact .inl rfl
    · exact .inr rfl
  · exact .inr rfl

/-- A frame reaches the server: a call that starts with the timeouts. -/
theorem Consistent.deliverToServer (h : Consistent o streams asked l) (now : ℤ) :
    Consistent o streams asked (l.step o (.deliverToServer now)) := by
  unfold Exchange.step
  cases hqueue : l.toServer with
  | nil => exact h
  | cons frame rest =>
      dsimp only
      have hrest : Consistent o streams asked { l with toServer := rest } :=
        { h with
          asks := fun headers body hmem =>
            h.asks headers body (by rw [hqueue]; exact List.mem_cons_of_mem frame hmem)
          unstarted := fun hstate => by
            obtain ⟨hserver, hasks, hwaits⟩ := h.unstarted hstate
            rw [hqueue] at hasks
            exact ⟨hserver, fun headers body hmem =>
              hasks headers body (List.mem_cons_of_mem frame hmem), hwaits⟩ }
      by_cases hinit : ∃ headers body, frame = .init headers body
      · obtain ⟨headers, body, rfl⟩ := hinit
        have hmem : .init headers body ∈ l.toServer := by
          rw [hqueue]
          exact List.mem_cons_self
        rcases checkTimeouts_turn o.options now
            (.call .turn fun _ => .critical
              (serverFrame o.runtime o.options o.server now (.init headers body)))
            l.server.state with hturn | hturn
        · refine hrest.server_turn (fun _ hnext => hnext) ?_
          unfold serverReceive
          rw [hturn]
          exact routineTurn_meets (meets_failWithClose _ _) h.serverNoted
        · unfold Exchange.byServer Loop.take serverReceive
          rw [hturn]
          show Consistent o streams asked
            { l with
              toServer := rest
              server :=
                { l.server with
                  waiting := l.server.waiting ++ [fun _ => .critical
                    (serverFrame o.runtime o.options o.server now (.init headers body))] }
              toClient := l.toClient ++ [] }
          rw [List.append_nil]
          refine
            { hrest with
              serverWaits := fun next hnext => ?_
              unstarted := fun hstate => absurd hmem ((h.unstarted hstate).2.1 headers body) }
          rcases List.mem_append.mp hnext with hold | hnew
          · exact h.serverWaits next hold
          · rw [List.mem_singleton.mp hnew]
            exact .init (h.asks headers body hmem) fun _ => rfl
      · refine hrest.server_turn (fun _ hnext => hnext) (routineTurn_meets ?_ h.serverNoted)
        refine meets_checkTimeouts o.options now ⟨trivial, fun _ _ => ?_⟩
        exact Prog.meets_critical fun s hs => holds_serverFrame hs o.runtime o.options o.server now
          fun _ headers body heq => hinit ⟨headers, body, heq⟩

theorem Consistent.serverAnswered (h : Consistent o streams asked l) (i : ℕ)
    (answer : Option Text) :
    Consistent o streams asked (l.step o (.serverAnswered i answer)) := by
  show Consistent o streams asked (l.byServer (l.server.answer i answer))
  cases hnext : l.server.waiting[i]? with
  | none =>
      rw [Loop.answer_none hnext]
      show Consistent o streams asked { l with toClient := l.toClient ++ [] }
      rw [List.append_nil]
      exact h
  | some next =>
      have hmem : next ∈ l.server.waiting := List.mem_of_getElem? hnext
      have hsub : ∀ next' ∈ l.server.waiting.eraseIdx i, next' ∈ l.server.waiting :=
        fun next' => List.mem_of_mem_eraseIdx
      rw [Loop.answer_some hnext]
      cases h.serverWaits next hmem with
      | routine hmeets => exact h.server_turn hsub (routineTurn_meets (hmeets answer) h.serverNoted)
      | init hasks heq =>
          by_cases hstate : l.client.state.stateValue = .uninitialized
          · have hmeets := (h.unstarted hstate).2.2 next hmem answer
            exact h.server_turn hsub (routineTurn_meets hmeets h.serverNoted)
          · rw [heq answer]
            exact h.server_init _ hasks hsub hstate

theorem Consistent.clientAnswered (h : Consistent o streams asked l) (i : ℕ)
    (answer : Option Text) :
    Consistent o streams asked (l.step o (.clientAnswered i answer)) := by
  show Consistent o streams asked (l.byClient (l.client.answer i answer))
  cases hnext : l.client.waiting[i]? with
  | none =>
      rw [Loop.answer_none hnext]
      show Consistent o streams asked { l with toServer := l.toServer ++ [] }
      rw [List.append_nil]
      exact h
  | some next =>
      have hmeets := h.clientWaits next (List.mem_of_getElem? hnext) answer
      rw [Loop.answer_some hnext]
      exact h.client_turn (fun _ => List.mem_of_mem_eraseIdx)
        (routineTurn_meets hmeets h.clientNoted)

/-- **One step.** -/
theorem Consistent.step (h : Consistent o streams asked l) (step : Step) :
    ∃ asked', Consistent o streams asked' (l.step o step) := by
  cases step with
  | clientCalls call =>
      cases call with
      | start options => exact h.start options
      | sendMedia streamId body timestamp =>
          exact ⟨asked, h.client_turn (fun _ hnext => hnext)
            (routineTurn_meets (meets_sendMedia _ _ _ _) h.clientNoted)⟩
      | sendEvent event body streamId =>
          exact ⟨asked, h.client_turn (fun _ hnext => hnext)
            (routineTurn_meets (meets_sendEvent _ _ _) h.clientNoted)⟩
      | sendPing now =>
          exact ⟨asked, h.client_turn (fun _ hnext => hnext)
            (routineTurn_meets (meets_sendPing _) h.clientNoted)⟩
      | close code reason =>
          exact ⟨asked, h.client_turn (fun _ hnext => hnext)
            (routineTurn_meets (meets_close _ _ meets_done) h.clientNoted)⟩
  | serverCalls call =>
      have hmeets : (call.prog o).Meets routine := by
        cases call with
        | sendMedia streamId body timestamp => exact meets_sendMedia _ _ _ _
        | sendEvent event body streamId => exact meets_sendEvent _ _ _
        | sendPing now => exact meets_sendPing _
        | close code reason => exact meets_close _ _ meets_done
        | requestAuthRefresh now => exact meets_requestAuthRefresh _ _
        | checkTimeouts now => exact meets_checkTimeouts _ _ meets_done
      exact ⟨asked, h.server_turn (fun _ hnext => hnext)
        (routineTurn_meets hmeets h.serverNoted)⟩
  | clientAnswered i answer => exact ⟨asked, h.clientAnswered i answer⟩
  | serverAnswered i answer => exact ⟨asked, h.serverAnswered i answer⟩
  | deliverToServer now => exact ⟨asked, h.deliverToServer now⟩
  | deliverToClient now => exact ⟨asked, h.deliverToClient now⟩

end Step

/-- The streams of a client that could be created are valid. -/
theorem createClient_ok {streams : List ResumeStreamDeclaration} {version : Text}
    {client : Session} (h : Session.createClient streams version = .ok client) :
    validateStreamDeclarations (streams.map ResumeStreamDeclaration.toStreamDeclaration)
        maxStreamCount = .ok () ∧
      client =
        { registry := { localRole := .client, plannedStreams := streams }
          versionValue := version } := by
  unfold Session.createClient at h
  obtain ⟨_, hvalid, h⟩ := exists_of_bind_ok h
  cases h
  exact ⟨hvalid, rfl⟩

/-- **Every run.** -/
theorem consistent_run (o : LinkOptions) {streams : List ResumeStreamDeclaration}
    {version : Text} {client : Session}
    (hclient : Session.createClient streams version = .ok client) (steps : List Step) :
    ∃ asked, Consistent o streams asked (Exchange.run o (.opened client) steps) := by
  induction steps using List.reverseRecOn with
  | nil =>
      obtain ⟨-, rfl⟩ := createClient_ok hclient
      exact ⟨none, rfl, noted_empty, noted_empty, nofun, nofun, nofun, nofun, nofun,
        .inl ⟨rfl, fun _ => rfl, rfl⟩, fun _ => ⟨rfl, nofun, nofun⟩⟩
  | append_singleton steps step ih =>
      obtain ⟨asked, h⟩ := ih
      unfold Exchange.run
      rw [List.foldl_append]
      exact h.step step

end CulpeoStream.Typescript
