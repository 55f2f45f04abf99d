import CulpeoStream.Lib.Checks
import CulpeoStream.Lib.Tenancy
import CulpeoStream.Dotnet.Connection
import CulpeoStream.Dotnet.Media

/-!
# Connections of one server

Any number of connections whose calls interleave.  What a call does to the sessions as a
whole is one of a few things (`Effect`): the connection takes up a new session or one that
is there, gives up the one it holds with or without a stamp on it, or stamps a session
that it does not hold.  So a server with its connections is a `Tenancy`: the connections
in state Established hold sessions, and a session is idle when it has a `DisconnectedAt`
(`step_simulates`).
-/

namespace CulpeoStream.Dotnet

open Checks Message Utf16 Tenancy

inductive Call where
  | receive (frame : CulpeoMessage)
  | sendMedia (streamId : Text) (payload : Bytes) (timestamp : Int64)
  | issueAuthRefresh
  | checkTimeouts
  | disconnect

/-- The connection and its server after a call. -/
def Endpoint.perform (env : Environment) (s : Surroundings) (e : Endpoint) : Call → Endpoint
  | .receive frame => (e.receive env s frame).1
  | .sendMedia streamId payload timestamp =>
      (e.sendMedia (s.clock 0) streamId payload timestamp).1
  | .issueAuthRefresh => (e.issueAuthRefresh env s).1
  | .checkTimeouts => (e.checkTimeouts s).1
  | .disconnect => e.disconnect s

/-- A server and the connections that were made by it. -/
structure System where
  server : CulpeoSessionServer := {}
  connections : List CulpeoConnection := []

inductive Action where
  | createConnection
  | call (i : ℕ) (s : Surroundings) (call : Call)

namespace System

def step (env : Environment) (sys : System) : Action → System
  | .createConnection => { sys with connections := sys.connections ++ [{}] }
  | .call i s call =>
      match sys.connections[i]? with
      | none => sys
      | some connection =>
          let e := Endpoint.perform env s ⟨sys.server, connection⟩ call
          ⟨e.server, sys.connections.set i e.connection⟩

def run (env : Environment) (sys : System) (actions : List Action) : System :=
  actions.foldl (step env) sys

end System

/-! ### Sessions from the outside -/

/-- The session that an established connection holds. -/
def CulpeoConnection.held (c : CulpeoConnection) : Option ℕ :=
  if c.state = .established then c.snapshot else none

/-- A session with its id and its stamp. -/
def SessionSnapshot.thing (snapshot : SessionSnapshot) : Thing Text :=
  ⟨snapshot.sessionId, snapshot.disconnectedAt.isSome⟩

def CulpeoSessionServer.things (server : CulpeoSessionServer) : List (Thing Text) :=
  server.snapshots.map SessionSnapshot.thing

/-- What decides about the effect of a call, before it is made: the session that it resumes,
the id that a new session gets, whether an authentication challenge has timed out, and the
session that it stamps although its connection is not established. -/
structure Outlook where
  resumed : Option ℕ
  named : Option Text
  timesOut : Bool
  stamped : Option ℕ

/-- **What a call can do to the sessions.** -/
inductive Effect (o : Outlook) (e e' : Endpoint) : Prop where
  | rests (hheld : e'.connection.held = e.connection.held)
      (hthings : e'.server.things = e.server.things)
  | begins (name : Text) (hnamed : o.named = some name) (hbefore : e.connection.held = none)
      (hafter : e'.connection.held = some e.server.things.length)
      (hthings : e'.server.things = e.server.things ++ [⟨name, false⟩])
  | resumes (ref : ℕ) (hresumed : o.resumed = some ref) (hbefore : e.connection.held = none)
      (hafter : e'.connection.held = some ref) (hknown : ref < e.server.things.length)
      (hthings : e'.server.things = mark false e.server.things ref)
  | leaves (ref : ℕ) (hbefore : e.connection.held = some ref)
      (hafter : e'.connection.held = none)
      (hthings : e'.server.things = mark true e.server.things ref)
  | drops (htimesOut : o.timesOut = true) (hafter : e'.connection.held = none)
      (hthings : e'.server.things = e.server.things)
  | marks (ref : ℕ) (hstamped : o.stamped = some ref) (hbefore : e.connection.held = none)
      (hafter : e'.connection.held = none)
      (hthings : e'.server.things = mark true e.server.things ref)

/-- What holds of every connection: it has a session only from the handshake on, and then
one that is there; while it is established it has one. -/
structure Endpoint.Sound (e : Endpoint) : Prop where
  none : e.connection.state = .uninitialized ∨ e.connection.state = .initializing →
    e.connection.snapshot = none
  known : ∀ ref, e.connection.snapshot = some ref → ref < e.server.snapshots.length
  some : e.connection.state = .established → e.connection.snapshot ≠ Option.none

/-- A connection that is neither closed nor established has no session. -/
theorem Endpoint.Sound.none_of_open {e : Endpoint} (h : e.Sound)
    (hopen : e.connection.state ≠ .closed) (hstate : e.connection.state ≠ .established) :
    e.connection.snapshot = Option.none := by
  cases hcases : e.connection.state with
  | uninitialized => exact h.none (.inl hcases)
  | initializing => exact h.none (.inr hcases)
  | established => exact absurd hcases hstate
  | closed => exact absurd hcases hopen

/-! ### Parts of calls -/

section Parts

variable {o : Outlook} {e e' e'' : Endpoint}

/-- A first part that is not seen from the outside. -/
theorem Effect.after (h : Effect o e' e'')
    (hconnection : e'.connection.held = e.connection.held)
    (hthings : e'.server.things = e.server.things) : Effect o e e'' := by
  cases h with
  | rests hheld hsame => exact .rests (hheld.trans hconnection) (hsame.trans hthings)
  | begins name hnamed hbefore hafter hnew =>
      rw [hthings] at hafter hnew
      exact .begins name hnamed (hconnection.symm.trans hbefore) hafter hnew
  | resumes ref hresumed hbefore hafter hknown hnew =>
      rw [hthings] at hknown hnew
      exact .resumes ref hresumed (hconnection.symm.trans hbefore) hafter hknown hnew
  | leaves ref hbefore hafter hnew =>
      rw [hthings] at hnew
      exact .leaves ref (hconnection.symm.trans hbefore) hafter hnew
  | drops htimesOut hafter hsame => exact .drops htimesOut hafter (hsame.trans hthings)
  | marks ref hstamped hbefore hafter hnew =>
      rw [hthings] at hnew
      exact .marks ref hstamped (hconnection.symm.trans hbefore) hafter hnew

theorem things_modify (snapshots : List SessionSnapshot) (ref : ℕ)
    {f : SessionSnapshot → SessionSnapshot} (hf : ∀ s, (f s).thing = s.thing) :
    (snapshots.modify ref f).map SessionSnapshot.thing = snapshots.map SessionSnapshot.thing := by
  refine List.ext_getElem? fun k => ?_
  rw [List.getElem?_map, List.getElem?_map, List.getElem?_modify]
  show (Option.map _ snapshots[k]?).map _ = _
  rw [Option.map_map]
  refine congrArg (Option.map · snapshots[k]?) (funext fun s => ?_)
  show SessionSnapshot.thing (if ref = k then f s else s) = s.thing
  split
  · exact hf s
  · rfl

theorem things_modifySnapshot (e : Endpoint) {f : SessionSnapshot → SessionSnapshot}
    (hf : ∀ s, (f s).thing = s.thing) : (e.modifySnapshot f).server.things = e.server.things := by
  unfold Endpoint.modifySnapshot
  split
  · rfl
  · exact things_modify e.server.snapshots _ hf

theorem thing_putStream (stream : StreamState) (s : SessionSnapshot) :
    (s.putStream stream).thing = s.thing := rfl

/-- A change to the streams of a session is not seen. -/
theorem effect_putStream (e : Endpoint) (stream : StreamState) :
    Effect o e (e.modifySnapshot (·.putStream stream)) :=
  .rests (by rw [connection_modifySnapshot]) (things_modifySnapshot e (thing_putStream stream))

theorem snapshots_saveSession (server : CulpeoSessionServer) (sessionId : Text) (ref : ℕ) :
    (server.saveSession sessionId ref).snapshots = server.snapshots := by
  unfold CulpeoSessionServer.saveSession
  split
  · rfl
  · rfl

/-- A stamp on the session of a connection. -/
theorem things_stampDisconnected (now : Ticks) {ref : ℕ} (hsnapshot : e.connection.snapshot =
    some ref) (hknown : ref < e.server.snapshots.length) :
    (e.stampDisconnected now).server.things = mark true e.server.things ref := by
  have hfound : e.snapshot = some e.server.snapshots[ref] := by
    unfold Endpoint.snapshot
    rw [hsnapshot]
    exact List.getElem?_eq_getElem hknown
  unfold Endpoint.stampDisconnected
  rw [hsnapshot, hfound]
  show CulpeoSessionServer.things (CulpeoSessionServer.saveSession _ _ _) = _
  unfold CulpeoSessionServer.things
  rw [snapshots_saveSession]
  unfold Endpoint.modifySnapshot mark
  rw [hsnapshot]
  dsimp only
  refine List.ext_getElem? fun k => ?_
  rw [List.getElem?_map, List.getElem?_modify, List.getElem?_modify, List.getElem?_map]
  show (Option.map _ _).map _ = Option.map _ (Option.map _ _)
  rw [Option.map_map, Option.map_map]
  refine congrArg (Option.map · e.server.snapshots[k]?) (funext fun s => ?_)
  show SessionSnapshot.thing (if ref = k then _ else s) = if ref = k then _ else s.thing
  split
  · rfl
  · rfl

theorem connection_stampDisconnected (e : Endpoint) (now : Ticks) :
    (e.stampDisconnected now).connection = e.connection := by
  unfold Endpoint.stampDisconnected
  split
  · exact connection_modifySnapshot e _
  · rfl

theorem stampDisconnected_none (now : Ticks) (h : e.connection.snapshot = none) :
    e.stampDisconnected now = e := by
  unfold Endpoint.stampDisconnected
  rw [h]

/-- A connection that stamps its session and is closed then. -/
theorem effect_stamped
    (hstamped : e.connection.state ≠ .established → e.connection.snapshot = o.stamped ∨
      e.connection.snapshot = none) (hafter : e'.connection.held = none)
    (hnone : e.connection.snapshot = none → e'.server.things = e.server.things)
    (hsome : ∀ ref, e.connection.snapshot = some ref →
      e'.server.things = mark true e.server.things ref) : Effect o e e' := by
  cases hsnapshot : e.connection.snapshot with
  | none =>
      refine .rests ?_ (hnone hsnapshot)
      rw [hafter, CulpeoConnection.held, hsnapshot, ite_self]
  | some ref =>
      have hthings := hsome ref hsnapshot
      by_cases hstate : e.connection.state = .established
      · exact .leaves ref (by rw [CulpeoConnection.held, if_pos hstate, hsnapshot]) hafter hthings
      · refine .marks ref ?_ (by rw [CulpeoConnection.held, if_neg hstate]) hafter hthings
        rcases hstamped hstate with hsame | hnone
        · rw [← hsame, hsnapshot]
        · rw [hsnapshot] at hnone
          cases hnone

/-- **Closing a connection**: it gives up its session with a stamp on it. -/
theorem effect_close (h : e.Sound) (hopen : e.connection.state ≠ .closed) (now : Ticks) :
    Effect o e ((e.setState .closed).stampDisconnected now) := by
  refine effect_stamped (fun hstate => .inr (h.none_of_open hopen hstate)) ?_
    (fun hnone => ?_) fun ref hsome => ?_
  · rw [connection_stampDisconnected]
    rfl
  · rw [stampDisconnected_none (e := e.setState .closed) now hnone]
    rfl
  · exact things_stampDisconnected (e := e.setState .closed) now hsome (h.known ref hsome)

theorem effect_disconnect (h : e.Sound)
    (ho : e.connection.state ≠ .established → o.stamped = e.connection.snapshot)
    (s : Surroundings) : Effect o e (e.disconnect s) := by
  refine effect_stamped (fun hstate => .inl (ho hstate).symm) rfl (fun hnone => ?_)
    fun ref hsome => ?_
  · unfold Endpoint.disconnect
    rw [stampDisconnected_none _ hnone]
    rfl
  · exact things_stampDisconnected _ hsome (h.known ref hsome)

theorem effect_closeOnViolation (h : e.Sound) (hopen : e.connection.state ≠ .closed)
    (now : Ticks) (ex : Exn) : Effect o e (e.closeOnViolation now ex).1 := by
  cases ex with
  | protocolValidation code reason => exact effect_close h hopen now
  | _ => exact .rests rfl rfl

theorem sound_putStream (h : e.Sound) (stream : StreamState) :
    (e.modifySnapshot (·.putStream stream)).Sound := by
  have hconnection := connection_modifySnapshot e (·.putStream stream)
  have hlength : (e.modifySnapshot (·.putStream stream)).server.snapshots.length =
      e.server.snapshots.length := by
    unfold Endpoint.modifySnapshot
    split
    · rfl
    · exact List.length_modify _ _ _
  refine ⟨?_, ?_, ?_⟩
  · rw [hconnection]
    exact h.none
  · rw [hconnection, hlength]
    exact h.known
  · rw [hconnection]
    exact h.some

/-- A violation that is found after a stream has changed. -/
theorem effect_putStream_close (h : e.Sound) (hopen : e.connection.state ≠ .closed)
    (stream : StreamState) (now : Ticks) (ex : Exn) :
    Effect o e ((e.modifySnapshot (·.putStream stream)).closeOnViolation now ex).1 :=
  (effect_closeOnViolation (sound_putStream h stream)
    (by rw [connection_modifySnapshot]; exact hopen) now ex).after
    (congrArg CulpeoConnection.held (connection_modifySnapshot e _))
    (things_modifySnapshot e (thing_putStream stream))

theorem effect_handleIncomingMedia (h : e.Sound) (hopen : e.connection.state ≠ .closed)
    (rt : Runtime) (now : Ticks) (frame : CulpeoMessage) :
    Effect o e (e.handleIncomingMedia rt now frame).1 := by
  unfold Endpoint.handleIncomingMedia
  split
  · exact effect_closeOnViolation h hopen now _
  · dsimp only
    split
    · exact effect_putStream_close h hopen _ now _
    · exact effect_putStream e _

theorem effect_sendMedia (e : Endpoint) (now : Ticks) (streamId : Text) (payload : Bytes)
    (timestamp : Int64) : Effect o e (e.sendMedia now streamId payload timestamp).1 := by
  unfold Endpoint.sendMedia
  split
  · exact .rests rfl rfl
  · split
    · exact .rests rfl rfl
    · dsimp only
      split
      · exact effect_putStream e _
      · exact effect_putStream e _

theorem effect_issueAuthRefresh (env : Environment) (s : Surroundings) (e : Endpoint) :
    Effect o e (e.issueAuthRefresh env s).1 := by
  rcases issueAuthRefresh_cases env s e with ⟨ex, hfailed⟩ | ⟨nonce, -, -, hissued⟩
  · rw [hfailed]
    exact .rests rfl rfl
  · rw [hissued]
    exact .rests rfl rfl

theorem effect_timeout {now : Ticks} {result : CulpeoProcessResult}
    (ho : o.timesOut = (e.checkPendingAuthTimeout now).isSome)
    (h : e.checkPendingAuthTimeout now = some (e', result)) : Effect o e e' := by
  rw [h] at ho
  unfold Endpoint.checkPendingAuthTimeout at h
  split at h
  · split at h
    · cases h
    · cases h
      exact .drops ho rfl rfl
  · cases h

theorem effect_checkTimeouts (s : Surroundings)
    (ho : o.timesOut = (e.checkPendingAuthTimeout (s.clock 0)).isSome) :
    Effect o e (e.checkTimeouts s).1 := by
  unfold Endpoint.checkTimeouts
  cases htimeout : e.checkPendingAuthTimeout (s.clock 0) with
  | none => exact .rests rfl rfl
  | some timedOut => exact effect_timeout ho htimeout

/-! ### Frames -/

/-- A handler fails and changes nothing, or it returns. -/
def Handled (o : Outlook) (e : Endpoint) (handled : Endpoint × Except Exn CulpeoProcessResult) :
    Prop :=
  (∃ ex, handled = (e, .error ex)) ∨ (∃ result, handled.2 = .ok result) ∧ Effect o e handled.1

theorem handled_handlePing (env : Environment) (e : Endpoint) (now : Ticks)
    (frame : CulpeoMessage) : Handled o e (e.handlePing env now frame) := by
  rcases handlePing_cases env e now frame with hfailed | ⟨pings, pongs, -, hhandled⟩
  · exact .inl hfailed
  · rw [hhandled]
    exact .inr ⟨⟨_, rfl⟩, .rests rfl rfl⟩

theorem handled_handleAuthResponse (env : Environment) (e : Endpoint) (frame : CulpeoMessage) :
    Handled o e (e.handleAuthResponse env frame) := by
  unfold Endpoint.handleAuthResponse
  split
  · exact .inl ⟨_, rfl⟩
  · split
    · exact .inl ⟨_, rfl⟩
    · split
      · exact .inl ⟨_, rfl⟩
      · split
        · exact .inl ⟨_, rfl⟩
        · exact .inr ⟨⟨_, rfl⟩, .rests rfl rfl⟩

theorem handled_controlFrame (h : e.Sound) (hopen : e.connection.state ≠ .closed)
    (env : Environment) (now : Ticks) (frame : CulpeoMessage) :
    Handled o e (e.controlFrame env now frame) := by
  unfold Endpoint.controlFrame
  split
  · exact handled_handlePing env e now frame
  · split
    · exact handled_handleAuthResponse env e frame
    · split
      · exact .inr ⟨⟨_, rfl⟩, effect_close h hopen now⟩
      · split
        · exact .inr ⟨⟨_, rfl⟩, effect_close h hopen now⟩
        · exact .inr ⟨⟨_, rfl⟩, .rests rfl rfl⟩

theorem effect_handleEstablishedFrame (h : e.Sound) (hopen : e.connection.state ≠ .closed)
    (env : Environment) (now : Ticks) (frame : CulpeoMessage) :
    Effect o e (e.handleEstablishedFrame env now frame).1 := by
  unfold Endpoint.handleEstablishedFrame
  split
  · exact effect_handleIncomingMedia h hopen env.toRuntime now frame
  · dsimp only
    rcases handled_controlFrame h hopen env now frame with ⟨ex, hex⟩ | ⟨⟨result, hresult⟩, heffect⟩
    · rw [hex]
      dsimp only
      split
      · rename_i hok
        cases hok
      · exact effect_closeOnViolation h hopen now _
      · exact effect_closeOnViolation h hopen now _
    · rw [hresult]
      exact heffect

/-! ### The handshake -/

theorem thing_resumeStreams (rt : Runtime) (clock : ℕ → Ticks) (window : Ticks) :
    ∀ (declarations : List StreamInitDeclaration) (k : ℕ) (matched : List Text)
      (snapshot : SessionSnapshot),
      (resumeStreams rt clock window k matched snapshot declarations).1.thing =
        snapshot.thing := by
  intro declarations
  induction declarations with
  | nil =>
      intro k matched snapshot
      rfl
  | cons declaration rest ih =>
      intro k matched snapshot
      unfold resumeStreams
      split
      · rfl
      · split
        · rfl
        · exact ih _ _ _

theorem things_putSnapshot (server : CulpeoSessionServer) (ref : ℕ) (new : SessionSnapshot) :
    (server.putSnapshot ref new).things = server.things.set ref new.thing :=
  List.map_set

theorem getElem?_things {server : CulpeoSessionServer} {ref : ℕ} {snapshot : SessionSnapshot}
    (h : server.snapshots[ref]? = some snapshot) : server.things[ref]? = some snapshot.thing := by
  unfold CulpeoSessionServer.things
  rw [List.getElem?_map, h, Option.map_some]

theorem getSession_some {server : CulpeoSessionServer} {sessionId : Text} {ref : ℕ}
    {snapshot : SessionSnapshot} (h : server.getSession sessionId = some (ref, snapshot)) :
    server.sessions.lookup sessionId = some ref ∧ server.snapshots[ref]? = some snapshot := by
  unfold CulpeoSessionServer.getSession at h
  obtain ⟨ref', hlookup, h⟩ := Option.bind_eq_some_iff.mp h
  obtain ⟨snapshot', hsnapshot, h⟩ := Option.map_eq_some_iff.mp h
  cases h
  exact ⟨hlookup, hsnapshot⟩

/-- **What a resumption does**: nothing that is seen, or the session it gives has no stamp
any more. -/
theorem things_resumeSession (rt : Runtime) (s : Surroundings) (server : CulpeoSessionServer)
    (sessionId : Text) (init : InitRequest) (bufferWindow : Int32) :
    (∃ ex, (resumeSession rt s server sessionId init bufferWindow).2 = .error ex) ∧
        (resumeSession rt s server sessionId init bufferWindow).1.things = server.things ∨
      ∃ ref snapshot,
        (resumeSession rt s server sessionId init bufferWindow).2 = .ok (ref, snapshot) ∧
        ref < server.things.length ∧
        (resumeSession rt s server sessionId init bufferWindow).1.things =
          mark false server.things ref := by
  unfold resumeSession
  split
  · exact .inl ⟨⟨_, rfl⟩, rfl⟩
  · split
    · exact .inl ⟨⟨_, rfl⟩, rfl⟩
    · rename_i ref existing hsession
      have hthing := getElem?_things (getSession_some hsession).2
      obtain ⟨hlt, hget⟩ := List.getElem?_eq_some_iff.mp hthing
      split
      · exact .inl ⟨⟨_, rfl⟩, rfl⟩
      · have hsame := thing_resumeStreams rt s.clock (milliseconds bufferWindow) init.streams 2 []
          existing
        dsimp only
        split
        · refine .inl ⟨⟨_, rfl⟩, ?_⟩
          rw [things_putSnapshot, hsame, ← hget, List.set_getElem_self]
        · refine .inr ⟨ref, _, rfl, hlt, ?_⟩
          rw [things_putSnapshot, ← set_eq_mark hthing]
          refine congrArg (server.things.set ref) ?_
          show Thing.mk _ _ = Thing.mk existing.thing.name false
          rw [← hsame]
          rfl

/-- The session that an init opens, when it is accepted. -/
def Endpoint.openedBy (env : Environment) (s : Surroundings) (e : Endpoint)
    (frame : CulpeoMessage) : Option (ℕ × SessionSnapshot) :=
  if frame.kind ≠ .control ∨ frame.event ≠ some (utf16 "culpeo.init") then none
  else if isNullOrWhiteSpace frame.authorization then none
  else
    match parseInitBody env frame.body with
    | .error _ => none
    | .ok init =>
        if !e.server.options.supportedVersions.contains init.version then none
        else (openSession env s e.server frame.sessionId init
          (negotiateBufferWindow e.server.options frame.bufferWindow)).2.toOption

theorem createNewSession_thing {rt : Runtime} {s : Surroundings} {options : CulpeoSessionOptions}
    {init : InitRequest} {bufferWindow : Int32} {snapshot : SessionSnapshot}
    (h : createNewSession rt s options init bufferWindow = .ok snapshot) :
    snapshot.thing = ⟨snapshot.sessionId, false⟩ := by
  unfold createNewSession at h
  obtain ⟨_, -, h⟩ := exists_of_bind_ok h
  obtain ⟨sessionId, -, h⟩ := exists_of_bind_ok h
  obtain ⟨streams, -, h⟩ := exists_of_bind_ok h
  cases h
  rfl

/-- **What an init that was read does to the sessions**: nothing that is seen, or it makes
one, or it resumes one. -/
theorem things_openSession (env : Environment) (s : Surroundings) (server : CulpeoSessionServer)
    (sessionId : Option Text) (init : InitRequest) (bufferWindow : Int32) :
    let opened := Endpoint.openSession env s server sessionId init bufferWindow
    ((∃ ex, opened.2 = .error ex) ∧ opened.1.things = server.things) ∨
    (∃ snapshot, opened.2 = .ok (server.things.length, snapshot) ∧
      isNullOrWhiteSpace sessionId = true ∧
      opened.1.things = server.things ++ [⟨snapshot.sessionId, false⟩]) ∨
    ∃ ref snapshot, opened.2 = .ok (ref, snapshot) ∧ ¬ isNullOrWhiteSpace sessionId = true ∧
      ref < server.things.length ∧ opened.1.things = mark false server.things ref := by
  dsimp only
  unfold Endpoint.openSession
  by_cases hblank : isNullOrWhiteSpace sessionId = true
  · rw [if_pos hblank]
    split
    · exact .inl ⟨⟨_, rfl⟩, rfl⟩
    · rename_i snapshot hcreate
      refine .inr (.inl ⟨snapshot, ?_, hblank, ?_⟩)
      · rw [CulpeoSessionServer.things, List.length_map]
      · rw [← createNewSession_thing hcreate]
        exact List.map_append
  · rw [if_neg hblank]
    rcases things_resumeSession env.toRuntime s server (sessionId.getD []) init bufferWindow with
      hfailed | ⟨ref, snapshot, hok, hknown, hthings⟩
    · exact .inl hfailed
    · exact .inr (.inr ⟨ref, snapshot, hok, hblank, hknown, hthings⟩)

theorem effect_refuseInit (hheld : e.connection.held = none) (ex : Exn) (e'' : Endpoint)
    (he : e''.connection.held = none) (hthings : e''.server.things = e.server.things) :
    Effect o e (e''.refuseInit ex).1 := by
  cases ex with
  | protocolValidation code reason => exact .rests hheld.symm hthings
  | _ => exact .rests (he.trans hheld.symm) hthings

/-- What an outlook says about an init. -/
structure Outlook.Foresees (o : Outlook) (sessionId : Option Text)
    (opened : Option (ℕ × SessionSnapshot)) : Prop where
  named : isNullOrWhiteSpace sessionId = true →
    o.named = opened.map fun found => found.2.sessionId
  resumed : ¬ isNullOrWhiteSpace sessionId = true → o.resumed = opened.map Prod.fst

theorem effect_acceptInit (hheld : e.connection.held = none) (env : Environment)
    (s : Surroundings) (frame : CulpeoMessage) (init : InitRequest)
    (ho : o.Foresees frame.sessionId (Endpoint.openSession env s e.server frame.sessionId init
      (Endpoint.negotiateBufferWindow e.server.options frame.bufferWindow)).2.toOption) :
    Effect o e (e.acceptInit env s frame init).1 := by
  have hsaved : ∀ (e' : Endpoint) (ref : ℕ) (snapshot : SessionSnapshot) (bufferWindow : Int32),
      (e'.establish env ref snapshot init bufferWindow).1.server.things = e'.server.things := by
    intro e' ref snapshot bufferWindow
    unfold Endpoint.establish CulpeoSessionServer.things
    dsimp only
    rw [snapshots_saveSession]
  unfold Endpoint.acceptInit
  rcases things_openSession env s e.server frame.sessionId init
      (Endpoint.negotiateBufferWindow e.server.options frame.bufferWindow) with
    ⟨⟨ex, hex⟩, hthings⟩ | ⟨snapshot, hok, hblank, hthings⟩ |
      ⟨ref, snapshot, hok, hblank, hknown, hthings⟩
  · dsimp only
    rw [hex]
    exact effect_refuseInit hheld ex _ hheld hthings
  · rw [hok] at ho
    dsimp only
    rw [hok]
    exact .begins snapshot.sessionId (ho.named hblank) hheld rfl ((hsaved _ _ _ _).trans hthings)
  · rw [hok] at ho
    dsimp only
    rw [hok]
    exact .resumes ref (ho.resumed hblank) hheld rfl hknown ((hsaved _ _ _ _).trans hthings)

theorem effect_handleInitialFrame (h : e.Sound) (hstate : e.connection.state = .uninitialized)
    (env : Environment) (s : Surroundings) (frame : CulpeoMessage)
    (ho : o.Foresees frame.sessionId (e.openedBy env s frame)) :
    Effect o e (e.handleInitialFrame env s frame).1 := by
  have hheld : e.connection.held = none := by
    rw [CulpeoConnection.held, hstate]
    rfl
  unfold Endpoint.openedBy at ho
  unfold Endpoint.handleInitialFrame
  split
  · exact effect_close h (by rw [hstate]; nofun) _
  · rename_i hinit
    rw [if_neg hinit] at ho
    dsimp only
    split
    · exact .rests hheld.symm rfl
    · rename_i hauthorized
      rw [if_neg hauthorized] at ho
      split
      · exact effect_refuseInit hheld _ _ rfl rfl
      · rename_i init hparse
        rw [hparse] at ho
        dsimp only at ho
        split
        · exact .rests hheld.symm rfl
        · rename_i hversion
          replace hversion :
            ¬ (!e.server.options.supportedVersions.contains init.version) = true := hversion
          rw [if_neg hversion] at ho
          have haccept := effect_acceptInit (o := o) (e := e.setState .initializing) rfl env s
            frame init ho
          exact haccept.after hheld.symm rfl

/-- The session that a call opens. -/
def Endpoint.opens (env : Environment) (s : Surroundings) (e : Endpoint) :
    Call → Option (ℕ × SessionSnapshot)
  | .receive frame =>
      if e.connection.state = .uninitialized then e.openedBy env s frame else none
  | _ => none

/-- Whether a call is an init that is to resume a session. -/
def Call.resumes : Call → Bool
  | .receive frame => !isNullOrWhiteSpace frame.sessionId
  | _ => false

/-- Whether an authentication challenge has timed out when a call is made. -/
def Endpoint.timesOut (s : Surroundings) (e : Endpoint) : Call → Bool
  | .receive _ | .checkTimeouts => (e.checkPendingAuthTimeout (s.clock 0)).isSome
  | _ => false

/-- What is known about a call before it is made. -/
def Endpoint.outlook (env : Environment) (s : Surroundings) (e : Endpoint) (call : Call) :
    Outlook where
  resumed := if call.resumes then (e.opens env s call).map Prod.fst else none
  named := if call.resumes then none else (e.opens env s call).map fun found => found.2.sessionId
  timesOut := e.timesOut s call
  stamped :=
    match call with
    | .disconnect => if e.connection.state = .established then none else e.connection.snapshot
    | _ => none

/-- **Every call has one of the effects**, as its outlook says. -/
theorem effect_perform (h : e.Sound) (env : Environment) (s : Surroundings) (call : Call) :
    Effect (e.outlook env s call) e (e.perform env s call) := by
  cases call with
  | receive frame =>
      show Effect _ e (e.receive env s frame).1
      unfold Endpoint.receive
      split
      · rename_i timedOut result htimeout
        exact effect_timeout rfl htimeout
      · split
        · rename_i hstate
          refine effect_handleInitialFrame h hstate env s frame ⟨fun hblank => ?_, fun hblank => ?_⟩
          · show (if !isNullOrWhiteSpace frame.sessionId then _ else _) = _
            rw [if_neg (by rw [hblank]; decide), Endpoint.opens, if_pos hstate]
          · show (if !isNullOrWhiteSpace frame.sessionId then _ else _) = _
            rw [if_pos (by rw [Bool.not_eq_true] at hblank; rw [hblank]; rfl), Endpoint.opens,
              if_pos hstate]
        · rename_i hstate
          exact effect_closeOnViolation h (by rw [hstate]; nofun) _ _
        · rename_i hstate
          exact effect_handleEstablishedFrame h (by rw [hstate]; nofun) env _ frame
        · exact .rests rfl rfl
  | sendMedia streamId payload timestamp => exact effect_sendMedia e _ streamId payload timestamp
  | issueAuthRefresh => exact effect_issueAuthRefresh env s e
  | checkTimeouts => exact effect_checkTimeouts s rfl
  | disconnect =>
      refine effect_disconnect h (fun hstate => ?_) s
      show (if e.connection.state = .established then none else e.connection.snapshot) = _
      rw [if_neg hstate]

end Parts

/-! ### Connections keep sound -/

/-- How a call moves its connection: it keeps its session, or is established with one that is
there; it does not go back to the handshake; and no session but its own is saved. -/
structure Follows (e e' : Endpoint) : Prop where
  snapshot : e'.connection.snapshot = e.connection.snapshot ∧
      (e'.connection.state = .established → e.connection.state = .established) ∨
    e'.connection.state = .established ∧
      ∃ ref, e'.connection.snapshot = some ref ∧ ref < e'.server.snapshots.length
  early : e'.connection.state = .uninitialized ∨ e'.connection.state = .initializing →
    e.connection.state = .uninitialized ∨ e.connection.state = .initializing
  saved : ∀ entry ∈ e'.server.sessions,
    entry ∈ e.server.sessions ∨ e'.connection.snapshot = some entry.2

section Follows

variable {e e' : Endpoint}

/-- A call that changes neither the state of its connection nor the dictionary. -/
theorem follows_same (h : e'.connection.snapshot = e.connection.snapshot)
    (hstate : e'.connection.state = e.connection.state)
    (hsessions : e'.server.sessions = e.server.sessions) : Follows e e' := by
  refine ⟨.inl ⟨h, ?_⟩, ?_, fun entry hentry => .inl ?_⟩
  · rw [hstate]
    exact id
  · rw [hstate]
    exact id
  · rw [← hsessions]
    exact hentry

theorem Follows.refl (e : Endpoint) : Follows e e := follows_same rfl rfl rfl

theorem sessions_modifySnapshot (e : Endpoint) (f : SessionSnapshot → SessionSnapshot) :
    (e.modifySnapshot f).server.sessions = e.server.sessions := by
  unfold Endpoint.modifySnapshot
  split
  · rfl
  · rfl

theorem follows_modifySnapshot (e : Endpoint) (f : SessionSnapshot → SessionSnapshot) :
    Follows e (e.modifySnapshot f) :=
  follows_same (by rw [connection_modifySnapshot]) (by rw [connection_modifySnapshot])
    (sessions_modifySnapshot e f)

theorem follows_closed (h : e'.connection.snapshot = e.connection.snapshot)
    (hstate : e'.connection.state = .closed)
    (hsaved : ∀ entry ∈ e'.server.sessions,
      entry ∈ e.server.sessions ∨ e.connection.snapshot = some entry.2) : Follows e e' := by
  refine ⟨.inl ⟨h, fun hestablished => ?_⟩, fun hearly => ?_, ?_⟩
  · rw [hstate] at hestablished
    cases hestablished
  · rw [hstate] at hearly
    rcases hearly with h | h <;> cases h
  · rw [h]
    exact hsaved

theorem mem_saveSession {server : CulpeoSessionServer} {sessionId : Text} {ref : ℕ}
    {entry : Text × ℕ} (h : entry ∈ (server.saveSession sessionId ref).sessions) :
    entry ∈ server.sessions ∨ entry.2 = ref := by
  unfold CulpeoSessionServer.saveSession at h
  split at h
  · obtain ⟨old, hold, rfl⟩ := List.mem_map.mp h
    split
    · exact .inr rfl
    · exact .inl hold
  · rcases List.mem_append.mp h with hold | hnew
    · exact .inl hold
    · rw [List.mem_singleton.mp hnew]
      exact .inr rfl

theorem mem_stampDisconnected {now : Ticks} {entry : Text × ℕ}
    (h : entry ∈ (e.stampDisconnected now).server.sessions) :
    entry ∈ e.server.sessions ∨ e.connection.snapshot = some entry.2 := by
  unfold Endpoint.stampDisconnected at h
  split at h
  · rename_i ref snapshot href _
    rcases mem_saveSession h with hold | hnew
    · rw [sessions_modifySnapshot] at hold
      exact .inl hold
    · rw [href, hnew]
      exact .inr rfl
  · exact .inl h

theorem follows_stampDisconnected (e : Endpoint) (now : Ticks) :
    Follows e ((e.setState .closed).stampDisconnected now) :=
  follows_closed (by rw [connection_stampDisconnected]; rfl)
    (by rw [connection_stampDisconnected]; rfl)
    fun _ hentry => mem_stampDisconnected (e := e.setState .closed) hentry

theorem follows_closeOnViolation (e : Endpoint) (now : Ticks) (ex : Exn) :
    Follows e (e.closeOnViolation now ex).1 := by
  cases ex with
  | protocolValidation code reason => exact follows_stampDisconnected e now
  | _ => exact .refl e

theorem Follows.after_modifySnapshot {e'' : Endpoint} {f : SessionSnapshot → SessionSnapshot}
    (h : Follows (e.modifySnapshot f) e'') : Follows e e'' := by
  obtain ⟨hsnapshot, hearly, hsaved⟩ := h
  rw [connection_modifySnapshot] at hsnapshot hearly
  rw [sessions_modifySnapshot] at hsaved
  exact ⟨hsnapshot, hearly, hsaved⟩

theorem follows_handleIncomingMedia (rt : Runtime) (e : Endpoint) (now : Ticks)
    (frame : CulpeoMessage) : Follows e (e.handleIncomingMedia rt now frame).1 := by
  unfold Endpoint.handleIncomingMedia
  split
  · exact follows_closeOnViolation e now _
  · dsimp only
    split
    · exact (follows_closeOnViolation _ now _).after_modifySnapshot
    · exact follows_modifySnapshot e _

theorem follows_sendMedia (e : Endpoint) (now : Ticks) (streamId : Text) (payload : Bytes)
    (timestamp : Int64) : Follows e (e.sendMedia now streamId payload timestamp).1 := by
  unfold Endpoint.sendMedia
  split
  · exact .refl e
  · split
    · exact .refl e
    · dsimp only
      split
      · exact follows_modifySnapshot e _
      · exact follows_modifySnapshot e _

theorem follows_issueAuthRefresh (env : Environment) (s : Surroundings) (e : Endpoint) :
    Follows e (e.issueAuthRefresh env s).1 := by
  rcases issueAuthRefresh_cases env s e with ⟨ex, hfailed⟩ | ⟨nonce, -, -, hissued⟩
  · rw [hfailed]
    exact .refl e
  · rw [hissued]
    exact follows_same rfl rfl rfl

theorem follows_timeout {now : Ticks} {result : CulpeoProcessResult}
    (h : e.checkPendingAuthTimeout now = some (e', result)) : Follows e e' := by
  unfold Endpoint.checkPendingAuthTimeout at h
  split at h
  · split at h
    · cases h
    · cases h
      exact follows_closed rfl rfl fun _ hentry => .inl hentry
  · cases h

theorem follows_controlFrame (env : Environment) (e : Endpoint) (now : Ticks)
    (frame : CulpeoMessage) : Follows e (e.controlFrame env now frame).1 := by
  unfold Endpoint.controlFrame
  split
  · rcases handlePing_cases env e now frame with ⟨ex, hfailed⟩ | ⟨pings, pongs, -, hhandled⟩
    · rw [hfailed]
      exact .refl e
    · rw [hhandled]
      exact follows_same rfl rfl rfl
  · split
    · unfold Endpoint.handleAuthResponse
      split
      · exact .refl e
      · split
        · exact .refl e
        · split
          · exact .refl e
          · split
            · exact .refl e
            · exact follows_same rfl rfl rfl
    · split
      · exact follows_stampDisconnected e now
      · split
        · exact follows_stampDisconnected e now
        · exact .refl e

theorem follows_handleEstablishedFrame (h : e.Sound) (hopen : e.connection.state ≠ .closed)
    (env : Environment) (now : Ticks) (frame : CulpeoMessage) :
    Follows e (e.handleEstablishedFrame env now frame).1 := by
  unfold Endpoint.handleEstablishedFrame
  split
  · exact follows_handleIncomingMedia env.toRuntime e now frame
  · dsimp only
    rcases handled_controlFrame (o := ⟨none, none, false, none⟩) h hopen env now frame with
      ⟨ex, hex⟩ | ⟨⟨result, hresult⟩, -⟩
    · rw [hex]
      dsimp only
      split
      · exact .refl e
      · exact follows_closeOnViolation e now _
      · exact follows_closeOnViolation e now _
    · rw [hresult]
      exact follows_controlFrame env e now frame

/-- An init is refused while the connection is initializing. -/
theorem follows_refuseInit (hstate : e.connection.state = .uninitialized) (ex : Exn)
    (e' : Endpoint) (hsnapshot : e'.connection.snapshot = e.connection.snapshot)
    (hstate' : e'.connection.state = .initializing)
    (hsessions : ∀ entry ∈ e'.server.sessions, entry ∈ e.server.sessions) :
    Follows e (e'.refuseInit ex).1 := by
  cases ex with
  | protocolValidation code reason =>
      exact follows_closed hsnapshot rfl fun entry hentry => .inl (hsessions entry hentry)
  | _ =>
      refine ⟨.inl ⟨hsnapshot, fun hestablished => ?_⟩, fun _ => .inl hstate,
        fun entry hentry => .inl (hsessions entry hentry)⟩
      rw [show (e'.refuseInit _).1 = e' from rfl, hstate'] at hestablished
      cases hestablished

/-- An init removes an expired session, or leaves the dictionary as it is. -/
theorem mem_openSession {env : Environment} {s : Surroundings} {server : CulpeoSessionServer}
    {sessionId : Option Text} {init : InitRequest} {bufferWindow : Int32} {entry : Text × ℕ}
    (h : entry ∈
      (Endpoint.openSession env s server sessionId init bufferWindow).1.sessions) :
    entry ∈ server.sessions := by
  unfold Endpoint.openSession at h
  split at h
  · split at h
    · exact h
    · exact h
  · unfold resumeSession at h
    split at h
    · exact h
    · split at h
      · exact h
      · split at h
        · exact List.mem_of_mem_filter h
        · dsimp only at h
          split at h
          · exact h
          · exact h

theorem follows_handleInitialFrame (hstate : e.connection.state = .uninitialized)
    (env : Environment) (s : Surroundings) (frame : CulpeoMessage) :
    Follows e (e.handleInitialFrame env s frame).1 := by
  unfold Endpoint.handleInitialFrame
  split
  · exact follows_stampDisconnected e _
  · dsimp only
    split
    · exact follows_closed rfl rfl fun _ hentry => .inl hentry
    · split
      · exact follows_refuseInit hstate _ _ rfl rfl fun _ => id
      · rename_i init hparse
        split
        · exact follows_closed rfl rfl fun _ hentry => .inl hentry
        -- An established connection refers to a session that is there.
        · have hsaved : ∀ (e' : Endpoint) (ref : ℕ) (snapshot : SessionSnapshot)
              (bufferWindow : Int32),
              (∀ entry ∈ e'.server.sessions, entry ∈ e.server.sessions) →
              ref < e'.server.things.length →
              Follows e (e'.establish env ref snapshot init bufferWindow).1 := by
            intro e' ref snapshot bufferWindow hsessions hlt
            refine ⟨.inr ⟨rfl, ref, rfl, ?_⟩, nofun, fun entry hentry => ?_⟩
            · show ref < (CulpeoSessionServer.saveSession _ _ _).snapshots.length
              rw [snapshots_saveSession]
              rw [CulpeoSessionServer.things, List.length_map] at hlt
              exact hlt
            · rcases mem_saveSession hentry with hold | hnew
              · exact .inl (hsessions entry hold)
              · exact .inr (congrArg some hnew.symm)
          unfold Endpoint.acceptInit
          have hopened := things_openSession env s (e.setState .initializing).server
            frame.sessionId init (Endpoint.negotiateBufferWindow
              (e.setState .initializing).server.options frame.bufferWindow)
          -- The init is refused, begins a session, or resumes one.
          rcases hopened with
            ⟨⟨ex, hex⟩, -⟩ | ⟨snapshot, hok, -, hthings⟩ | ⟨ref, snapshot, hok, -, hknown, hthings⟩
          · dsimp only
            rw [hex]
            exact follows_refuseInit hstate ex _ rfl rfl fun _ hentry => mem_openSession hentry
          · dsimp only
            rw [hok]
            refine hsaved _ _ _ _ (fun _ hentry => mem_openSession hentry) ?_
            rw [hthings, List.length_append, List.length_singleton]
            exact Nat.lt_succ_self _
          · dsimp only
            rw [hok]
            refine hsaved _ _ _ _ (fun _ hentry => mem_openSession hentry) ?_
            rw [hthings, length_mark]
            exact hknown

theorem follows_perform (h : e.Sound) (env : Environment) (s : Surroundings) (call : Call) :
    Follows e (e.perform env s call) := by
  cases call with
  | receive frame =>
      show Follows e (e.receive env s frame).1
      unfold Endpoint.receive
      split
      · rename_i timedOut result htimeout
        exact follows_timeout htimeout
      · split
        · rename_i hstate
          exact follows_handleInitialFrame hstate env s frame
        · exact follows_closeOnViolation e _ _
        · rename_i hstate
          exact follows_handleEstablishedFrame h (by rw [hstate]; nofun) env _ frame
        · exact .refl e
  | sendMedia streamId payload timestamp => exact follows_sendMedia e _ streamId payload timestamp
  | issueAuthRefresh => exact follows_issueAuthRefresh env s e
  | checkTimeouts =>
      show Follows e (e.checkTimeouts s).1
      unfold Endpoint.checkTimeouts
      cases htimeout : e.checkPendingAuthTimeout (s.clock 0) with
      | none => exact .refl e
      | some timedOut => exact follows_timeout htimeout
  | disconnect =>
      refine follows_closed ?_ rfl fun _ hentry => mem_stampDisconnected hentry
      show (e.stampDisconnected _).connection.snapshot = _
      rw [connection_stampDisconnected]

/-- A call never removes a session. -/
theorem Effect.length_le {o : Outlook} (h : Effect o e e') :
    e.server.snapshots.length ≤ e'.server.snapshots.length := by
  have hlength : ∀ server : CulpeoSessionServer,
      server.snapshots.length = server.things.length := fun server => by
    rw [CulpeoSessionServer.things, List.length_map]
  rw [hlength, hlength]
  cases h with
  | rests _ hthings => rw [hthings]
  | begins _ _ _ _ hthings =>
      rw [hthings, List.length_append]
      exact Nat.le_add_right _ _
  | resumes ref _ _ _ _ hthings => rw [hthings, length_mark]
  | leaves ref _ _ hthings => rw [hthings, length_mark]
  | drops _ _ hthings => rw [hthings]
  | marks ref _ _ _ hthings => rw [hthings, length_mark]

theorem sound_perform (h : e.Sound) (env : Environment) (s : Surroundings) (call : Call) :
    (e.perform env s call).Sound := by
  have hlength := (effect_perform h env s call).length_le
  obtain ⟨hsnapshot, hearly, -⟩ := follows_perform h env s call
  rcases hsnapshot with ⟨hsame, hbefore⟩ | ⟨hestablished, ref, href, hlt⟩
  · refine ⟨fun hstate => ?_, fun ref href => ?_, fun hstate => ?_⟩
    · rw [hsame]
      exact h.none (hearly hstate)
    · rw [hsame] at href
      exact Nat.lt_of_lt_of_le (h.known ref href) hlength
    · rw [hsame]
      exact h.some (hbefore hstate)
  · refine ⟨fun hstate => ?_, fun ref' href' => ?_, fun _ hnone => ?_⟩
    · rw [hestablished] at hstate
      rcases hstate with hstate | hstate <;> cases hstate
    · rw [href] at href'
      cases href'
      exact hlt
    · rw [href] at hnone
      cases hnone

end Follows

/-! ### The server as a tenancy -/

namespace System

variable {sys : System}

/-- The connections as holders of sessions. -/
def view (sys : System) : State ℕ Text where
  holds i := (sys.connections[i]?).bind CulpeoConnection.held
  things := sys.server.things

/-- All connections are sound, and the dictionary has sessions that are there. -/
structure Sound (sys : System) : Prop where
  connections : ∀ connection ∈ sys.connections, Endpoint.Sound ⟨sys.server, connection⟩
  sessions : ∀ entry ∈ sys.server.sessions, entry.2 < sys.server.snapshots.length

theorem sound_step (h : sys.Sound) (env : Environment) (a : Action) : (sys.step env a).Sound := by
  cases a with
  | createConnection =>
      refine ⟨fun connection hmem => ?_, h.sessions⟩
      rcases List.mem_append.mp hmem with hold | hnew
      · exact h.connections connection hold
      · rw [List.mem_singleton.mp hnew]
        exact ⟨fun _ => rfl, nofun, nofun⟩
  | call i s call =>
      unfold System.step
      dsimp only
      split
      · exact h
      · rename_i caller hcaller
        have hsound := h.connections caller (List.mem_of_getElem? hcaller)
        have hafter := sound_perform hsound env s call
        have hlength := (effect_perform hsound env s call).length_le
        refine ⟨fun connection hmem => ?_, fun entry hentry => ?_⟩
        · rcases List.mem_or_eq_of_mem_set hmem with hold | hnew
          · have hother := h.connections connection hold
            exact ⟨hother.none, fun ref href => Nat.lt_of_lt_of_le (hother.known ref href) hlength,
              hother.some⟩
          · rw [hnew]
            exact hafter
        · rcases (follows_perform hsound env s call).saved entry hentry with hold | hnew
          · exact Nat.lt_of_lt_of_le (h.sessions entry hold) hlength
          · exact hafter.known entry.2 hnew

/-- What is known about a call of the system before it is made. -/
def outlook (env : Environment) (sys : System) : Action → Option Outlook
  | .createConnection => none
  | .call i s call =>
      (sys.connections[i]?).map fun connection =>
        Endpoint.outlook env s ⟨sys.server, connection⟩ call

/-- No established connection holds the session. -/
def Unheld (sys : System) (ref : ℕ) : Prop :=
  ∀ connection ∈ sys.connections, connection.held ≠ some ref

/-- No init resumes a session that an established connection holds. -/
def Considerate (env : Environment) (sys : System) (a : Action) : Prop :=
  ∀ ref ∈ (sys.outlook env a).bind Outlook.resumed, sys.Unheld ref

/-- A new session gets an id that no session has. -/
def Fresh (env : Environment) (sys : System) (a : Action) : Prop :=
  ∀ name ∈ (sys.outlook env a).bind Outlook.named,
    name ∉ sys.server.snapshots.map SessionSnapshot.sessionId

/-- No authentication challenge times out on an established connection. -/
def Punctual (sys : System) : Action → Prop
  | .createConnection => True
  | .call i s call =>
      ∀ connection ∈ sys.connections[i]?,
        Endpoint.timesOut s ⟨sys.server, connection⟩ call = true → connection.held = none

/-- `DisconnectAsync` is not called on a connection that is not established while an
established one holds its session. -/
def Settled (env : Environment) (sys : System) (a : Action) : Prop :=
  ∀ ref ∈ (sys.outlook env a).bind Outlook.stamped, sys.Unheld ref

instance (sys : System) (ref : ℕ) : Decidable (sys.Unheld ref) :=
  inferInstanceAs (Decidable (∀ connection ∈ sys.connections, connection.held ≠ some ref))

instance (env : Environment) (sys : System) (a : Action) : Decidable (sys.Considerate env a) :=
  inferInstanceAs (Decidable (∀ ref ∈ (sys.outlook env a).bind Outlook.resumed, sys.Unheld ref))

instance (env : Environment) (sys : System) (a : Action) : Decidable (sys.Fresh env a) :=
  inferInstanceAs (Decidable (∀ name ∈ (sys.outlook env a).bind Outlook.named,
    name ∉ sys.server.snapshots.map SessionSnapshot.sessionId))

instance (env : Environment) (sys : System) (a : Action) : Decidable (sys.Settled env a) :=
  inferInstanceAs (Decidable (∀ ref ∈ (sys.outlook env a).bind Outlook.stamped, sys.Unheld ref))

instance (sys : System) : (a : Action) → Decidable (sys.Punctual a)
  | .createConnection => inferInstanceAs (Decidable True)
  | .call i s call =>
      inferInstanceAs (Decidable (∀ connection ∈ sys.connections[i]?,
        Endpoint.timesOut s ⟨sys.server, connection⟩ call = true → connection.held = none))

theorem vacant_of_unheld {ref : ℕ} (h : sys.Unheld ref) : sys.view.Vacant ref := by
  intro i hi
  obtain ⟨connection, hconnection, hheld⟩ := Option.bind_eq_some_iff.mp hi
  exact h connection (List.mem_of_getElem? hconnection) hheld

theorem names_view (sys : System) :
    sys.view.things.map Thing.name = sys.server.snapshots.map SessionSnapshot.sessionId :=
  List.map_map

theorem holds_set {i : ℕ} {caller : CulpeoConnection} (hcaller : sys.connections[i]? = some caller)
    (server : CulpeoSessionServer) (connection : CulpeoConnection) :
    (System.view ⟨server, sys.connections.set i connection⟩).holds =
      Function.update sys.view.holds i connection.held := by
  obtain ⟨hlt, -⟩ := List.getElem?_eq_some_iff.mp hcaller
  funext j
  show ((sys.connections.set i connection)[j]?).bind CulpeoConnection.held = _
  rw [List.getElem?_set, Function.update_apply]
  by_cases hj : i = j
  · rw [if_pos hj, if_pos hlt, if_pos hj.symm, Option.bind_some]
  · rw [if_neg hj, if_neg (Ne.symm hj)]
    rfl

theorem view_ext {sys' : System} {v : State ℕ Text} (hholds : sys'.view.holds = v.holds)
    (hthings : sys'.view.things = v.things) : sys'.view = v := by
  cases v
  cases hholds
  cases hthings
  rfl

/-- What a step of the system is as a move of the tenancy. -/
structure Simulates (env : Environment) (sys : System) (a : Action) (m : Move ℕ Text) :
    Prop where
  view : (sys.step env a).view = sys.view.apply m
  allows : sys.view.Allows m
  considerate : sys.Considerate env a → sys.view.Considerate m
  fresh : sys.Fresh env a → sys.view.Fresh m
  orderly : sys.Punctual a → sys.Settled env a → sys.view.Orderly m

theorem simulates_createConnection (env : Environment) (sys : System) :
    Simulates env sys .createConnection .rests := by
  refine ⟨view_ext (funext fun i => ?_) rfl, trivial, fun _ => trivial, fun _ => trivial,
    fun _ _ => trivial⟩
  show ((sys.connections ++ [({} : CulpeoConnection)])[i]?).bind CulpeoConnection.held =
    (sys.connections[i]?).bind CulpeoConnection.held
  rw [List.getElem?_append]
  split
  · rfl
  · rename_i hge
    rw [List.getElem?_eq_none (Nat.le_of_not_lt hge), List.getElem?_singleton]
    split
    · rfl
    · rfl

/-- **Every step is a move.** -/
theorem step_simulates (h : sys.Sound) (env : Environment) (a : Action) :
    ∃ m, Simulates env sys a m := by
  cases a with
  | createConnection => exact ⟨.rests, simulates_createConnection env sys⟩
  | call i s call =>
      cases hcaller : sys.connections[i]? with
      | none =>
          have hstep : sys.step env (.call i s call) = sys := by
            unfold step
            dsimp only
            rw [hcaller]
          exact ⟨.rests, by rw [hstep]; rfl, trivial, fun _ => trivial, fun _ => trivial,
            fun _ _ => trivial⟩
      | some caller =>
          let e : Endpoint := ⟨sys.server, caller⟩
          have hheld : sys.view.holds i = caller.held := by
            show (sys.connections[i]?).bind _ = _
            rw [hcaller, Option.bind_some]
          have houtlook : sys.outlook env (.call i s call) = some (e.outlook env s call) := by
            show (sys.connections[i]?).map _ = _
            rw [hcaller, Option.map_some]
          have hstep : sys.step env (.call i s call) = ⟨(e.perform env s call).server,
              sys.connections.set i (e.perform env s call).connection⟩ := by
            unfold step
            dsimp only
            rw [hcaller]
          have hholds := holds_set hcaller (e.perform env s call).server
            (e.perform env s call).connection
          -- A call that ends with what it held does not move the view.
          have hsame : (e.perform env s call).connection.held = caller.held →
              Function.update sys.view.holds i (e.perform env s call).connection.held =
                sys.view.holds := by
            intro hsame
            rw [hsame, ← hheld, Function.update_eq_self]
          rw [← hstep] at hholds
          have hthings : (sys.step env (.call i s call)).view.things =
              (e.perform env s call).server.things := by
            rw [hstep]
            rfl
          -- What the call did to its own connection and to the server decides which move it is.
          cases effect_perform (h.connections caller (List.mem_of_getElem? hcaller)) env s call with
          | rests hafter hkept =>
              refine ⟨.rests, view_ext (hholds.trans (hsame hafter)) (hthings.trans hkept), trivial,
                fun _ => trivial, fun _ => trivial, fun _ _ => trivial⟩
          | begins name hnamed hbefore hafter hnew =>
              refine ⟨.begins i name, view_ext ?_ (hthings.trans hnew), hheld.trans hbefore,
                fun _ => trivial, fun hfresh => ?_, fun _ _ => trivial⟩
              · rw [hholds, hafter]
                rfl
              · show name ∉ _
                rw [names_view]
                exact hfresh name (by rw [houtlook]; exact hnamed)
          | resumes ref hresumed hbefore hafter hknown hnew =>
              refine ⟨.resumes i ref, view_ext ?_ (hthings.trans hnew),
                ⟨hheld.trans hbefore, hknown⟩, fun hfree => vacant_of_unheld (hfree ref ?_),
                fun _ => trivial, fun _ _ => trivial⟩
              · rw [hholds, hafter]
                rfl
              · rw [houtlook]
                exact hresumed
          | leaves ref hbefore hafter hnew =>
              have hleaves := State.apply_leaves_some (hheld.trans hbefore)
              refine ⟨.leaves i, view_ext ?_ ?_, trivial, fun _ => trivial, fun _ => trivial,
                fun _ _ => trivial⟩
              · rw [hholds, hafter, hleaves]
              · rw [hthings, hnew, hleaves]
                rfl
          | drops htimesOut hafter hkept =>
              refine ⟨.drops i, view_ext ?_ (hthings.trans hkept), trivial, fun _ => trivial,
                fun _ => trivial,
                fun hpunctual _ => hheld.trans (hpunctual caller hcaller htimesOut)⟩
              rw [hholds, hafter]
              rfl
          | marks ref hstamped hbefore hafter hnew =>
              refine ⟨.marks ref, view_ext (hholds.trans (hsame (hafter.trans hbefore.symm)))
                (hthings.trans hnew), trivial, fun _ => trivial, fun _ => trivial,
                fun _ hsettled => vacant_of_unheld (hsettled ref ?_)⟩
              rw [houtlook]
              exact hstamped

/-! ### Runs -/

/-- A server at its start. -/
def start (options : CulpeoSessionOptions) : System := { server := { options } }

/-- Every action of a run meets a condition on the state that it finds. -/
def Along (env : Environment) (P : System → Action → Prop) : System → List Action → Prop
  | _, [] => True
  | sys, a :: rest => P sys a ∧ Along env P (sys.step env a) rest

instance decidableAlong (env : Environment) (P : System → Action → Prop)
    [∀ sys a, Decidable (P sys a)] :
    (sys : System) → (actions : List Action) → Decidable (Along env P sys actions)
  | _, [] => inferInstanceAs (Decidable True)
  | sys, a :: rest =>
      have := decidableAlong env P (sys.step env a) rest
      inferInstanceAs (Decidable (P sys a ∧ Along env P (sys.step env a) rest))

/-- **Invariants of runs.** -/
theorem run_induction {env : Environment} {I : System → Prop} {P : System → Action → Prop}
    (hstep : ∀ sys a, I sys → P sys a → I (sys.step env a)) (actions : List Action) :
    ∀ {sys : System}, I sys → Along env P sys actions → I (sys.run env actions) := by
  induction actions with
  | nil =>
      intro sys h _
      exact h
  | cons a rest ih =>
      intro sys h halong
      exact ih (hstep sys a h halong.1) halong.2

theorem sound_start (options : CulpeoSessionOptions) : (start options).Sound :=
  ⟨fun _ hmem => absurd hmem List.not_mem_nil, fun _ hmem => absurd hmem List.not_mem_nil⟩

theorem along_true (env : Environment) (actions : List Action) :
    ∀ sys : System, Along env (fun _ _ => True) sys actions := by
  induction actions with
  | nil =>
      intro sys
      trivial
  | cons a rest ih =>
      intro sys
      exact ⟨trivial, ih _⟩

end System

end CulpeoStream.Dotnet
