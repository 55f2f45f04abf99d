import CulpeoStream.Lib.Checks
import CulpeoStream.Typescript.Handshake

/-!
# Agreement of a client and a server

A TypeScript client and a TypeScript server that are joined by two queues, under every
interleaving of `sendMedia` with deliveries.  `Phase` lists where such a link can be:
before, during and after its handshake.  Once the client has the init-ack, both directions
are in agreement (`Flow`); while the init-ack is still on its way, they are in agreement
with what the client is going to confirm.

`linked_run` is the invariant, and `media_agreement` reads it off: the offset that a sender
uses next is the one that the receiver expects plus the increments in flight, and no media
frame is ever rejected.  A snapshot with which a server resumes has to have distinct ids;
`snapshot_nodup` says that the snapshots of a link have.
-/

namespace CulpeoStream.Typescript

open Message Utf16 Resumption Ledger Checks

/-- Both directions in agreement, with nothing but media in the queues. -/
structure Agrees (rt : Runtime) (client server : StreamRegistry)
    (toServer toClient : List CulpeoMessage) : Prop where
  clientRole : client.localRole = .client
  serverRole : server.localRole = .server
  clientIds : (client.confirmedOrder.map ConfirmedStreamDeclaration.id).Nodup
  serverIds : (server.confirmedOrder.map ConfirmedStreamDeclaration.id).Nodup
  onlyMediaToServer : ∀ frame ∈ toServer, ∃ headers body, frame = .media headers body
  onlyMediaToClient : ∀ frame ∈ toClient, ∃ headers body, frame = .media headers body
  up : Flow rt .client client server toServer
  down : Flow rt .server server client toClient

/-- A session that has no streams yet. -/
structure Fresh (role : EndpointRole) (registry : StreamRegistry) : Prop where
  role : registry.localRole = role
  offsets : registry.offsets = {}

/-- **Where a link can be.** -/
inductive Phase (rt : Runtime) (l : Link) : Prop where
  | idle (hclient : l.client.stateValue = .uninitialized) (hfresh : Fresh .client l.client.registry)
      (hserver : l.server.stateValue = .uninitialized) (hfresh' : Fresh .server l.server.registry)
      (hup : l.toServer = []) (hdown : l.toClient = [])
  | requested {headers : InitHeaders} {body : InitBody}
      (hclient : l.client.stateValue = .initializing) (hfresh : Fresh .client l.client.registry)
      (hserver : l.server.stateValue = .uninitialized) (hfresh' : Fresh .server l.server.registry)
      (hup : l.toServer = [.init headers body]) (hdown : l.toClient = [])
      (hstreams : body.streams.map ResumeStreamDeclaration.toStreamDeclaration =
        l.client.registry.plannedStreams.map ResumeStreamDeclaration.toStreamDeclaration)
  | acknowledged {headers : InitAckHeaders} {body : InitAckBody} {registry : StreamRegistry}
      {rest : List CulpeoMessage} (hclient : l.client.stateValue = .initializing)
      (hserver : l.server.stateValue = .established) (hup : l.toServer = [])
      (hdown : l.toClient = .initAck headers body :: rest)
      (hconfirm : l.client.registry.confirmFromAck body.streams = .ok registry)
      (hagrees : Agrees rt registry l.server.registry [] rest)
  | joined (hclient : l.client.stateValue = .established)
      (hserver : l.server.stateValue = .established)
      (hagrees : Agrees rt l.client.registry l.server.registry l.toServer l.toClient)
  | refused (hclient : l.client.stateValue = .initializing ∨ l.client.stateValue = .closed)
      (hserver : l.server.stateValue = .closed) (hup : l.toServer = [])
      (hdown : l.toClient = [] ∨ l.client.stateValue = .initializing ∧
        ∃ frame, l.toClient = [.initError frame])

/-- **The invariant of a link**: it is in one of its phases, and the server has not
challenged the client. -/
structure Linked (rt : Runtime) (l : Link) : Prop where
  unchallenged : l.server.pendingAuthNonce = none
  phase : Phase rt l

/-- What is asked of the options of a server: `generateId` does not repeat itself, and a
snapshot lists no id twice. -/
structure DistinctIds (options : ServerSessionOptions) : Prop where
  generated : Function.Injective options.generateId
  resumed : ∀ snapshot, options.resumeSnapshot = some snapshot →
    (snapshot.streams.map ConfirmedStreamDeclaration.id).Nodup

/-! ### Sending and receiving -/

section Sending

variable {rt : Runtime} {client server : StreamRegistry} {toServer toClient : List CulpeoMessage}

/-- What a send puts into the queue. -/
def sendFrames (registry : StreamRegistry) (rt : Runtime) (streamId : Text) (body : Bytes)
    (timestamp : Option ℤ) : List CulpeoMessage :=
  match (registry.trackSend rt streamId body.length).2 with
  | .error _ => []
  | .ok (contentType, offset) => [.media { streamId, offset, contentType, timestamp } body]

/-- A send leaves the role and the list of streams alone. -/
theorem trackSend_fixed (registry : StreamRegistry) (streamId : Text) (n : ℕ) :
    (registry.trackSend rt streamId n).1.localRole = registry.localRole ∧
      (registry.trackSend rt streamId n).1.confirmedOrder = registry.confirmedOrder := by
  rcases trackSend_cases rt registry streamId n with ⟨e, hcase⟩ | ⟨_, _, _, -, -, -, hcase⟩ |
    ⟨_, _, _, _, -, -, -, -, -, -, hcase⟩
  · rw [hcase]
    exact ⟨rfl, rfl⟩
  · rw [hcase]
    exact ⟨rfl, rfl⟩
  · rw [hcase]
    exact ⟨rfl, rfl⟩

/-- A send keeps the direction in which it goes. -/
theorem Flow.sendFrames {role : EndpointRole} {sender receiver : StreamRegistry}
    {queue : List CulpeoMessage} (h : Flow rt role sender receiver queue)
    (hrole : sender.localRole = role) (streamId : Text) (body : Bytes) (timestamp : Option ℤ) :
    Flow rt role (sender.trackSend rt streamId body.length).1 receiver
      (queue ++ Typescript.sendFrames sender rt streamId body timestamp) := by
  unfold Typescript.sendFrames
  cases hsend : (sender.trackSend rt streamId body.length).2 with
  | error e =>
      rw [List.append_nil]
      exact h.trackSend_failed hsend
  | ok tracked => exact h.send hrole timestamp hsend

theorem onlyMedia_sendFrames {queue : List CulpeoMessage}
    (h : ∀ frame ∈ queue, ∃ headers body, frame = .media headers body)
    (registry : StreamRegistry) (streamId : Text) (body : Bytes) (timestamp : Option ℤ) :
    ∀ frame ∈ queue ++ sendFrames registry rt streamId body timestamp,
      ∃ headers body, frame = .media headers body := by
  intro frame hmem
  rcases List.mem_append.mp hmem with hold | hnew
  · exact h frame hold
  · unfold sendFrames at hnew
    split at hnew
    · cases hnew
    · rw [List.mem_singleton] at hnew
      exact ⟨_, _, hnew⟩

theorem Agrees.clientSends (h : Agrees rt client server toServer toClient) (streamId : Text)
    (body : Bytes) (timestamp : Option ℤ) :
    Agrees rt (client.trackSend rt streamId body.length).1 server
      (toServer ++ sendFrames client rt streamId body timestamp) toClient where
  clientRole := (trackSend_fixed client streamId body.length).1.trans h.clientRole
  serverRole := h.serverRole
  clientIds := by
    rw [(trackSend_fixed client streamId body.length).2]
    exact h.clientIds
  serverIds := h.serverIds
  onlyMediaToServer := onlyMedia_sendFrames h.onlyMediaToServer client streamId body timestamp
  onlyMediaToClient := h.onlyMediaToClient
  up := h.up.sendFrames h.clientRole streamId body timestamp
  down := h.down.trackSend_receiver streamId body.length

theorem Agrees.serverSends (h : Agrees rt client server toServer toClient) (streamId : Text)
    (body : Bytes) (timestamp : Option ℤ) :
    Agrees rt client (server.trackSend rt streamId body.length).1 toServer
      (toClient ++ sendFrames server rt streamId body timestamp) where
  clientRole := h.clientRole
  serverRole := (trackSend_fixed server streamId body.length).1.trans h.serverRole
  clientIds := h.clientIds
  serverIds := by
    rw [(trackSend_fixed server streamId body.length).2]
    exact h.serverIds
  onlyMediaToServer := h.onlyMediaToServer
  onlyMediaToClient := onlyMedia_sendFrames h.onlyMediaToClient server streamId body timestamp
  up := h.up.trackSend_receiver streamId body.length
  down := h.down.sendFrames h.serverRole streamId body timestamp

/-- **The head of the queue to the server is accepted.** -/
theorem Agrees.serverReceives {headers : MediaHeaders} {body : Bytes}
    (h : Agrees rt client server (.media headers body :: toServer) toClient) :
    ∃ server', server.trackReceive rt headers.streamId headers.offset headers.contentType
        body.length = .ok server' ∧ Agrees rt client server' toServer toClient := by
  have hrole : server.remoteRole = .client := by rw [StreamRegistry.remoteRole, h.serverRole]
  obtain ⟨state, new, hstate, hsame, hreceive, hflow⟩ := h.up.receive hrole
  refine ⟨_, hreceive, h.clientRole, h.serverRole, h.clientIds, h.serverIds, ?_,
    h.onlyMediaToClient, hflow, ?_⟩
  · exact fun frame hmem => h.onlyMediaToServer frame (List.mem_cons_of_mem _ hmem)
  · exact h.down.congr rfl (OffsetTracker.nextSend_set_eq hstate hsame) rfl fun _ => rfl

/-- **The head of the queue to the client is accepted.** -/
theorem Agrees.clientReceives {headers : MediaHeaders} {body : Bytes}
    (h : Agrees rt client server toServer (.media headers body :: toClient)) :
    ∃ client', client.trackReceive rt headers.streamId headers.offset headers.contentType
        body.length = .ok client' ∧ Agrees rt client' server toServer toClient := by
  have hrole : client.remoteRole = .server := by rw [StreamRegistry.remoteRole, h.clientRole]
  obtain ⟨state, new, hstate, hsame, hreceive, hflow⟩ := h.down.receive hrole
  refine ⟨_, hreceive, h.clientRole, h.serverRole, h.clientIds, h.serverIds,
    h.onlyMediaToServer, ?_, ?_, hflow⟩
  · exact fun frame hmem => h.onlyMediaToClient frame (List.mem_cons_of_mem _ hmem)
  · exact h.up.congr rfl (OffsetTracker.nextSend_set_eq hstate hsame) rfl fun _ => rfl

end Sending

/-! ### One step -/

section Step

variable {o : LinkOptions} {rt : Runtime} {l : Link}

theorem Link.byClient_idle {p : Rest} (h : Idle l.client p) : l.byClient p = l := by
  rw [Link.byClient, h.1, h.2, List.append_nil]

theorem Link.byServer_idle {p : Rest} (h : Idle l.server p) : l.byServer p = l := by
  rw [Link.byServer, h.1, h.2, List.append_nil]

/-- A client whose session is established shares it with the server. -/
theorem Phase.client_established (h : Phase rt l) (hstate : l.client.stateValue = .established) :
    l.server.stateValue = .established ∧
      Agrees rt l.client.registry l.server.registry l.toServer l.toClient := by
  cases h with
  | joined _ hserver hagrees => exact ⟨hserver, hagrees⟩
  | idle hclient => simp [hstate] at hclient
  | requested hclient => simp [hstate] at hclient
  | acknowledged hclient => simp [hstate] at hclient
  | refused hclient => simp [hstate] at hclient

/-- A server whose session is established has streams with distinct ids. -/
theorem Phase.server_established (h : Phase rt l) (hstate : l.server.stateValue = .established) :
    (l.server.registry.confirmedOrder.map ConfirmedStreamDeclaration.id).Nodup := by
  cases h with
  | joined _ _ hagrees => exact hagrees.serverIds
  | acknowledged _ _ _ _ _ hagrees => exact hagrees.serverIds
  | idle _ _ hserver => simp [hstate] at hserver
  | requested _ _ hserver => simp [hstate] at hserver
  | refused _ hserver => simp [hstate] at hserver

/-- A media frame is at the head of a queue only between established sessions. -/
theorem Phase.media_toServer (h : Phase rt l) {headers : MediaHeaders} {body : Bytes}
    {rest : List CulpeoMessage} (hqueue : l.toServer = .media headers body :: rest) :
    l.server.stateValue = .established ∧
      Agrees rt l.client.registry l.server.registry l.toServer l.toClient := by
  cases h with
  | joined _ hserver hagrees => exact ⟨hserver, hagrees⟩
  | idle _ _ _ _ hup => simp [hqueue] at hup
  | requested _ _ _ _ hup => simp [hqueue] at hup
  | acknowledged _ _ hup => simp [hqueue] at hup
  | refused _ _ hup => simp [hqueue] at hup

theorem Phase.media_toClient (h : Phase rt l) {headers : MediaHeaders} {body : Bytes}
    {rest : List CulpeoMessage} (hqueue : l.toClient = .media headers body :: rest) :
    l.client.stateValue = .established ∧
      Agrees rt l.client.registry l.server.registry l.toServer l.toClient := by
  cases h with
  | joined hclient _ hagrees => exact ⟨hclient, hagrees⟩
  | idle _ _ _ _ _ hdown => simp [hqueue] at hdown
  | requested _ _ _ _ _ hdown => simp [hqueue] at hdown
  | acknowledged _ _ _ hdown => simp [hqueue] at hdown
  | refused _ _ _ hdown => simp [hqueue] at hdown

theorem linked_start (h : Linked rt l) (options : StartOptions) :
    Linked rt (l.byClient (start options)) := by
  by_cases hstate : l.client.stateValue = .uninitialized
  · obtain ⟨headers, body, hsent, hstreams, hinitializing, hregistry⟩ :=
      alone_start hstate options
    refine ⟨h.unchallenged, ?_⟩
    cases h.phase with
    | idle hclient hfresh hserver hfresh' hup hdown =>
        refine @Phase.requested rt _ headers body hinitializing ?_ hserver hfresh' ?_ hdown ?_
        · show Fresh .client (alone (start options) l.client).state.registry
          rw [hregistry]
          exact hfresh
        · show l.toServer ++ sentFrames (alone (start options) l.client).outputs = _
          rw [hup, hsent]
          rfl
        · show _ = (alone (start options) l.client).state.registry.plannedStreams.map _
          rw [hregistry, hstreams]
          exact declarations_buildInitStreams l.client.registry options.resumeFrom
    | requested hclient => simp [hstate] at hclient
    | acknowledged hclient => simp [hstate] at hclient
    | joined hclient => simp [hstate] at hclient
    | refused hclient => simp [hstate] at hclient
  · rw [Link.byClient_idle (idle_start hstate options)]
    exact h

theorem linked_clientSends (h : Linked rt l) (streamId : Text) (body : Bytes)
    (timestamp : Option ℤ) : Linked rt (l.byClient (sendMedia rt streamId body timestamp)) := by
  by_cases hstate : l.client.stateValue = .established
  · obtain ⟨hnew, hsent⟩ := alone_sendMedia hstate rt streamId body timestamp
    obtain ⟨hserver, hagrees⟩ := h.phase.client_established hstate
    refine ⟨h.unchallenged, ?_⟩
    unfold Link.byClient
    rw [hnew, hsent]
    exact .joined hstate hserver (hagrees.clientSends streamId body timestamp)
  · rw [Link.byClient_idle (idle_sendMedia hstate rt streamId body timestamp)]
    exact h

theorem linked_serverSends (h : Linked rt l) (streamId : Text) (body : Bytes)
    (timestamp : Option ℤ) : Linked rt (l.byServer (sendMedia rt streamId body timestamp)) := by
  by_cases hstate : l.server.stateValue = .established
  · obtain ⟨hnew, hsent⟩ := alone_sendMedia hstate rt streamId body timestamp
    unfold Link.byServer
    rw [hnew, hsent]
    refine ⟨h.unchallenged, ?_⟩
    cases h.phase with
    | joined hclient hserver hagrees =>
        exact .joined hclient hstate (hagrees.serverSends streamId body timestamp)
    | acknowledged hclient hserver hup hdown hconfirm hagrees =>
        -- The frame queues up behind the init-ack.
        exact .acknowledged hclient hstate hup
          (congrArg (· ++ sendFrames l.server.registry rt streamId body timestamp) hdown) hconfirm
          (hagrees.serverSends streamId body timestamp)
    | idle _ _ hserver => simp [hstate] at hserver
    | requested _ _ hserver => simp [hstate] at hserver
    | refused _ hserver => simp [hstate] at hserver
  · rw [Link.byServer_idle (idle_sendMedia hstate rt streamId body timestamp)]
    exact h

/-- **An init-ack announces agreement**: whatever streams a fresh server confirms for the
init of a fresh client, the client confirms them as well, and both then agree. -/
theorem agrees_acknowledged {client server registry : StreamRegistry} {body : InitBody}
    {streams : List ConfirmedStreamDeclaration} (hfresh : Fresh .client client)
    (hfresh' : Fresh .server server)
    (hrequested : body.streams.map ResumeStreamDeclaration.toStreamDeclaration =
      client.plannedStreams.map ResumeStreamDeclaration.toStreamDeclaration)
    (hvalid : validateStreamDeclarations
      (streams.map ConfirmedStreamDeclaration.toStreamDeclaration) maxStreamCount = .ok ())
    (hdeclarations : streams.map ConfirmedStreamDeclaration.toStreamDeclaration =
      body.streams.map ResumeStreamDeclaration.toStreamDeclaration)
    (hnodup : (streams.map ConfirmedStreamDeclaration.id).Nodup)
    (hconfirm : server.confirm streams = .ok registry) :
    ∃ client', client.confirmFromAck streams = .ok client' ∧ Agrees rt client' registry [] [] := by
  obtain ⟨tracker, hbalanced, hconfirms⟩ := confirm_fresh hvalid hnodup
  have hlength : streams.length = client.plannedStreams.length := by
    have hsame := congrArg List.length (hdeclarations.trans hrequested)
    rw [List.length_map, List.length_map] at hsame
    exact hsame
  rw [hconfirms server hfresh'.offsets] at hconfirm
  cases hconfirm
  have hclient := hconfirms client hfresh.offsets
  rw [StreamRegistry.confirmFromAck, if_neg (not_not_intro hlength)]
  refine ⟨_, hclient, hfresh.role, hfresh'.role, hnodup, hnodup, nofun, nofun, ?_, ?_⟩
  · exact flow_confirmed rt .client hbalanced ⟨rfl, rfl⟩ ⟨rfl, rfl⟩
  · exact flow_confirmed rt .server hbalanced ⟨rfl, rfl⟩ ⟨rfl, rfl⟩

/-- The answer to the init. -/
theorem linked_init (hids : DistinctIds o.options) (h : Linked o.runtime l) (now : ℤ)
    {headers : InitHeaders} {body : InitBody} (hclient : l.client.stateValue = .initializing)
    (hfresh : Fresh .client l.client.registry) (hserver : l.server.stateValue = .uninitialized)
    (hfresh' : Fresh .server l.server.registry) (hdown : l.toClient = [])
    (hrequested : body.streams.map ResumeStreamDeclaration.toStreamDeclaration =
      l.client.registry.plannedStreams.map ResumeStreamDeclaration.toStreamDeclaration) :
    Linked o.runtime ({ l with toServer := [] }.byServer
      (serverReceive o.runtime o.options o.server now (.init headers body))) := by
  have hframe : serverFrame o.runtime o.options o.server now (.init headers body) l.server =
      handleInit o.options o.server now headers body l.server := by
    unfold serverFrame
    rw [hserver]
  obtain ⟨hstate, hsent, -⟩ := alike_serverReceive o.runtime o.options o.server now
    (.init headers body) h.unchallenged
  rw [hframe] at hstate hsent
  unfold Link.byServer
  rw [hstate, hsent, hdown]
  cases handleInit_answers o.server now headers body hfresh'.offsets hids.generated
      hids.resumed with
  | refuses hclosed hauth hrefusal =>
      refine ⟨hauth.trans h.unchallenged, .refused (.inl hclient) hclosed rfl (.inr ⟨hclient, ?_⟩)⟩
      exact ⟨_, hrefusal⟩
  | acknowledges hvalid hdeclarations hnodup hconfirm hestablished hauth hregistry hack =>
      obtain ⟨client', hconfirm', hagrees⟩ := agrees_acknowledged hfresh hfresh' hrequested hvalid
        hdeclarations hnodup hconfirm
      rw [← hregistry] at hagrees
      exact ⟨hauth.trans h.unchallenged, .acknowledged hclient hestablished rfl hack hconfirm'
        hagrees⟩

theorem linked_deliverToServer (hids : DistinctIds o.options) (h : Linked o.runtime l)
    (now : ℤ) :
    Linked o.runtime (l.step o (.deliverToServer now)) := by
  unfold Link.step
  cases hqueue : l.toServer with
  | nil => exact h
  | cons frame rest =>
      dsimp only
      cases h.phase with
      | idle _ _ _ _ hup => simp [hqueue] at hup
      | acknowledged _ _ hup => simp [hqueue] at hup
      | refused _ _ hup => simp [hqueue] at hup
      | requested hclient hfresh hserver hfresh' hup hdown hrequested =>
          rw [hqueue] at hup
          cases hup
          exact linked_init hids h now hclient hfresh hserver hfresh' hdown hrequested
      | joined hclient hserver hagrees =>
          -- Only media is in the queue, and agreement says that it is accepted.
          rw [hqueue] at hagrees
          obtain ⟨headers, body, rfl⟩ := hagrees.onlyMediaToServer frame List.mem_cons_self
          obtain ⟨server', hreceive, hagrees'⟩ := hagrees.serverReceives
          obtain ⟨hstate, hsent, -⟩ := alike_serverReceive_media o.options o.server now hserver
            h.unchallenged hreceive
          unfold Link.byServer
          rw [hstate, hsent]
          refine ⟨h.unchallenged, .joined hclient hserver ?_⟩
          show Agrees o.runtime l.client.registry server' rest (l.toClient ++ [])
          rw [List.append_nil]
          exact hagrees'

theorem linked_deliverToClient (h : Linked o.runtime l) (now : ℤ) :
    Linked o.runtime (l.step o (.deliverToClient now)) := by
  unfold Link.step
  cases hqueue : l.toClient with
  | nil => exact h
  | cons frame rest =>
      dsimp only
      unfold Link.byClient
      cases h.phase with
      | idle _ _ _ _ _ hdown => simp [hqueue] at hdown
      | requested _ _ _ _ _ hdown => simp [hqueue] at hdown
      | acknowledged hclient hserver hup hdown hconfirm hagrees =>
          -- The media that the server sent behind the init-ack stays in agreement.
          rw [hqueue] at hdown
          cases hdown
          obtain ⟨hestablished, hregistry, hsent⟩ :=
            alone_clientReceive_ack o.client now hclient hconfirm
          refine ⟨h.unchallenged, .joined hestablished hserver ?_⟩
          show Agrees o.runtime _ l.server.registry (l.toServer ++ sentFrames _) rest
          rw [hregistry, hsent, hup]
          exact hagrees
      | joined hclient hserver hagrees =>
          rw [hqueue] at hagrees
          obtain ⟨headers, body, rfl⟩ := hagrees.onlyMediaToClient frame List.mem_cons_self
          obtain ⟨client', hreceive, hagrees'⟩ := hagrees.clientReceives
          obtain ⟨hstate, hsent, -⟩ := alike_clientReceive_media o.client now hclient hreceive
          rw [hstate, hsent]
          refine ⟨h.unchallenged, .joined hclient hserver ?_⟩
          show Agrees o.runtime client' l.server.registry (l.toServer ++ []) rest
          rw [List.append_nil]
          exact hagrees'
      | refused _ hserver hup hdown =>
          rcases hdown with hdown | ⟨hclient, refusal, hdown⟩
          · simp [hqueue] at hdown
          · rw [hqueue] at hdown
            cases hdown
            obtain ⟨hclosed, hsent⟩ := alone_clientReceive_error o.client now refusal hclient
            refine ⟨h.unchallenged, .refused (.inr hclosed) hserver ?_ (.inl rfl)⟩
            show l.toServer ++ sentFrames _ = []
            rw [hsent, hup]
            rfl

end Step

/-! ### Whole runs -/

section Run

variable {o : LinkOptions} {l : Link} {client : Session}

theorem linked_step (hids : DistinctIds o.options) (h : Linked o.runtime l) (event : Event) :
    Linked o.runtime (l.step o event) := by
  cases event with
  | start options => exact linked_start h options
  | clientSends streamId body timestamp => exact linked_clientSends h streamId body timestamp
  | serverSends streamId body timestamp => exact linked_serverSends h streamId body timestamp
  | deliverToServer now => exact linked_deliverToServer hids h now
  | deliverToClient now => exact linked_deliverToClient h now

theorem linked_foldl (hids : DistinctIds o.options) (events : List Event) :
    ∀ {l : Link}, Linked o.runtime l → Linked o.runtime (Link.run o l events) := by
  induction events with
  | nil => exact fun h => h
  | cons event events ih => exact fun h => ih (linked_step hids h event)

/-- **Every run of a link keeps its invariant.** -/
theorem linked_run (hids : DistinctIds o.options) {streams : List ResumeStreamDeclaration}
    {version : Text} (hclient : Session.createClient streams version = .ok client)
    (events : List Event) :
    Linked o.runtime (Link.run o { client, server := .createServer } events) := by
  apply linked_foldl hids
  refine ⟨rfl, ?_⟩
  unfold Session.createClient at hclient
  cases hvalid : validateStreamDeclarations
      (streams.map ResumeStreamDeclaration.toStreamDeclaration) maxStreamCount with
  | error e =>
      rw [hvalid] at hclient
      cases hclient
  | ok _ =>
      rw [hvalid] at hclient
      cases hclient
      exact .idle rfl ⟨rfl, rfl⟩ rfl ⟨rfl, rfl⟩ rfl rfl

end Run

/-! ### Agreement -/

/-- A stream in step in one direction: every frame in flight has an increment, and the
offset that the sender uses next is the one that the receiver expects plus all of them. -/
def InStep (rt : Runtime) (sender receiver : StreamRegistry) (queue : List CulpeoMessage)
    (id : Text) (stream : ConfirmedStreamDeclaration) : Prop :=
  (∀ frame ∈ inFlight id queue, ∃ n,
    computeOffsetIncrement rt stream.offsetType frame.2.length stream.contentType = .ok n) ∧
  ∃ next expected, sender.offsets.nextSend id = some next ∧
    receiver.offsets.expectedReceive id = some expected ∧
    next = expected + total (frameIncrement rt stream) (inFlight id queue)

theorem Flow.inStep {rt : Runtime} {role : EndpointRole} {sender receiver : StreamRegistry}
    {queue : List CulpeoMessage} (h : Flow rt role sender receiver queue) {id : Text}
    {stream : ConfirmedStreamDeclaration} (hstream : sender.confirmedStreams id = some stream) :
    InStep rt sender receiver queue id stream := by
  obtain ⟨next, expected, hposition⟩ := h.positions id stream hstream
  refine ⟨fun frame hmem => ?_, next, expected, hposition.sends, hposition.expects, hposition.sum⟩
  obtain ⟨message, hqueued, hmedia⟩ := List.mem_filterMap.mp hmem
  unfold mediaOn at hmedia
  split at hmedia
  · rename_i headers body
    obtain ⟨rfl, hframe⟩ := Option.ite_none_right_eq_some.mp hmedia
    cases hframe
    obtain ⟨stream', hwell⟩ := h.wellSent headers body hqueued
    obtain rfl : stream = stream' := Option.some.inj (hstream.symm.trans hwell.found)
    exact hwell.counts
  · cases hmedia

/-- **End-to-end agreement of media.**  Once the client has processed the init-ack, both
sessions have confirmed the same streams, and each of them is in step in every direction
that its type allows.  At any time the media frame at the head of a queue is accepted. -/
theorem media_agreement {o : LinkOptions} (hids : DistinctIds o.options)
    {streams : List ResumeStreamDeclaration} {version : Text} {client : Session}
    (hclient : Session.createClient streams version = .ok client) (events : List Event) :
    let l := Link.run o { client, server := .createServer } events
    (l.client.stateValue = .established →
      l.server.registry.confirmedStreams = l.client.registry.confirmedStreams ∧
      ∀ id stream, l.client.registry.confirmedStreams id = some stream →
        (allowsSender stream.type .client = true →
          InStep o.runtime l.client.registry l.server.registry l.toServer id stream) ∧
        (allowsSender stream.type .server = true →
          InStep o.runtime l.server.registry l.client.registry l.toClient id stream)) ∧
    (∀ headers body rest now, l.toServer = .media headers body :: rest →
      (alone (serverReceive o.runtime o.options o.server now (.media headers body))
        l.server).result = .ok ()) ∧
    ∀ headers body rest now, l.toClient = .media headers body :: rest →
      (alone (clientReceive o.runtime o.client now (.media headers body)) l.client).result =
        .ok () := by
  intro l
  have h : Linked o.runtime l := linked_run hids hclient events
  refine ⟨fun hstate => ?_, fun headers body rest now hqueue => ?_,
    fun headers body rest now hqueue => ?_⟩
  · obtain ⟨-, hagrees⟩ := h.phase.client_established hstate
    refine ⟨hagrees.up.streams, fun id stream hstream => ⟨fun _ => ?_, fun _ => ?_⟩⟩
    · exact hagrees.up.inStep hstream
    · rw [hagrees.down.streams] at hstream
      exact hagrees.down.inStep hstream
  · obtain ⟨hserver, hagrees⟩ := h.phase.media_toServer hqueue
    rw [hqueue] at hagrees
    obtain ⟨server', hreceive, -⟩ := hagrees.serverReceives
    exact (alike_serverReceive_media o.options o.server now hserver h.unchallenged hreceive).2.2
  · obtain ⟨hclient, hagrees⟩ := h.phase.media_toClient hqueue
    rw [hqueue] at hagrees
    obtain ⟨client', hreceive, -⟩ := hagrees.clientReceives
    exact (alike_clientReceive_media o.client now hclient hreceive).2.2

/-- One duplex stream of messages, which both sides resume at its seventh message. -/
def resumedMessages : SessionSnapshot where
  version := utf16 "0.3"
  sessionId := utf16 "s"
  bufferWindowMs := 1000
  streams := [
    { contentType := utf16 "text/plain", type := .duplex, offsetType := .message
      id := utf16 "m", resumeOffset := some 7 }]

def resumingLink : LinkOptions where
  runtime := ⟨List.map lowerAscii⟩
  options :=
    { generateId := fun n => List.replicate n (unit 'a')
      resumeSnapshot := some resumedMessages }

def resumingClient : Session where
  registry := {
    localRole := .client
    plannedStreams := [
      { contentType := utf16 "text/plain", type := .duplex, offsetType := .message }] }

/-- The handshake, then two messages to the server, one of which arrives, and one message
that overtakes them to the client. -/
def resumingEvents : List Event := [
  .start
    { authorization := utf16 "Bearer t", bufferWindowMs := 1000
      resumeFrom := some resumedMessages },
  .deliverToServer 0, .deliverToClient 0, .clientSends (utf16 "m") [1, 2] none,
  .clientSends (utf16 "m") [3] none, .serverSends (utf16 "m") [4] none, .deliverToServer 1]

theorem media_agreement_resumed :
    let l := Link.run resumingLink { client := resumingClient, server := .createServer }
      resumingEvents
    l.client.registry.offsets.nextSend (utf16 "m") = some 9 ∧
      l.server.registry.confirmedStreams = l.client.registry.confirmedStreams ∧
      InStep resumingLink.runtime l.client.registry l.server.registry l.toServer (utf16 "m")
        { contentType := utf16 "text/plain", type := .duplex, offsetType := .message
          id := utf16 "m", resumeOffset := some 7 } := by
  have hids : DistinctIds resumingLink.options := by
    refine ⟨List.replicate_left_injective (unit 'a'), fun snapshot h => ?_⟩
    cases h
    exact List.nodup_singleton _
  have hagrees := (media_agreement hids
    (show Session.createClient resumingClient.registry.plannedStreams (utf16 "0.3") =
      .ok resumingClient from rfl) resumingEvents).1 (by decide)
  exact ⟨by decide, hagrees.1, (hagrees.2 _ _ (by decide)).1 rfl⟩

/-! ### Snapshots -/

/-- A snapshot has the ids of the registry. -/
theorem snapshot_ids {registry : StreamRegistry} {sessionId version : Text} {bufferWindowMs : ℤ}
    {snapshot : SessionSnapshot}
    (h : registry.snapshot sessionId version bufferWindowMs = .ok snapshot) :
    snapshot.streams.map ConfirmedStreamDeclaration.id =
      registry.confirmedOrder.map ConfirmedStreamDeclaration.id := by
  obtain ⟨streams, hstreams, h⟩ := exists_of_bind_ok h
  cases h
  refine map_mapM_ok (fun {stream resumed} hresumed => ?_) hstreams
  obtain ⟨resumeOffset, -, hresumed⟩ := exists_of_bind_ok hresumed
  cases hresumed
  rfl

/-- **The snapshots of a link list no id twice**, so that a server may resume from them. -/
theorem snapshot_nodup {o : LinkOptions} (hids : DistinctIds o.options)
    {streams : List ResumeStreamDeclaration} {version : Text} {client : Session}
    (hclient : Session.createClient streams version = .ok client) (events : List Event)
    {s : Session} (hs : s = (Link.run o { client, server := .createServer } events).client ∨
      s = (Link.run o { client, server := .createServer } events).server)
    (hstate : s.stateValue = .established) {now : ℤ} {snapshot : SessionSnapshot}
    (h : createSnapshot now s = .ok snapshot) :
    (snapshot.streams.map ConfirmedStreamDeclaration.id).Nodup := by
  have hphase := (linked_run hids hclient events).phase
  unfold createSnapshot at h
  split at h
  · cases h
  · obtain ⟨taken, htaken, h⟩ := exists_of_bind_ok h
    cases h
    show (taken.streams.map ConfirmedStreamDeclaration.id).Nodup
    rw [snapshot_ids htaken]
    rcases hs with rfl | rfl
    · exact (hphase.client_established hstate).2.clientIds
    · exact hphase.server_established hstate

end CulpeoStream.Typescript
