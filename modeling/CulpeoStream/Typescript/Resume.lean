import Mathlib.Data.List.Forall2
import CulpeoStream.Typescript.Cut

/-!
# Resumption after a cut

Both ends take a snapshot after a cut, and a new client resumes with its snapshot at a new
server that holds the other one.  A snapshot notes one number for each stream, the start
of the last frame in either direction (`OffsetState.cursor`).

* **The two snapshots fit together** (`createSnapshot_ok`, `consistent_run`): the client
  asks for the streams of the server in their order, so each of them meets its own entry.
* **When resumption works** (`resumption_after_cut_iff`): the server acknowledges, and no
  receiver is made to skip data, exactly when the number that the client noted is not
  beyond the one of the server nor beyond what the receivers expect.
-/

namespace CulpeoStream.Typescript

open Checks Message Utf16 Resumption

/-! ### Snapshots -/

/-- The start of the last frame, in whichever direction. -/
def OffsetState.cursor (state : OffsetState) : ℤ :=
  max (state.lastReceivedOffset.getD 0) (state.lastSentOffset.getD 0)

def OffsetTracker.cursor (tracker : OffsetTracker) (streamId : Text) : ℤ :=
  ((tracker.states streamId).map OffsetState.cursor).getD 0

theorem getResumeOffset_ok {tracker : OffsetTracker} {streamId : Text} {offset : ℤ}
    (h : tracker.getResumeOffset streamId = .ok offset) :
    offset = tracker.cursor streamId ∧ ∃ state, tracker.states streamId = some state := by
  unfold OffsetTracker.getResumeOffset at h
  split at h
  · cases h
  · rename_i state hstate
    cases h
    have hfound := mustGet_ok hstate
    refine ⟨?_, state, hfound⟩
    unfold OffsetTracker.cursor
    rw [hfound]
    rfl

/-- **What a snapshot says.** -/
theorem createSnapshot_ok {now : ℤ} {s : Session} {snapshot : SessionSnapshot}
    (h : createSnapshot now s = .ok snapshot) :
    s.sessionIdValue = some snapshot.sessionId ∧
      snapshot.streams = s.registry.confirmedOrder.map (fun stream =>
        { stream with resumeOffset := some (s.registry.offsets.cursor stream.id) }) ∧
      ∀ stream ∈ s.registry.confirmedOrder,
        ∃ state, s.registry.offsets.states stream.id = some state := by
  unfold createSnapshot at h
  split at h
  · cases h
  · rename_i sessionId hid
    obtain ⟨taken, htaken, h⟩ := exists_of_bind_ok h
    cases h
    obtain ⟨streams, hstreams, htaken⟩ := exists_of_bind_ok htaken
    cases htaken
    refine ⟨hid, ?_, fun stream hmem => ?_⟩
    · have hmap : streams.map id = s.registry.confirmedOrder.map
          fun stream : ConfirmedStreamDeclaration =>
            { stream with resumeOffset := some (s.registry.offsets.cursor stream.id) } := by
        refine map_mapM_ok (fun {stream resumed} hresumed => ?_) hstreams
        obtain ⟨offset, hoffset, hresumed⟩ := exists_of_bind_ok hresumed
        cases hresumed
        rw [(getResumeOffset_ok hoffset).1]
        rfl
      rwa [List.map_id] at hmap
    · obtain ⟨resumed, hresumed⟩ := exists_ok_of_mapM_ok hstreams stream hmem
      obtain ⟨offset, hoffset, -⟩ := exists_of_bind_ok hresumed
      exact (getResumeOffset_ok hoffset).2

/-! ### Lists in the same order -/

/-- Two lists with the same declarations, side by side. -/
theorem exists_pairs :
    ∀ {streams : List ResumeStreamDeclaration} {order : List ConfirmedStreamDeclaration},
      order.map ConfirmedStreamDeclaration.toStreamDeclaration =
        streams.map ResumeStreamDeclaration.toStreamDeclaration →
      ∃ pairs : List (ResumeStreamDeclaration × ConfirmedStreamDeclaration),
        pairs.map Prod.fst = streams ∧ pairs.map Prod.snd = order ∧
          ∀ p ∈ pairs, p.2.toStreamDeclaration = p.1.toStreamDeclaration := by
  intro streams
  induction streams with
  | nil =>
      intro order h
      rw [List.map_nil, List.map_eq_nil_iff] at h
      exact ⟨[], rfl, h.symm, fun p hp => absurd hp List.not_mem_nil⟩
  | cons stream rest ih =>
      intro order h
      obtain ⟨confirmed, order', rfl, hsame, hrest⟩ := List.map_eq_cons_iff.mp h
      obtain ⟨pairs, hplanned, horder, hpairs⟩ := ih hrest
      refine ⟨(stream, confirmed) :: pairs, ?_, ?_, fun p hp => ?_⟩
      · rw [List.map_cons, hplanned]
      · rw [List.map_cons, horder]
      · rcases List.mem_cons.mp hp with rfl | hp
        · exact hsame
        · exact hpairs p hp

section Pairs

variable {ι : Type} {f : ι → ConfirmedStreamDeclaration} {g : ι → ResumeStreamDeclaration}

/-- A client whose plan is in the order of its snapshot. -/
theorem matchSnapshot_pairs :
    ∀ {pairs : List ι},
      (∀ p ∈ pairs, (f p).toStreamDeclaration = (g p).toStreamDeclaration) →
      StreamRegistry.matchSnapshot (pairs.map f) (pairs.map g) =
        pairs.map fun p =>
          { g p with id := some (f p).id, resumeOffset := some ((f p).resumeOffset.getD 0) } := by
  intro pairs
  induction pairs with
  | nil =>
      intro _
      rfl
  | cons p pairs ih =>
      intro hsame
      have hhere : logicalKey (f p).toStreamDeclaration = logicalKey (g p).toStreamDeclaration := by
        rw [hsame p List.mem_cons_self]
      rw [List.map_cons, List.map_cons, StreamRegistry.matchSnapshot, List.findIdx?_cons,
        decide_eq_true hhere]
      show _ :: StreamRegistry.matchSnapshot (pairs.map f) (pairs.map g) = _
      rw [ih fun q hq => hsame q (List.mem_cons_of_mem p hq)]
      rfl

/-- A server whose snapshot is in the order of the requested streams. -/
theorem resumeStreams_pairs :
    ∀ {pairs : List ι},
      (∀ p ∈ pairs, (f p).toStreamDeclaration = (g p).toStreamDeclaration) →
      resumeStreams (pairs.map f) (pairs.map g) =
        if ∀ p ∈ pairs, (g p).resumeOffset.getD ((f p).resumeOffset.getD 0) ≤
            (f p).resumeOffset.getD 0 then
          .ok (pairs.map fun p =>
            { f p with
              resumeOffset := some ((g p).resumeOffset.getD ((f p).resumeOffset.getD 0)) }, [])
        else .error declarationsDiffer := by
  intro pairs
  induction pairs with
  | nil =>
      intro _
      rfl
  | cons p pairs ih =>
      intro hsame
      have hhere := hsame p List.mem_cons_self
      rw [List.map_cons, List.map_cons, resumeStreams, List.findIdx?_cons,
        decide_eq_true hhere]
      simp only [if_true, List.getElem?_cons_zero, List.eraseIdx_cons_zero, List.forall_mem_cons]
      rw [ih fun q hq => hsame q (List.mem_cons_of_mem p hq)]
      by_cases hp : (g p).resumeOffset.getD ((f p).resumeOffset.getD 0) ≤
          (f p).resumeOffset.getD 0
      · rw [if_neg (not_lt.mpr hp)]
        by_cases hall : ∀ q ∈ pairs, (g q).resumeOffset.getD ((f q).resumeOffset.getD 0) ≤
            (f q).resumeOffset.getD 0
        · rw [if_pos hall, if_pos ⟨hp, hall⟩]
          rfl
        · rw [if_neg hall, if_neg fun h => hall h.2]
          rfl
      · rw [if_pos (not_le.mp hp), if_neg fun h => hp h.1]

end Pairs

/-! ### The answer of a new server -/

theorem registerStream_succeeds (tracker : OffsetTracker) (stream : ConfirmedStreamDeclaration) :
    ∃ tracker', StreamRegistry.registerStream tracker stream = .ok tracker' := by
  have hregistered : ∃ state, (tracker.register stream.id (stream.resumeOffset.getD 0)).mustGet
      stream.id = .ok state := by
    unfold OffsetTracker.mustGet OffsetTracker.register
    cases hstate : tracker.states stream.id with
    | some state => exact ⟨state, by simp [hstate]⟩
    | none =>
        refine ⟨⟨stream.resumeOffset.getD 0, stream.resumeOffset.getD 0, none, none⟩, ?_⟩
        simp [OffsetTracker.states_set]
  obtain ⟨state, hstate⟩ := hregistered
  unfold StreamRegistry.registerStream
  dsimp only
  split
  · exact ⟨_, rfl⟩
  · unfold OffsetTracker.seedResumeOffset
    rw [hstate]
    exact ⟨_, rfl⟩

theorem registerStreams_succeed :
    ∀ (streams : List ConfirmedStreamDeclaration) (tracker : OffsetTracker),
      ∃ tracker', streams.foldlM StreamRegistry.registerStream tracker = .ok tracker' := by
  intro streams
  induction streams with
  | nil => exact fun tracker => ⟨tracker, rfl⟩
  | cons stream rest ih =>
      intro tracker
      obtain ⟨next, hnext⟩ := registerStream_succeeds tracker stream
      obtain ⟨tracker', hrest⟩ := ih next
      refine ⟨tracker', ?_⟩
      rw [List.foldlM_cons, hnext]
      exact hrest

/-- Valid streams are confirmed. -/
theorem confirm_succeeds (registry : StreamRegistry) {streams : List ConfirmedStreamDeclaration}
    (h : validateStreamDeclarations
      (streams.map ConfirmedStreamDeclaration.toStreamDeclaration) maxStreamCount = .ok ()) :
    ∃ registry', registry.confirm streams = .ok registry' := by
  obtain ⟨offsets, hoffsets⟩ := registerStreams_succeed streams registry.offsets
  refine ⟨{ registry with
    offsets, confirmedStreams := StreamRegistry.streamMap streams, confirmedOrder := streams }, ?_⟩
  unfold StreamRegistry.confirm
  rw [h, hoffsets]
  rfl

theorem sent_refusal (callbacks : Callbacks) (frame : InitErrorFrame) (s : Session) :
    sentFrames (alone (sendInitErrorAndClose callbacks frame) s).outputs =
      [.initError frame] :=
  (@alike_notify s callbacks (.initError frame)
    (dispatch (.initError frame) (.critical fun s => ({ s with stateValue := .closed }, done)))).2.1

/-- **When a server acknowledges an init, and with which streams.** -/
theorem handleInit_ack_iff (options : ServerSessionOptions) (callbacks : Callbacks) (now : ℤ)
    (headers : InitHeaders) (body : InitBody) (s : Session)
    (P : List ConfirmedStreamDeclaration → Prop) :
    (∃ ackHeaders ackBody,
      sentFrames (alone (handleInit options callbacks now headers body s).2
        (handleInit options callbacks now headers body s).1).outputs =
          [.initAck ackHeaders ackBody] ∧ P ackBody.streams) ↔
    checkInit options now headers body = .ok () ∧
      ∃ streams, buildServerConfirmedStreams body.streams options.generateId
          (if headers.sessionId.isSome then s.generated else s.generated + 1)
          options.resumeSnapshot = .ok streams ∧ P streams := by
  unfold handleInit
  cases hcheck : checkInit options now headers body with
  | error frame =>
      dsimp only
      rw [sent_refusal]
      constructor
      · rintro ⟨ackHeaders, ackBody, hsent, -⟩
        cases hsent
      · rintro ⟨hok, -⟩
        cases hok
  | ok _ =>
      dsimp only
      cases hbuild : buildServerConfirmedStreams body.streams options.generateId
          (if headers.sessionId.isSome then s.generated else s.generated + 1)
          options.resumeSnapshot with
      | error e =>
          dsimp only
          rw [sent_refusal]
          constructor
          · rintro ⟨ackHeaders, ackBody, hsent, -⟩
            cases hsent
          · rintro ⟨-, streams, hok, -⟩
            cases hok
      | ok streams =>
          dsimp only
          have hvalid := checkInit_ok hcheck
          rw [← build_declarations hbuild] at hvalid
          obtain ⟨registry, hconfirm⟩ := confirm_succeeds s.registry hvalid
          obtain ⟨ackHeaders, -, -, -, hsent⟩ := acceptInit_alone options callbacks headers body
            (headers.sessionId.getD (options.generateId s.generated))
            (s := { s with
              stateValue := .initializing
              generated := if options.resumeSnapshot.isSome then
                  if headers.sessionId.isSome then s.generated else s.generated + 1
                else (if headers.sessionId.isSome then s.generated else s.generated + 1) +
                  streams.length }) hconfirm
          rw [hsent]
          constructor
          · rintro ⟨ackHeaders', ackBody, hack, hP⟩
            cases hack
            exact ⟨rfl, streams, rfl, hP⟩
          · rintro ⟨-, streams', hstreams, hP⟩
            cases hstreams
            exact ⟨ackHeaders, _, rfl, hP⟩

/-- The checks before the streams of a resumption, when the session can be resumed. -/
theorem checkInit_resumption {options : ServerSessionOptions} {now : ℤ} (headers : InitHeaders)
    (body : InitBody) {snapshot : SessionSnapshot}
    (hvalid : validateStreamDeclarations
      (body.streams.map ResumeStreamDeclaration.toStreamDeclaration) maxStreamCount = .ok ())
    (hversion : body.version ∈ options.supportedVersions)
    (hresume : options.resumeSnapshot = some snapshot)
    (hid : headers.sessionId = some snapshot.sessionId) (hwindow : snapshot.bufferWindowMs ≠ 0)
    (hexpiry : ∀ disconnectedAtMs,
      (options.disconnectedAtMs <|> snapshot.disconnectedAtMs) = some disconnectedAtMs →
      now.tdiv 1000 ≤ disconnectedAtMs + snapshot.bufferWindowMs) :
    checkInit options now headers body = .ok () ↔
      (trim headers.authorization).isEmpty = false := by
  have hmay : mayResume options now snapshot.sessionId = true := by
    unfold mayResume
    rw [hresume]
    cases hdisconnected : options.disconnectedAtMs <|> snapshot.disconnectedAtMs with
    | none => simp [hdisconnected]
    | some disconnectedAtMs =>
        have hle := hexpiry disconnectedAtMs hdisconnected
        simp [hdisconnected, hwindow, hle]
  unfold checkInit
  rw [hvalid]
  cases (trim headers.authorization).isEmpty with
  | true => simp
  | false => simp [hversion, hid, hmay]

/-- A resumption whose streams are in the order of the snapshot. -/
theorem build_pairs {ι : Type} {f : ι → ConfirmedStreamDeclaration}
    {g : ι → ResumeStreamDeclaration} {pairs : List ι} (generateId : ℕ → Text) (k : ℕ)
    {snapshot : SessionSnapshot} (hstreams : snapshot.streams = pairs.map f)
    (hsame : ∀ p ∈ pairs, (f p).toStreamDeclaration = (g p).toStreamDeclaration)
    (P : List ConfirmedStreamDeclaration → Prop) :
    (∃ streams, buildServerConfirmedStreams (pairs.map g) generateId k (some snapshot) =
        .ok streams ∧ P streams) ↔
      (∀ p ∈ pairs, (g p).resumeOffset.getD ((f p).resumeOffset.getD 0) ≤
          (f p).resumeOffset.getD 0) ∧
        P (pairs.map fun p =>
          { f p with
            resumeOffset := some ((g p).resumeOffset.getD ((f p).resumeOffset.getD 0)) }) := by
  have hlength : (pairs.map g).length = snapshot.streams.length := by
    rw [hstreams, List.length_map, List.length_map]
  unfold buildServerConfirmedStreams
  dsimp only
  rw [if_neg (not_not_intro hlength), hstreams, resumeStreams_pairs hsame]
  by_cases hall : ∀ p ∈ pairs, (g p).resumeOffset.getD ((f p).resumeOffset.getD 0) ≤
      (f p).resumeOffset.getD 0
  · rw [if_pos hall]
    constructor
    · rintro ⟨streams, hok, hP⟩
      cases hok
      exact ⟨hall, hP⟩
    · rintro ⟨-, hP⟩
      exact ⟨_, rfl, hP⟩
  · rw [if_neg hall]
    constructor
    · rintro ⟨streams, hok, -⟩
      cases hok
    · rintro ⟨hle, -⟩
      exact absurd hle hall

/-! ### Resumption -/

/-- The offset at which the client asks to resume a stream: what it noted, or if it has
not confirmed the stream what was planned, and the server's own note otherwise. -/
def askedOffset (client server : OffsetTracker) (planned : ResumeStreamDeclaration)
    (streamId : Text) : ℤ :=
  match client.states streamId with
  | some state => state.cursor
  | none => planned.resumeOffset.getD (server.cursor streamId)

/-- The two ends of a stream, at the cut: the client has noted nothing beyond what the
server noted, nothing that the server still expects, and has sent nothing beyond what it
expects itself. -/
structure Reached (client server : OffsetTracker) (planned : ResumeStreamDeclaration)
    (stream : ConfirmedStreamDeclaration) : Prop where
  noted : askedOffset client server planned stream.id ≤ server.cursor stream.id
  up : allowsSender stream.type .client = true →
    ∀ state, server.states stream.id = some state →
      askedOffset client server planned stream.id ≤ state.expectedReceiveOffset
  down : allowsSender stream.type .server = true →
    ∀ state, client.states stream.id = some state →
      state.lastSentOffset.getD 0 ≤ state.expectedReceiveOffset

/-- A stream is confirmed at an offset that is not beyond what its receivers expected. -/
structure NoneSkipped (client server : OffsetTracker) (stream confirmed :
    ConfirmedStreamDeclaration) (offset : ℤ) : Prop where
  same : confirmed = { stream with resumeOffset := some offset }
  up : allowsSender stream.type .client = true →
    ∀ expected, server.expectedReceive stream.id = some expected → offset ≤ expected
  down : allowsSender stream.type .server = true →
    ∀ expected, client.expectedReceive stream.id = some expected → offset ≤ expected

/-- One stream, confirmed at the offset that was asked for. -/
theorem noneSkipped_iff {client server : OffsetTracker} (hnoted : client.Noted)
    {planned : ResumeStreamDeclaration} {stream : ConfirmedStreamDeclaration} :
    (askedOffset client server planned stream.id ≤ server.cursor stream.id ∧
      ∃ offset, NoneSkipped client server stream
        { stream with
          resumeOffset := some (askedOffset client server planned stream.id) } offset) ↔
      Reached client server planned stream := by
  constructor
  · rintro ⟨hle, offset, hsame, hup, hdown⟩
    obtain rfl : askedOffset client server planned stream.id = offset :=
      Option.some.inj (congrArg ConfirmedStreamDeclaration.resumeOffset hsame)
    refine ⟨hle, fun hallowed state hstate => ?_, fun hallowed state hstate => ?_⟩
    · exact hup hallowed _ (by rw [OffsetTracker.expectedReceive, hstate]; rfl)
    · have hbound := hdown hallowed state.expectedReceiveOffset
        (by rw [OffsetTracker.expectedReceive, hstate]; rfl)
      rw [askedOffset, hstate] at hbound
      exact (le_max_right _ _).trans hbound
  · rintro ⟨hle, hup, hdown⟩
    refine ⟨hle, _, rfl, fun hallowed expected hexpected => ?_,
      fun hallowed expected hexpected => ?_⟩
    · obtain ⟨state, hstate, rfl⟩ := Option.map_eq_some_iff.mp hexpected
      exact hup hallowed state hstate
    · -- A frame that was received is not beyond what is expected.
      obtain ⟨state, hstate, rfl⟩ := Option.map_eq_some_iff.mp hexpected
      rw [askedOffset, hstate]
      exact max_le (hnoted stream.id state hstate) (hdown hallowed state hstate)

/-- What a new server answers to a new client that resumes. -/
theorem resumed_toClient {o : LinkOptions} {streams : List ResumeStreamDeclaration}
    {version : Text} {client : Session}
    (hclient : Session.createClient streams version = .ok client) {options : StartOptions}
    {snapshot : SessionSnapshot} (hfrom : options.resumeFrom = some snapshot) (now : ℤ) :
    (Link.run o { client, server := .createServer }
        [.start options, .deliverToServer now]).toClient =
      let handled := handleInit o.options o.server now
        { authorization := options.authorization
          bufferWindow := some options.bufferWindowMs
          sessionId := some snapshot.sessionId }
        { version, streams := StreamRegistry.matchSnapshot snapshot.streams streams }
        .createServer
      sentFrames (alone handled.2 handled.1).outputs := by
  obtain ⟨-, rfl⟩ := createClient_ok hclient
  obtain ⟨-, hsent, -⟩ := alike_serverReceive o.runtime o.options o.server now
    (.init
      { authorization := options.authorization
        bufferWindow := some options.bufferWindowMs
        sessionId := some snapshot.sessionId }
      { version, streams := StreamRegistry.matchSnapshot snapshot.streams streams })
    (s := .createServer) rfl
  have hstarted : Link.step o
      { client :=
          { registry := { localRole := .client, plannedStreams := streams }
            versionValue := version }
        server := .createServer } (.start options) =
      { client :=
          { registry := { localRole := .client, plannedStreams := streams }
            versionValue := version
            bufferWindowValue := options.bufferWindowMs
            sessionIdValue := options.resumeFrom.map SessionSnapshot.sessionId
            stateValue := .initializing }
        server := .createServer
        toServer := [.init
          { authorization := options.authorization
            bufferWindow := some options.bufferWindowMs
            sessionId := options.resumeFrom.map SessionSnapshot.sessionId }
          { version
            streams := StreamRegistry.buildInitStreams
              { localRole := .client, plannedStreams := streams } options.resumeFrom }] } := rfl
  unfold Link.run
  rw [List.foldl_cons, List.foldl_cons, List.foldl_nil, hstarted, hfrom]
  exact hsent

theorem matchSnapshot_nil (streams : List ResumeStreamDeclaration) :
    StreamRegistry.matchSnapshot [] streams = streams := by
  induction streams with
  | nil => rfl
  | cons stream rest ih =>
      show stream :: StreamRegistry.matchSnapshot [] rest = stream :: rest
      rw [ih]

/-- **What the client asks for**, stream by stream: the streams of the server, each with
its own offset. -/
theorem requested_pairs {o : LinkOptions} {streams : List ResumeStreamDeclaration}
    {asked : Option Text} {l : Exchange} (h : Consistent o streams asked l)
    {pairs : List (ResumeStreamDeclaration × ConfirmedStreamDeclaration)}
    (hplanned : pairs.map Prod.fst = streams)
    (horder : pairs.map Prod.snd = l.server.state.registry.confirmedOrder)
    (hsame : ∀ p ∈ pairs, p.2.toStreamDeclaration = p.1.toStreamDeclaration)
    {now : ℤ} {snapshot : SessionSnapshot}
    (hsnapshot : createSnapshot now l.client.state = .ok snapshot) :
    ∃ g : ResumeStreamDeclaration × ConfirmedStreamDeclaration → ResumeStreamDeclaration,
      StreamRegistry.matchSnapshot snapshot.streams streams = pairs.map g ∧
      ∀ p ∈ pairs, (g p).toStreamDeclaration = p.1.toStreamDeclaration ∧
        (g p).resumeOffset.getD (l.server.state.registry.offsets.cursor p.2.id) =
          askedOffset l.client.state.registry.offsets l.server.state.registry.offsets p.1
            p.2.id := by
  obtain ⟨-, hstreams, hregistered⟩ := createSnapshot_ok hsnapshot
  rcases h.agrees with ⟨hempty, hnone, -⟩ | ⟨-, -, hequal⟩
  · refine ⟨Prod.fst, ?_, fun p hp => ⟨rfl, ?_⟩⟩
    · rw [hstreams, hempty, List.map_nil, matchSnapshot_nil, hplanned]
    · rw [askedOffset, hnone]
  · refine ⟨fun p =>
      { p.1 with
        id := some p.2.id
        resumeOffset := some (l.client.state.registry.offsets.cursor p.2.id) }, ?_,
      fun p hp => ⟨rfl, ?_⟩⟩
    · rw [hstreams, hequal, ← horder, List.map_map, ← hplanned]
      exact @matchSnapshot_pairs _ (fun p : ResumeStreamDeclaration × ConfirmedStreamDeclaration =>
        { p.2 with resumeOffset := some (l.client.state.registry.offsets.cursor p.2.id) })
        Prod.fst pairs hsame
    · obtain ⟨state, hstate⟩ := hregistered p.2 (by
        rw [hequal, ← horder]
        exact List.mem_map_of_mem hp)
      rw [askedOffset, hstate]
      show l.client.state.registry.offsets.cursor p.2.id = state.cursor
      unfold OffsetTracker.cursor
      rw [hstate]
      rfl

/-- The two ends have the same session. -/
theorem Consistent.sessionId {o : LinkOptions} {streams : List ResumeStreamDeclaration}
    {asked : Option Text} {l : Exchange} (h : Consistent o streams asked l)
    {client server : Text} (hclient : l.client.state.sessionIdValue = some client)
    (hserver : l.server.state.sessionIdValue = some server) : client = server := by
  rcases h.agrees with ⟨-, -, hid⟩ | ⟨-, hid, -⟩
  · exact ((h.serves server hserver).resumed client (hid.symm.trans hclient)).symm
  · exact Option.some.inj (hclient.symm.trans (hid.trans hserver))

/-- **Resumption after a cut.**  Whatever the two sessions did before it, the new server
acknowledges the new client and confirms every stream of the session at an offset that its
receivers had not gone beyond exactly when there is a credential and every stream was
reached at the cut. -/
theorem resumption_after_cut_iff (o : LinkOptions) {streams : List ResumeStreamDeclaration}
    {version : Text} {client : Session}
    (hclient : Session.createClient streams version = .ok client) (steps : List Step)
    {clientNow serverNow : ℤ} {clientSnapshot serverSnapshot : SessionSnapshot}
    (hclientSnapshot : createSnapshot clientNow
      (Exchange.run o (.opened client) steps).client.state = .ok clientSnapshot)
    (hserverSnapshot : createSnapshot serverNow
      (Exchange.run o (.opened client) steps).server.state = .ok serverSnapshot)
    {o' : LinkOptions} (hresume : o'.options.resumeSnapshot = some serverSnapshot)
    (hversion : version ∈ o'.options.supportedVersions)
    (hwindow : serverSnapshot.bufferWindowMs ≠ 0) {now : ℤ}
    (hexpiry : ∀ disconnectedAtMs,
      (o'.options.disconnectedAtMs <|> serverSnapshot.disconnectedAtMs) = some disconnectedAtMs →
      now.tdiv 1000 ≤ disconnectedAtMs + serverSnapshot.bufferWindowMs)
    {options : StartOptions} (hfrom : options.resumeFrom = some clientSnapshot) :
    let l := Exchange.run o (.opened client) steps
    let resumed := Link.run o' { client, server := .createServer }
      [.start options, .deliverToServer now]
    (∃ headers body, resumed.toClient = [.initAck headers body] ∧
      List.Forall₂ (fun stream confirmed => ∃ offset,
          NoneSkipped l.client.state.registry.offsets l.server.state.registry.offsets stream
            confirmed offset)
        l.server.state.registry.confirmedOrder body.streams) ↔
    (trim options.authorization).isEmpty = false ∧
      List.Forall₂ (Reached l.client.state.registry.offsets l.server.state.registry.offsets)
        streams l.server.state.registry.confirmedOrder := by
  intro l resumed
  obtain ⟨asked, h⟩ := consistent_run o hclient steps
  obtain ⟨hclientId, -, -⟩ := createSnapshot_ok hclientSnapshot
  obtain ⟨hserverId, hserverStreams, -⟩ := createSnapshot_ok hserverSnapshot
  obtain ⟨pairs, hplanned, horder, hsame⟩ := exists_pairs (h.serves _ hserverId).declared
  obtain ⟨g, hrequested, hasked⟩ := requested_pairs h hplanned horder hsame hclientSnapshot
  have hid := h.sessionId hclientId hserverId
  have hdeclarations := (createClient_ok hclient).1
  rw [← declarations_matchSnapshot streams clientSnapshot.streams] at hdeclarations
  -- The answer of the new server, as a condition on the streams it would confirm.
  have hanswer := handleInit_ack_iff o'.options o'.server now
    { authorization := options.authorization
      bufferWindow := some options.bufferWindowMs
      sessionId := some clientSnapshot.sessionId }
    { version, streams := StreamRegistry.matchSnapshot clientSnapshot.streams streams }
    .createServer
    (List.Forall₂ (fun stream confirmed => ∃ offset,
        NoneSkipped l.client.state.registry.offsets l.server.state.registry.offsets stream
          confirmed offset)
      l.server.state.registry.confirmedOrder)
  have hcheck := checkInit_resumption
    { authorization := options.authorization
      bufferWindow := some options.bufferWindowMs
      sessionId := some clientSnapshot.sessionId }
    { version, streams := StreamRegistry.matchSnapshot clientSnapshot.streams streams }
    hdeclarations hversion hresume (congrArg some hid) hwindow hexpiry
  show (∃ headers body, (Link.run o' { client, server := .createServer }
    [.start options, .deliverToServer now]).toClient = _ ∧ _) ↔ _
  rw [resumed_toClient hclient hfrom now, hanswer, hcheck]
  refine and_congr_right fun _ => ?_
  have hstreams : serverSnapshot.streams = pairs.map fun p =>
      { p.2 with resumeOffset := some (l.server.state.registry.offsets.cursor p.2.id) } := by
    rw [hserverStreams, ← horder, List.map_map]
    rfl
  dsimp only
  rw [hresume, hrequested, build_pairs _ _ hstreams
    (fun p hp => (hsame p hp).trans (hasked p hp).1.symm)]
  rw [← horder, ← hplanned, List.forall₂_map_left_iff, List.forall₂_map_left_iff,
    List.forall₂_map_right_iff, List.forall₂_map_right_iff, List.forall₂_same, List.forall₂_same,
    ← forall₂_and]
  refine forall₂_congr fun p hp => ?_
  have hcursor : (some (l.server.state.registry.offsets.cursor p.2.id)).getD 0 =
      l.server.state.registry.offsets.cursor p.2.id := rfl
  dsimp only
  rw [hcursor, (hasked p hp).2]
  exact noneSkipped_iff h.clientNoted

/-- One stream of messages to the server. -/
def uploads : List ResumeStreamDeclaration :=
  [{ contentType := utf16 "text/plain", type := .input, offsetType := .message }]

def uploadingClient : Session where
  registry := { localRole := .client, plannedStreams := uploads }

def uploadLink : LinkOptions where
  runtime := ⟨List.map lowerAscii⟩
  options := { generateId := fun n => List.replicate (n + 1) (unit 'a') }

/-- The handshake, `sent` messages of the client, of which `arrived` arrive. -/
def uploadSteps (sent arrived : ℕ) : List Step :=
  [.clientCalls (.start { authorization := utf16 "Bearer t", bufferWindowMs := 1000 }),
    .deliverToServer 0, .serverAnswered 0 (some []), .serverAnswered 0 (some []),
    .deliverToClient 0] ++
  List.replicate sent (.clientCalls (.sendMedia (utf16 "aa") [1] none)) ++
  (List.replicate arrived [.deliverToServer 0, .serverAnswered 0 (some [])]).flatten

/-- The snapshot of an end that noted this offset. -/
def uploadSnapshot (offset : ℤ) : SessionSnapshot where
  version := utf16 "0.3"
  sessionId := utf16 "a"
  bufferWindowMs := 1000
  disconnectedAtMs := some 0
  streams := [
    { contentType := utf16 "text/plain", type := .input, offsetType := .message
      id := utf16 "aa", resumeOffset := some offset }]

/-- A new link whose server holds the snapshot of an end that noted this offset. -/
def uploadLinkAfter (offset : ℤ) : LinkOptions :=
  { uploadLink with
    options := { uploadLink.options with resumeSnapshot := some (uploadSnapshot offset) } }

/-- How a new client resumes. -/
def resumeUploads (offset : ℤ) : StartOptions where
  authorization := utf16 "Bearer t"
  bufferWindowMs := 1000
  resumeFrom := some (uploadSnapshot offset)

/-- After one message that arrived. -/
theorem resumption_after_cut_iff_example :
    ∃ headers body,
      (Link.run (uploadLinkAfter 0) { client := uploadingClient, server := .createServer }
        [.start (resumeUploads 0), .deliverToServer 1]).toClient = [.initAck headers body] ∧
      List.Forall₂ (fun stream confirmed => ∃ offset,
          NoneSkipped
            (Exchange.run uploadLink (.opened uploadingClient)
              (uploadSteps 1 1)).client.state.registry.offsets
            (Exchange.run uploadLink (.opened uploadingClient)
              (uploadSteps 1 1)).server.state.registry.offsets stream confirmed offset)
        (Exchange.run uploadLink (.opened uploadingClient)
          (uploadSteps 1 1)).server.state.registry.confirmedOrder body.streams := by
  have hserver : (Exchange.run uploadLink (.opened uploadingClient)
      (uploadSteps 1 1)).server.state.registry.offsets.states (utf16 "aa") =
        some ⟨0, 1, none, some 0⟩ := by decide
  have horder : (Exchange.run uploadLink (.opened uploadingClient)
      (uploadSteps 1 1)).server.state.registry.confirmedOrder =
        [{ contentType := utf16 "text/plain", type := .input, offsetType := .message
           id := utf16 "aa" }] := by decide
  refine (@resumption_after_cut_iff uploadLink uploads (utf16 "0.3") uploadingClient rfl
    (uploadSteps 1 1) 0 0 (uploadSnapshot 0) (uploadSnapshot 0) rfl rfl (uploadLinkAfter 0) rfl
    (by decide) (by decide) 1 (fun disconnectedAtMs h => ?_) (resumeUploads 0) rfl).mpr
    ⟨by decide, ?_⟩
  · cases h
    decide
  · rw [horder]
    refine .cons ⟨by decide, fun _ state hstate => ?_, nofun⟩ .nil
    cases hserver.symm.trans hstate
    decide

/-- After two messages of which one arrived: the client asks for the second one, which the
server does not know of, and the resumption is refused. -/
theorem resumption_after_cut_refused :
    createSnapshot 0 (Exchange.run uploadLink (.opened uploadingClient)
        (uploadSteps 2 1)).client.state = .ok (uploadSnapshot 1) ∧
      createSnapshot 0 (Exchange.run uploadLink (.opened uploadingClient)
        (uploadSteps 2 1)).server.state = .ok (uploadSnapshot 0) ∧
      (Link.run (uploadLinkAfter 0) { client := uploadingClient, server := .createServer }
        [.start (resumeUploads 1), .deliverToServer 1]).toClient =
          [.initError { code := .invalidStreams, reason := declarationsDiffer.message }] :=
  ⟨rfl, rfl, by decide⟩

end CulpeoStream.Typescript
