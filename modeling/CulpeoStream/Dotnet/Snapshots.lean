import CulpeoStream.Dotnet.Connections

/-!
# What calls keep of the stored sessions

A call changes a session by replacing one of its streams, by setting its stamp, or by
setting its window, and the id, the content type and the kind of a stream never change.
So a property of sessions that those changes keep, and that new sessions have, holds of
every session at every point of every run (`Persistent.run`).
-/

namespace CulpeoStream.Dotnet

open Checks Message Utf16

/-- A stream object at an earlier and at a later time. -/
structure StreamState.Becomes (old new : StreamState) : Prop where
  id : new.id = old.id
  contentType : new.contentType = old.contentType
  type : new.type = old.type
  purpose : new.purpose = old.purpose
  offsetType : new.offsetType = old.offsetType

/-- A property that the changes of a session keep. -/
structure Persistent (I : SessionSnapshot → Prop) : Prop where
  putStream : ∀ {snapshot old new}, I snapshot → old ∈ snapshot.streams →
    StreamState.Becomes old new → I (snapshot.putStream new)
  stamp : ∀ {snapshot}, I snapshot → ∀ disconnectedAt, I { snapshot with disconnectedAt }
  window : ∀ {snapshot}, I snapshot → ∀ bufferWindowMs, I { snapshot with bufferWindowMs }
  created : ∀ {env body s options init bufferWindow snapshot},
    parseInitBody env body = .ok init →
    createNewSession env.toRuntime s options init bufferWindow = .ok snapshot → I snapshot

/-- A property of all sessions of a server. -/
def CulpeoSessionServer.All (I : SessionSnapshot → Prop) (server : CulpeoSessionServer) : Prop :=
  ∀ snapshot ∈ server.snapshots, I snapshot

theorem StreamState.becomes_recordFrame (stream : StreamState) (offset : Int64) (now : Ticks) :
    StreamState.Becomes stream (stream.recordFrame offset now) := ⟨rfl, rfl, rfl, rfl, rfl⟩

theorem StreamState.Becomes.advanceOffset {old stream advanced : StreamState}
    (h : StreamState.Becomes old stream) {payloadLength : ℕ}
    (hadvance : stream.advanceOffset payloadLength = .ok advanced) :
    StreamState.Becomes old advanced := by
  unfold StreamState.advanceOffset at hadvance
  split at hadvance
  · cases hadvance
  · cases hadvance
    exact ⟨h.id, h.contentType, h.type, h.purpose, h.offsetType⟩

section Parts

variable {I : SessionSnapshot → Prop} {e e' : Endpoint}

theorem mem_of_mem_modify {α : Type} {as : List α} {ref : ℕ} {f : α → α} {b : α}
    (h : b ∈ as.modify ref f) : b ∈ as ∨ ∃ a, as[ref]? = some a ∧ b = f a := by
  obtain ⟨k, hk⟩ := List.mem_iff_getElem?.mp h
  rw [List.getElem?_modify] at hk
  obtain ⟨a, ha, hb⟩ := Option.map_eq_some_iff.mp hk
  by_cases href : ref = k
  · rw [if_pos href] at hb
    exact .inr ⟨a, href ▸ ha, hb.symm⟩
  · rw [if_neg href] at hb
    exact .inl (List.mem_of_getElem? (ha.trans (congrArg some hb)))

/-- A change of the session that the connection holds. -/
theorem all_modifySnapshot (h : e.server.All I) {f : SessionSnapshot → SessionSnapshot}
    (hf : ∀ snapshot, e.snapshot = some snapshot → I (f snapshot)) :
    (e.modifySnapshot f).server.All I := by
  unfold Endpoint.modifySnapshot
  split
  · exact h
  · rename_i ref href
    intro snapshot hmem
    rcases mem_of_mem_modify hmem with hold | ⟨old, hold, rfl⟩
    · exact h snapshot hold
    · refine hf old ?_
      unfold Endpoint.snapshot
      rw [href]
      exact hold

theorem mem_snapshots {snapshot : SessionSnapshot} (h : e.snapshot = some snapshot) :
    snapshot ∈ e.server.snapshots := by
  obtain ⟨ref, -, hget⟩ := Option.bind_eq_some_iff.mp h
  exact List.mem_of_getElem? hget

theorem all_stampDisconnected (hI : Persistent I) (h : e.server.All I) (now : Ticks) :
    (e.stampDisconnected now).server.All I := by
  unfold Endpoint.stampDisconnected
  split
  · intro snapshot hmem
    rw [show (CulpeoSessionServer.saveSession _ _ _).snapshots = _ from
      snapshots_saveSession _ _ _] at hmem
    exact all_modifySnapshot h (fun old hold => hI.stamp (h old (mem_snapshots hold)) _) snapshot
      hmem
  · exact h

theorem all_closeOnViolation (hI : Persistent I) (h : e.server.All I) (now : Ticks) (ex : Exn) :
    (e.closeOnViolation now ex).1.server.All I := by
  cases ex with
  | protocolValidation code reason =>
      exact all_stampDisconnected (e := e.setState .closed) hI h now
  | _ => exact h

theorem all_putStream (hI : Persistent I) (h : e.server.All I) {streamId : Text}
    {old new : StreamState} (hopen : e.openStream streamId = some old)
    (hnew : StreamState.Becomes old new) :
    (e.modifySnapshot (·.putStream new)).server.All I := by
  rw [Endpoint.openStream, if_pos (openStream_established hopen)] at hopen
  obtain ⟨snapshot, hsnapshot, hstream⟩ := Option.bind_eq_some_iff.mp hopen
  refine all_modifySnapshot h fun snapshot' hsnapshot' => ?_
  obtain rfl : snapshot = snapshot' := Option.some.inj (hsnapshot.symm.trans hsnapshot')
  exact hI.putStream (h snapshot (mem_snapshots hsnapshot)) (List.mem_of_find?_eq_some hstream)
    hnew

theorem all_handleIncomingMedia (hI : Persistent I) (h : e.server.All I) (rt : Runtime)
    (now : Ticks) (frame : CulpeoMessage) :
    (e.handleIncomingMedia rt now frame).1.server.All I := by
  unfold Endpoint.handleIncomingMedia
  split
  · exact all_closeOnViolation hI h now _
  · rename_i stream offset hcheck
    obtain ⟨id, -, hopen, -, -⟩ := checkMedia_ok hcheck
    have hrecorded := stream.becomes_recordFrame offset now
    dsimp only
    split
    · exact all_closeOnViolation hI (all_putStream hI h hopen hrecorded) now _
    · rename_i advanced hadvance
      exact all_putStream hI h hopen (hrecorded.advanceOffset hadvance)

theorem all_sendMedia (hI : Persistent I) (h : e.server.All I) (now : Ticks) (streamId : Text)
    (payload : Bytes) (timestamp : Int64) :
    (e.sendMedia now streamId payload timestamp).1.server.All I := by
  unfold Endpoint.sendMedia
  split
  · exact h
  · rename_i stream hget
    have hopen := openStream_of_getStreamOrThrow hget
    have hrecorded := stream.becomes_recordFrame stream.currentOffset now
    split
    · exact h
    · dsimp only
      split
      · exact all_putStream hI h hopen hrecorded
      · rename_i advanced hadvance
        exact all_putStream hI h hopen (hrecorded.advanceOffset hadvance)

/-- A timeout closes the connection and leaves the server as it is. -/
theorem timeout_some {now : Ticks} {result : CulpeoProcessResult}
    (h : e.checkPendingAuthTimeout now = some (e', result)) :
    e'.server = e.server ∧ e'.connection.state = .closed := by
  unfold Endpoint.checkPendingAuthTimeout at h
  split at h
  · split at h
    · cases h
    · cases h
      exact ⟨rfl, rfl⟩
  · cases h

theorem server_issueAuthRefresh (env : Environment) (s : Surroundings) (e : Endpoint) :
    (e.issueAuthRefresh env s).1.server = e.server := by
  rcases issueAuthRefresh_cases env s e with ⟨ex, hfailed⟩ | ⟨nonce, -, -, hissued⟩
  · rw [hfailed]
  · rw [hissued]

theorem server_handlePing (env : Environment) (e : Endpoint) (now : Ticks)
    (frame : CulpeoMessage) : (e.handlePing env now frame).1.server = e.server := by
  rcases handlePing_cases env e now frame with ⟨ex, hfailed⟩ | ⟨pings, pongs, -, hhandled⟩
  · rw [hfailed]
  · rw [hhandled]

theorem server_handleAuthResponse (env : Environment) (e : Endpoint) (frame : CulpeoMessage) :
    (e.handleAuthResponse env frame).1.server = e.server := by
  unfold Endpoint.handleAuthResponse
  split
  · rfl
  · split
    · rfl
    · split
      · rfl
      · split
        · rfl
        · rfl

theorem all_controlFrame (hI : Persistent I) (h : e.server.All I) (env : Environment)
    (now : Ticks) (frame : CulpeoMessage) : (e.controlFrame env now frame).1.server.All I := by
  have hclosed := all_stampDisconnected (e := e.setState .closed) hI h now
  unfold Endpoint.controlFrame
  split
  · rw [server_handlePing]
    exact h
  · split
    · rw [server_handleAuthResponse]
      exact h
    · split
      · exact hclosed
      · split
        · exact hclosed
        · exact h

theorem all_handleEstablishedFrame (hI : Persistent I) (h : e.server.All I) (env : Environment)
    (now : Ticks) (frame : CulpeoMessage) :
    (e.handleEstablishedFrame env now frame).1.server.All I := by
  unfold Endpoint.handleEstablishedFrame
  split
  · exact all_handleIncomingMedia hI h env.toRuntime now frame
  · have hcontrol := all_controlFrame hI h env now frame
    dsimp only
    split
    · exact hcontrol
    · exact all_closeOnViolation hI hcontrol now _
    · exact all_closeOnViolation hI hcontrol now _

/-! ### The handshake -/

theorem resumeStream_becomes {window now : Ticks} {declaration : StreamInitDeclaration}
    {existing resumed : StreamState}
    (h : resumeStream window now declaration existing = .ok resumed) :
    StreamState.Becomes existing resumed := by
  rw [(resumeStream_ok h).2]
  exact ⟨rfl, rfl, rfl, rfl, rfl⟩

/-- A declaration means a stream of the session that matches it and is not taken. -/
theorem findExistingStream_some {rt : Runtime} {snapshot : SessionSnapshot}
    {declaration : StreamInitDeclaration} {matched : List Text} {existing : StreamState}
    (h : findExistingStream rt snapshot declaration matched = some existing) :
    existing ∈ snapshot.streams ∧ existing.id ∉ matched := by
  have havailable : ∀ stream : StreamState,
      (!matched.contains stream.id && matchesStream rt stream declaration) = true →
      stream.id ∉ matched := by
    intro stream hstream hmem
    rw [Bool.and_eq_true, Bool.not_eq_true'] at hstream
    rw [List.contains_iff_mem.mpr hmem] at hstream
    exact absurd hstream.1 (by decide)
  unfold findExistingStream at h
  dsimp only at h
  rw [Option.orElse_eq_some] at h
  rcases h with hhinted | ⟨-, hfirst⟩
  · split at hhinted
    · cases hhinted
    · obtain ⟨hstream, hmatches⟩ := Option.filter_eq_some_iff.mp hhinted
      exact ⟨List.mem_of_find?_eq_some hstream, havailable existing hmatches⟩
  · have hmatches := List.find?_some hfirst
    exact ⟨List.mem_of_find?_eq_some hfirst, havailable existing hmatches⟩

theorem holds_resumeStreams (hI : Persistent I) (rt : Runtime) (clock : ℕ → Ticks)
    (window : Ticks) (declarations : List StreamInitDeclaration) :
    ∀ (k : ℕ) (matched : List Text) (snapshot : SessionSnapshot), I snapshot →
      I (resumeStreams rt clock window k matched snapshot declarations).1 := by
  induction declarations with
  | nil =>
      intro k matched snapshot h
      exact h
  | cons declaration rest ih =>
      intro k matched snapshot h
      unfold resumeStreams
      split
      · exact h
      · rename_i existing hfound
        split
        · exact h
        · rename_i resumed hresume
          exact ih _ _ _ (hI.putStream h (findExistingStream_some hfound).1
            (resumeStream_becomes hresume))

theorem all_putSnapshot {server : CulpeoSessionServer} (h : server.All I) (ref : ℕ)
    {snapshot : SessionSnapshot} (hsnapshot : I snapshot) :
    (server.putSnapshot ref snapshot).All I := by
  intro other hmem
  rcases List.mem_or_eq_of_mem_set hmem with hold | rfl
  · exact h other hold
  · exact hsnapshot

theorem all_openSession (hI : Persistent I) {server : CulpeoSessionServer} (h : server.All I)
    {env : Environment} {body : Bytes} {init : InitRequest}
    (hparse : parseInitBody env body = .ok init) (s : Surroundings) (sessionId : Option Text)
    (bufferWindow : Int32) :
    (Endpoint.openSession env s server sessionId init bufferWindow).1.All I := by
  unfold Endpoint.openSession
  split
  · split
    · exact h
    · rename_i snapshot hcreate
      intro other hmem
      rcases List.mem_append.mp hmem with hold | hnew
      · exact h other hold
      · rw [List.mem_singleton.mp hnew]
        exact hI.created hparse hcreate
  · unfold resumeSession
    split
    · exact h
    · split
      · exact h
      · rename_i ref existing hsession
        have hexisting := h existing (List.mem_of_getElem? (getSession_some hsession).2)
        have hresumed := holds_resumeStreams hI env.toRuntime s.clock (milliseconds bufferWindow)
          init.streams 2 [] existing hexisting
        split
        · exact h
        · dsimp only
          split
          · exact all_putSnapshot h ref hresumed
          · exact all_putSnapshot h ref (hI.stamp (hI.window hresumed bufferWindow) none)

theorem all_refuseInit (h : e.server.All I) (ex : Exn) : (e.refuseInit ex).1.server.All I := by
  cases ex with
  | _ => exact h

theorem all_acceptInit (hI : Persistent I) (h : e.server.All I) {env : Environment}
    {frame : CulpeoMessage} {init : InitRequest}
    (hparse : parseInitBody env frame.body = .ok init) (s : Surroundings) :
    (e.acceptInit env s frame init).1.server.All I := by
  have hopened := all_openSession hI h hparse s frame.sessionId
    (Endpoint.negotiateBufferWindow e.server.options frame.bufferWindow)
  unfold Endpoint.acceptInit
  dsimp only
  split
  · exact all_refuseInit hopened _
  · intro snapshot hmem
    rw [Endpoint.establish, snapshots_saveSession] at hmem
    exact hopened snapshot hmem

theorem all_handleInitialFrame (hI : Persistent I) (h : e.server.All I) (env : Environment)
    (s : Surroundings) (frame : CulpeoMessage) :
    (e.handleInitialFrame env s frame).1.server.All I := by
  unfold Endpoint.handleInitialFrame
  split
  · exact all_stampDisconnected (e := e.setState .closed) hI h _
  · dsimp only
    split
    · exact h
    · split
      · exact all_refuseInit (e := e.setState .initializing) h _
      · rename_i init hparse
        split
        · exact h
        · exact all_acceptInit (e := e.setState .initializing) hI h hparse s

/-- **One call keeps a persistent property.** -/
theorem all_perform (hI : Persistent I) (h : e.server.All I) (env : Environment)
    (s : Surroundings) (call : Call) : (e.perform env s call).server.All I := by
  cases call with
  | receive frame =>
      show (e.receive env s frame).1.server.All I
      unfold Endpoint.receive
      split
      · rename_i timedOut result htimeout
        rw [(timeout_some htimeout).1]
        exact h
      · split
        · exact all_handleInitialFrame hI h env s frame
        · exact all_closeOnViolation hI h _ _
        · exact all_handleEstablishedFrame hI h env _ frame
        · exact h
  | sendMedia streamId payload timestamp => exact all_sendMedia hI h _ streamId payload timestamp
  | issueAuthRefresh =>
      show (e.issueAuthRefresh env s).1.server.All I
      rw [server_issueAuthRefresh]
      exact h
  | checkTimeouts =>
      show (e.checkTimeouts s).1.server.All I
      unfold Endpoint.checkTimeouts
      cases htimeout : e.checkPendingAuthTimeout (s.clock 0) with
      | none => exact h
      | some timedOut =>
          rw [show ((some timedOut).getD _).1.server = e.server from (timeout_some htimeout).1]
          exact h
  | disconnect => exact all_stampDisconnected hI h _

end Parts

/-- **A persistent property holds of every session at every point of every run.** -/
theorem Persistent.run {I : SessionSnapshot → Prop} (hI : Persistent I) (env : Environment)
    (options : CulpeoSessionOptions) (actions : List Action) :
    ((System.start options).run env actions).server.All I := by
  refine System.run_induction (I := fun sys => sys.server.All I) (P := fun _ _ => True)
    (fun sys a h _ => ?_) actions (fun _ hmem => absurd hmem List.not_mem_nil)
    (System.along_true env actions _)
  cases a with
  | createConnection => exact h
  | call i s call =>
      unfold System.step
      dsimp only
      split
      · exact h
      · exact all_perform (e := ⟨sys.server, _⟩) hI h env s call

/-! ### Proper sessions -/

theorem isWhiteSpace_hexDigit (b : UInt8) : isWhiteSpace (hexDigit (b / 16)) = false := by
  have hdigits : ∀ k < 16, isWhiteSpace (hexDigit (UInt8.ofNat k)) = false := by decide
  have hlt : (b / 16).toNat < 16 := by
    have hb := b.toNat_lt
    rw [UInt8.toNat_div]
    show b.toNat / 16 < 16
    omega
  rw [← UInt8.ofNat_toNat (x := b / 16)]
  exact hdigits _ hlt

/-- A generated id is not blank. -/
theorem generateOpaqueId_nonblank (bytes : ℕ → UInt8) (byteLength : ℕ) :
    isNullOrWhiteSpace (some (generateOpaqueId bytes (byteLength + 1))) = false := by
  unfold generateOpaqueId isNullOrWhiteSpace
  rw [List.range_succ_eq_map, List.map_cons, List.flatMap_cons]
  show (isWhiteSpace (hexDigit (bytes 0 / 16)) && _) = false
  rw [isWhiteSpace_hexDigit, Bool.false_and]

/-- Streams with ids of their own, and an id and a content type each. -/
structure ProperStreams (streams : List StreamState) : Prop where
  nodup : (streams.map StreamState.id).Nodup
  id : ∀ stream ∈ streams, isNullOrWhiteSpace (some stream.id) = false
  contentType : ∀ stream ∈ streams, isNullOrWhiteSpace (some stream.contentType) = false

theorem ProperStreams.concat {streams : List StreamState} (h : ProperStreams streams)
    {stream : StreamState} (hfree : stream.id ∉ streams.map StreamState.id)
    (hid : isNullOrWhiteSpace (some stream.id) = false)
    (hcontentType : isNullOrWhiteSpace (some stream.contentType) = false) :
    ProperStreams (streams ++ [stream]) := by
  have hmem : ∀ {P : StreamState → Prop}, (∀ other ∈ streams, P other) → P stream →
      ∀ other ∈ streams ++ [stream], P other := by
    intro P hold hnew other hother
    rcases List.mem_append.mp hother with hother | hother
    · exact hold other hother
    · rw [List.mem_singleton.mp hother]
      exact hnew
  refine ⟨?_, hmem h.id hid, hmem h.contentType hcontentType⟩
  rw [List.map_append, List.nodup_append]
  refine ⟨h.nodup, List.nodup_singleton _, fun a ha b hb => ?_⟩
  rw [List.map_singleton, List.mem_singleton] at hb
  rintro rfl
  exact hfree (hb ▸ ha)

theorem createStreams_proper {rt : Runtime} {random : ℕ → ℕ → UInt8}
    {declarations : List StreamInitDeclaration}
    (hdeclared : ∀ declaration ∈ declarations,
      isNullOrWhiteSpace (some declaration.contentType) = false) :
    ∀ {k : ℕ} {streams created : List StreamState},
      createStreams rt random k streams declarations = .ok created → ProperStreams streams →
      ProperStreams created := by
  induction declarations with
  | nil =>
      intro k streams created h hproper
      cases h
      exact hproper
  | cons declaration rest ih =>
      intro k streams created h hproper
      obtain ⟨stream, hcreate, h⟩ := exists_of_bind_ok h
      obtain ⟨hid, hcontentType⟩ := StreamState.create_ok hcreate
      split at h
      · cases h
      · rename_i hfree
        refine ih (fun d hd => hdeclared d (List.mem_cons_of_mem _ hd)) h
          (hproper.concat (fun hmem => hfree ?_) ?_ ?_)
        · obtain ⟨other, hother, hsame⟩ := List.mem_map.mp hmem
          exact List.any_eq_true.mpr ⟨other, hother, decide_eq_true hsame⟩
        · rw [hid]
          exact generateOpaqueId_nonblank _ 7
        · rw [hcontentType]
          exact hdeclared declaration List.mem_cons_self

theorem parseStream_contentType {item : JsonElement} {declaration : StreamInitDeclaration}
    (h : parseStream item = .ok declaration) :
    isNullOrWhiteSpace (some declaration.contentType) = false := by
  unfold parseStream at h
  obtain ⟨contentTypeValue, -, h⟩ := exists_of_bind_ok h
  obtain ⟨typeValue, -, h⟩ := exists_of_bind_ok h
  obtain ⟨declared, hdeclared, h⟩ := exists_of_bind_ok h
  obtain ⟨offsetTypeValue, -, h⟩ := exists_of_bind_ok h
  obtain ⟨offsetType, -, h⟩ := exists_of_bind_ok h
  obtain ⟨resumeOffset, -, h⟩ := exists_of_bind_ok h
  obtain ⟨purpose, -, h⟩ := exists_of_bind_ok h
  obtain ⟨idHint, -, h⟩ := exists_of_bind_ok h
  cases h
  unfold checkStreamType at hdeclared
  split at hdeclared
  · split at hdeclared
    · cases hdeclared
    · rename_i hblank
      cases hdeclared
      exact Bool.not_eq_true _ ▸ hblank
  · cases hdeclared

theorem parseInitBody_contentType {env : Environment} {body : Bytes} {init : InitRequest}
    (h : parseInitBody env body = .ok init) (declaration : StreamInitDeclaration)
    (hmem : declaration ∈ init.streams) :
    isNullOrWhiteSpace (some declaration.contentType) = false := by
  unfold parseInitBody at h
  obtain ⟨root, -, h⟩ := exists_of_bind_ok h
  obtain ⟨versionValue, -, h⟩ := exists_of_bind_ok h
  obtain ⟨version, -, h⟩ := exists_of_bind_ok h
  obtain ⟨items, -, h⟩ := exists_of_bind_ok h
  obtain ⟨streams, hstreams, h⟩ := exists_of_bind_ok h
  cases h
  obtain ⟨item, -, hparse⟩ := exists_of_mem_mapM_ok hstreams declaration hmem
  exact parseStream_contentType hparse

/-- The streams of a stored session. -/
def SessionSnapshot.Proper (snapshot : SessionSnapshot) : Prop := ProperStreams snapshot.streams

theorem ids_putStream (snapshot : SessionSnapshot) (new : StreamState) :
    (snapshot.putStream new).streams.map StreamState.id = snapshot.streams.map StreamState.id := by
  show (snapshot.streams.map _).map _ = _
  rw [List.map_map]
  refine List.map_congr_left fun stream _ => ?_
  show StreamState.id (if stream.id = new.id then new else stream) = stream.id
  split
  · rename_i hid
    exact hid.symm
  · rfl

theorem proper_putStream {snapshot : SessionSnapshot} {old new : StreamState}
    (h : snapshot.Proper) (hold : old ∈ snapshot.streams) (hnew : StreamState.Becomes old new) :
    (snapshot.putStream new).Proper := by
  have hmem : ∀ {P : StreamState → Prop}, (∀ other ∈ snapshot.streams, P other) → P new →
      ∀ other ∈ (snapshot.putStream new).streams, P other := by
    intro P hkept hreplaced other hother
    obtain ⟨before, hbefore, rfl⟩ := List.mem_map.mp hother
    split
    · exact hreplaced
    · exact hkept before hbefore
  refine ⟨?_, hmem h.id ?_, hmem h.contentType ?_⟩
  · rw [ids_putStream]
    exact h.nodup
  · rw [hnew.id]
    exact h.id old hold
  · rw [hnew.contentType]
    exact h.contentType old hold

/-- **The sessions of a server are proper.** -/
theorem persistent_proper : Persistent SessionSnapshot.Proper where
  putStream h hold hnew := proper_putStream h hold hnew
  stamp h _ := h
  window h _ := h
  created hparse hcreate := by
    unfold createNewSession at hcreate
    obtain ⟨_, -, hcreate⟩ := exists_of_bind_ok hcreate
    obtain ⟨sessionId, -, hcreate⟩ := exists_of_bind_ok hcreate
    obtain ⟨streams, hstreams, hcreate⟩ := exists_of_bind_ok hcreate
    cases hcreate
    exact createStreams_proper (parseInitBody_contentType hparse) hstreams
      ⟨List.nodup_nil, nofun, nofun⟩

end CulpeoStream.Dotnet
