import CulpeoStream.Dotnet.Resume

/-!
# What a resumption does to the streams of its session

The loop of `ResumeSession` gives each declaration a stream that is not taken yet, and changes
the stream at once (`resumedPairs`, `confirmPairs`).

* `resumeSession_bijective_iff`: a resumption that succeeds has declared every stream exactly
  when it has declared as many as there are; their number is not compared.
* `receive_leavesSession_iff`: a resumption that is refused leaves the session as it was exactly
  when the streams in front of the refusal are such that confirming them changes nothing.
-/

namespace CulpeoStream.Dotnet

open Message Utf16

variable {rt : Runtime}

/-! ### The loop, seen from the session before it -/

/-- The declarations that the loop gets through, each with the stream that it takes. -/
def resumedPairs (rt : Runtime) (snapshot : SessionSnapshot) :
    List Text → List StreamInitDeclaration → List (StreamInitDeclaration × StreamState)
  | _, [] => []
  | matched, declaration :: rest =>
      match findExistingStream rt snapshot declaration matched with
      | none => []
      | some existing =>
          if existing.currentOffset < requestedOffset declaration existing then []
          else (declaration, existing) :: resumedPairs rt snapshot (existing.id :: matched) rest

/-- The windows of so many declarations begin at points in time. -/
def InTime (clock : ℕ → Ticks) (window : Ticks) (k n : ℕ) : Prop :=
  ∀ j < n, InCalendar (clock (k + j) - window)

instance decidableInTime (clock : ℕ → Ticks) (window : Ticks) (k n : ℕ) :
    Decidable (InTime clock window k n) :=
  inferInstanceAs (Decidable (∀ _ < n, _))

theorem inTime_zero (clock : ℕ → Ticks) (window : Ticks) (k : ℕ) : InTime clock window k 0 := nofun

theorem inTime_succ_iff {clock : ℕ → Ticks} {window : Ticks} {k n : ℕ} :
    InTime clock window k (n + 1) ↔
      InCalendar (clock k - window) ∧ InTime clock window (k + 1) n := by
  unfold InTime
  rw [Nat.forall_lt_succ_left']
  refine and_congr Iff.rfl (forall₂_congr fun j _ => ?_)
  rw [show k + (j + 1) = k + 1 + j by omega]

/-- The session with the streams of the pairs confirmed, one after the other. -/
def confirmPairs (clock : ℕ → Ticks) (window : Ticks) :
    ℕ → SessionSnapshot → List (StreamInitDeclaration × StreamState) → SessionSnapshot
  | _, snapshot, [] => snapshot
  | k, snapshot, (declaration, existing) :: rest =>
      confirmPairs clock window (k + 1)
        (snapshot.putStream (confirmStream window (clock k) declaration existing)) rest

theorem resumedPairs_putStream {snapshot : SessionSnapshot} {new : StreamState}
    (declarations : List StreamInitDeclaration) :
    ∀ {matched : List Text}, new.id ∈ matched →
      resumedPairs rt (snapshot.putStream new) matched declarations =
        resumedPairs rt snapshot matched declarations := by
  induction declarations with
  | nil =>
      intro matched _
      rfl
  | cons declaration rest ih =>
      intro matched hnew
      rw [resumedPairs, resumedPairs, findExistingStream_putStream hnew]
      cases findExistingStream rt snapshot declaration matched with
      | none => rfl
      | some existing =>
          dsimp only
          rw [ih (List.mem_cons_of_mem _ hnew)]

/-- **The loop** confirms the streams that it gets through, and succeeds when these are all
that are declared.  It fails otherwise when a window begins before there is time. -/
theorem resumeStreams_eq (clock : ℕ → Ticks) (window : Ticks)
    (declarations : List StreamInitDeclaration) :
    ∀ (k : ℕ) (matched : List Text) (snapshot : SessionSnapshot),
      let pairs := resumedPairs rt snapshot matched declarations
      let resumed := resumeStreams rt clock window k matched snapshot declarations
      InTime clock window k pairs.length ∧ resumed.1 = confirmPairs clock window k snapshot pairs ∧
          (pairs.length = declarations.length ∧ resumed.2 = .ok () ∨
            pairs.length < declarations.length ∧
              ∃ reason, resumed.2 = .error (invalidStreams reason)) ∨
        ¬ InTime clock window k pairs.length ∧ resumed.2 = .error .argumentOutOfRange := by
  induction declarations with
  | nil =>
      intro k matched snapshot
      exact .inl ⟨inTime_zero clock window k, rfl, .inl ⟨rfl, rfl⟩⟩
  | cons declaration rest ih =>
      intro k matched snapshot
      dsimp only
      rw [resumeStreams, resumedPairs]
      cases findExistingStream rt snapshot declaration matched with
      | none => exact .inl ⟨inTime_zero clock window k, rfl, .inr ⟨Nat.succ_pos _, _, rfl⟩⟩
      | some existing =>
          dsimp only
          rw [resumeStream_eq]
          -- The declaration is refused, its window begins too early, or its stream is confirmed.
          by_cases ahead : existing.currentOffset < requestedOffset declaration existing
          · simp only [if_pos ahead]
            exact .inl ⟨inTime_zero clock window k, rfl, .inr ⟨Nat.succ_pos _, _, rfl⟩⟩
          · simp only [if_neg ahead, List.length_cons, inTime_succ_iff]
            by_cases range : InCalendar (clock k - window)
            · simp only [if_pos range]
              have hrest := ih (k + 1) (existing.id :: matched)
                (snapshot.putStream (confirmStream window (clock k) declaration existing))
              dsimp only at hrest
              rw [resumedPairs_putStream rest (by rw [confirmStream_id]; exact List.mem_cons_self)]
                at hrest
              obtain ⟨inTime, left, ⟨length, ok⟩ | ⟨length, failed⟩⟩ | ⟨late, failed⟩ := hrest
              · exact .inl ⟨⟨range, inTime⟩, left, .inl ⟨by omega, ok⟩⟩
              · exact .inl ⟨⟨range, inTime⟩, left, .inr ⟨by omega, failed⟩⟩
              · exact .inr ⟨fun all => late all.2, failed⟩
            · simp only [if_neg range]
              exact .inr ⟨fun all => range all.1, trivial⟩

/-- The stream that is found matches the declaration. -/
theorem matchesStream_of_find {snapshot : SessionSnapshot} {declaration : StreamInitDeclaration}
    {matched : List Text} {existing : StreamState}
    (h : findExistingStream rt snapshot declaration matched = some existing) :
    matchesStream rt existing declaration = true := by
  unfold findExistingStream at h
  dsimp only at h
  rw [Option.orElse_eq_orElse, Option.orElse_eq_or, Option.or_eq_some_iff] at h
  have available : (!matched.contains existing.id && matchesStream rt existing declaration) =
      true := by
    rcases h with hinted | ⟨-, first⟩
    · split at hinted
      · cases hinted
      · exact (Option.filter_eq_some_iff.mp hinted).2
    · have havailable := List.find?_some first
      exact havailable
  exact (Bool.and_eq_true_iff.mp available).2

/-- **The streams that the loop takes** are streams of the session, match their declarations,
and are different from one another. -/
theorem resumedPairs_spec {snapshot : SessionSnapshot} (declarations : List StreamInitDeclaration) :
    ∀ (matched : List Text),
      (resumedPairs rt snapshot matched declarations).map Prod.fst <+: declarations ∧
        (∀ pair ∈ resumedPairs rt snapshot matched declarations,
          pair.2 ∈ snapshot.streams ∧ pair.2.id ∉ matched ∧
            matchesStream rt pair.2 pair.1 = true) ∧
        ((resumedPairs rt snapshot matched declarations).map fun pair => pair.2.id).Nodup := by
  induction declarations with
  | nil =>
      intro matched
      exact ⟨List.prefix_rfl, List.forall_mem_nil _, List.nodup_nil⟩
  | cons declaration rest ih =>
      intro matched
      rw [resumedPairs]
      cases hfound : findExistingStream rt snapshot declaration matched with
      | none =>
          dsimp only
          exact ⟨List.nil_prefix, List.forall_mem_nil _, List.nodup_nil⟩
      | some existing =>
          dsimp only
          split
          · exact ⟨List.nil_prefix, List.forall_mem_nil _, List.nodup_nil⟩
          · obtain ⟨front, each, distinct⟩ := ih (existing.id :: matched)
            obtain ⟨hmem, hfree⟩ := findExistingStream_some hfound
            refine ⟨?_, List.forall_mem_cons.mpr ⟨⟨hmem, hfree, matchesStream_of_find hfound⟩, ?_⟩,
              ?_⟩
            · rw [List.map_cons, List.cons_prefix_cons]
              exact ⟨rfl, front⟩
            · intro pair hpair
              obtain ⟨hpairMem, hpairFree, hmatches⟩ := each pair hpair
              exact ⟨hpairMem, fun hmatched => hpairFree (List.mem_cons_of_mem _ hmatched),
                hmatches⟩
            · rw [List.map_cons, List.nodup_cons]
              -- The stream is taken when the rest is matched.
              refine ⟨fun hagain => ?_, distinct⟩
              obtain ⟨pair, hpair, hid⟩ := List.mem_map.mp hagain
              refine (each pair hpair).2.1 ?_
              rw [hid]
              exact List.mem_cons_self

/-! ### Declared streams and stored streams -/

/-- The streams of the session can be listed so that they match the declarations one by one. -/
def PairedOff (rt : Runtime) (stored : SessionSnapshot)
    (declarations : List StreamInitDeclaration) : Prop :=
  ∃ streams, streams.Perm stored.streams ∧
    List.Forall₂ (fun declaration stream => matchesStream rt stream declaration = true)
      declarations streams

/-- Nothing stands in the way of a resumption: the declarations are valid, the session has not
expired, and the loop gets through all of them, with windows that begin at points in time. -/
structure Resumable (rt : Runtime) (server : CulpeoSessionServer) (clock : ℕ → Ticks)
    (window : Ticks) (stored : SessionSnapshot) (declarations : List StreamInitDeclaration) :
    Prop where
  valid : validateStreamDeclarations declarations server.options.maxStreamCount = .ok ()
  live : stored.expired (clock 1) = false
  through : (resumedPairs rt stored [] declarations).length = declarations.length
  inTime : InTime clock window 2 declarations.length

section Resume

variable {s : Surroundings} {server : CulpeoSessionServer} {sessionId : Text}
  {init : InitRequest} {bufferWindow : Int32} {ref : ℕ} {stored : SessionSnapshot}

theorem resumeSession_succeeds_iff (hsession : server.getSession sessionId = some (ref, stored)) :
    (∃ result, (resumeSession rt s server sessionId init bufferWindow).2 = .ok result) ↔
      Resumable rt server s.clock (milliseconds bufferWindow) stored init.streams := by
  unfold resumeSession
  split
  · rename_i ex invalid
    refine iff_of_false nofun fun resumable => ?_
    rw [resumable.valid] at invalid
    cases invalid
  · rename_i valid
    rw [hsession]
    dsimp only
    by_cases expired : stored.expired (s.clock 1) = true
    · rw [if_pos expired]
      refine iff_of_false nofun fun resumable => ?_
      rw [resumable.live] at expired
      cases expired
    · rw [if_neg expired]
      obtain ⟨inTime, -, ⟨through, ok⟩ | ⟨short, reason, failed⟩⟩ | ⟨late, failed⟩ :=
        @resumeStreams_eq rt s.clock (milliseconds bufferWindow) init.streams 2 [] stored
      · rw [ok]
        rw [through] at inTime
        exact iff_of_true ⟨_, rfl⟩ ⟨valid, Bool.eq_false_of_not_eq_true expired, through, inTime⟩
      · rw [failed]
        refine iff_of_false nofun fun resumable => ?_
        exact absurd resumable.through (by omega)
      · rw [failed]
        refine iff_of_false nofun fun resumable => late ?_
        rw [resumable.through]
        exact resumable.inTime

/-- The streams that the loop takes are as many as are declared, so that there are no others
exactly when the session has no more. -/
theorem pairedOff_iff_of_through {declarations : List StreamInitDeclaration}
    (through : (resumedPairs rt stored [] declarations).length = declarations.length) :
    PairedOff rt stored declarations ↔ declarations.length = stored.streams.length := by
  obtain ⟨front, each, distinct⟩ := @resumedPairs_spec rt stored declarations []
  have declared : (resumedPairs rt stored [] declarations).map Prod.fst = declarations :=
    front.eq_of_length (by rw [List.length_map, through])
  constructor
  · rintro ⟨streams, perm, hmatches⟩
    rw [hmatches.length_eq, perm.length_eq]
  · intro length
    refine ⟨(resumedPairs rt stored [] declarations).map Prod.snd, ?_, ?_⟩
    · have nodup : ((resumedPairs rt stored [] declarations).map Prod.snd).Nodup := by
        apply List.Nodup.of_map StreamState.id
        rw [List.map_map]
        exact distinct
      have subset : (resumedPairs rt stored [] declarations).map Prod.snd ⊆ stored.streams := by
        intro stream hmem
        obtain ⟨pair, hpair, rfl⟩ := List.mem_map.mp hmem
        exact (each pair hpair).1
      refine (nodup.subperm subset).perm_of_length_le ?_
      rw [List.length_map, through, length]
    · conv in declarations => rw [← declared]
      rw [List.forall₂_map_left_iff, List.forall₂_map_right_iff, List.forall₂_same]
      exact fun pair hpair => (each pair hpair).2.2

/-- **Resumption is all or nothing exactly when the streams are counted.**  If it succeeds, the
declared streams and the stored ones are in a bijection, unless it is one that succeeds with
fewer declarations than there are streams. -/
theorem resumeSession_bijective_iff
    (hsession : server.getSession sessionId = some (ref, stored)) :
    ((∃ result, (resumeSession rt s server sessionId init bufferWindow).2 = .ok result) →
        PairedOff rt stored init.streams) ↔
      ¬ (Resumable rt server s.clock (milliseconds bufferWindow) stored init.streams ∧
        init.streams.length < stored.streams.length) := by
  rw [resumeSession_succeeds_iff hsession]
  constructor
  · rintro paired ⟨resumable, fewer⟩
    have length := (pairedOff_iff_of_through resumable.through).mp (paired resumable)
    omega
  · intro counted resumable
    obtain ⟨front, each, distinct⟩ := @resumedPairs_spec rt stored init.streams []
    have subset : (resumedPairs rt stored [] init.streams).map (fun pair => pair.2.id) ⊆
        stored.streams.map StreamState.id := by
      intro id hmem
      obtain ⟨pair, hpair, rfl⟩ := List.mem_map.mp hmem
      exact List.mem_map_of_mem (each pair hpair).1
    have atMost := (distinct.subperm subset).length_le
    rw [List.length_map, List.length_map, resumable.through] at atMost
    exact (pairedOff_iff_of_through resumable.through).mpr
      (le_antisymm atMost (not_lt.mp fun fewer => counted ⟨resumable, fewer⟩))

end Resume

/-! ### What a refusal leaves behind -/

/-- Confirming a stream changes nothing: no checkpoint has left the window, and the offset to be
confirmed is the one that has been confirmed last. -/
structure Untouched (window now : Ticks) (declaration : StreamInitDeclaration)
    (existing : StreamState) : Prop where
  kept : ∀ checkpoint ∈ existing.checkpoints, now - window ≤ checkpoint.recordedAt
  confirmed : existing.confirmedResumeOffset = mathMax (requestedOffset declaration existing)
    ((existing.checkpoints.head?.map OffsetCheckpoint.offset).getD existing.currentOffset)

theorem filter_checkpoints_eq_self_iff {window now : Ticks}
    {checkpoints : List OffsetCheckpoint} :
    (checkpoints.filter fun checkpoint => !(checkpoint.recordedAt < now - window)) =
        checkpoints ↔
      ∀ checkpoint ∈ checkpoints, now - window ≤ checkpoint.recordedAt := by
  rw [List.filter_eq_self]
  simp

theorem confirmStream_eq_self_iff {window now : Ticks} {declaration : StreamInitDeclaration}
    {existing : StreamState} :
    confirmStream window now declaration existing = existing ↔
      Untouched window now declaration existing := by
  have offset : (existing.checkpoints.filter fun checkpoint =>
        !(checkpoint.recordedAt < now - window)) = existing.checkpoints →
      confirmed window now declaration existing = mathMax (requestedOffset declaration existing)
        ((existing.checkpoints.head?.map OffsetCheckpoint.offset).getD
          existing.currentOffset) := by
    intro kept
    rw [confirmed, StreamState.earliestSince, kept]
    cases existing.checkpoints <;> rfl
  constructor
  · intro same
    have kept := congrArg StreamState.checkpoints same
    exact ⟨filter_checkpoints_eq_self_iff.mp kept,
      (congrArg StreamState.confirmedResumeOffset same).symm.trans (offset kept)⟩
  · rintro ⟨kept, value⟩
    have kept' := filter_checkpoints_eq_self_iff.mpr kept
    have value' := value.trans (offset kept').symm
    show ({ existing with
      checkpoints := existing.checkpoints.filter fun checkpoint =>
        !(checkpoint.recordedAt < now - window)
      confirmedResumeOffset := confirmed window now declaration existing } : StreamState) = existing
    rw [kept', ← value']

theorem stream_putStream (snapshot : SessionSnapshot) (new : StreamState) (id : Text) :
    (snapshot.putStream new).stream id =
      if id = new.id then (snapshot.stream id).map fun _ => new else snapshot.stream id :=
  Table.find?_replace StreamState.id new id snapshot.streams

section Distinct

variable {snapshot : SessionSnapshot} (distinct : (snapshot.streams.map StreamState.id).Nodup)

include distinct

theorem putStream_self {existing : StreamState} (hmem : existing ∈ snapshot.streams) :
    snapshot.putStream existing = snapshot := by
  have same : ∀ stream ∈ snapshot.streams,
      (if stream.id = existing.id then existing else stream) = stream := by
    intro stream hstream
    split
    · rename_i hid
      exact (List.inj_on_of_nodup_map distinct hstream hmem hid).symm
    · rfl
  rw [SessionSnapshot.putStream, List.map_congr_left same, List.map_id']

theorem stream_of_mem {existing : StreamState} (hmem : existing ∈ snapshot.streams) :
    snapshot.stream existing.id = some existing := by
  cases found : snapshot.stream existing.id with
  | none => exact absurd (decide_eq_true rfl) (List.find?_eq_none.mp found existing hmem)
  | some stream =>
      have hid : stream.id = existing.id := by
        have hfound := List.find?_some found
        exact of_decide_eq_true hfound
      rw [List.inj_on_of_nodup_map distinct (List.mem_of_find?_eq_some found) hmem hid]

end Distinct

section Pairs

variable {clock : ℕ → Ticks} {window : Ticks}

/-- Streams that are not among the pairs stay as they are. -/
theorem stream_confirmPairs_of_notMem (pairs : List (StreamInitDeclaration × StreamState)) :
    ∀ {k : ℕ} {snapshot : SessionSnapshot} {id : Text},
      id ∉ pairs.map (fun pair => pair.2.id) →
      (confirmPairs clock window k snapshot pairs).stream id = snapshot.stream id := by
  induction pairs with
  | nil =>
      intro k snapshot id _
      rfl
  | cons pair rest ih =>
      intro k snapshot id other
      rw [List.map_cons, List.mem_cons, not_or] at other
      rw [confirmPairs, ih other.2, stream_putStream, confirmStream_id, if_neg other.1]

/-- **Confirming changes nothing exactly when** it changes none of the streams. -/
theorem confirmPairs_eq_self_iff {snapshot : SessionSnapshot}
    (distinct : (snapshot.streams.map StreamState.id).Nodup)
    (pairs : List (StreamInitDeclaration × StreamState)) :
    ∀ {k : ℕ}, (∀ pair ∈ pairs, pair.2 ∈ snapshot.streams) →
      (pairs.map fun pair => pair.2.id).Nodup →
      (confirmPairs clock window k snapshot pairs = snapshot ↔
        ∀ j pair, pairs[j]? = some pair → Untouched window (clock (k + j)) pair.1 pair.2) := by
  induction pairs with
  | nil =>
      intro k _ _
      refine iff_of_true rfl fun j pair hpair => ?_
      rw [List.getElem?_nil] at hpair
      cases hpair
  | cons pair rest ih =>
      intro k hmem hdistinct
      obtain ⟨hhead, hrest⟩ := List.forall_mem_cons.mp hmem
      rw [List.map_cons, List.nodup_cons] at hdistinct
      -- No later pair is about the stream of the first one.
      have first : confirmPairs clock window k snapshot (pair :: rest) = snapshot →
          Untouched window (clock k) pair.1 pair.2 := by
        intro same
        have left := congrArg (fun after => SessionSnapshot.stream after pair.2.id) same
        rw [confirmPairs, stream_confirmPairs_of_notMem rest hdistinct.1, stream_putStream,
          confirmStream_id, if_pos rfl, stream_of_mem distinct hhead, Option.map_some,
          Option.some.injEq] at left
        exact confirmStream_eq_self_iff.mp left
      have others : Untouched window (clock k) pair.1 pair.2 →
          (confirmPairs clock window k snapshot (pair :: rest) = snapshot ↔
            ∀ j pair, rest[j]? = some pair →
              Untouched window (clock (k + 1 + j)) pair.1 pair.2) := by
        intro untouched
        rw [confirmPairs, confirmStream_eq_self_iff.mpr untouched, putStream_self distinct hhead]
        exact ih hrest hdistinct.2
      constructor
      · intro same j pair' hpair
        cases j with
        | zero =>
            cases hpair
            exact first same
        | succ j =>
            rw [show k + (j + 1) = k + 1 + j by omega]
            exact (others (first same)).mp same j pair' hpair
      · intro all
        refine (others (all 0 pair rfl)).mpr fun j pair' hpair => ?_
        rw [show k + 1 + j = k + (j + 1) by omega]
        exact all (j + 1) pair' hpair

end Pairs

/-! ### Refused inits -/

/-- A frame that a connection receives first. -/
def answerTo (env : Environment) (s : Surroundings) (server : CulpeoSessionServer)
    (frame : CulpeoMessage) : Endpoint × Except Exn CulpeoProcessResult :=
  Endpoint.receive env s ⟨server, {}⟩ frame

/-- The call returns a `culpeo.init-error`. -/
def RefusesInit (answer : Except Exn CulpeoProcessResult) : Prop :=
  ∃ result frame, answer = .ok result ∧ frame ∈ result.outboundFrames ∧
    frame.event = some (utf16 "culpeo.init-error")

/-- If the init is refused, the session is the one that was stored, and every frame is answered
later as it would have been. -/
def LeavesSession (env : Environment) (s : Surroundings) (server : CulpeoSessionServer)
    (frame : CulpeoMessage) (ref : ℕ) (stored : SessionSnapshot) : Prop :=
  RefusesInit (answerTo env s server frame).2 →
    (answerTo env s server frame).1.server.getSession (frame.sessionId.getD []) =
        some (ref, stored) ∧
      ∀ s' connection frame',
        (Endpoint.receive env s' ⟨(answerTo env s server frame).1.server, connection⟩ frame').2 =
          (Endpoint.receive env s' ⟨server, connection⟩ frame').2

/-- The init of a frame that comes to `ResumeSession`. -/
def submitted (env : Environment) (server : CulpeoSessionServer) (frame : CulpeoMessage) :
    Option InitRequest :=
  if frame.kind ≠ .control ∨ frame.event ≠ some (utf16 "culpeo.init") then none
  else if isNullOrWhiteSpace frame.authorization || isNullOrWhiteSpace frame.sessionId then none
  else
    match parseInitBody env frame.body with
    | .error _ => none
    | .ok init => if server.options.supportedVersions.contains init.version then some init else none

section Receive

variable {env : Environment} {s : Surroundings} {server : CulpeoSessionServer}
  {frame : CulpeoMessage} {ref : ℕ} {stored : SessionSnapshot}

theorem server_refuseInit (e : Endpoint) (ex : Exn) : (e.refuseInit ex).1.server = e.server := by
  cases ex <;> rfl

/-- An init-ack is no refusal. -/
theorem not_refusesInit_establish (e : Endpoint) (snapshot : SessionSnapshot) (init : InitRequest)
    (bufferWindow : Int32) :
    ¬ RefusesInit (e.establish env ref snapshot init bufferWindow).2 := by
  rintro ⟨result, answer, hresult, hmem, hevent⟩
  cases hresult
  obtain rfl := List.mem_singleton.mp hmem
  have ack : (createInitAckFrame env snapshot init.version bufferWindow
    init.isResumption).event = some (utf16 "culpeo.init-ack") := rfl
  rw [ack] at hevent
  exact absurd hevent (by decide)

/-- An init whose session has been opened, or refused. -/
theorem acceptInit_eq (env : Environment) (s : Surroundings) (server : CulpeoSessionServer)
    (connection : CulpeoConnection) (frame : CulpeoMessage) (init : InitRequest)
    {opened : CulpeoSessionServer × Except Exn (ℕ × SessionSnapshot)}
    (hopened : Endpoint.openSession env s server frame.sessionId init
      (Endpoint.negotiateBufferWindow server.options frame.bufferWindow) = opened) :
    Endpoint.acceptInit env s ⟨server, connection⟩ frame init =
      match opened.2 with
      | .error ex => Endpoint.refuseInit ⟨opened.1, connection⟩ ex
      | .ok (ref, snapshot) =>
          Endpoint.establish env ⟨opened.1, connection⟩ ref snapshot init
            (Endpoint.negotiateBufferWindow server.options frame.bufferWindow) := by
  rw [← hopened]
  rfl

/-- A connection that has received its first frame. -/
def starting : CulpeoConnection := { state := .initializing }

/-- An init without a session that is refused. -/
theorem server_of_fresh {init : InitRequest} (session : isNullOrWhiteSpace frame.sessionId = true)
    (refused : RefusesInit
      (Endpoint.acceptInit env s ⟨server, starting⟩ frame init).2) :
    (Endpoint.acceptInit env s ⟨server, starting⟩ frame init).1.server =
      server := by
  cases created : createNewSession env.toRuntime s server.options init
      (Endpoint.negotiateBufferWindow server.options frame.bufferWindow) with
  | error ex =>
      have opened : Endpoint.openSession env s server frame.sessionId init
          (Endpoint.negotiateBufferWindow server.options frame.bufferWindow) =
            (server, .error ex) := by
        rw [Endpoint.openSession, if_pos session, created]
      rw [acceptInit_eq env s server starting frame init opened]
      exact server_refuseInit _ ex
  | ok snapshot =>
      have opened : Endpoint.openSession env s server frame.sessionId init
          (Endpoint.negotiateBufferWindow server.options frame.bufferWindow) =
            ({ server with snapshots := server.snapshots ++ [snapshot] },
              .ok (server.snapshots.length, snapshot)) := by
        rw [Endpoint.openSession, if_pos session, created]
      rw [acceptInit_eq env s server starting frame init opened] at refused
      exact absurd refused (not_refusesInit_establish _ _ _ _)

/-- **A frame that comes to `ResumeSession`**, and every other frame: it changes the server only
when it opens a session. -/
theorem answerTo_cases (env : Environment) (s : Surroundings) (server : CulpeoSessionServer)
    (frame : CulpeoMessage) :
    (∃ init, submitted env server frame = some init ∧
        isNullOrWhiteSpace frame.sessionId = false ∧
        answerTo env s server frame =
          Endpoint.acceptInit env s ⟨server, starting⟩ frame init) ∨
      (submitted env server frame = none ∧
        (RefusesInit (answerTo env s server frame).2 →
          (answerTo env s server frame).1.server = server)) := by
  have start : answerTo env s server frame =
      Endpoint.handleInitialFrame env s ⟨server, {}⟩ frame := rfl
  rw [start, submitted]
  -- The checks of `HandleInitialFrame`, in its order.
  by_cases kind : frame.kind ≠ .control ∨ frame.event ≠ some (utf16 "culpeo.init")
  · rw [if_pos kind, Endpoint.handleInitialFrame, if_pos kind]
    exact .inr ⟨rfl, fun _ => rfl⟩
  · rw [if_neg kind]
    by_cases authorization : isNullOrWhiteSpace frame.authorization = true
    · rw [Endpoint.handleInitialFrame, if_neg kind, authorization]
      exact .inr ⟨rfl, fun _ => rfl⟩
    · rw [Bool.eq_false_of_not_eq_true authorization, Bool.false_or]
      cases parsed : parseInitBody env frame.body with
      | error ex =>
          have handled : Endpoint.handleInitialFrame env s ⟨server, {}⟩ frame =
              Endpoint.refuseInit ⟨server, starting⟩ ex := by
            simp only [Endpoint.handleInitialFrame, if_neg kind, if_neg authorization, parsed]
            rfl
          rw [handled]
          refine .inr ⟨by split <;> rfl, fun _ => ?_⟩
          exact server_refuseInit _ ex
      | ok init =>
          dsimp only
          by_cases version : server.options.supportedVersions.contains init.version = true
          · have handled : Endpoint.handleInitialFrame env s ⟨server, {}⟩ frame =
                Endpoint.acceptInit env s ⟨server, starting⟩ frame init := by
              simp only [Endpoint.handleInitialFrame, if_neg kind, if_neg authorization, parsed]
              refine if_neg ?_
              show ¬ (!server.options.supportedVersions.contains init.version) = true
              rw [version]
              exact Bool.false_ne_true
            rw [handled, if_pos version]
            by_cases session : isNullOrWhiteSpace frame.sessionId = true
            · rw [if_pos session]
              exact .inr ⟨rfl, server_of_fresh session⟩
            · rw [if_neg session]
              -- The only way to `ResumeSession`.
              exact .inl ⟨init, rfl, Bool.eq_false_of_not_eq_true session, rfl⟩
          · have handled : (Endpoint.handleInitialFrame env s ⟨server, {}⟩ frame).1.server =
                server := by
              simp only [Endpoint.handleInitialFrame, if_neg kind, if_neg authorization, parsed]
              split
              · rfl
              · rename_i supported
                refine absurd ?_ supported
                show (!server.options.supportedVersions.contains init.version) = true
                rw [Bool.eq_false_of_not_eq_true version]
                rfl
            rw [if_neg version]
            exact .inr ⟨by split <;> rfl, fun _ => handled⟩

/-- A refusal with the reason of `invalidStreams` is an init-error. -/
theorem refusesInit_invalidStreams (e : Endpoint) (reason : Text) :
    RefusesInit (e.refuseInit (invalidStreams reason)).2 :=
  ⟨_, _, rfl, List.mem_singleton.mpr rfl, rfl⟩

/-- The loop stops at a declaration that is refused. -/
structure StopsRefusing (rt : Runtime) (server : CulpeoSessionServer) (clock : ℕ → Ticks)
    (window : Ticks) (stored : SessionSnapshot) (declarations : List StreamInitDeclaration) :
    Prop where
  valid : validateStreamDeclarations declarations server.options.maxStreamCount = .ok ()
  short : (resumedPairs rt stored [] declarations).length < declarations.length
  inTime : InTime clock window 2 (resumedPairs rt stored [] declarations).length

/-- **What an init with a session does to the server.**  If the loop stops at a declaration that
is refused, the init is refused, and the streams in front of it have been confirmed.  Any other
refusal changes nothing. -/
theorem acceptInit_resuming {init : InitRequest}
    (session : isNullOrWhiteSpace frame.sessionId = false)
    (hsession : server.getSession (frame.sessionId.getD []) = some (ref, stored))
    (live : stored.expired (s.clock 1) = false) {answer : Endpoint × Except Exn CulpeoProcessResult}
    (hanswer : Endpoint.acceptInit env s ⟨server, starting⟩ frame init = answer)
    {window : Int32}
    (hwindow : Endpoint.negotiateBufferWindow server.options frame.bufferWindow = window) :
    (StopsRefusing env.toRuntime server s.clock (milliseconds window) stored init.streams ∧
        RefusesInit answer.2 ∧
        answer.1.server = server.putSnapshot ref (confirmPairs s.clock (milliseconds window) 2
          stored (resumedPairs env.toRuntime stored [] init.streams))) ∨
      (¬ StopsRefusing env.toRuntime server s.clock (milliseconds window) stored init.streams ∧
        (RefusesInit answer.2 → answer.1.server = server)) := by
  have opens : Endpoint.openSession env s server frame.sessionId init
      (Endpoint.negotiateBufferWindow server.options frame.bufferWindow) =
        resumeSession env.toRuntime s server (frame.sessionId.getD []) init window := by
    rw [Endpoint.openSession, session, hwindow]
    exact if_neg Bool.false_ne_true
  rw [acceptInit_eq env s server starting frame init opens] at hanswer
  rw [← hanswer]
  unfold resumeSession
  cases valid : validateStreamDeclarations init.streams server.options.maxStreamCount with
  | error ex =>
      refine .inr ⟨fun stops => ?_, fun _ => server_refuseInit _ ex⟩
      rw [stops.valid] at valid
      cases valid
  | ok u =>
      rw [hsession]
      dsimp only
      rw [live]
      simp only [Bool.false_eq_true, if_false]
      obtain ⟨inTime, left, ⟨through, ok⟩ | ⟨short, reason, failed⟩⟩ | ⟨late, failed⟩ :=
        @resumeStreams_eq env.toRuntime s.clock (milliseconds window) init.streams 2 [] stored
      -- Every declaration is accepted.
      · rw [ok]
        refine .inr ⟨fun stops => absurd stops.short (by omega), fun refused => ?_⟩
        exact absurd refused (not_refusesInit_establish _ _ _ _)
      -- A declaration is refused.
      · rw [failed, left]
        exact .inl ⟨⟨valid, short, inTime⟩, refusesInit_invalidStreams _ reason, rfl⟩
      -- The window of a declaration begins too early, and the method throws.
      · rw [failed]
        refine .inr ⟨fun stops => late stops.inTime, fun refused => ?_⟩
        obtain ⟨result, frame, hresult, -⟩ := refused
        cases hresult

/-- **A refused resumption leaves the session as it was exactly when** the declarations are
refused at once, or the loop over them stops at a refusal behind streams whose confirmation
changes nothing. -/
theorem receive_leavesSession_iff
    (hsession : server.getSession (frame.sessionId.getD []) = some (ref, stored))
    (live : stored.expired (s.clock 1) = false)
    (distinct : (stored.streams.map StreamState.id).Nodup) :
    LeavesSession env s server frame ref stored ↔
      ∀ init, submitted env server frame = some init →
        StopsRefusing env.toRuntime server s.clock
          (milliseconds (Endpoint.negotiateBufferWindow server.options frame.bufferWindow)) stored
          init.streams →
        ∀ j pair, (resumedPairs env.toRuntime stored [] init.streams)[j]? = some pair →
          Untouched (milliseconds
              (Endpoint.negotiateBufferWindow server.options frame.bufferWindow))
            (s.clock (2 + j)) pair.1 pair.2 := by
  have same : (answerTo env s server frame).1.server = server →
      LeavesSession env s server frame ref stored := by
    intro unchanged _
    rw [unchanged]
    exact ⟨hsession, fun _ _ _ => rfl⟩
  rcases answerTo_cases env s server frame with ⟨init, hinit, session, handled⟩ |
    ⟨none, unchanged⟩
  · rw [hinit]
    simp only [Option.some.injEq, forall_eq']
    obtain ⟨-, each, others⟩ := @resumedPairs_spec env.toRuntime stored init.streams []
    have confirming := @confirmPairs_eq_self_iff s.clock (milliseconds
      (Endpoint.negotiateBufferWindow server.options frame.bufferWindow)) stored distinct _ 2
      (fun pair hpair => (each pair hpair).1) others
    obtain ⟨-, hstored⟩ := getSession_some hsession
    -- The loop stops at a refusal, or the init changes nothing where it is refused.
    rcases acceptInit_resuming session hsession live handled.symm rfl with
      ⟨stops, refused, server'⟩ | ⟨through, unchanged⟩
    · rw [← confirming]
      constructor
      · intro leaves _
        have found := (leaves refused).1
        rw [server'] at found
        have there := (getSession_some found).2
        have set := List.getElem?_set_self (a := confirmPairs s.clock (milliseconds
          (Endpoint.negotiateBufferWindow server.options frame.bufferWindow)) 2 stored
            (resumedPairs env.toRuntime stored [] init.streams))
          (List.getElem?_eq_some_iff.mp hstored).1
        exact Option.some.inj (set.symm.trans there)
      · intro kept
        refine same ?_
        obtain ⟨hlt, hget⟩ := List.getElem?_eq_some_iff.mp hstored
        have put : server.snapshots.set ref stored = server.snapshots := by
          rw [← hget, List.set_getElem_self]
        rw [server', kept stops, CulpeoSessionServer.putSnapshot, put]
    · refine iff_of_true (fun refused => same (unchanged refused) refused) ?_
      exact fun stops => absurd stops through
  · rw [none]
    exact iff_of_true (fun refused => same (unchanged refused) refused) nofun

end Receive

/-! ### A session of two streams -/

/-- A stream of messages without checkpoints. -/
def messageStream (id : Text) (type : CulpeoStreamType) (currentOffset : Int64) : StreamState where
  id
  contentType := utf16 "text/plain"
  type
  purpose := none
  offsetType := .message
  currentOffset
  stride_pos := no_stride

/-- Three messages have come in, and five have gone out. -/
def dialogue : SessionSnapshot where
  sessionId := utf16 "dialogue"
  bufferWindowMs := 30000
  streams := [messageStream (utf16 "in") .input 3, messageStream (utf16 "out") .output 5]
  disconnectedAt := some 638396640000000000
  sessionStartedAt := 638396640000000000

def dialogueServer : CulpeoSessionServer where
  snapshots := [dialogue]
  sessions := [(utf16 "dialogue", 0)]

/-- The declaration of one of the streams. -/
def dialogueDeclaration (type : Text) (resumeOffset : Int64) : JsonElement :=
  .named [(utf16 "content_type", .string (some (utf16 "text/plain"))),
    (utf16 "type", .string (some type)),
    (utf16 "offset_type", .string (some (utf16 "message"))),
    (utf16 "resume_offset", .number (some resumeOffset))]

def dialogueInit (streams : List JsonElement) : JsonElement :=
  .named [(utf16 "version", .string (some (utf16 "0.3"))), (utf16 "streams", .array streams)]

/-- Two messages have been sent, and nine are said to have been seen. -/
def overreaching : JsonElement :=
  dialogueInit [dialogueDeclaration (utf16 "input") 2, dialogueDeclaration (utf16 "output") 9]

/-- The stream that cannot be resumed comes first. -/
def refusedAtOnce : JsonElement :=
  dialogueInit [dialogueDeclaration (utf16 "output") 9, dialogueDeclaration (utf16 "input") 2]

def dialogueEnvironment : Environment := .reading [overreaching, refusedAtOnce]

/-- Ten seconds after the connection was lost. -/
def dialogueSurroundings : Surroundings := ⟨fun _ => 638396640100000000, fun _ _ => 0⟩

def dialogueFrame (document : JsonElement) : CulpeoMessage where
  kind := .control
  event := some (utf16 "culpeo.init")
  authorization := some (utf16 "Bearer token")
  sessionId := some (utf16 "dialogue")
  body := dialogueEnvironment.serialize document

/-- Only the first stream is declared. -/
def halfInit : InitRequest :=
  ⟨utf16 "0.3", [⟨utf16 "text/plain", .input, none, none, none, .message⟩]⟩

/-- The second stream is left undeclared. -/
theorem not_resumeSession_bijective :
    ¬ ∀ (rt : Runtime) (s : Surroundings) (server : CulpeoSessionServer) (sessionId : Text)
      (init : InitRequest) (bufferWindow : Int32) (ref : ℕ) (stored : SessionSnapshot),
      server.getSession sessionId = some (ref, stored) →
      (∃ result, (resumeSession rt s server sessionId init bufferWindow).2 = .ok result) →
      PairedOff rt stored init.streams := by
  intro bijective
  have through : (resumedPairs dialogueEnvironment.toRuntime dialogue [] halfInit.streams).length =
      halfInit.streams.length := by decide
  have resumable : Resumable dialogueEnvironment.toRuntime dialogueServer
      dialogueSurroundings.clock (milliseconds 0) dialogue halfInit.streams :=
    ⟨by decide, by decide, through, by decide⟩
  have paired := bijective dialogueEnvironment.toRuntime dialogueSurroundings dialogueServer
    (utf16 "dialogue") halfInit 0 0 dialogue rfl ((resumeSession_succeeds_iff rfl).mpr resumable)
  exact absurd ((pairedOff_iff_of_through through).mp paired) (by decide)

theorem resumeSession_bijective_dialogue :
    ((∃ result, (resumeSession dialogueEnvironment.toRuntime dialogueSurroundings dialogueServer
        (utf16 "dialogue") halfInit 0).2 = .ok result) →
      PairedOff dialogueEnvironment.toRuntime dialogue halfInit.streams) ↔
    ¬ (Resumable dialogueEnvironment.toRuntime dialogueServer dialogueSurroundings.clock
        (milliseconds 0) dialogue halfInit.streams ∧
      halfInit.streams.length < dialogue.streams.length) :=
  @resumeSession_bijective_iff dialogueEnvironment.toRuntime dialogueSurroundings dialogueServer
    (utf16 "dialogue") halfInit 0 0 dialogue rfl

set_option maxRecDepth 20000 in
/-- The offset of the first stream is confirmed before the second one is refused. -/
theorem not_receive_leavesSession :
    ¬ ∀ (env : Environment) (s : Surroundings) (server : CulpeoSessionServer)
      (frame : CulpeoMessage) (ref : ℕ) (stored : SessionSnapshot),
      server.getSession (frame.sessionId.getD []) = some (ref, stored) →
      stored.expired (s.clock 1) = false → (stored.streams.map StreamState.id).Nodup →
      LeavesSession env s server frame ref stored := by
  intro leaves
  have events : ((answerTo dialogueEnvironment dialogueSurroundings dialogueServer
      (dialogueFrame overreaching)).2.toOption.map fun result =>
        result.outboundFrames.map CulpeoMessage.event) =
      some [some (utf16 "culpeo.init-error")] := by decide
  have offsets : (((answerTo dialogueEnvironment dialogueSurroundings dialogueServer
      (dialogueFrame overreaching)).1.server.getSession (utf16 "dialogue")).map fun found =>
        found.2.streams.map StreamState.confirmedResumeOffset) = some [3, 0] := by decide
  have refused : RefusesInit (answerTo dialogueEnvironment dialogueSurroundings dialogueServer
      (dialogueFrame overreaching)).2 := by
    revert events
    rcases (answerTo dialogueEnvironment dialogueSurroundings dialogueServer
      (dialogueFrame overreaching)).2 with ex | result
    · exact fun events => by cases events
    · intro events
      obtain ⟨frame, hframe, hevent⟩ := List.map_eq_singleton_iff.mp (Option.some.inj events)
      exact ⟨result, frame, rfl, by rw [hframe]; exact List.mem_singleton_self _, hevent⟩
  have kept := (leaves dialogueEnvironment dialogueSurroundings dialogueServer
    (dialogueFrame overreaching) 0 dialogue rfl rfl (by decide) refused).1
  rw [show (dialogueFrame overreaching).sessionId.getD [] = utf16 "dialogue" from rfl] at kept
  rw [kept] at offsets
  exact absurd offsets (by decide)

set_option maxRecDepth 20000 in
theorem receive_leavesSession_dialogue :
    LeavesSession dialogueEnvironment dialogueSurroundings dialogueServer
      (dialogueFrame refusedAtOnce) 0 dialogue := by
  refine (@receive_leavesSession_iff dialogueEnvironment dialogueSurroundings dialogueServer
    (dialogueFrame refusedAtOnce) 0 dialogue rfl rfl (by decide)).mpr ?_
  intro init hinit _ j pair hpair
  have same : submitted dialogueEnvironment dialogueServer (dialogueFrame refusedAtOnce) =
      some ⟨utf16 "0.3", [⟨utf16 "text/plain", .output, none, none, some 9, .message⟩,
        ⟨utf16 "text/plain", .input, none, none, some 2, .message⟩]⟩ := by decide
  obtain rfl := Option.some.inj (same.symm.trans hinit)
  have none : (resumedPairs dialogueEnvironment.toRuntime dialogue []
      [⟨utf16 "text/plain", .output, none, none, some 9, .message⟩,
        ⟨utf16 "text/plain", .input, none, none, some 2, .message⟩]).length = 0 := by decide
  rw [List.length_eq_zero_iff.mp none] at hpair
  cases hpair

end CulpeoStream.Dotnet
