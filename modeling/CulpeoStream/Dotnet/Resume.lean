import CulpeoStream.Dotnet.Reading
import CulpeoStream.Dotnet.Snapshots

/-!
# What a resumption announces

The init-ack of a resumption lists the streams of the session, each with the
`ConfirmedResumeOffset` that `ResumeSession` has set.  The offsets that frames are
compared with and stamped with are the `CurrentOffset`s, which it does not set.  So the
announced offsets are right exactly when the two agree for every stream, declared or not,
and when they are announced at all (`resumption_truthful_iff`).
-/

namespace CulpeoStream.Dotnet

open Checks Message Utf16

/-! ### Content types -/

section ContentType

variable {rt : Runtime}

theorem equalsIgnoreCase_self (rt : Runtime) (s : Text) : equalsIgnoreCase rt s s = true :=
  beq_self_eq_true _

/-- The parameters are found under their keys. -/
def Keyed (rt : Runtime) (parameters : List (Text × Text)) : Prop :=
  ∀ parameter ∈ parameters, tryGetValue rt parameters parameter.1 = some parameter.2

theorem keyed_addParameter {parameters parameters' : List (Text × Text)} {part : Text}
    (h : Keyed rt parameters) (hadd : addParameter rt parameters part = some parameters') :
    Keyed rt parameters' := by
  unfold addParameter at hadd
  split at hadd
  · cases hadd
  · dsimp only at hadd
    split at hadd
    · cases hadd
    · rename_i hnew
      cases hadd
      rw [Bool.or_eq_true, not_or, Bool.not_eq_true, Bool.not_eq_true,
        Option.isSome_eq_false_iff, Option.isNone_iff_eq_none] at hnew
      intro parameter hmem
      rw [tryGetValue, List.find?_append]
      rcases List.mem_append.mp hmem with hold | hlast
      · have hfound := h parameter hold
        obtain ⟨found, hfind, hvalue⟩ := Option.map_eq_some_iff.mp hfound
        rw [hfind]
        exact congrArg some hvalue
      · rw [List.mem_singleton.mp hlast]
        rw [Option.map_eq_none_iff.mp hnew.2, Option.none_or, List.find?_cons,
          equalsIgnoreCase_self]
        rfl

theorem keyed_foldlM (parts : List Text) :
    ∀ {parameters parameters' : List (Text × Text)}, Keyed rt parameters →
      parts.foldlM (addParameter rt) parameters = some parameters' → Keyed rt parameters' := by
  induction parts with
  | nil =>
      intro parameters parameters' h hfold
      cases hfold
      exact h
  | cons part parts ih =>
      intro parameters parameters' h hfold
      rw [List.foldlM_cons] at hfold
      obtain ⟨next, hnext, hfold⟩ := Option.bind_eq_some_iff.mp hfold
      exact ih (keyed_addParameter h hnext) hfold

theorem keyed_tryParseContentType {contentType : Text} {parsed : ParsedContentType}
    (h : tryParseContentType rt contentType = some parsed) : Keyed rt parsed.parameters := by
  unfold tryParseContentType at h
  split at h
  · cases h
  · split at h
    · cases h
    · obtain ⟨parameters, hfold, rfl⟩ := Option.map_eq_some_iff.mp h
      exact keyed_foldlM _ (fun _ hmem => absurd hmem List.not_mem_nil) hfold

/-- A content type matches itself. -/
theorem contentTypesMatch_self (rt : Runtime) (contentType : Text) :
    contentTypesMatch rt contentType contentType = true := by
  unfold contentTypesMatch
  cases hparsed : tryParseContentType rt contentType with
  | none => exact beq_self_eq_true _
  | some parsed =>
      have hkeyed := keyed_tryParseContentType hparsed
      show (_ && _ && _) = true
      rw [equalsIgnoreCase_self, beq_self_eq_true, Bool.true_and, Bool.true_and, List.all_eq_true]
      intro parameter hmem
      rw [hkeyed parameter hmem]
      exact beq_self_eq_true _

end ContentType

/-! ### Offsets that are used -/

/-- `HandleIncomingMedia` can accept a frame with this offset on the stream. -/
def CanReceive (rt : Runtime) (e : Endpoint) (streamId : Text) (offset : Int64) : Prop :=
  ∃ now frame, frame.streamId = some streamId ∧ frame.offset = some offset ∧
    (e.handleIncomingMedia rt now frame).2 = .ok (.empty .established)

/-- `SendMediaAsync` can produce a frame with this offset on the stream. -/
def CanSend (e : Endpoint) (streamId : Text) (offset : Int64) : Prop :=
  ∃ now payload timestamp message,
    (e.sendMedia now streamId payload timestamp).2 = .ok message ∧ message.offset = some offset

/-- The offset is the only one that is accepted next, if the client may send on the stream,
and the one of the next frame that is produced, if the server may. -/
structure Truthful (rt : Runtime) (e : Endpoint) (stream : StreamState) (offset : Int64) :
    Prop where
  receives : stream.type ≠ .output → ∀ next, CanReceive rt e stream.id next ↔ next = offset
  sends : stream.type ≠ .input → ∀ next, CanSend e stream.id next ↔ next = offset

section Offsets

variable {rt : Runtime} {e : Endpoint} {stream : StreamState} {next : Int64}

theorem advanceOffset_zero (stream : StreamState) :
    ∃ advanced, stream.advanceOffset 0 = .ok advanced := by
  have hincrement : ∃ n, stream.getIncrement 0 = .ok n := by
    unfold StreamState.getIncrement
    split
    · rename_i htime
      obtain ⟨stride, -, hstride⟩ := stream.stride_pos htime
      rw [hstride]
      exact ⟨0 / stride, if_neg (by rw [Nat.zero_mod]; exact fun h => h rfl)⟩
    · exact ⟨0, rfl⟩
    · exact ⟨1, rfl⟩
  obtain ⟨n, hn⟩ := hincrement
  unfold StreamState.advanceOffset
  rw [hn]
  exact ⟨_, rfl⟩

theorem closeOnViolation_ne_empty (e : Endpoint) (now : Ticks) (ex : Exn)
    (state : CulpeoSessionState) : (e.closeOnViolation now ex).2 ≠ .ok (.empty state) := by
  cases ex with
  | protocolValidation code reason =>
      intro h
      have hframes := congrArg CulpeoProcessResult.outboundFrames (Except.ok.inj h)
      cases hframes
  | _ => nofun

/-- **What is accepted next** is a frame at the offset of the stream. -/
theorem canReceive_iff (hopen : e.openStream stream.id = some stream)
    (hid : isNullOrWhiteSpace (some stream.id) = false)
    (hcontentType : isNullOrWhiteSpace (some stream.contentType) = false)
    (htype : stream.type ≠ .output) :
    CanReceive rt e stream.id next ↔ next = stream.currentOffset := by
  constructor
  · rintro ⟨now, frame, hstreamId, hoffset, haccepted⟩
    unfold Endpoint.handleIncomingMedia at haccepted
    split at haccepted
    · exact absurd haccepted (closeOnViolation_ne_empty _ _ _ _)
    · rename_i stream' offset hcheck
      obtain ⟨id, hsame, hopen', hoffset', rfl⟩ := checkMedia_ok hcheck
      obtain rfl : stream.id = id := Option.some.inj (hstreamId.symm.trans hsame)
      obtain rfl : stream = stream' := Option.some.inj (hopen.symm.trans hopen')
      exact Option.some.inj (hoffset.symm.trans hoffset')
  · rintro rfl
    have hestablished := openStream_established hopen
    -- An empty frame at the current offset is accepted.
    let frame : CulpeoMessage :=
      { kind := .media, streamId := some stream.id, contentType := some stream.contentType
        offset := some stream.currentOffset }
    have hcheck : e.checkMedia rt frame = .ok (stream, stream.currentOffset) := by
      unfold Endpoint.checkMedia
      rw [if_neg (by rw [hid]; decide)]
      rw [show e.getStreamOrThrow (frame.streamId.getD []) = .ok stream from
        getStreamOrThrow_of_openStream hopen]
      dsimp only
      rw [if_neg htype]
      rw [show (isNullOrWhiteSpace frame.contentType
        || !contentTypesMatch rt stream.contentType (frame.contentType.getD [])) = false from by
          show (isNullOrWhiteSpace (some stream.contentType)
            || !contentTypesMatch rt stream.contentType stream.contentType) = false
          rw [hcontentType, contentTypesMatch_self]
          rfl]
      rw [if_neg Bool.false_ne_true]
      show (if stream.currentOffset ≠ stream.currentOffset then _ else _) = _
      rw [if_neg (not_not.mpr rfl)]
    obtain ⟨advanced, hadvanced⟩ :=
      advanceOffset_zero (stream.recordFrame stream.currentOffset 0)
    refine ⟨0, frame, rfl, rfl, ?_⟩
    unfold Endpoint.handleIncomingMedia
    rw [hcheck]
    dsimp only
    rw [show frame.body.length = 0 from rfl, hadvanced, hestablished]

/-- **What is sent next** is a frame at the offset of the stream. -/
theorem canSend_iff (hopen : e.openStream stream.id = some stream)
    (htype : stream.type ≠ .input) : CanSend e stream.id next ↔ next = stream.currentOffset := by
  have hget := getStreamOrThrow_of_openStream hopen
  constructor
  · rintro ⟨now, payload, timestamp, message, hsent, hoffset⟩
    unfold Endpoint.sendMedia at hsent
    rw [hget] at hsent
    dsimp only at hsent
    rw [if_neg htype] at hsent
    split at hsent
    · cases hsent
    · cases hsent
      exact (Option.some.inj hoffset).symm
  · rintro rfl
    obtain ⟨advanced, hadvanced⟩ :=
      advanceOffset_zero (stream.recordFrame stream.currentOffset 0)
    refine ⟨0, [], 0, Endpoint.mediaMessage stream [] 0, ?_, rfl⟩
    unfold Endpoint.sendMedia
    rw [hget]
    dsimp only
    rw [if_neg htype, List.length_nil, hadvanced]

/-- The truth about a stream is its `CurrentOffset`. -/
theorem truthful_iff (hopen : e.openStream stream.id = some stream)
    (hid : isNullOrWhiteSpace (some stream.id) = false)
    (hcontentType : isNullOrWhiteSpace (some stream.contentType) = false) (offset : Int64) :
    Truthful rt e stream offset ↔ offset = stream.currentOffset := by
  constructor
  · intro h
    by_cases htype : stream.type = .output
    · have hsends := h.sends (by rw [htype]; nofun) offset
      exact (canSend_iff hopen (by rw [htype]; nofun)).mp (hsends.mpr rfl)
    · have hreceives := h.receives htype offset
      exact (canReceive_iff hopen hid hcontentType htype).mp (hreceives.mpr rfl)
  · rintro rfl
    exact ⟨fun htype _ => canReceive_iff hopen hid hcontentType htype,
      fun htype _ => canSend_iff hopen htype⟩

end Offsets

/-! ### Streams that are declared -/

/-- The declarations of a resumption with the streams that they mean, up to the first one
that means none. -/
def meant (rt : Runtime) (snapshot : SessionSnapshot) :
    List Text → List StreamInitDeclaration → List (StreamInitDeclaration × StreamState)
  | _, [] => []
  | matched, declaration :: rest =>
      match findExistingStream rt snapshot declaration matched with
      | none => []
      | some existing => (declaration, existing) :: meant rt snapshot (existing.id :: matched) rest

section Meant

variable {rt : Runtime} {snapshot : SessionSnapshot}

theorem meant_fresh (declarations : List StreamInitDeclaration) :
    ∀ {matched : List Text} {entry : StreamInitDeclaration × StreamState},
      entry ∈ meant rt snapshot matched declarations →
      entry.2 ∈ snapshot.streams ∧ entry.2.id ∉ matched := by
  induction declarations with
  | nil =>
      intro matched entry h
      cases h
  | cons declaration rest ih =>
      intro matched entry h
      unfold meant at h
      split at h
      · cases h
      · rename_i existing hfound
        rcases List.mem_cons.mp h with rfl | hrest
        · exact findExistingStream_some hfound
        · obtain ⟨hmem, hfree⟩ := ih hrest
          exact ⟨hmem, fun h => hfree (List.mem_cons_of_mem _ h)⟩

/-- A stream that is taken already may change. -/
theorem findExistingStream_putStream {new : StreamState} {matched : List Text}
    (hnew : new.id ∈ matched) (declaration : StreamInitDeclaration) :
    findExistingStream rt (snapshot.putStream new) declaration matched =
      findExistingStream rt snapshot declaration matched := by
  let available (stream : StreamState) : Bool :=
    !matched.contains stream.id && matchesStream rt stream declaration
  let replace (stream : StreamState) : StreamState := if stream.id = new.id then new else stream
  have htaken : ∀ stream : StreamState, stream.id = new.id → available stream = false := by
    intro stream hid
    show (!matched.contains stream.id && _) = false
    rw [hid, List.contains_iff_mem.mpr hnew, Bool.not_true, Bool.false_and]
  have hsame : available ∘ replace = available := by
    funext stream
    show available (if stream.id = new.id then new else stream) = available stream
    split
    · rename_i hid
      rw [htaken new rfl, htaken stream hid]
    · rfl
  have hkept : ∀ stream, available stream = true → replace stream = stream := by
    intro stream havailable
    refine if_neg fun hid => ?_
    rw [htaken stream hid] at havailable
    cases havailable
  -- The search without a hint, and then the one with it.
  have hfirst : (snapshot.putStream new).streams.find? available =
      snapshot.streams.find? available := by
    show (snapshot.streams.map replace).find? available = _
    rw [List.find?_map, hsame]
    cases hfound : snapshot.streams.find? available with
    | none => rfl
    | some stream => exact congrArg some (hkept stream (List.find?_some hfound))
  have hhinted : ∀ id : Text, ((snapshot.putStream new).stream id).filter available =
      (snapshot.stream id).filter available := by
    intro id
    have hfind : (snapshot.putStream new).stream id =
        if id = new.id then (snapshot.stream id).map fun _ => new else snapshot.stream id :=
      Table.find?_replace StreamState.id new id snapshot.streams
    rw [hfind]
    split
    · rename_i hid
      cases hstream : snapshot.stream id with
      | none => rfl
      | some stream =>
          have hstreamId : stream.id = new.id := by
            have hfound := List.find?_some hstream
            rw [← hid]
            exact of_decide_eq_true hfound
          show Option.filter available (some new) = Option.filter available (some stream)
          rw [Option.filter_some, Option.filter_some, htaken new rfl, htaken stream hstreamId]
          rfl
    · rfl
  unfold findExistingStream
  dsimp only
  rw [show (snapshot.putStream new).streams.find? (fun stream =>
      !matched.contains stream.id && matchesStream rt stream declaration) = _ from hfirst,
    show Option.filter (fun stream =>
      !matched.contains stream.id && matchesStream rt stream declaration)
        ((snapshot.putStream new).stream (declaration.idHint.getD [])) = _ from hhinted _]

theorem meant_putStream {new : StreamState} (declarations : List StreamInitDeclaration) :
    ∀ {matched : List Text}, new.id ∈ matched →
      meant rt (snapshot.putStream new) matched declarations =
        meant rt snapshot matched declarations := by
  induction declarations with
  | nil =>
      intro matched _
      rfl
  | cons declaration rest ih =>
      intro matched hnew
      unfold meant
      rw [findExistingStream_putStream hnew]
      cases findExistingStream rt snapshot declaration matched with
      | none => rfl
      | some existing => exact congrArg _ (ih (List.mem_cons_of_mem _ hnew))

theorem ids_resumeStreams (rt : Runtime) (clock : ℕ → Ticks) (window : Ticks)
    (declarations : List StreamInitDeclaration) :
    ∀ (k : ℕ) (matched : List Text) (snapshot : SessionSnapshot),
      (resumeStreams rt clock window k matched snapshot declarations).1.streams.map
        StreamState.id = snapshot.streams.map StreamState.id := by
  induction declarations with
  | nil =>
      intro k matched snapshot
      rfl
  | cons declaration rest ih =>
      intro k matched snapshot
      unfold resumeStreams
      split
      · rfl
      · split
        · rfl
        · rw [ih, ids_putStream]

/-- **What a resumption leaves of the streams**: one that no declaration means is as it was,
and one that is meant has its offset confirmed. -/
theorem resumeStreams_ok {clock : ℕ → Ticks} {window : Ticks}
    {declarations : List StreamInitDeclaration} :
    ∀ {k : ℕ} {matched : List Text} {snapshot : SessionSnapshot},
      (resumeStreams rt clock window k matched snapshot declarations).2 = .ok () →
      (∀ stream ∈ snapshot.streams,
        stream.id ∉ (meant rt snapshot matched declarations).map (fun entry => entry.2.id) →
        stream ∈ (resumeStreams rt clock window k matched snapshot declarations).1.streams) ∧
      ∀ j entry, (meant rt snapshot matched declarations)[j]? = some entry →
        ∃ stream ∈ (resumeStreams rt clock window k matched snapshot declarations).1.streams,
          stream.id = entry.2.id ∧ stream.currentOffset = entry.2.currentOffset ∧
          stream.confirmedResumeOffset =
            confirmed window (clock (k + j)) entry.1 entry.2 := by
  induction declarations with
  | nil =>
      intro k matched snapshot _
      refine ⟨fun stream hmem _ => hmem, fun j entry hentry => ?_⟩
      replace hentry : ([] : List (StreamInitDeclaration × StreamState))[j]? = some entry := hentry
      rw [List.getElem?_nil] at hentry
      cases hentry
  | cons declaration rest ih =>
      intro k matched snapshot hok
      cases hfound : findExistingStream rt snapshot declaration matched with
      | none =>
          rw [resumeStreams, hfound] at hok
          cases hok
      | some existing =>
        cases hresume : resumeStream window (clock k) declaration existing with
        | error ex =>
          rw [resumeStreams, hfound] at hok
          dsimp only at hok
          rw [hresume] at hok
          cases hok
        | ok resumed =>
          have hstep : resumeStreams rt clock window k matched snapshot (declaration :: rest) =
              resumeStreams rt clock window (k + 1) (resumed.id :: matched)
                (snapshot.putStream resumed) rest := by
            rw [resumeStreams, hfound]
            dsimp only
            rw [hresume]
          have hcons : meant rt snapshot matched (declaration :: rest) =
              (declaration, existing) :: meant rt snapshot (existing.id :: matched) rest := by
            rw [meant, hfound]
          rw [hstep] at hok ⊢
          rw [hcons]
          have hid := (resumeStream_becomes hresume).id
          have hcurrent : resumed.currentOffset = existing.currentOffset := by
            rw [(resumeStream_ok hresume).2]
            rfl
          have hconfirmed : resumed.confirmedResumeOffset =
              confirmed window (clock k) declaration existing := by
            rw [(resumeStream_ok hresume).2]
            rfl
          have hmeant : meant rt (snapshot.putStream resumed) (resumed.id :: matched) rest =
              meant rt snapshot (existing.id :: matched) rest := by
            rw [meant_putStream rest List.mem_cons_self, hid]
          obtain ⟨hkept, hdone⟩ := ih hok
          rw [hmeant] at hkept hdone
          refine ⟨fun stream hmem hother => ?_, fun j entry hentry => ?_⟩
          · rw [List.map_cons, List.mem_cons, not_or] at hother
            refine hkept stream (List.mem_map.mpr ⟨stream, hmem, if_neg ?_⟩) hother.2
            rw [hid]
            exact hother.1
          · cases j with
            | zero =>
                -- The stream is not meant again, so the rest leaves it as it is.
                cases hentry
                refine ⟨resumed, hkept resumed ?_ ?_, hid, hcurrent, hconfirmed⟩
                · exact List.mem_map.mpr
                    ⟨existing, (findExistingStream_some hfound).1, if_pos hid.symm⟩
                · intro hagain
                  obtain ⟨again, hmem, hsame⟩ := List.mem_map.mp hagain
                  refine (meant_fresh rest hmem).2 ?_
                  rw [hsame, hid]
                  exact List.mem_cons_self
            | succ j =>
                rw [List.getElem?_cons_succ] at hentry
                obtain ⟨stream, hmem, hstream⟩ := hdone j entry hentry
                rw [show k + (j + 1) = k + 1 + j by omega]
                exact ⟨stream, hmem, hstream⟩

end Meant

/-! ### Announcements -/

theorem text_streamEntry (resumption : Bool) (stream : StreamState) :
    (streamEntry resumption stream).text (utf16 "id") = some stream.id := by
  unfold streamEntry
  by_cases hpurpose : isNullOrWhiteSpace stream.purpose = true
  · rw [if_pos hpurpose]
    cases resumption <;> rfl
  · rw [if_neg hpurpose]
    cases resumption <;> rfl

theorem property_streamEntry (resumption : Bool) (stream : StreamState) :
    (streamEntry resumption stream).property (utf16 "resume_offset") =
      if resumption then some (.number (some stream.confirmedResumeOffset)) else none := by
  unfold streamEntry
  by_cases hpurpose : isNullOrWhiteSpace stream.purpose = true
  · rw [if_pos hpurpose]
    cases resumption <;> rfl
  · rw [if_neg hpurpose]
    cases resumption <;> rfl

/-- The entry of every stream announces an offset that is true. -/
def TellsTruth (rt : Runtime) (e : Endpoint) (snapshot : SessionSnapshot) (resumption : Bool) :
    Prop :=
  ∀ stream ∈ snapshot.streams, ∃ entry ∈ initAckEntries snapshot resumption,
    entry.text (utf16 "id") = some stream.id ∧
    ∃ offset, entry.property (utf16 "resume_offset") = some (.number (some offset)) ∧
      Truthful rt e stream offset

theorem eq_of_id {snapshot : SessionSnapshot} (h : snapshot.Proper) {a b : StreamState}
    (ha : a ∈ snapshot.streams) (hb : b ∈ snapshot.streams) (hid : a.id = b.id) : a = b :=
  List.inj_on_of_nodup_map h.nodup ha hb hid

theorem openStream_of_mem {e : Endpoint} {snapshot : SessionSnapshot} (h : snapshot.Proper)
    (hstate : e.connection.state = .established) (hsnapshot : e.snapshot = some snapshot)
    {stream : StreamState} (hmem : stream ∈ snapshot.streams) :
    e.openStream stream.id = some stream := by
  rw [Endpoint.openStream, if_pos hstate, hsnapshot]
  show snapshot.streams.find? (fun s => s.id = stream.id) = some stream
  cases hfound : snapshot.streams.find? (fun s => s.id = stream.id) with
  | none => exact absurd (decide_eq_true rfl) (List.find?_eq_none.mp hfound stream hmem)
  | some found =>
      have hid := List.find?_some hfound
      rw [eq_of_id h (List.mem_of_find?_eq_some hfound) hmem (of_decide_eq_true hid)]

/-- **Announcements are true** when there are any, and every stream is confirmed where it
stands. -/
theorem tellsTruth_iff {rt : Runtime} {e : Endpoint} {snapshot : SessionSnapshot}
    (h : snapshot.Proper) (hstate : e.connection.state = .established)
    (hsnapshot : e.snapshot = some snapshot) (hsome : snapshot.streams ≠ []) (resumption : Bool) :
    TellsTruth rt e snapshot resumption ↔ resumption = true ∧
      ∀ stream ∈ snapshot.streams, stream.confirmedResumeOffset = stream.currentOffset := by
  have htruthful : ∀ stream ∈ snapshot.streams, ∀ offset,
      Truthful rt e stream offset ↔ offset = stream.currentOffset := fun stream hmem offset =>
    truthful_iff (openStream_of_mem h hstate hsnapshot hmem) (h.id stream hmem)
      (h.contentType stream hmem) offset
  constructor
  · intro htruth
    have hannounced : ∀ stream ∈ snapshot.streams, resumption = true ∧
        stream.confirmedResumeOffset = stream.currentOffset := by
      intro stream hmem
      obtain ⟨entry, hentry, hid, offset, hoffset, hstream⟩ := htruth stream hmem
      obtain ⟨other, hother, rfl⟩ := List.mem_map.mp hentry
      rw [text_streamEntry, Option.some.injEq] at hid
      obtain rfl : other = stream := eq_of_id h hother hmem hid
      rw [property_streamEntry] at hoffset
      obtain ⟨hresumption, hvalue⟩ := Option.ite_none_right_eq_some.mp hoffset
      cases hvalue
      exact ⟨hresumption, (htruthful other hmem _).mp hstream⟩
    obtain ⟨stream, hmem⟩ := List.exists_mem_of_ne_nil _ hsome
    exact ⟨(hannounced stream hmem).1, fun stream hmem => (hannounced stream hmem).2⟩
  · rintro ⟨rfl, hconfirmed⟩ stream hmem
    refine ⟨streamEntry true stream, List.mem_map_of_mem hmem, text_streamEntry true stream,
      stream.confirmedResumeOffset, property_streamEntry true stream, ?_⟩
    exact (htruthful stream hmem _).mpr (hconfirmed stream hmem)

/-! ### Accepted resumptions -/

/-- The session as `ResumeSession` leaves it. -/
def resumedSnapshot (rt : Runtime) (clock : ℕ → Ticks) (stored : SessionSnapshot)
    (init : InitRequest) (bufferWindow : Int32) : SessionSnapshot :=
  { (resumeStreams rt clock (milliseconds bufferWindow) 2 [] stored init.streams).1 with
    bufferWindowMs := bufferWindow, disconnectedAt := none }

/-- **What an accepted resumption is**: the session that is stored under its `Session-Id` is
resumed, the connection is established with it, and the init-ack lists its streams. -/
structure Resumption (env : Environment) (s : Surroundings) (e : Endpoint)
    (frame : CulpeoMessage) (init : InitRequest) (ref : ℕ) (stored : SessionSnapshot)
    (bufferWindow : Int32) : Prop where
  parse : parseInitBody env frame.body = .ok init
  declared : init.streams ≠ []
  session : e.server.getSession (frame.sessionId.getD []) = some (ref, stored)
  window : bufferWindow = Endpoint.negotiateBufferWindow e.server.options frame.bufferWindow
  matched : (resumeStreams env.toRuntime s.clock (milliseconds bufferWindow) 2 [] stored
    init.streams).2 = .ok ()
  answer : (e.receive env s frame).2 = .ok ⟨[createInitAckFrame env
    (resumedSnapshot env.toRuntime s.clock stored init bufferWindow) init.version bufferWindow
    init.isResumption], false, none, .established⟩
  snapshot : (e.receive env s frame).1.snapshot =
    some (resumedSnapshot env.toRuntime s.clock stored init bufferWindow)

section Accepted

variable {env : Environment} {s : Surroundings} {e : Endpoint} {frame : CulpeoMessage}

theorem declared_of_validate {streams : List StreamInitDeclaration} {maxStreamCount : Int32}
    (h : validateStreamDeclarations streams maxStreamCount = .ok ()) : streams ≠ [] := by
  rintro rfl
  cases h

theorem resumeSession_ok {rt : Runtime} {server : CulpeoSessionServer} {sessionId : Text}
    {init : InitRequest} {bufferWindow : Int32} {ref : ℕ} {snapshot : SessionSnapshot}
    (h : (resumeSession rt s server sessionId init bufferWindow).2 = .ok (ref, snapshot)) :
    init.streams ≠ [] ∧ ∃ stored, server.getSession sessionId = some (ref, stored) ∧
      (resumeStreams rt s.clock (milliseconds bufferWindow) 2 [] stored init.streams).2 = .ok () ∧
      snapshot = resumedSnapshot rt s.clock stored init bufferWindow ∧
      (resumeSession rt s server sessionId init bufferWindow).1 =
        server.putSnapshot ref snapshot := by
  unfold resumeSession at h ⊢
  split at h
  · cases h
  · rename_i hvalidate
    refine ⟨declared_of_validate hvalidate, ?_⟩
    split at h
    · cases h
    · rename_i found stored hsession
      split at h
      · cases h
      · rename_i hexpired
        dsimp only at h
        split at h
        · cases h
        · rename_i hmatched
          cases h
          refine ⟨stored, hsession, hmatched, rfl, ?_⟩
          rw [if_neg hexpired]
          dsimp only
          rw [hmatched]

theorem state_refuseInit {e : Endpoint} (h : e.connection.state = .initializing) (ex : Exn) :
    (e.refuseInit ex).1.connection.state ≠ .established := by
  cases ex with
  | protocolValidation code reason => nofun
  | _ =>
      show e.connection.state ≠ .established
      rw [h]
      nofun

/-- A session that was put where it is and saved is the one of its connection. -/
theorem snapshot_establish {e : Endpoint} {ref : ℕ} {snapshot : SessionSnapshot}
    {init : InitRequest} {bufferWindow : Int32}
    (hput : e.server.snapshots[ref]? = some snapshot) :
    (e.establish env ref snapshot init bufferWindow).1.snapshot = some snapshot := by
  show (CulpeoSessionServer.saveSession _ _ _).snapshots[ref]? = _
  rw [snapshots_saveSession]
  exact hput

theorem resumption_of_acceptInit {init : InitRequest}
    (hsession : isNullOrWhiteSpace frame.sessionId = false)
    (h : ((e.setState .initializing).acceptInit env s frame init).1.connection.state =
      .established) :
    ∃ ref stored snapshot bufferWindow,
      bufferWindow = Endpoint.negotiateBufferWindow e.server.options frame.bufferWindow ∧
      init.streams ≠ [] ∧ e.server.getSession (frame.sessionId.getD []) = some (ref, stored) ∧
      (resumeStreams env.toRuntime s.clock (milliseconds bufferWindow) 2 [] stored
        init.streams).2 = .ok () ∧
      snapshot = resumedSnapshot env.toRuntime s.clock stored init bufferWindow ∧
      ((e.setState .initializing).acceptInit env s frame init).2 =
        .ok ⟨[createInitAckFrame env snapshot init.version bufferWindow init.isResumption], false,
          none, .established⟩ ∧
      ((e.setState .initializing).acceptInit env s frame init).1.snapshot = some snapshot := by
  let bufferWindow := Endpoint.negotiateBufferWindow e.server.options frame.bufferWindow
  have hopen : Endpoint.openSession env s (e.setState .initializing).server frame.sessionId init
      bufferWindow = resumeSession env.toRuntime s e.server (frame.sessionId.getD []) init
        bufferWindow := if_neg (by rw [hsession]; decide)
  unfold Endpoint.acceptInit at h ⊢
  dsimp only at h ⊢
  rw [show Endpoint.openSession env s (e.setState .initializing).server frame.sessionId init
    (Endpoint.negotiateBufferWindow (e.setState .initializing).server.options
      frame.bufferWindow) = _ from hopen] at h ⊢
  cases hresume : (resumeSession env.toRuntime s e.server (frame.sessionId.getD []) init
      bufferWindow).2 with
  -- A resumption that fails leaves no established connection.
  | error ex =>
      rw [hresume] at h
      exact absurd h (state_refuseInit rfl ex)
  | ok opened =>
      obtain ⟨ref, snapshot⟩ := opened
      obtain ⟨hdeclared, stored, hstored, hmatched, hsnapshot, hserver⟩ :=
        resumeSession_ok hresume
      have hlt : ref < e.server.snapshots.length :=
        (List.getElem?_eq_some_iff.mp (getSession_some hstored).2).1
      refine ⟨ref, stored, snapshot, bufferWindow, rfl, hdeclared, hstored, hmatched, hsnapshot,
        rfl, snapshot_establish ?_⟩
      rw [hserver]
      exact List.getElem?_set_self hlt

/-- A first frame that establishes a session that is there. -/
theorem resumption_of_established (hstate : e.connection.state = .uninitialized)
    (hsession : isNullOrWhiteSpace frame.sessionId = false)
    (h : (e.receive env s frame).1.connection.state = .established) :
    ∃ init ref stored bufferWindow, Resumption env s e frame init ref stored bufferWindow := by
  have hreceive : e.receive env s frame = e.handleInitialFrame env s frame := by
    unfold Endpoint.receive at h ⊢
    cases htimeout : e.checkPendingAuthTimeout (s.clock 0) with
    | some timedOut =>
        rw [htimeout] at h
        have hclosed := (timeout_some htimeout).2
        rw [show timedOut.1.connection.state = .established from h] at hclosed
        cases hclosed
    | none =>
        dsimp only
        rw [hstate]
  rw [hreceive] at h
  -- Every other way through the first frame leaves the connection closed.
  have hinit : ∃ init, parseInitBody env frame.body = .ok init ∧
      e.handleInitialFrame env s frame =
        (e.setState .initializing).acceptInit env s frame init := by
    unfold Endpoint.handleInitialFrame at h ⊢
    split at h
    · rw [state_closeWithCloseFrame] at h
      cases h
    · rename_i hkind
      rw [if_neg hkind]
      dsimp only at h ⊢
      split at h
      · cases h
      · rename_i hauthorized
        rw [if_neg hauthorized]
        split at h
        · exact absurd h (state_refuseInit rfl _)
        · rename_i init hparse
          split at h
          · cases h
          · rename_i hversion
            rw [hparse]
            exact ⟨init, rfl, if_neg hversion⟩
  obtain ⟨init, hparse, hhandle⟩ := hinit
  rw [hhandle] at h
  obtain ⟨ref, stored, snapshot, bufferWindow, hwindow, hdeclared, hstored, hmatched, rfl, hanswer,
    hsnapshot⟩ := resumption_of_acceptInit hsession h
  rw [← hhandle, ← hreceive] at hanswer hsnapshot
  exact ⟨init, ref, stored, bufferWindow, hparse, hdeclared, hstored, hwindow, hmatched, hanswer,
    hsnapshot⟩

end Accepted

/-- A session that was resumed has a stream: each declaration means one. -/
theorem streams_ne_nil {rt : Runtime} {clock : ℕ → Ticks} {window : Ticks} {k : ℕ}
    {stored : SessionSnapshot} {declarations : List StreamInitDeclaration}
    (hdeclared : declarations ≠ [])
    (hmatched : (resumeStreams rt clock window k [] stored declarations).2 = .ok ()) :
    (resumeStreams rt clock window k [] stored declarations).1.streams ≠ [] := by
  intro hnil
  have hids := ids_resumeStreams rt clock window declarations k [] stored
  rw [hnil, List.map_nil, eq_comm, List.map_eq_nil_iff] at hids
  cases declarations with
  | nil => exact hdeclared rfl
  | cons declaration rest =>
      unfold resumeStreams at hmatched
      split at hmatched
      · cases hmatched
      · rename_i existing hfound
        have hmem := (findExistingStream_some hfound).1
        rw [hids] at hmem
        cases hmem

/-- **Resumptions that announce the truth.**  Some declaration has an offset or an id; the
offset that is confirmed for a declaration is the current offset of the stream it means;
and a stream that no declaration means has been confirmed where it stands before. -/
structure Confirmed (rt : Runtime) (clock : ℕ → Ticks) (stored : SessionSnapshot)
    (init : InitRequest) (bufferWindow : Int32) : Prop where
  isResumption : init.isResumption = true
  declared : ∀ j entry, (meant rt stored [] init.streams)[j]? = some entry →
    confirmed (milliseconds bufferWindow) (clock (2 + j)) entry.1 entry.2 = entry.2.currentOffset
  others : ∀ stream ∈ stored.streams,
    stream.id ∉ (meant rt stored [] init.streams).map (fun entry => entry.2.id) →
    stream.confirmedResumeOffset = stream.currentOffset

/-- Every stream is confirmed where it stands, seen from before the resumption. -/
theorem confirmed_iff {rt : Runtime} {clock : ℕ → Ticks} {stored : SessionSnapshot}
    {init : InitRequest} {bufferWindow : Int32} (h : stored.Proper)
    (hmatched : (resumeStreams rt clock (milliseconds bufferWindow) 2 [] stored
      init.streams).2 = .ok ()) :
    (init.isResumption = true ∧
      ∀ stream ∈ (resumedSnapshot rt clock stored init bufferWindow).streams,
        stream.confirmedResumeOffset = stream.currentOffset) ↔
      Confirmed rt clock stored init bufferWindow := by
  obtain ⟨hkept, hdone⟩ := resumeStreams_ok hmatched
  have hresumed : (resumedSnapshot rt clock stored init bufferWindow).Proper := by
    refine holds_resumeStreams persistent_proper rt clock (milliseconds bufferWindow) init.streams
      2 [] stored h
  constructor
  · rintro ⟨hresumption, htrue⟩
    refine ⟨hresumption, fun j entry hentry => ?_, fun stream hmem hother => ?_⟩
    · obtain ⟨stream, hmem, -, hcurrent, hconfirmed⟩ := hdone j entry hentry
      rw [← hconfirmed, ← hcurrent]
      exact htrue stream hmem
    · exact htrue stream (hkept stream hmem hother)
  · intro hconfirmed
    refine ⟨hconfirmed.isResumption, fun stream hmem => ?_⟩
    have hid : stream.id ∈ stored.streams.map StreamState.id := by
      rw [← ids_resumeStreams rt clock (milliseconds bufferWindow) init.streams 2 [] stored]
      exact List.mem_map_of_mem hmem
    obtain ⟨old, hold, hsame⟩ := List.mem_map.mp hid
    -- A declaration means the stream, or none does and it is as it was stored.
    by_cases hmeant : old.id ∈ (meant rt stored [] init.streams).map (fun entry => entry.2.id)
    · obtain ⟨entry, hentry, hentryId⟩ := List.mem_map.mp hmeant
      obtain ⟨j, hj⟩ := List.mem_iff_getElem?.mp hentry
      obtain ⟨done, hdoneMem, hdoneId, hcurrent, hvalue⟩ := hdone j entry hj
      obtain rfl : stream = done :=
        eq_of_id hresumed hmem hdoneMem (by rw [← hsame, hdoneId, hentryId])
      rw [hvalue, hcurrent]
      exact hconfirmed.declared j entry hj
    · obtain rfl : stream = old := eq_of_id hresumed hmem (hkept old hold hmeant) hsame.symm
      exact hconfirmed.others stream hold hmeant

/-- **When a resumption tells the truth about positions**: at every point of every run, for
every init with a `Session-Id` that is accepted. -/
theorem resumption_truthful_iff (env : Environment) (options : CulpeoSessionOptions)
    (actions : List Action) (e : Endpoint)
    (hserver : e.server = ((System.start options).run env actions).server)
    (hstate : e.connection.state = .uninitialized) (s : Surroundings) (frame : CulpeoMessage)
    (hsession : isNullOrWhiteSpace frame.sessionId = false)
    (haccepted : (e.receive env s frame).1.connection.state = .established) :
    ∃ init ref stored bufferWindow, Resumption env s e frame init ref stored bufferWindow ∧
      (TellsTruth env.toRuntime (e.receive env s frame).1
          (resumedSnapshot env.toRuntime s.clock stored init bufferWindow) init.isResumption ↔
        Confirmed env.toRuntime s.clock stored init bufferWindow) := by
  obtain ⟨init, ref, stored, bufferWindow, hresumption⟩ :=
    resumption_of_established hstate hsession haccepted
  refine ⟨init, ref, stored, bufferWindow, hresumption, ?_⟩
  have hproper : stored.Proper := by
    have hall := persistent_proper.run env options actions
    rw [← hserver] at hall
    exact hall stored (List.mem_of_getElem? (getSession_some hresumption.session).2)
  have hresumed : (resumedSnapshot env.toRuntime s.clock stored init bufferWindow).Proper :=
    holds_resumeStreams persistent_proper env.toRuntime s.clock (milliseconds bufferWindow)
      init.streams 2 [] stored hproper
  have hsome := streams_ne_nil hresumption.declared hresumption.matched
  rw [tellsTruth_iff hresumed haccepted hresumption.snapshot hsome]
  exact confirmed_iff hproper hresumption.matched

/-! ### A session that is resumed at its start -/

/-- An init body with one stream, and the members that a resumption adds. -/
def notesInit (resumption : List (Text × JsonElement)) : JsonElement :=
  .named [(utf16 "version", .string (some (utf16 "0.3"))),
    (utf16 "streams", .array [.named ([
      (utf16 "content_type", .string (some (utf16 "text/plain"))),
      (utf16 "type", .string (some (utf16 "output"))),
      (utf16 "offset_type", .string (some (utf16 "message")))] ++ resumption)])]

def notesResume : JsonElement := notesInit [(utf16 "resume_offset", .number (some 0))]

def notesEnvironment : Environment := .reading [notesInit [], notesResume]

/-- The calls are made at the start of the year 2024. -/
def notesSurroundings : Surroundings :=
  ⟨fun _ => 638396640000000000, fun k _ => UInt8.ofNat (k + 1)⟩

def notesFrame (sessionId : Option Text) (document : JsonElement) : CulpeoMessage where
  kind := .control
  event := some (utf16 "culpeo.init")
  authorization := some (utf16 "Bearer token")
  sessionId := sessionId
  body := notesEnvironment.serialize document

/-- A session whose server has sent one message before the connection is lost. -/
def notesRun : List Action :=
  [.createConnection,
    .call 0 notesSurroundings (.receive (notesFrame none (notesInit []))),
    .call 0 notesSurroundings
      (.sendMedia (generateOpaqueId (notesSurroundings.random 1) 8) (ascii "note") 0),
    .call 0 notesSurroundings .disconnect]

/-- A new connection to the server. -/
def notesEndpoint : Endpoint := ⟨((System.start {}).run notesEnvironment notesRun).server, {}⟩

/-- The client asks for the message it has not seen. -/
def notesResumption : CulpeoMessage :=
  notesFrame (some (generateOpaqueId (notesSurroundings.random 0) 16)) notesResume

/-- The offset that is announced is 0, and the next frame that is sent has the offset 1. -/
theorem resumption_untruthful :
    ¬ ∀ (env : Environment) (options : CulpeoSessionOptions) (actions : List Action)
      (e : Endpoint), e.server = ((System.start options).run env actions).server →
      e.connection.state = .uninitialized → ∀ (s : Surroundings) (frame : CulpeoMessage),
      isNullOrWhiteSpace frame.sessionId = false →
      (e.receive env s frame).1.connection.state = .established →
      ∃ init ref stored bufferWindow, Resumption env s e frame init ref stored bufferWindow ∧
        TellsTruth env.toRuntime (e.receive env s frame).1
          (resumedSnapshot env.toRuntime s.clock stored init bufferWindow) init.isResumption := by
  intro h
  have haccepted : (notesEndpoint.receive notesEnvironment notesSurroundings
      notesResumption).1.connection.state = .established := by decide
  have hoffsets : ((notesEndpoint.receive notesEnvironment notesSurroundings
      notesResumption).1.snapshot).map (fun snapshot => snapshot.streams.map fun stream =>
        (stream.type, stream.confirmedResumeOffset, stream.currentOffset)) =
      some [(.output, 0, 1)] := by decide
  obtain ⟨init, ref, stored, bufferWindow, hresumption, htruth⟩ := h notesEnvironment {} notesRun
    notesEndpoint rfl rfl notesSurroundings notesResumption (by decide) haccepted
  have hproper : (resumedSnapshot notesEnvironment.toRuntime notesSurroundings.clock stored init
      bufferWindow).Proper :=
    holds_resumeStreams persistent_proper _ _ _ _ _ _ _
      (persistent_proper.run notesEnvironment {} notesRun stored
        (List.mem_of_getElem? (getSession_some hresumption.session).2))
  have hsome : (resumedSnapshot notesEnvironment.toRuntime notesSurroundings.clock stored init
      bufferWindow).streams ≠ [] := streams_ne_nil hresumption.declared hresumption.matched
  rw [tellsTruth_iff hproper haccepted hresumption.snapshot hsome] at htruth
  rw [hresumption.snapshot, Option.map_some, Option.some.injEq] at hoffsets
  obtain ⟨stream, hmem⟩ := List.exists_mem_of_ne_nil _ hsome
  have hstream := List.mem_map_of_mem (f := fun stream : StreamState =>
    (stream.type, stream.confirmedResumeOffset, stream.currentOffset)) hmem
  rw [hoffsets, List.mem_singleton, Prod.mk.injEq, Prod.mk.injEq] at hstream
  have hsame := htruth.2 stream hmem
  rw [hstream.2.1, hstream.2.2] at hsame
  cases hsame

theorem resumption_truthful_notes :
    (notesEndpoint.receive notesEnvironment notesSurroundings
      notesResumption).1.connection.state = .established ∧
    ∃ init ref stored bufferWindow,
      Resumption notesEnvironment notesSurroundings notesEndpoint notesResumption init ref stored
        bufferWindow ∧
      (TellsTruth notesEnvironment.toRuntime
          (notesEndpoint.receive notesEnvironment notesSurroundings notesResumption).1
          (resumedSnapshot notesEnvironment.toRuntime notesSurroundings.clock stored init
            bufferWindow) init.isResumption ↔
        Confirmed notesEnvironment.toRuntime notesSurroundings.clock stored init bufferWindow) :=
  ⟨by decide, resumption_truthful_iff notesEnvironment {} notesRun notesEndpoint rfl rfl
    notesSurroundings notesResumption (by decide) (by decide)⟩

end CulpeoStream.Dotnet
