import CulpeoStream.Session.Registration
import Mathlib.Data.List.Perm.Subperm

/-!
# Which streams are resumed

`handle_resumption_locked` looks for the first declaration of each persisted stream, without
marking the ones it has used, and compares the lengths of the two lists.  As long as no two of
the persisted streams have the same direction and purpose, this compares the declarations and
the streams as multisets (`streamsMatch_iff`): the streams have distinct keys, all of which are
declared, and so there is no room for any other declaration.

A session that is resumed lists its streams in the init-ack, and the process ends if one of them
cannot be dumped (`resumption_exact_iff`).
-/

namespace CulpeoStream.Session

open Message Resumption

/-- What a declaration and a stream are matched by. -/
def StreamDeclaration.key (d : StreamDeclaration) : StreamDirection × Bytes × Bytes :=
  (d.direction, d.contentType, d.purpose)

def StreamInfo.key (stream : StreamInfo) : StreamDirection × Bytes × Bytes :=
  (stream.direction, stream.contentType, stream.purpose)

/-- The offset that a declaration asks for. -/
def StreamDeclaration.resume (d : StreamDeclaration) : Option UInt64 :=
  if d.hasResumeOffset then some d.resumeOffset else none

/-- A declaration fits a stream. -/
structure Fitting (d : StreamDeclaration) (stream : StreamInfo) : Prop where
  key : d.key = stream.key
  reached : ∀ n, d.resume = some n → n ≤ stream.offset

/-- The stream as it is resumed for a declaration. -/
def StreamInfo.resumed (stream : StreamInfo) (d : StreamDeclaration) : StreamInfo :=
  { stream with offset := d.resume.getD stream.offset }

section Restore

variable {decls : List StreamDeclaration} {stream info : StreamInfo}

/-- The condition of the search. -/
theorem matches_iff (d : StreamDeclaration) :
    (d.direction = stream.direction ∧ d.contentType = stream.contentType ∧
      d.purpose = stream.purpose) ↔ d.key = stream.key := by
  simp only [StreamDeclaration.key, StreamInfo.key, Prod.mk.injEq]

/-- The loop body, for the declaration that the search finds. -/
theorem restoreStream_found {d : StreamDeclaration}
    (hfind : decls.find? (fun d => d.direction = stream.direction ∧
      d.contentType = stream.contentType ∧ d.purpose = stream.purpose) = some d) :
    restoreStream decls stream = .ok info ↔
      (∀ n, d.resume = some n → n ≤ stream.offset) ∧ info = stream.resumed d := by
  rw [restoreStream, hfind, StreamInfo.resumed, StreamDeclaration.resume]
  dsimp only
  cases d.hasResumeOffset with
  | false =>
      exact ⟨fun h => ⟨fun n hn => (by cases hn), (Except.ok.inj h).symm⟩,
        fun h => congrArg Except.ok h.2.symm⟩
  | true =>
      have hle : d.resumeOffset ≤ stream.offset ↔ ¬ stream.offset < d.resumeOffset :=
        UInt64.not_lt.symm
      by_cases hlate : stream.offset < d.resumeOffset
      · simp [hlate, hle]
      · simp [hlate, hle, eq_comm]

theorem restoreStream_ok (h : restoreStream decls stream = .ok info) :
    ∃ d ∈ decls, Fitting d stream ∧ info = stream.resumed d := by
  cases hfind : decls.find? fun d => d.direction = stream.direction ∧
      d.contentType = stream.contentType ∧ d.purpose = stream.purpose with
  | none =>
      rw [restoreStream, hfind] at h
      cases h
  | some d =>
      obtain ⟨hreached, hinfo⟩ := (restoreStream_found hfind).mp h
      have hfound := List.find?_some hfind
      have hkey := (matches_iff d).mp (of_decide_eq_true hfound)
      exact ⟨d, List.mem_of_find?_eq_some hfind, ⟨hkey, hreached⟩, hinfo⟩

/-- With different keys the search finds the only declaration that fits. -/
theorem restoreStream_of_fitting (hdistinct : (decls.map StreamDeclaration.key).Nodup)
    {d : StreamDeclaration} (hd : d ∈ decls) (hfits : Fitting d stream) :
    restoreStream decls stream = .ok (stream.resumed d) := by
  cases hfind : decls.find? fun d => d.direction = stream.direction ∧
      d.contentType = stream.contentType ∧ d.purpose = stream.purpose with
  | none =>
      have hmatches := (matches_iff d).mpr hfits.key
      exact absurd (decide_eq_true hmatches) (List.find?_eq_none.mp hfind d hd)
  | some d' =>
      have hfound := List.find?_some hfind
      have hkey := (matches_iff d').mp (of_decide_eq_true hfound)
      have hsame := List.inj_on_of_nodup_map hdistinct (List.mem_of_find?_eq_some hfind) hd
        (hkey.trans hfits.key.symm)
      rw [hsame] at hfind
      exact (restoreStream_found hfind).mpr ⟨hfits.reached, rfl⟩

end Restore

/-! ### The streams as a multiset -/

variable {decls : List StreamDeclaration} {streams : List StreamInfo}

theorem nodup_keys
    (h : (streams.map fun stream => (stream.direction, stream.purpose)).Nodup) :
    (streams.map StreamInfo.key).Nodup := by
  refine List.Nodup.of_map (fun key => (key.1, key.2.2)) ?_
  rw [List.map_map]
  exact h

/-- **The counting argument**: as many declarations as streams, and one for each stream. -/
theorem perm_keys (hdistinct : (streams.map StreamInfo.key).Nodup)
    (hlength : decls.length = streams.length)
    (hdeclared : ∀ stream ∈ streams, ∃ d ∈ decls, d.key = stream.key) :
    (decls.map StreamDeclaration.key).Perm (streams.map StreamInfo.key) := by
  have hsubset : streams.map StreamInfo.key ⊆ decls.map StreamDeclaration.key := by
    intro key hkey
    obtain ⟨stream, hstream, rfl⟩ := List.mem_map.mp hkey
    obtain ⟨d, hd, hsame⟩ := hdeclared stream hstream
    exact List.mem_map.mpr ⟨d, hd, hsame⟩
  have hsubperm := hdistinct.subperm hsubset
  refine (hsubperm.perm_of_length_le ?_).symm
  rw [List.length_map, List.length_map, hlength]

/-- The declared streams are those of the persisted session, at offsets that these have
reached. -/
structure DeclaresStreams (ps : PersistedSessionState) (decls : List StreamDeclaration) : Prop where
  keys : (decls.map StreamDeclaration.key).Perm (ps.streams.map StreamInfo.key)
  reached : ∀ d ∈ decls, ∀ stream ∈ ps.streams, d.key = stream.key →
    ∀ n, d.resume = some n → n ≤ stream.offset

/-- **What the search accepts**, in terms of multisets. -/
theorem streamsMatch_iff {ps : PersistedSessionState}
    (hdistinct : (ps.streams.map fun stream => (stream.direction, stream.purpose)).Nodup) :
    StreamsMatch ps decls ↔ DeclaresStreams ps decls := by
  have hkeys := nodup_keys hdistinct
  rw [StreamsMatch, Checks.exists_mapM_ok_iff]
  constructor
  · rintro ⟨hlength, hrestored⟩
    have hperm : (decls.map StreamDeclaration.key).Perm (ps.streams.map StreamInfo.key) := by
      refine perm_keys hkeys hlength fun stream hstream => ?_
      obtain ⟨info, hinfo⟩ := hrestored stream hstream
      obtain ⟨d, hd, hfits, -⟩ := restoreStream_ok hinfo
      exact ⟨d, hd, hfits.key⟩
    refine ⟨hperm, fun d hd stream hstream hkey => ?_⟩
    obtain ⟨info, hinfo⟩ := hrestored stream hstream
    obtain ⟨d', hd', hfits, -⟩ := restoreStream_ok hinfo
    have hsame := List.inj_on_of_nodup_map (hperm.nodup_iff.mpr hkeys) hd' hd
      (hfits.key.trans hkey.symm)
    rw [← hsame]
    exact hfits.reached
  · rintro ⟨hperm, hreached⟩
    refine ⟨by simpa using hperm.length_eq, fun stream hstream => ?_⟩
    obtain ⟨d, hd, hkey⟩ := List.mem_map.mp
      (hperm.mem_iff.mpr (List.mem_map_of_mem hstream))
    exact ⟨_, restoreStream_of_fitting (hperm.nodup_iff.mpr hkeys) hd
      ⟨hkey, hreached d hd stream hstream hkey⟩⟩

/-! ### The decision -/

section Decision

variable {setup : Setup} {ps : PersistedSessionState} {f : ParsedHeadersView} {sid : Bytes}

/-- What a resumption settles. -/
theorem handleResumption_ok_iff (hprior : setup.priorState = some ps) {amb : Ambient}
    (hexpired : ¬ Expired ps amb.steadyNow) (version : Bytes) (registry : StreamRegistry)
    (e : Establishment) :
    handleResumption setup amb f sid decls version registry = .ok e ↔
      sid = ps.sessionId ∧ decls.length = ps.streams.length ∧
        ∃ restored, ps.streams.mapM (restoreStream decls) = .ok restored ∧
          e = {
            sessionId := ps.sessionId
            version
            bufferWindowMs := negotiateBufferWindow setup.config f.bufferWindow
            resumption := true
            registry := registry.registerFromPersisted restored } := by
  unfold handleResumption
  rw [Expired] at hexpired
  rw [hprior]
  dsimp only
  by_cases hsid : sid = ps.sessionId
  · rw [if_neg (not_not.mpr hsid), if_neg hexpired]
    by_cases hlength : decls.length = ps.streams.length
    · rw [if_neg (not_not.mpr hlength)]
      cases ps.streams.mapM (restoreStream decls) with
      | error r => simp
      | ok restored => simp [hsid, hlength, eq_comm]
    · rw [if_pos hlength]
      simp [hlength]
  · rw [if_pos hsid]
    simp [hsid]

/-- A stream of the persisted session as it is resumed: at the offset that its declaration asks
for. -/
def ResumedAs (decls : List StreamDeclaration) (stream info : StreamInfo) : Prop :=
  ∃ d ∈ decls, d.key = stream.key ∧ info = stream.resumed d

theorem forall₂_resumedAs {restored : List StreamInfo}
    (h : streams.mapM (restoreStream decls) = .ok restored) :
    List.Forall₂ (ResumedAs decls) streams restored := by
  refine ((Checks.mapM_ok_iff_forall₂ fun _ _ => Iff.rfl).mp h).imp fun stream info hinfo => ?_
  obtain ⟨d, hd, hfits, hinfo⟩ := restoreStream_ok hinfo
  exact ⟨d, hd, hfits.key, hinfo⟩

theorem map_id_restored {restored : List StreamInfo}
    (h : streams.mapM (restoreStream decls) = .ok restored) :
    restored.map StreamInfo.id = streams.map StreamInfo.id := by
  refine Checks.map_mapM_ok (fun hinfo => ?_) h
  obtain ⟨d, -, -, hinfo⟩ := restoreStream_ok hinfo
  rw [hinfo]
  rfl

theorem isUtf8_resumed (stream : StreamInfo) (d : StreamDeclaration) :
    (stream.resumed d).IsUtf8 ↔ stream.IsUtf8 :=
  ⟨fun h => ⟨h.id, h.contentType, h.purpose⟩, fun h => ⟨h.id, h.contentType, h.purpose⟩⟩

/-- The offsets are no strings. -/
theorem forall_isUtf8_restored {restored : List StreamInfo}
    (h : List.Forall₂ (ResumedAs decls) streams restored) :
    (∀ stream ∈ restored, stream.IsUtf8) ↔ ∀ stream ∈ streams, stream.IsUtf8 := by
  induction h with
  | nil => exact Iff.rfl
  | cons hfirst _ ih =>
      obtain ⟨d, -, -, rfl⟩ := hfirst
      rw [List.forall_mem_cons, List.forall_mem_cons, isUtf8_resumed, ih]

/-- No resumption is refused for its version. -/
theorem handleResumption_only (setup : Setup) (amb : Ambient) (f : ParsedHeadersView) (sid : Bytes)
    (decls : List StreamDeclaration) (version : Bytes) (registry : StreamRegistry) :
    Checks.Only (fun r : Rejection => r.error ≠ .versionUnsupported)
      (handleResumption setup amb f sid decls version registry) := by
  have hrestore : ∀ stream, Checks.Only (fun r : Rejection => r.error ≠ .versionUnsupported)
      (restoreStream decls stream) := by
    intro stream
    unfold restoreStream
    split
    · exact Checks.only_error.mpr nofun
    · split
      · exact Checks.only_ok _
      · split
        · exact Checks.only_error.mpr nofun
        · exact Checks.only_ok _
  unfold handleResumption
  split
  · exact Checks.only_error.mpr nofun
  · split
    · exact Checks.only_error.mpr nofun
    · split
      · exact Checks.only_error.mpr nofun
      · split
        · exact Checks.only_error.mpr nofun
        · split
          · rename_i r hmapM
            have hall := Checks.onlyEach_of_forall hrestore
            exact Checks.only_error.mpr ((Checks.only_mapM _).mpr (hall _) r hmapM)
          · exact Checks.only_ok _

/-- **What is to come of a resumption.**  The session is established if its id is given and its
streams are declared.  Then these streams are registered and acknowledged at the offsets that
were asked for, and otherwise nothing is registered and the session is closed. -/
structure ResumesExactly (json : JsonLib) (ps : PersistedSessionState) (sid : Bytes)
    (decls : List StreamDeclaration) (s : Impl) (outcome : Option (Outcome Impl Output Result)) :
    Prop where
  established : (∃ o ∈ outcome, o.state.state = .established) ↔
    sid = ps.sessionId ∧ DeclaresStreams ps decls
  resumed : ∀ o ∈ outcome, o.state.state = .established →
    ∃ restored, restored.Perm o.state.registry.streams ∧
      List.Forall₂ (ResumedAs decls) ps.streams restored ∧
      ∃ frame, AcknowledgesStreams json true restored o frame
  refused : (¬ ∃ o ∈ outcome, o.state.state = .established) →
    ∃ o ∈ outcome, o.state.registry = s.registry ∧ o.state.state = .closed

section Act

variable {turn : Turn} {s : Impl} {bodyJson : Json} {version : Bytes}

/-- The decision on a resumption that is read. -/
theorem completeInit_resumption (hsid : f.sessionId = some sid)
    (hparse : parseDeclarations bodyJson = .ok decls) (amb : Ambient) (s : Impl) :
    (∀ r, handleResumption setup amb f sid decls version s.registry = .error r →
      completeInit setup amb f bodyJson version s = (s, rejectInit r)) ∧
    ∀ e, handleResumption setup amb f sid decls version s.registry = .ok e →
      completeInit setup amb f bodyJson version s = finalizeEstablished setup e s := by
  unfold completeInit
  rw [hparse]
  dsimp only
  rw [hsid]
  dsimp only
  constructor
  · intro r hr
    rw [hr]
  · intro e he
    rw [he]

/-- A resumption that is refused. -/
theorem resumesExactly_refused (hread : InitRead setup turn.answers f s bodyJson version)
    (hcall : turn.invocation.call = .processControlFrame f)
    (hinit : turn.invocation.call.DeliversInit) (hsid : f.sessionId = some sid)
    (hparse : parseDeclarations bodyJson = .ok decls) {r : Rejection}
    (hresume : handleResumption setup turn.invocation.ambient f sid decls version s.registry =
      .error r) (hnot : ¬ (sid = ps.sessionId ∧ DeclaresStreams ps decls)) :
    ResumesExactly setup.json ps sid decls s (turn.outcome setup s) := by
  have hact : turn.act setup s = _ := perform_refused hcall hinit hread
    ((completeInit_resumption hsid hparse _ _).1 r hresume)
  have hreturns := not_terminates_of_refused hact (handleResumption_only _ _ _ _ _ _ _ r hresume)
  rw [outcome_of_not_terminates hreturns, hact]
  refine ⟨⟨?_, fun h => absurd h hnot⟩, ?_, fun _ => ⟨_, rfl, rfl, rfl⟩⟩
  · rintro ⟨o, ho, hestablished⟩
    cases ho
    cases hestablished
  · intro o ho hestablished
    cases ho
    cases hestablished

/-- A resumption that is accepted goes well if the strings of the streams are UTF-8. -/
theorem resumesExactly_accepted_iff (hread : InitRead setup turn.answers f s bodyJson version)
    (hcall : turn.invocation.call = .processControlFrame f)
    (hinit : turn.invocation.call.DeliversInit) (hf : Parsed f) (hsid : f.sessionId = some sid)
    (hparse : parseDeclarations bodyJson = .ok decls) {e : Establishment}
    (hversion : e.version = version) (hresumption : e.resumption = true)
    (hresume : handleResumption setup turn.invocation.ambient f sid decls version s.registry =
      .ok e)
    (hresumed : List.Forall₂ (ResumedAs decls) ps.streams e.registry.streams)
    (hmatch : sid = ps.sessionId ∧ DeclaresStreams ps decls) :
    ResumesExactly setup.json ps sid decls s (turn.outcome setup s) ↔
      Utf8.IsValid version ∧ ∀ stream ∈ ps.streams, stream.IsUtf8 := by
  have hact : turn.act setup s = _ := perform_established hcall hinit hread
    ((completeInit_resumption hsid hparse _ _).2 e hresume)
  have hreturns := terminates_establish_iff hread.1 hact
  rw [hversion, forall_isUtf8_restored hresumed] at hreturns
  obtain ⟨frame, hack⟩ := exists_acknowledgesStreams (handleResumption_ok hsid hresume) hf s
  rw [hresumption] at hack
  by_cases hutf8 : Utf8.IsValid version ∧ ∀ stream ∈ ps.streams, stream.IsUtf8
  · rw [outcome_of_not_terminates fun h => hreturns.mp h hutf8, hact]
    refine iff_of_true ⟨⟨fun _ => hmatch, fun _ => ⟨_, rfl, rfl⟩⟩, ?_, ?_⟩ hutf8
    · intro o ho _
      cases ho
      exact ⟨e.registry.streams, .refl _, hresumed, frame, hack⟩
    · exact fun hnone => absurd ⟨_, rfl, rfl⟩ hnone
  · rw [outcome_of_terminates (hreturns.mpr hutf8)]
    refine iff_of_false (fun h => ?_) hutf8
    obtain ⟨o, ho, -⟩ := h.established.mpr hmatch
    cases ho

/-- **When resumption is exact.**  For a persisted session that has not expired it is, unless the
session is to be resumed and its init-ack has a string that is not UTF-8. -/
theorem resumption_exact_iff {array : Json} (hprior : setup.priorState = some ps)
    (hexpired : ¬ Expired ps turn.invocation.ambient.steadyNow)
    (hids : (ps.streams.map StreamInfo.id).Nodup)
    (hdistinct : (ps.streams.map fun stream => (stream.direction, stream.purpose)).Nodup)
    (hcall : turn.invocation.call = .processControlFrame f)
    (hinit : turn.invocation.call.DeliversInit) (hf : Parsed f) (hsid : f.sessionId = some sid)
    (hread : InitRead setup turn.answers f s bodyJson version)
    (harray : bodyJson.at? (ascii "streams") = some array)
    (hdecls : List.Forall₂ Declares array.elements decls) :
    ResumesExactly setup.json ps sid decls s (turn.outcome setup s) ↔
      (sid = ps.sessionId ∧ DeclaresStreams ps decls →
        Utf8.IsValid version ∧ ∀ stream ∈ ps.streams, stream.IsUtf8) := by
  have hparse : parseDeclarations bodyJson = .ok decls :=
    parseDeclarations_ok_iff.mpr ⟨array, harray, hdecls⟩
  have hok := @handleResumption_ok_iff decls setup ps f sid hprior turn.invocation.ambient hexpired
    version s.registry
  cases hresume : handleResumption setup turn.invocation.ambient f sid decls version s.registry with
  | error r =>
      have hnot : ¬ (sid = ps.sessionId ∧ DeclaresStreams ps decls) := by
        rw [← streamsMatch_iff hdistinct]
        rintro ⟨hsame, hlength, restored, hrestored⟩
        have hresumed := (hok _).mpr ⟨hsame, hlength, restored, hrestored, rfl⟩
        rw [hresume] at hresumed
        cases hresumed
      exact iff_of_true (resumesExactly_refused hread hcall hinit hsid hparse hresume hnot)
        fun hmatch => absurd hmatch hnot
  | ok e =>
      obtain ⟨hsame, hlength, restored, hrestored, he⟩ := (hok e).mp hresume
      have hmatch : sid = ps.sessionId ∧ DeclaresStreams ps decls :=
        ⟨hsame, (streamsMatch_iff hdistinct).mp ⟨hlength, restored, hrestored⟩⟩
      have hstreams : e.registry.streams = restored := by
        have hnodup : (restored.map StreamInfo.id).Nodup := by
          rw [map_id_restored hrestored]
          exact hids
        rw [he, StreamRegistry.registerFromPersisted,
          StreamRegistry.foldl_emplace hnodup fun _ _ => rfl]
        rfl
      have hresumed : List.Forall₂ (ResumedAs decls) ps.streams e.registry.streams := by
        rw [hstreams]
        exact forall₂_resumedAs hrestored
      rw [imp_iff_right hmatch]
      exact resumesExactly_accepted_iff hread hcall hinit hf hsid hparse (by rw [he]) (by rw [he])
        hresume hresumed hmatch

end Act

end Decision

/-! ### Examples -/

/-- The streams of a session that dropped. -/
def droppedAudio (id : Bytes) : StreamInfo where
  id := id
  contentType := ascii "audio/pcm;rate=16000;channels=1;bits=16"
  direction := .input
  purpose := []
  offset := 90000
  codec := .pcm
  pcmParams := some { rate := 16000, channels := 1, bits := 16 }
  offsetType := .time

def droppedCaptions : StreamInfo where
  id := ascii "6f31"
  contentType := ascii "text/plain"
  direction := .output
  purpose := ascii "captions"
  offset := 9
  codec := .other
  pcmParams := none
  offsetType := .message

def droppedSession (audioId : Bytes) : PersistedSessionState where
  sessionId := ascii "5e55"
  streams := [droppedAudio audioId, droppedCaptions]
  bufferWindowMs := 5000
  disconnectedAt := 0

/-- The client asks for the captions from the third one on, and names the audio last. -/
def laterCaptionsEntry : Json := .object
  [(ascii "content_type", .string (ascii "text/plain")),
    (ascii "offset_type", .string (ascii "message")),
    (ascii "purpose", .string (ascii "captions")), (ascii "resume_offset", .unsigned 3),
    (ascii "type", .string (ascii "output"))]

def resumingEntries : List Json := [laterCaptionsEntry, audioEntry]

def resumingSetup (audioId : Bytes) : Setup :=
  readingSetup resumingEntries (some (droppedSession audioId))

def resumingInit : ParsedHeadersView :=
  initFrame [field .sessionId (ascii "5e55")] resumingEntries

theorem parsed_resumingInit : Parsed resumingInit := parsed_initFrame (by decide)

theorem resumingInit_sessionId : resumingInit.sessionId = some (ascii "5e55") := by
  have hslot : resumingInit.slot .sessionId = _ := slot_filledView .sessionId
  rw [fieldValue_field_of_ne (by decide), fieldValue_field_self] at hslot
  exact hslot

def resumingDeclarations : List StreamDeclaration :=
  [{ contentType := ascii "text/plain", direction := .output, purpose := ascii "captions"
     resumeOffset := 3, hasResumeOffset := true, offsetType := some .message },
    { contentType := ascii "audio/pcm;rate=16000;channels=1;bits=16", direction := .input
      offsetType := some .time }]

theorem declares_resumingDeclarations :
    List.Forall₂ Declares resumingEntries resumingDeclarations :=
  .cons (parseDeclaration_ok_iff.mp rfl) (.cons (parseDeclaration_ok_iff.mp rfl) .nil)

/-- The second entry asks for nothing, the first one for an offset that its stream has reached. -/
theorem declaresStreams_dropped (audioId : Bytes) :
    DeclaresStreams (droppedSession audioId) resumingDeclarations where
  keys := List.Perm.swap _ _ []
  reached := by
    intro d hd stream hstream hkey n hn
    simp only [resumingDeclarations, List.mem_cons, List.not_mem_nil, or_false] at hd
    simp only [droppedSession, List.mem_cons, List.not_mem_nil, or_false] at hstream
    obtain rfl | rfl := hd
    · obtain rfl | rfl := hstream
      · cases congrArg Prod.fst hkey
      · cases hn
        decide
    · cases hn

theorem resumption_exact_example : ResumesExactly (resumingSetup (ascii "a0d1")).json
    (droppedSession (ascii "a0d1")) (ascii "5e55") resumingDeclarations
    (.initial (resumingSetup (ascii "a0d1"))) ((readingTurn resumingInit).outcome
      (resumingSetup (ascii "a0d1")) (.initial (resumingSetup (ascii "a0d1")))) := by
  refine (resumption_exact_iff rfl (fun h => absurd h.2 (by decide)) (by decide) (by decide) rfl
    (deliversInit_initFrame _ _) parsed_resumingInit resumingInit_sessionId
    (initRead_initFrame _ _ _)
    (rfl : (initValue resumingEntries).at? (ascii "streams") = some (.array resumingEntries))
    declares_resumingDeclarations).mpr fun _ => ?_
  refine ⟨by decide, ?_⟩
  intro stream hstream
  simp only [droppedSession, List.mem_cons, List.not_mem_nil, or_false] at hstream
  obtain rfl | rfl := hstream
  · exact ⟨by decide, by decide, by decide⟩
  · exact ⟨by decide, by decide, by decide⟩

/-- **Resumption is not exact** for a session one of whose streams has an id that is not UTF-8:
the process ends. -/
theorem not_resumption_exact : ¬ ∀ (setup : Setup) (ps : PersistedSessionState)
    (f : ParsedHeadersView) (sid : Bytes) (decls : List StreamDeclaration) (turn : Turn) (s : Impl)
    (bodyJson : Json) (version : Bytes) (array : Json), setup.priorState = some ps →
    ¬ Expired ps turn.invocation.ambient.steadyNow → (ps.streams.map StreamInfo.id).Nodup →
    (ps.streams.map fun stream => (stream.direction, stream.purpose)).Nodup →
    turn.invocation.call = .processControlFrame f → turn.invocation.call.DeliversInit → Parsed f →
    f.sessionId = some sid → InitRead setup turn.answers f s bodyJson version →
    bodyJson.at? (ascii "streams") = some array → List.Forall₂ Declares array.elements decls →
      ResumesExactly setup.json ps sid decls s (turn.outcome setup s) := by
  intro hexact
  have hresumed := hexact (resumingSetup [0xff]) (droppedSession [0xff]) resumingInit
    (ascii "5e55") resumingDeclarations (readingTurn resumingInit) (.initial (resumingSetup [0xff]))
    (initValue resumingEntries) (ascii "0.3") (.array resumingEntries) rfl
    (fun h => absurd h.2 (by decide)) (by decide) (by decide) rfl (deliversInit_initFrame _ _)
    parsed_resumingInit resumingInit_sessionId (initRead_initFrame _ _ _) rfl
    declares_resumingDeclarations
  obtain ⟨o, ho, -⟩ := hresumed.established.mpr ⟨rfl, declaresStreams_dropped _⟩
  have hterminates : (readingTurn resumingInit).Terminates (resumingSetup [0xff])
      (.initial (resumingSetup [0xff])) := by decide +kernel
  rw [outcome_of_terminates hterminates] at ho
  cases ho

end CulpeoStream.Session
