import CulpeoStream.Session.Handshake
import CulpeoStream.Session.Expiry

/-!
# What an accepted init registers

The entries of an init are read one by one into declarations (`Declares`), and each declaration
is registered as a stream under an id of its own.  The map of streams keeps the first stream of
an id, so it has one stream for each entry exactly when the drawn ids differ
(`streams_registerFromDeclarations`), and what the client says about ids and offsets is not
looked at (`Registered`).  The init-ack has an entry for each stream (`Lists`).
-/

namespace CulpeoStream.Session

open Message Resumption

/-! ### Declarations -/

/-- An optional member of an entry, by its value or by its absence. -/
def Reads {α : Type} (item : Json) (key : Bytes) (get : Json → Option α) (fallback a : α) : Prop :=
  (item.at? key = none ∧ a = fallback) ∨ ∃ j, item.at? key = some j ∧ get j = some a

/-- What an entry of an init declares. -/
structure Declares (item : Json) (d : StreamDeclaration) : Prop where
  contentType : item.at? (ascii "content_type") = some (.string d.contentType)
  direction : ∃ text, item.at? (ascii "type") = some (.string text) ∧
    parseStreamDirection text = some d.direction
  purpose : Reads item (ascii "purpose") Json.getString [] d.purpose
  hintId : Reads item (ascii "id") Json.getString [] d.hintId
  resumeOffset : Reads item (ascii "resume_offset") Json.getUint64 0 d.resumeOffset
  hasResumeOffset : d.hasResumeOffset = item.contains (ascii "resume_offset")
  offsetType : ∃ text offsetType, item.at? (ascii "offset_type") = some (.string text) ∧
    parseOffsetType text = some offsetType ∧ d.offsetType = some offsetType

theorem orThrow_ok_iff {α : Type} {r : Rejection} {o : Option α} {a : α} :
    orThrow r o = .ok a ↔ o = some a := by
  cases o with
  | none => exact ⟨fun h => (by cases h), fun h => (by cases h)⟩
  | some b => rw [orThrow, Except.ok.injEq, Option.some.injEq]

theorem bind_getString_iff {o : Option Json} {text : Bytes} :
    o.bind Json.getString = some text ↔ o = some (.string text) := by
  rw [Option.bind_eq_some_iff]
  constructor
  · rintro ⟨j, rfl, hj⟩
    cases j with
    | string value => rw [Json.getString, Option.some.injEq] at hj; rw [hj]
    | _ => cases hj
  · rintro rfl
    exact ⟨_, rfl, rfl⟩

theorem optionalMember_ok_iff {α : Type} {item : Json} {key : Bytes} {get : Json → Option α}
    {fallback a : α} :
    optionalMember item key get fallback = .ok a ↔ Reads item key get fallback a := by
  unfold optionalMember Reads
  cases item.at? key with
  | none => simp [eq_comm]
  | some j => simp [orThrow_ok_iff]

/-- **The loop body reads what an entry declares.** -/
theorem parseDeclaration_ok_iff {item : Json} {d : StreamDeclaration} :
    parseDeclaration item = .ok d ↔ Declares item d := by
  constructor
  · intro h
    obtain ⟨contentType, hcontent, h⟩ := Checks.exists_of_bind_ok h
    obtain ⟨typeStr, htype, h⟩ := Checks.exists_of_bind_ok h
    obtain ⟨direction, hdirection, h⟩ := Checks.exists_of_bind_ok h
    obtain ⟨purpose, hpurpose, h⟩ := Checks.exists_of_bind_ok h
    obtain ⟨hintId, hhint, h⟩ := Checks.exists_of_bind_ok h
    obtain ⟨resumeOffset, hresume, h⟩ := Checks.exists_of_bind_ok h
    obtain ⟨j, hj, h⟩ := Checks.exists_of_bind_ok h
    obtain ⟨otStr, hot, h⟩ := Checks.exists_of_bind_ok h
    obtain ⟨ot, hparse, h⟩ := Checks.exists_of_bind_ok h
    cases h
    rw [orThrow_ok_iff] at hcontent htype hdirection hj hot hparse
    rw [bind_getString_iff] at hcontent htype
    refine ⟨hcontent, ⟨typeStr, htype, hdirection⟩, optionalMember_ok_iff.mp hpurpose,
      optionalMember_ok_iff.mp hhint, optionalMember_ok_iff.mp hresume, rfl,
      ⟨otStr, ot, bind_getString_iff.mp ?_, hparse, rfl⟩⟩
    rw [hj]
    exact hot
  · rintro ⟨hcontent, ⟨typeStr, htype, hdirection⟩, hpurpose, hhint, hresume, hhas,
      ⟨otStr, ot, hot, hparse, hoffset⟩⟩
    have hstring : ∀ {key value : Bytes}, item.at? key = some (.string value) →
        orThrow invalidStreamsJson ((item.at? key).bind Json.getString) = .ok value :=
      fun h => orThrow_ok_iff.mpr (bind_getString_iff.mpr h)
    refine Checks.bind_ok (hstring hcontent) (Checks.bind_ok (hstring htype)
      (Checks.bind_ok (orThrow_ok_iff.mpr hdirection)
        (Checks.bind_ok (optionalMember_ok_iff.mpr hpurpose)
          (Checks.bind_ok (optionalMember_ok_iff.mpr hhint)
            (Checks.bind_ok (optionalMember_ok_iff.mpr hresume) ?_)))))
    refine Checks.bind_ok (orThrow_ok_iff.mpr hot) (Checks.bind_ok rfl
      (Checks.bind_ok (orThrow_ok_iff.mpr hparse) ?_))
    rw [← hhas, ← hoffset]
    rfl

/-- **The loop reads what the entries declare**, one by one. -/
theorem parseDeclarations_ok_iff {body : Json} {decls : List StreamDeclaration} :
    parseDeclarations body = .ok decls ↔
      ∃ array, body.at? (ascii "streams") = some array ∧
        List.Forall₂ Declares array.elements decls := by
  constructor
  · intro h
    obtain ⟨array, harray, h⟩ := Checks.exists_of_bind_ok h
    refine ⟨array, orThrow_ok_iff.mp harray, ?_⟩
    exact (Checks.mapM_ok_iff_forall₂ fun _ _ => parseDeclaration_ok_iff).mp h
  · rintro ⟨array, harray, hdecls⟩
    refine Checks.bind_ok (orThrow_ok_iff.mpr harray) ?_
    exact (Checks.mapM_ok_iff_forall₂ fun _ _ => parseDeclaration_ok_iff).mpr hdecls

/-! ### The map of streams -/

namespace StreamRegistry

/-- Streams with different ids, all of them new, are all added. -/
theorem foldl_emplace {infos : List StreamInfo} (hids : (infos.map StreamInfo.id).Nodup) :
    ∀ {reg : StreamRegistry}, (∀ info ∈ infos, reg.find info.id = none) →
      infos.foldl emplace reg = { reg with streams := reg.streams ++ infos } := by
  induction infos with
  | nil =>
      intro reg _
      rw [List.append_nil]
      rfl
  | cons info rest ih =>
      intro reg hnew
      rw [List.map_cons, List.nodup_cons] at hids
      rw [List.forall_mem_cons] at hnew
      have hemplace : reg.emplace info = { reg with streams := reg.streams ++ [info] } := by
        rw [emplace, hnew.1]
        rfl
      rw [List.foldl_cons, hemplace, ih hids.2]
      · rw [List.append_assoc, List.singleton_append]
      · intro other hother
        have hold := hnew.2 other hother
        rw [find, List.find?_append] at *
        rw [hold, Option.none_or, List.find?_singleton, if_neg]
        rw [decide_eq_true_eq]
        exact fun hsame => hids.1 (List.mem_map.mpr ⟨other, hother, hsame.symm⟩)

/-- The ids are drawn one after the other, and the streams are added in that order. -/
theorem registerFrom_ok {amb : Ambient} {decls : List StreamDeclaration} :
    ∀ {k : ℕ} {reg reg' : StreamRegistry}, registerFrom amb k decls reg = (.ok (), reg') →
      ∃ ids : List Bytes,
        (List.range' k decls.length).map (generateCsprngId amb · 8) = ids.map .ok ∧
        reg' = (List.zipWith infoOfDeclaration decls ids).foldl emplace reg := by
  induction decls with
  | nil =>
      intro k reg reg' h
      cases h
      exact ⟨[], rfl, rfl⟩
  | cons decl rest ih =>
      intro k reg reg' h
      rw [registerFrom] at h
      cases hid : generateCsprngId amb k 8 with
      | error e =>
          rw [hid] at h
          cases h
      | ok id =>
          rw [hid] at h
          obtain ⟨ids, hids, hreg⟩ := ih h
          refine ⟨id :: ids, ?_, hreg⟩
          rw [List.length_cons, List.range'_succ, List.map_cons, List.map_cons, hid, hids]

/-- **One stream for each declaration**, if the drawn ids differ. -/
theorem streams_registerFromDeclarations {amb : Ambient} {decls : List StreamDeclaration}
    {reg reg' : StreamRegistry} (h : reg.registerFromDeclarations amb decls = (.ok (), reg'))
    (hdistinct : ((List.range decls.length).map (generateCsprngId amb · 8)).Nodup) :
    (reg'.streams.map StreamInfo.id).Nodup ∧
      ∃ ids : List Bytes, ids.length = decls.length ∧
        reg'.streams = List.zipWith infoOfDeclaration decls ids := by
  obtain ⟨ids, hids, rfl⟩ := registerFrom_ok h
  have hlength : ids.length = decls.length := by
    have hsame := congrArg List.length hids
    rw [List.length_map, List.length_map, List.length_range'] at hsame
    exact hsame.symm
  have hmap : (List.zipWith infoOfDeclaration decls ids).map StreamInfo.id = ids := by
    have hsnd : (decls.zip ids).map Prod.snd = ids := List.map_snd_zip hlength.le
    rw [List.zip, List.map_zipWith] at hsnd
    rw [List.map_zipWith]
    exact hsnd
  rw [List.range_eq_range', hids] at hdistinct
  have hnodup : ((List.zipWith infoOfDeclaration decls ids).map StreamInfo.id).Nodup := by
    rw [hmap]
    exact hdistinct.of_map
  rw [foldl_emplace hnodup fun _ _ => rfl]
  exact ⟨hnodup, ids, hlength, rfl⟩

end StreamRegistry

/-! ### The init-ack -/

/-- **The entry of a stream in an init-ack.** -/
structure Lists (resumption : Bool) (info : StreamInfo) (entry : Json) : Prop where
  id : entry.at? (ascii "id") = some (.string info.id)
  contentType : entry.at? (ascii "content_type") = some (.string info.contentType)
  direction : entry.at? (ascii "type") = some (.string (streamDirectionToString info.direction))
  offsetType : entry.at? (ascii "offset_type") =
    some (.string (offsetTypeToString info.offsetType))
  purpose : entry.at? (ascii "purpose") =
    if info.purpose = [] then none else some (.string info.purpose)
  resumeOffset : entry.at? (ascii "resume_offset") =
    if resumption then some (.unsigned info.offset) else none

theorem lists_initAckEntry (resumption : Bool) (info : StreamInfo) :
    Lists resumption info (initAckEntry resumption info) := by
  unfold initAckEntry
  cases resumption with
  | false =>
      cases hpurpose : info.purpose with
      | nil => constructor <;> simp [hpurpose] <;> rfl
      | cons c rest => constructor <;> simp [hpurpose] <;> rfl
  | true =>
      cases hpurpose : info.purpose with
      | nil => constructor <;> simp [hpurpose] <;> rfl
      | cons c rest => constructor <;> simp [hpurpose] <;> rfl

theorem forall₂_lists (resumption : Bool) (streams : List StreamInfo) :
    List.Forall₂ (Lists resumption) streams (streams.map (initAckEntry resumption)) := by
  rw [List.forall₂_map_right_iff, List.forall₂_same]
  exact fun info _ => lists_initAckEntry resumption info

/-- The frame acknowledges these streams, in some order. -/
structure AcknowledgesStreams (json : JsonLib) (resumption : Bool) (streams : List StreamInfo)
    (outcome : Outcome Impl Output Result) (frame : WireFrame) : Prop
    extends Acknowledges outcome frame where
  lists : ∃ listed entries version, listed.Perm streams ∧
    List.Forall₂ (Lists resumption) listed entries ∧
    frame.body = json.dump
      (.object [(ascii "streams", .array entries), (ascii "version", .string version)])

theorem exists_acknowledgesStreams {setup : Setup} {inv : Invocation} {f : ParsedHeadersView}
    {registry : StreamRegistry} {e : Establishment}
    (hearned : Earned setup inv.ambient f registry e) (hf : Parsed f) (s : Impl) :
    ∃ frame, AcknowledgesStreams setup.json e.resumption e.registry.streams
      ⟨establish e s, credentials setup f ++ texts (initAckHeaders e) (initAckBody setup.json e),
        .ok ()⟩ frame := by
  obtain ⟨frame, hack, -, hbody⟩ := exists_initAck hearned hf (initAckBody setup.json e) s
  exact ⟨frame, hack, _, _, e.version, .refl _, forall₂_lists _ _, hbody⟩

/-! ### Fresh sessions -/

/-- **A stream that is registered for an entry** of an init: as it is declared, from offset
zero on, and with the parameters of PCM audio if the content type is read as that. -/
structure Registered (item : Json) (info : StreamInfo) : Prop where
  contentType : item.at? (ascii "content_type") = some (.string info.contentType)
  direction : ∃ text, item.at? (ascii "type") = some (.string text) ∧
    parseStreamDirection text = some info.direction
  purpose : Reads item (ascii "purpose") Json.getString [] info.purpose
  offsetType : ∃ text, item.at? (ascii "offset_type") = some (.string text) ∧
    parseOffsetType text = some info.offsetType
  offset : info.offset = 0
  pcmParams : ∀ params, info.pcmParams = some params ↔
    parseContentType info.contentType = .ok (.audioPcm
      { rate := params.rate, channels := params.channels, bits := params.bits })

theorem Declares.registered {item : Json} {d : StreamDeclaration} (h : Declares item d)
    (id : Bytes) : Registered item (StreamRegistry.infoOfDeclaration d id) where
  contentType := h.contentType
  direction := h.direction
  purpose := h.purpose
  offsetType := by
    obtain ⟨text, offsetType, htext, hparse, hd⟩ := h.offsetType
    refine ⟨text, htext, hparse.trans ?_⟩
    rw [StreamRegistry.infoOfDeclaration, hd]
    rfl
  offset := by rfl
  pcmParams params := by
    rw [StreamRegistry.infoOfDeclaration]
    dsimp only
    split
    · rename_i pcm hpcm
      rw [hpcm, Option.some.injEq, Except.ok.injEq, ParsedContentType.audioPcm.injEq]
      constructor
      · rintro rfl
        rfl
      · intro hpcm
        rw [hpcm]
    · rename_i hother
      exact ⟨fun h => (by cases h), fun h => absurd h (hother _)⟩

theorem forall₂_zipWith {α β γ δ : Type} {R : α → β → Prop} {S : α → δ → Prop} {f : β → γ → δ}
    (hf : ∀ a b c, R a b → S a (f b c)) {as : List α} {bs : List β}
    (h : List.Forall₂ R as bs) :
    ∀ {cs : List γ}, cs.length = bs.length → List.Forall₂ S as (List.zipWith f bs cs) := by
  induction h with
  | nil => intro cs _; exact .nil
  | cons hab _ ih =>
      intro cs hlength
      cases cs with
      | nil => cases hlength
      | cons c cs => exact .cons (hf _ _ c hab) (ih (Nat.succ.inj hlength))

/-- What is true of the registry of a session that is established afresh. -/
theorem handleFresh_registers {setup : Setup} {amb : Ambient} {f : ParsedHeadersView}
    {items : List Json} {decls : List StreamDeclaration} {version : Bytes}
    {registry : StreamRegistry} {e : Establishment}
    (h : handleFresh setup amb f decls version registry = .ok e)
    (hdecls : List.Forall₂ Declares items decls)
    (hdistinct : ((List.range items.length).map (generateCsprngId amb · 8)).Nodup) :
    List.Forall₂ Registered items e.registry.streams ∧
      (e.registry.streams.map StreamInfo.id).Nodup ∧ e.resumption = false := by
  unfold handleFresh at h
  split at h
  · cases h
  · split at h
    · cases h
    · rename_i registered hregister
      split at h
      · cases h
      · cases h
        rw [hdecls.length_eq] at hdistinct
        obtain ⟨hnodup, ids, hlength, hstreams⟩ :=
          StreamRegistry.streams_registerFromDeclarations hregister hdistinct
        refine ⟨?_, hnodup, rfl⟩
        show List.Forall₂ Registered items registered.streams
        rw [hstreams]
        exact forall₂_zipWith (fun _ _ id h => h.registered id) hdecls hlength

/-- The entries of the streams of an init. -/
def declaredStreams (setup : Setup) (f : ParsedHeadersView) : List Json :=
  (((setup.json.parse f.body).bind (·.at? (ascii "streams"))).map Json.elements).getD []

theorem parseInitBody_parse {setup : Setup} {body version : Bytes} {bodyJson : Json}
    (h : parseInitBody setup body = .ok (bodyJson, version)) :
    setup.json.parse body = some bodyJson := by
  obtain ⟨parsed, hparse, h⟩ := Checks.exists_of_bind_ok h
  obtain ⟨clientVersion, -, h⟩ := Checks.exists_of_bind_ok h
  split at h
  · cases h
    exact orThrow_ok_iff.mp hparse
  · cases h

/-- The entries of an init that is read. -/
theorem InitRead.forall₂_declares {setup : Setup} {answers : ℕ → Bool} {f : ParsedHeadersView}
    {s : Impl} {bodyJson : Json} {version : Bytes} {decls : List StreamDeclaration}
    (h : InitRead setup answers f s bodyJson version)
    (hdecls : parseDeclarations bodyJson = .ok decls) :
    List.Forall₂ Declares (declaredStreams setup f) decls := by
  obtain ⟨array, harray, hforall⟩ := parseDeclarations_ok_iff.mp hdecls
  rw [declaredStreams, parseInitBody_parse h.2.2, Option.bind_some, harray]
  exact hforall

/-- A session that is established afresh. -/
theorem act_fresh {setup : Setup} {turn : Turn} {f : ParsedHeadersView} {s : Impl}
    (hcall : turn.invocation.call = .processControlFrame f)
    (hinit : turn.invocation.call.DeliversInit) (hfresh : f.sessionId = none)
    (haccept : (turn.act setup s).state.state = .established) :
    ∃ bodyJson version decls e, InitRead setup turn.answers f s bodyJson version ∧
      parseDeclarations bodyJson = .ok decls ∧
      handleFresh setup turn.invocation.ambient f decls version s.registry = .ok e ∧
      turn.act setup s = ⟨establish e s,
        credentials setup f ++ texts (initAckHeaders e) (initAckBody setup.json e), .ok ()⟩ := by
  obtain ⟨bodyJson, version, -, hread, -⟩ := exists_read hcall hinit haccept
  have hrefused : ∀ r registry, completeInit setup turn.invocation.ambient f bodyJson version
      { s with state := .initializing } ≠
        ({ s with state := .initializing, registry }, rejectInit r) := by
    intro r registry h
    rw [Turn.act, perform_refused hcall hinit hread h] at haccept
    cases haccept
  rw [completeInit] at hrefused
  cases hdecls : parseDeclarations bodyJson with
  | error r =>
      rw [hdecls] at hrefused
      exact absurd rfl (hrefused r s.registry)
  | ok decls =>
      rw [hdecls] at hrefused
      simp only [hfresh] at hrefused
      cases hhandle : handleFresh setup turn.invocation.ambient f decls version s.registry with
      | error refusal =>
          rw [hhandle] at hrefused
          exact absurd rfl (hrefused refusal.1 refusal.2)
      | ok e =>
          refine ⟨bodyJson, version, decls, e, hread, hdecls, hhandle, ?_⟩
          refine perform_established hcall hinit hread ?_
          rw [completeInit, hdecls]
          simp only [hfresh, hhandle]

/-- **A fresh init registers what it declares.**  Whatever else there is, a session that accepts
an init without a `Session-Id` has one stream for each entry, as the entry declares it, if the
ids that it draws differ; and the init-ack lists these streams, without offsets. -/
theorem fresh_init_registers_declared {setup : Setup} {turn : Turn} {f : ParsedHeadersView}
    {s : Impl} (hcall : turn.invocation.call = .processControlFrame f)
    (hinit : turn.invocation.call.DeliversInit) (hf : Parsed f) (hfresh : f.sessionId = none)
    (hdistinct : ((List.range (declaredStreams setup f).length).map
      (generateCsprngId turn.invocation.ambient · 8)).Nodup)
    (haccept : (turn.act setup s).state.state = .established) :
    ∃ streams, streams.Perm (turn.act setup s).state.registry.streams ∧
      List.Forall₂ Registered (declaredStreams setup f) streams ∧
      (streams.map StreamInfo.id).Nodup ∧
      ∃ frame, AcknowledgesStreams setup.json false streams (turn.act setup s) frame := by
  obtain ⟨bodyJson, version, decls, e, hread, hdecls, hhandle, hact⟩ :=
    act_fresh hcall hinit hfresh haccept
  obtain ⟨hregistered, hnodup, hresumption⟩ :=
    handleFresh_registers hhandle (hread.forall₂_declares hdecls) hdistinct
  obtain ⟨frame, hack⟩ := exists_acknowledgesStreams (handleFresh_ok hhandle) hf s
  rw [hresumption] at hack
  rw [hact]
  exact ⟨e.registry.streams, .refl _, hregistered, hnodup, frame, hack⟩

/-- An init with two streams. -/
def captionedInit : ParsedHeadersView := initFrame [] exampleEntries

theorem parsed_captionedInit : Parsed captionedInit := parsed_initFrame (by decide)

theorem captionedInit_sessionId : captionedInit.sessionId = none :=
  slot_filledView .sessionId

theorem captionedInit_established :
    ((readingTurn captionedInit).act (readingSetup exampleEntries)
      (.initial (readingSetup exampleEntries))).state.state = .established := by
  rw [captionedInit]
  exact initFrame_established captionedInit_sessionId

theorem declaredStreams_initFrame (headers : List HeaderField) (streams : List Json) :
    declaredStreams (readingSetup streams) (initFrame headers streams) = streams := by
  have hparse : (readingSetup streams).json.parse (initFrame headers streams).body = _ :=
    parse_reading (initValue streams)
  rw [declaredStreams, hparse]
  rfl

theorem captionedInit_distinct :
    ((List.range (declaredStreams (readingSetup exampleEntries) captionedInit).length).map
      (generateCsprngId (readingTurn captionedInit).invocation.ambient · 8)).Nodup := by
  have hlength := congrArg List.length (declaredStreams_initFrame [] exampleEntries)
  rw [captionedInit, hlength]
  decide

theorem fresh_init_registers_declared_example :
    ∃ streams, streams.Perm ((readingTurn captionedInit).act (readingSetup exampleEntries)
        (.initial (readingSetup exampleEntries))).state.registry.streams ∧
      List.Forall₂ Registered (declaredStreams (readingSetup exampleEntries) captionedInit)
        streams ∧
      (streams.map StreamInfo.id).Nodup ∧
      ∃ frame, AcknowledgesStreams (readingSetup exampleEntries).json false streams
        ((readingTurn captionedInit).act (readingSetup exampleEntries)
          (.initial (readingSetup exampleEntries))) frame :=
  fresh_init_registers_declared rfl (deliversInit_initFrame _ _) parsed_captionedInit
    captionedInit_sessionId captionedInit_distinct captionedInit_established

end CulpeoStream.Session
