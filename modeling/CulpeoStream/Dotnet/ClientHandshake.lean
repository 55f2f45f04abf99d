import CulpeoStream.Dotnet.Reading
import CulpeoStream.Dotnet.StreamClientCalls

/-!
# What a handshake of the client that fails has changed

`ProcessInitAck` takes over the session id of the init-ack before it looks at the streams.  A
handshake that fails therefore leaves the client as it was unless it has got to an init-ack
with another session id and with streams that are refused (`handshake_atomic_iff`).
-/

open Resumption

namespace CulpeoStream.Dotnet

open Checks Message Utf16

namespace JsonElement

variable {e : JsonElement} {name : Text}

theorem searchable_of_tryGetProperty {property : Option JsonElement}
    (h : e.tryGetProperty name = .ok property) : e.Searchable name :=
  contained_tryGetProperty.mp (by rw [h]; exact only_ok _)

/-- A property that is looked for. -/
theorem tryGetProperty_ok_iff {property : Option JsonElement} :
    e.tryGetProperty name = .ok property ↔ e.Searchable name ∧ property = e.property name := by
  constructor
  · intro h
    have hsearchable := searchable_of_tryGetProperty h
    rw [tryGetProperty_of_searchable hsearchable] at h
    exact ⟨hsearchable, (Except.ok.inj h).symm⟩
  · rintro ⟨hsearchable, rfl⟩
    exact tryGetProperty_of_searchable hsearchable

/-- A string that is read. -/
theorem stringProperty_ok_iff {value : Option Text} :
    e.stringProperty name = .ok value ↔ e.HasText name ∧ value = e.text name := by
  constructor
  · intro h
    have htext : e.HasText name := by
      rw [← contained_stringProperty, h]
      exact only_ok _
    rw [stringProperty_of_hasText htext] at h
    exact ⟨htext, (Except.ok.inj h).symm⟩
  · rintro ⟨htext, rfl⟩
    exact stringProperty_of_hasText htext

/-- A number that is read. -/
theorem int64Property_ok_iff {value : Option Int64} :
    e.int64Property name = .ok value ↔
      e.HasInt64 name ∧ value = (e.property name).bind asInt64 := by
  constructor
  · intro h
    have hint64 : e.HasInt64 name := by
      rw [← contained_int64Property, h]
      exact only_ok _
    rw [int64Property_of_hasInt64 hint64] at h
    exact ⟨hint64, (Except.ok.inj h).symm⟩
  · rintro ⟨hint64, rfl⟩
    exact int64Property_of_hasInt64 hint64

end JsonElement

namespace CulpeoStreamClient

theorem json_ok_iff {α : Type} {value : Except Exn α} {a : α} :
    json value = .ok a ↔ value = .ok a := by
  cases value with
  | error e => exact iff_of_false nofun nofun
  | ok b => exact ⟨fun h => congrArg Except.ok (Except.ok.inj h), fun h => congrArg json h⟩

/-! ### The streams of an init-ack -/

/-- What a `resume_offset` must be, where there is one. -/
def FitsResumeOffset (existing : Option ConfirmedStream) (type : CulpeoStreamType)
    (confirmedOffset : Int64) : Prop :=
  0 ≤ confirmedOffset ∧
    (type ≠ .output → ∀ stream ∈ existing, confirmedOffset ≤ stream.sendOffset)

/-- What the `resume_offset` of an entry must be, where there is one. -/
def Resumable (entry : JsonElement) (existing : Option ConfirmedStream)
    (type : CulpeoStreamType) : Prop :=
  entry.HasInt64 (utf16 "resume_offset") ∧
    ∀ n ∈ (entry.property (utf16 "resume_offset")).bind JsonElement.asInt64,
      FitsResumeOffset existing type n

/-- The entry of a stream that an init-ack confirms. -/
structure Confirmable (env : Environment) (c : CulpeoStreamClient) (isResumption : Bool)
    (entry : JsonElement) : Prop where
  hasText : ∀ name ∈ [utf16 "id", utf16 "content_type", utf16 "type", utf16 "offset_type",
    utf16 "purpose"], entry.HasText name
  fields : ∃ serverId contentType type, entry.text (utf16 "id") = some serverId ∧
    serverId ≠ [] ∧ entry.text (utf16 "content_type") = some contentType ∧ contentType ≠ [] ∧
    (entry.text (utf16 "type")).bind tryParseStreamType = some type ∧
    ((entry.text (utf16 "offset_type")).bind tryParseOffsetType).isSome = true ∧
    (isResumption = true → Resumable entry (c.findMatchingStream env.toRuntime type contentType
      (entry.text (utf16 "purpose"))) type)

theorem requiredFields_ok_iff {id contentTypeValue typeStr offsetTypeStr : Option Text}
    {serverId contentType : Text} {type : CulpeoStreamType} {offsetType : OffsetType} :
    requiredFields id contentTypeValue typeStr offsetTypeStr =
        .ok (serverId, contentType, type, offsetType) ↔
      (id = some serverId ∧ serverId ≠ []) ∧
        (contentTypeValue = some contentType ∧ contentType ≠ []) ∧
        typeStr.bind tryParseStreamType = some type ∧
        offsetTypeStr.bind tryParseOffsetType = some offsetType := by
  unfold requiredFields
  constructor
  · intro h
    split at h
    · rename_i id' contentType' type' offsetType' htype hoffset
      split at h
      · cases h
      · rename_i hempty
        cases h
        rw [Bool.or_eq_true, not_or, List.isEmpty_iff, List.isEmpty_iff] at hempty
        exact ⟨⟨rfl, hempty.1⟩, ⟨rfl, hempty.2⟩, htype, hoffset⟩
    · cases h
  · rintro ⟨⟨rfl, hid⟩, ⟨rfl, hcontent⟩, htype, hoffset⟩
    rw [htype, hoffset]
    dsimp only
    rw [if_neg (by rw [Bool.or_eq_true, not_or, List.isEmpty_iff, List.isEmpty_iff]; exact
      ⟨hid, hcontent⟩)]

theorem checkResumeOffset_ok_iff {existing : Option ConfirmedStream} {serverId : Text}
    {type : CulpeoStreamType} {confirmedOffset : Int64} {u : Unit} :
    checkResumeOffset existing serverId type confirmedOffset = .ok u ↔
      FitsResumeOffset existing type confirmedOffset := by
  unfold checkResumeOffset FitsResumeOffset
  split
  · rename_i hneg
    exact iff_of_false nofun fun h => Int64.not_le.mpr hneg h.1
  · rename_i hpos
    rw [Int64.not_lt] at hpos
    rw [and_iff_right hpos]
    cases existing with
    | none => exact iff_of_true rfl nofun
    | some stream =>
        dsimp only
        split
        · rename_i hahead
          exact iff_of_false nofun fun h => Int64.not_le.mpr hahead.2 (h hahead.1 stream rfl)
        · rename_i hbehind
          refine iff_of_true rfl fun htype stream' hstream => ?_
          cases hstream
          exact Int64.not_lt.mp fun hlt => hbehind ⟨htype, hlt⟩

/-- The offset of a resumption is read when it is one that fits. -/
theorem resume_ok_iff {entry : JsonElement} {existing : Option ConfirmedStream}
    {serverId : Text} {type : CulpeoStreamType} {state : ConfirmedStream} :
    (∃ stream, (do
      match ← json (entry.int64Property (utf16 "resume_offset")) with
      | none => return state
      | some confirmedOffset =>
          checkResumeOffset existing serverId type confirmedOffset
          return applyResumeOffset state confirmedOffset) = .ok stream) ↔
      Resumable entry existing type := by
  rw [exists_bind_ok_iff]
  constructor
  · rintro ⟨n, hn, hrest⟩
    obtain ⟨hint64, rfl⟩ := JsonElement.int64Property_ok_iff.mp (json_ok_iff.mp hn)
    refine ⟨hint64, fun n hn => ?_⟩
    rw [Option.mem_def.mp hn] at hrest
    obtain ⟨u, hu, -⟩ := exists_bind_ok_iff.mp hrest
    exact checkResumeOffset_ok_iff.mp hu
  · rintro ⟨hint64, hfits⟩
    refine ⟨_, json_ok_iff.mpr (JsonElement.int64Property_ok_iff.mpr ⟨hint64, rfl⟩), ?_⟩
    cases h : (entry.property (utf16 "resume_offset")).bind JsonElement.asInt64 with
    | none => exact ⟨_, rfl⟩
    | some n =>
        exact exists_bind_ok_iff.mpr ⟨(), checkResumeOffset_ok_iff.mpr (hfits n h), _, rfl⟩

theorem confirmStream_ok_iff {env : Environment} {c : CulpeoStreamClient} {isResumption : Bool}
    {entry : JsonElement} :
    (∃ stream, c.confirmStream env isResumption entry = .ok stream) ↔
      Confirmable env c isResumption entry := by
  unfold confirmStream
  simp only [exists_bind_ok_iff, json_ok_iff, JsonElement.stringProperty_ok_iff]
  constructor
  · rintro ⟨_, ⟨hid, rfl⟩, _, ⟨hcontent, rfl⟩, _, ⟨htype, rfl⟩, _, ⟨hoffset, rfl⟩, _,
      ⟨hpurpose, rfl⟩, ⟨serverId, contentType, type, offsetType⟩,
      hfields, hrest⟩
    obtain ⟨⟨hidText, hidNe⟩, ⟨hcontentText, hcontentNe⟩, htypeText, hoffsetText⟩ :=
      requiredFields_ok_iff.mp hfields
    refine ⟨?_, serverId, contentType, type, hidText, hidNe, hcontentText, hcontentNe,
      htypeText, Option.isSome_of_mem hoffsetText, ?_⟩
    · simp only [List.forall_mem_cons]
      exact ⟨hid, hcontent, htype, hoffset, hpurpose, nofun⟩
    · rintro rfl
      exact resume_ok_iff.mp hrest
  · rintro ⟨htexts, serverId, contentType, type, hidText, hidNe, hcontentText,
      hcontentNe, htypeText, hoffsetText, hresume⟩
    simp only [List.forall_mem_cons] at htexts
    obtain ⟨hid, hcontent, htype, hoffset, hpurpose, -⟩ := htexts
    obtain ⟨offsetType, hoffsetText⟩ := Option.isSome_iff_exists.mp hoffsetText
    refine ⟨_, ⟨hid, rfl⟩, _, ⟨hcontent, rfl⟩, _, ⟨htype, rfl⟩, _, ⟨hoffset, rfl⟩, _,
      ⟨hpurpose, rfl⟩,
      ⟨serverId, contentType, type, offsetType⟩, requiredFields_ok_iff.mpr
        ⟨⟨hidText, hidNe⟩, ⟨hcontentText, hcontentNe⟩, htypeText, hoffsetText⟩, ?_⟩
    cases isResumption with
    | false => exact ⟨_, rfl⟩
    | true => exact resume_ok_iff.mpr (hresume rfl)

/-! ### The init-ack -/

/-- An init-ack in whose body the streams are found, and whose streams are confirmed. -/
def ConfirmableAck (env : Environment) (c : CulpeoStreamClient) (isResumption : Bool)
    (ack : CulpeoMessage) : Prop :=
  ack.body ≠ [] ∧ ∃ root items, env.parse ack.body = some root ∧
    root.Searchable (utf16 "streams") ∧ root.property (utf16 "streams") = some (.array items) ∧
    ∀ entry ∈ items, Confirmable env c isResumption entry

theorem confirmStreams_ok_iff {env : Environment} {c : CulpeoStreamClient} {isResumption : Bool}
    {ack : CulpeoMessage} :
    (∃ streams, c.confirmStreams env ack isResumption = .ok streams) ↔
      ConfirmableAck env c isResumption ack := by
  unfold confirmStreams ConfirmableAck
  by_cases hbody : ack.body = []
  · rw [hbody]
    exact iff_of_false (fun ⟨_, h⟩ => nomatch h) fun h => h.1 rfl
  have hempty : ¬ ack.body.isEmpty = true := by rwa [List.isEmpty_iff]
  dsimp only
  rw [if_neg hempty, and_iff_right hbody]
  constructor
  · intro hrest
    split at hrest
    · obtain ⟨_, h⟩ := hrest
      cases h
    · rename_i root hroot
      obtain ⟨property, hproperty, hitems⟩ := exists_bind_ok_iff.mp hrest
      rw [json_ok_iff] at hproperty
      obtain ⟨hsearchable, rfl⟩ := JsonElement.tryGetProperty_ok_iff.mp hproperty
      split at hitems
      · rename_i items hstreams
        exact ⟨root, items, hroot, hsearchable, hstreams, fun entry hentry =>
          confirmStream_ok_iff.mp (exists_mapM_ok_iff.mp hitems entry hentry)⟩
      · obtain ⟨_, h⟩ := hitems
        cases h
  · rintro ⟨root, items, hroot, hsearchable, hstreams, hitems⟩
    rw [hroot]
    refine exists_bind_ok_iff.mpr ⟨some (.array items), ?_, ?_⟩
    · exact json_ok_iff.mpr (JsonElement.tryGetProperty_ok_iff.mpr ⟨hsearchable, hstreams.symm⟩)
    · exact exists_mapM_ok_iff.mpr fun entry hentry =>
        confirmStream_ok_iff.mpr (hitems entry hentry)

/-! ### The handshake -/

/-- The session and its streams are the same. -/
structure SameSession (c c' : CulpeoStreamClient) : Prop where
  sessionId : c'.sessionId = c.sessionId
  streamStates : c'.streamStates = c.streamStates
  streamObjects : c'.streamObjects = c.streamObjects

/-- When `ProcessInitAck` throws without a change. -/
theorem processInitAck_throws_iff {env : Environment} {ack : CulpeoMessage} {isResumption : Bool}
    {c : CulpeoStreamClient} :
    ((∃ e, (processInitAck env ack isResumption c).2 = .error e) →
        SameSession c (processInitAck env ack isResumption c).1) ↔
      ∀ sessionId, ack.sessionId = some sessionId → c.sessionId ≠ some sessionId →
        ConfirmableAck env c isResumption ack := by
  unfold processInitAck
  cases hsession : ack.sessionId with
  | none => exact iff_of_true (fun _ => ⟨rfl, rfl, rfl⟩) nofun
  | some sessionId =>
      dsimp only
      rw [← confirmStreams_ok_iff]
      cases hstreams : ({ c with sessionId := some sessionId }).confirmStreams env ack
          isResumption with
      | ok streams => exact iff_of_true (fun ⟨e, he⟩ => nomatch he) fun _ _ _ => ⟨streams, hstreams⟩
      | error e =>
          -- The session id has been taken over: that is no change only if it was the same.
          have hrefused : ¬ ∃ streams, c.confirmStreams env ack isResumption = .ok streams := by
            rintro ⟨streams, hok⟩
            exact nomatch hok.symm.trans hstreams
          refine ⟨fun h _ hsome hne => ?_, fun h _ => ⟨?_, rfl, rfl⟩⟩
          · cases hsome
            exact absurd (h ⟨e, rfl⟩).sessionId.symm hne
          · by_contra hne
            exact hrefused (h sessionId rfl fun heq => hne heq.symm)

section Handshake

variable (env : Environment) (o : CulpeoStreamClientOptions) (socket : ℕ) (isResumption : Bool)
  (c : CulpeoStreamClient) (answers : ℕ → ClientAnswer)

/-- The answers to the init frame bring an init-ack. -/
structure Brings (answers : ℕ → ClientAnswer) (ack : CulpeoMessage) : Prop where
  sent : (answers 0).asUnit = .ok ()
  received : ∃ data, (answers 1).asMessage = .ok (.text, data) ∧
    parseAsync {} data .control = .ok ack
  event : ack.event = some (utf16 "culpeo.init-ack")

/-- So do the answers to a handshake, of which the first one is the token if there is a
callback. -/
def Acknowledges (ack : CulpeoMessage) : Prop :=
  (o.getToken = true → ∃ token, (answers 0).asToken = .ok token) ∧
    Brings (fun n => answers (o.getToken.toNat + n)) ack

/-- What `PerformHandshakeAsync` does with its token. -/
def exchange (token : Text) : Method Unit := do
  let frame ← .read fun c => c.initFrame env o isResumption token
  perform (.send socket .text (serializeAsync frame))
  let (msgType, msgBytes) ← receiveMessageAsync socket
  if msgType ≠ .text then
    throw (.invalidOperation (utf16 "Expected text frame in response to culpeo.init."))
  else
    match parseAsync {} msgBytes .control with
    | .error e => throw (.parse e)
    | .ok response => handleInitResponse env isResumption response

theorem performHandshakeAsync_eq : performHandshakeAsync env o socket isResumption =
    getCurrentTokenAsync o >>= exchange env o socket isResumption := rfl

/-- A handshake has handled the init-ack that is brought, or it has thrown and changed
nothing. -/
def Handled (Ack : CulpeoMessage → Prop)
    (outcome : Outcome CulpeoStreamClient ClientAction Result) : Prop :=
  (∃ ack, Ack ack ∧ outcome.state = (processInitAck env ack isResumption c).1 ∧
      outcome.result = (processInitAck env ack isResumption c).2) ∨
    (∀ ack, ¬ Ack ack) ∧ outcome.state = c ∧ ∃ e, outcome.result = .error e

variable {env o socket isResumption c answers}

theorem handled_response {response : CulpeoMessage} {Ack : CulpeoMessage → Prop}
    (hack : ∀ ack, Ack ack ↔ ack = response ∧ ack.event = some (utf16 "culpeo.init-ack")) :
    Handled env isResumption c Ack
      ((handleInitResponse env isResumption response .ret).exec answers c) := by
  unfold handleInitResponse
  split
  · rename_i herror
    refine .inr ⟨fun ack h => ?_, rfl, _, rfl⟩
    obtain ⟨rfl, hevent⟩ := (hack ack).mp h
    exact absurd (herror.symm.trans hevent) (by decide)
  · split
    · rename_i hother
      refine .inr ⟨fun ack h => ?_, rfl, _, rfl⟩
      obtain ⟨rfl, hevent⟩ := (hack ack).mp h
      exact hother hevent
    · rename_i hevent
      exact .inl ⟨response, (hack response).mpr ⟨rfl, not_not.mp hevent⟩, rfl, rfl⟩

theorem handled_exchange (token : Text) (answers : ℕ → ClientAnswer) :
    Handled env isResumption c (Brings answers)
      ((exchange env o socket isResumption token .ret).exec answers c) := by
  unfold Handled exchange receiveMessageAsync
  cases hsent : (answers 0).asUnit with
  -- The send fails, the receive fails, the reply is no text, or it is no frame: no init-ack came.
  | error e =>
      refine .inr ⟨fun ack h => (nomatch hsent.symm.trans h.sent), ?_, e, ?_⟩
      · simp [perform, hsent]
      · simp [perform, hsent]
  | ok _ =>
    cases hmessage : (answers 1).asMessage with
    | error e =>
        refine .inr ⟨fun ack h => ?_, ?_, e, ?_⟩
        · obtain ⟨data, hreceived, -⟩ := h.received
          exact nomatch hmessage.symm.trans hreceived
        · simp [perform, hsent, hmessage]
        · simp [perform, hsent, hmessage]
    | ok message =>
      obtain ⟨msgType, data⟩ := message
      by_cases htype : msgType = .text
      · cases hparse : parseAsync {} data .control with
        | error e =>
            refine .inr ⟨fun ack h => ?_, ?_, .parse e, ?_⟩
            · obtain ⟨data', hreceived, hack⟩ := h.received
              cases hmessage.symm.trans hreceived
              exact nomatch hparse.symm.trans hack
            · simp [perform, hsent, hmessage, htype, hparse]
            · simp [perform, hsent, hmessage, htype, hparse]
        | ok response =>
            -- The one init-ack that can have come is this reply.
            have hack : ∀ ack, Brings answers ack ↔
                ack = response ∧ ack.event = some (utf16 "culpeo.init-ack") := by
              refine fun ack => ⟨fun h => ⟨?_, h.event⟩, ?_⟩
              · obtain ⟨data', hreceived, hack⟩ := h.received
                cases hmessage.symm.trans hreceived
                exact (Except.ok.inj (hparse.symm.trans hack)).symm
              · rintro ⟨rfl, hevent⟩
                exact ⟨hsent, ⟨data, htype ▸ hmessage, hparse⟩, hevent⟩
            have h : Handled env isResumption c (Brings answers)
                ((handleInitResponse env isResumption response .ret).exec
                  (fun n => answers (n + 1 + 1)) c) := handled_response hack
            simpa [Handled, perform, hsent, hmessage, htype, hparse] using h
      · refine .inr ⟨fun ack h => ?_, ?_, .invalidOperation
          (utf16 "Expected text frame in response to culpeo.init."), ?_⟩
        · obtain ⟨data', hreceived, -⟩ := h.received
          cases hmessage.symm.trans hreceived
          exact htype rfl
        · simp [perform, hsent, hmessage, htype]
        · simp [perform, hsent, hmessage, htype]

theorem Brings.unique {ack ack' : CulpeoMessage} (h : Brings answers ack)
    (h' : Brings answers ack') : ack = ack' := by
  obtain ⟨data, hreceived, hack⟩ := h.received
  obtain ⟨data', hreceived', hack'⟩ := h'.received
  cases hreceived.symm.trans hreceived'
  exact Except.ok.inj (hack.symm.trans hack')

theorem handled_handshake :
    Handled env isResumption c (Acknowledges o answers)
      ((performHandshakeAsync env o socket isResumption .ret).exec answers c) := by
  have hexchange := fun token answers =>
    @handled_exchange env o socket isResumption c token answers
  rw [performHandshakeAsync_eq]
  unfold getCurrentTokenAsync Acknowledges
  unfold Handled at hexchange ⊢
  cases hget : o.getToken with
  | false => simpa using hexchange (o.authorization.getD []) answers
  | true =>
    cases htoken : (answers 0).asToken with
    | error e =>
        refine .inr ⟨fun ack h => ?_, ?_, e, ?_⟩
        · obtain ⟨token, hok⟩ := h.1 rfl
          cases hok
        · simp [htoken]
        · simp [htoken]
    | ok token => simpa [htoken, Nat.add_comm] using hexchange token fun n => answers (n + 1)

variable (env o socket isResumption c answers) in
/-- **A handshake that throws changes nothing**, if and only if an init-ack with another session
id has streams that are confirmed. -/
theorem handshake_atomic_iff :
    ((∃ e, ((performHandshakeAsync env o socket isResumption .ret).exec answers c).result =
        .error e) →
      SameSession c ((performHandshakeAsync env o socket isResumption .ret).exec answers c).state) ↔
      ∀ ack, Acknowledges o answers ack → ∀ sessionId, ack.sessionId = some sessionId →
        c.sessionId ≠ some sessionId → ConfirmableAck env c isResumption ack := by
  obtain ⟨ack, hack, hstate, hresult⟩ | ⟨hnone, hstate, e, hresult⟩ :=
    @handled_handshake env o socket isResumption c answers
  · rw [hstate, hresult, processInitAck_throws_iff]
    refine ⟨fun h ack' hack' => ?_, fun h => h ack hack⟩
    rwa [hack'.2.unique hack.2]
  · rw [hstate]
    exact iff_of_true (fun _ => ⟨rfl, rfl, rfl⟩) fun ack hack => absurd hack (hnone ack)

end Handshake

/-- A client with a token, and no streams yet. -/
def novice : CulpeoStreamClientOptions where
  authorization := some (utf16 "t")
  streams := [⟨utf16 "a/b", .input, .message, none⟩]
  streams_ne_nil := List.cons_ne_nil _ _
  has_token := .inl rfl

/-- The server answers with an init-ack for session `s`. -/
def bareAnswers (body : Bytes) : ℕ → ClientAnswer
  | 1 => .message .text (serializeAsync
      { kind := .control, body, event := some (utf16 "culpeo.init-ack"),
        sessionId := some (utf16 "s") })
  | _ => .done

set_option maxRecDepth 20000 in
/-- The init-ack has no body, and the client keeps its session id. -/
theorem not_handshake_atomic :
    ¬ ((∃ e, ((performHandshakeAsync (.reading []) novice 0 false .ret).exec (bareAnswers [])
          {}).result = .error e) →
      SameSession {} ((performHandshakeAsync (.reading []) novice 0 false .ret).exec
        (bareAnswers []) {}).state) :=
  fun h => nomatch (h ⟨_, rfl⟩).sessionId

end CulpeoStreamClient

end CulpeoStream.Dotnet
