import CulpeoStream.Lib.History
import CulpeoStream.Session.Endings

/-!
# The life of a session under sequential use

A session that is called from one thread is observed between calls.  The states it
is observed in are `uninitialized`, `established` and `closed`: the handlers pass
through `initializing` and never leave it behind.

* `perform_cases`: a call that runs alone does one of five things, listed in
  `Performs`; the rest of the development reads sequential runs through this list.
* `Performs.moves` and `Performs.establishing`: one call moves the observed state
  along `Moves`, and enters `established` only by a `culpeo.init` that sends exactly
  one init-ack.
* `lifecycle_of_run`: so does every call of every run.
-/

namespace CulpeoStream.Session

open Message Resumption History

/-- A call as it is made in a run: its arguments, its surroundings, and the answers
to its external actions. -/
structure Turn where
  invocation : Invocation
  answers : ℕ → Bool := fun _ => true

/-- The effect of a turn. -/
def Turn.act (setup : Setup) (turn : Turn) (s : Impl) : Outcome Impl Output Result :=
  perform setup turn.invocation turn.answers s

/-- The records of a run from a new session. -/
def sessionHistory (setup : Setup) (turns : List Turn) :
    List (Record Impl Turn (Outcome Impl Output Result)) :=
  history (Turn.act setup) Outcome.state (Impl.initial setup) turns

/-- The moves of the observed state. -/
inductive Moves : SessionState → SessionState → Prop where
  | stay {st : SessionState} (h : st ≠ .initializing) : Moves st st
  | establish : Moves .uninitialized .established
  | close {st : SessionState} (h : st ≠ .initializing) : Moves st .closed

theorem Moves.ne_initializing {st st' : SessionState} (h : Moves st st') :
    st' ≠ .initializing := by
  cases h with
  | stay h => exact h
  | establish => decide
  | close h => decide

theorem Moves.ne_uninitialized {st st' : SessionState} (h : Moves st st')
    (hst : st ≠ .uninitialized) : st' ≠ .uninitialized := by
  cases h with
  | stay _ => exact hst
  | establish => exact absurd rfl hst
  | close _ => decide

/-- The frame was obtained from `parse_headers`. -/
def Parsed (f : ParsedHeadersView) : Prop :=
  ∃ frameType frame limits, parseHeaders frameType frame limits = .ok f

/-- The frame that a call processes, if any, was obtained from `parse_headers`. -/
def Call.FromWire : Call → Prop
  | .processControlFrame f | .processMediaFrame f => Parsed f
  | _ => True

/-- A frame with the event `culpeo.init-ack`. -/
def Output.isInitAck (o : Output) : Bool :=
  o.event == some (ascii "culpeo.init-ack")

/-! ### The init-ack can always be serialized -/

theorem validHeaderValue_hexChar (nibble : UInt8) (h : nibble.toNat < 16) :
    ∀ c ∈ [hexChar nibble], c ≠ ch '\r' ∧ c ≠ ch '\n' ∧ c ≠ 0 := by
  have hall : ∀ n : Fin 16, ∀ c ∈ [(ascii "0123456789abcdef").getD n 0],
      c ≠ ch '\r' ∧ c ≠ ch '\n' ∧ c ≠ 0 := by decide +kernel
  exact hall ⟨nibble.toNat, h⟩

theorem validHeaderValue_bytesToHex (bytes : Bytes) :
    validHeaderValue (bytesToHex bytes) = true := by
  have hlow : ∀ b : UInt8, (b &&& 0x0f).toNat < 16 := by
    intro b
    rw [UInt8.toNat_and]
    exact Nat.lt_of_le_of_lt Nat.and_le_right (by decide)
  rw [validHeaderValue_iff]
  intro c hc
  rw [bytesToHex, List.mem_flatMap] at hc
  obtain ⟨b, -, hc⟩ := hc
  rcases List.mem_cons.mp hc with hc | hc
  · exact validHeaderValue_hexChar _ (hlow _) c (List.mem_singleton.mpr hc)
  · exact validHeaderValue_hexChar _ (hlow _) c hc

theorem validHeaderValue_generateCsprngId {amb : Ambient} {k len : ℕ} {id : Bytes}
    (h : generateCsprngId amb k len = .ok id) : validHeaderValue id = true := by
  rw [generateCsprngId] at h
  split at h
  · cases h
  · cases h
    exact validHeaderValue_bytesToHex _

/-- The id a session is established under fits into a header. -/
theorem Earned.validHeaderValue {setup : Setup} {amb : Ambient} {f : ParsedHeadersView}
    {registry : StreamRegistry} {e : Establishment} (h : Earned setup amb f registry e)
    (hf : Parsed f) : Message.validHeaderValue e.sessionId = true := by
  cases h with
  | fresh _ hid _ => exact validHeaderValue_generateCsprngId hid
  | resumed _ hid _ _ _ =>
      obtain ⟨frameType, frame, limits, hparse⟩ := hf
      exact parseHeaders_slot_valid hparse .sessionId hid

/-- **An established session has acknowledged its handshake**: exactly one init-ack
goes out. -/
theorem countP_initAck {setup : Setup} {amb : Ambient} {f : ParsedHeadersView}
    {registry : StreamRegistry} {e : Establishment} (h : Earned setup amb f registry e)
    (hf : Parsed f) (body : Bytes) :
    (texts (initAckHeaders e) body).countP Output.isInitAck = 1 := by
  have hvalid : ValidHeaders (initAckHeaders e) := by
    have hid := h.validHeaderValue hf
    have hwindow := validHeaderValue_decimal e.bufferWindowMs.toNat
    simp only [ValidHeaders, initAckHeaders, List.forall_mem_cons, field]
    refine ⟨⟨by decide, by decide⟩, ⟨by decide, hid⟩, ⟨by decide, hwindow⟩,
      ⟨by decide, by decide⟩, by simp⟩
  have hsome : (makeFrame .control (initAckHeaders e) body).isSome = true :=
    makeFrame_isSome_iff.mpr hvalid
  obtain ⟨frame, hframe⟩ := Option.isSome_iff_exists.mp hsome
  have hmem : Output.sendText frame ∈ texts (initAckHeaders e) body := by
    simp [texts, hframe]
  have hevent := event_of_mem_texts hmem
  simp [texts, hframe, Output.isInitAck, hevent]

/-! ### One call -/

/-- **What a call does from its beginning to its end**, when nothing else goes on. -/
inductive Performs (setup : Setup) (inv : Invocation) (s : Impl)
    (out : Outcome Impl Output Result) : Prop where
  | passes (hagree : s.Agrees out.state) (hquiet : NoMedia out.outputs)
      (hresult : out.result = .ok () → ∀ f, inv.call ≠ .processMediaFrame f)
  | closes (hclosed : out.state.state = .closed)
      (hregistry : out.state.registry = s.registry ∨ s.state = .uninitialized ∧
        ∀ stream ∈ out.state.registry.streams, stream.offset = 0)
      (hresumed : out.state.isResumedSession = s.isResumedSession)
      (hquiet : NoMedia out.outputs)
      (hresult : out.result = .ok () → ∀ f, inv.call ≠ .processMediaFrame f)
  | establishes {f : ParsedHeadersView} {e : Establishment} {before : List Output}
      (hstate : s.state = .uninitialized) (hcall : inv.call = .processControlFrame f)
      (hinit : inv.call.DeliversInit) (hearned : Earned setup inv.ambient f s.registry e)
      (hestablished : out.state.state = .established)
      (hregistry : out.state.registry = e.registry)
      (hresumed : out.state.isResumedSession = e.resumption)
      (houtputs : out.outputs = before ++ texts (initAckHeaders e) (initAckBody setup.json e))
      (hbefore : before.countP Output.isInitAck = 0 ∧ NoMedia before)
  | accepts {f : ParsedHeadersView} {stream : StreamInfo} {timestampUs : UInt64}
      (hstate : s.state = .established) (hcall : inv.call = .processMediaFrame f)
      (haccept : acceptMedia s.registry f = .ok (stream, timestampUs))
      (hout : out = ⟨{ s with registry := s.registry.update stream },
        if setup.callbacks.onMediaReceived then [.onMediaReceived stream timestampUs f.body]
        else [], .ok ()⟩)
  | sends {streamId payload : Bytes} {timestampUs : UInt64} {stream advanced : StreamInfo}
      (hstate : s.state = .established)
      (hcall : inv.call = .sendMedia streamId payload timestampUs)
      (hstream : s.registry.validateServerSend streamId = .ok stream)
      (hadvance : advanceOffset stream payload.length.toUInt64 = .ok advanced)
      (hafter : out.state = { s with registry := s.registry.update advanced })
      (houtputs : out.outputs =
        (makeFrame .media (mediaHeaders streamId stream timestampUs) payload).toList.map
          .sendBinary)

/-- The decision on a handshake, run to its end. -/
theorem performs_completeInit {setup : Setup} {inv : Invocation} {s : Impl}
    {f : ParsedHeadersView} (bodyJson : Json) (version : Bytes) (answers : ℕ → Bool)
    {before : List Output} (hbefore : before.countP Output.isInitAck = 0 ∧ NoMedia before)
    (hstate : s.state = .uninitialized) (hcall : inv.call = .processControlFrame f)
    (hinit : inv.call.DeliversInit) {out : Outcome Impl Output Result}
    (hout : out = (completeInit setup inv.ambient f bodyJson version
      { s with state := .initializing }).2.exec answers
        (completeInit setup inv.ambient f bodyJson version { s with state := .initializing }).1) :
    Performs setup inv s ⟨out.state, before ++ out.outputs, out.result⟩ := by
  subst hout
  rcases completeInit_cases setup inv.ambient f bodyJson version
    { s with state := .initializing } with ⟨r, registry, h, hregistry⟩ | ⟨e, h, hearned⟩
  · rw [h]
    simp only [exec_rejectInit]
    refine .closes rfl ?_ rfl ?_ nofun
    · rcases hregistry with hsame | hzero
      · exact .inl hsame
      · exact .inr ⟨hstate, hzero⟩
    · simp [hbefore.2, Output.isMedia]
  · rw [h, finalizeEstablished]
    simp only [exec_reply]
    exact .establishes hstate hcall hinit hearned rfl rfl rfl rfl hbefore

/-- **Every call is one of these.** -/
theorem perform_cases (setup : Setup) (inv : Invocation) (answers : ℕ → Bool) (s : Impl) :
    Performs setup inv s (perform setup inv answers s) := by
  have henter := enter_cases setup inv s
  unfold perform
  generalize enter setup inv s = r at henter
  cases henter with
  | returns hagree hmedia => exact .passes hagree noMedia_nil hmedia
  | replies _ hagree _ hmedia =>
      simp only [exec_reply]
      exact .passes hagree (noMedia_texts _ _) fun _ => hmedia
  | measures _ hagree hmedia =>
      exact .passes hagree (by simp [Output.isMedia]) fun _ => hmedia
  | refuses _ =>
      simp only [exec_rejectInit]
      exact .closes rfl (.inl rfl) rfl (by simp [Output.isMedia]) nofun
  | misnamed _ _ =>
      simp only [exec_misnamed]
      exact .closes rfl (.inl rfl) rfl (by simp [Output.isMedia]) nofun
  | aborts _ =>
      simp only [exec_abort]
      exact .closes rfl (.inl rfl) rfl (by simp [Output.isMedia]) nofun
  | closesAfterSend _ hagree =>
      simp only [exec_closeAfterSend]
      exact .closes rfl (.inl hagree.registry) hagree.isResumedSession (by simp [Output.isMedia])
        nofun
  | farewells _ hmedia =>
      simp only [exec_farewell]
      refine .closes rfl (.inl rfl) rfl ?_ fun _ => hmedia
      split <;> simp [Output.isMedia]
  | @authorizes s' f hstate hagree hmedia =>
      rw [awaitAuthResponse]
      cases hanswer : answers 0 with
      | true =>
          refine .passes ?_ ?_ fun _ => hmedia
          · simpa [hanswer] using hagree
          · simp [hanswer, Output.isMedia]
      | false =>
          -- Alone, nothing can have closed the session during the callback.
          rcases afterAuthRejected_cases s' with ⟨hclosed, -⟩ | ⟨-, code, reason, e, h⟩
          · rw [hagree.state, hstate] at hclosed
            cases hclosed
          · refine .closes ?_ (.inl ?_) ?_ ?_ fun _ => hmedia
            · simp [hanswer, h, exec_abort]
            · simp [hanswer, h, exec_abort, hagree.registry]
            · simp [hanswer, h, exec_abort, hagree.isResumedSession]
            · simp [hanswer, h, exec_abort, Output.isMedia]
  | @validates f bodyJson version hstate hcall hinit _ =>
      have hbefore : [Output.onAuthValidate (bearerToken f.authorization)].countP
          Output.isInitAck = 0 ∧ NoMedia [.onAuthValidate (bearerToken f.authorization)] :=
        ⟨rfl, by simp [Output.isMedia]⟩
      rcases afterAuthValidate_cases setup inv.ambient f bodyJson version (answers 0)
        { s with state := .initializing } with ⟨hclosed, -⟩ | ⟨-, -, r, h⟩ | ⟨-, -, h⟩
      · cases hclosed
      · refine .closes ?_ (.inl ?_) ?_ ?_ ?_
        · simp [awaitAuthValidate, h, exec_rejectInit]
        · simp [awaitAuthValidate, h, exec_rejectInit]
        · simp [awaitAuthValidate, h, exec_rejectInit]
        · simp [awaitAuthValidate, h, exec_rejectInit, Output.isMedia]
        · simp [awaitAuthValidate, h, exec_rejectInit]
      · refine performs_completeInit bodyJson version (fun n => answers (n + 1)) hbefore hstate
          hcall hinit ?_
        rw [← h]
        rfl
  | admits hstate hcall hinit _ =>
      exact performs_completeInit _ _ answers ⟨rfl, noMedia_nil⟩ hstate hcall hinit rfl
  | accepts hstate hcall haccept =>
      simp only [exec_deliver]
      exact .accepts hstate hcall haccept rfl
  | sends hstate hcall hstream hadvance =>
      obtain ⟨hafter, houtputs⟩ := exec_handOver answers _ _ _
      exact .sends hstate hcall hstream hadvance hafter houtputs

/-- **One call moves the observed state along `Moves`.** -/
theorem Performs.moves {setup : Setup} {inv : Invocation} {s : Impl}
    {out : Outcome Impl Output Result} (h : Performs setup inv s out)
    (hs : s.state ≠ .initializing) : Moves s.state out.state.state := by
  cases h with
  | passes hagree _ _ =>
      rw [hagree.state]
      exact .stay hs
  | closes hclosed _ _ _ _ =>
      rw [hclosed]
      exact .close hs
  | establishes hstate _ _ _ hestablished _ _ _ _ =>
      rw [hstate, hestablished]
      exact .establish
  | accepts _ _ _ hout =>
      rw [hout]
      exact .stay hs
  | sends _ _ _ _ hafter _ =>
      rw [hafter]
      exact .stay hs

/-- **A session is established by a `culpeo.init`**, which is acknowledged exactly once. -/
theorem Performs.establishing {setup : Setup} {inv : Invocation} {s : Impl}
    {out : Outcome Impl Output Result} (h : Performs setup inv s out)
    (hwire : inv.call.FromWire) (hs : s.state ≠ .established)
    (hestablished : out.state.state = .established) :
    inv.call.DeliversInit ∧ out.outputs.countP Output.isInitAck = 1 := by
  cases h with
  | passes hagree _ _ => exact absurd (hagree.state.symm.trans hestablished) hs
  | closes hclosed _ _ _ _ =>
      rw [hclosed] at hestablished
      cases hestablished
  | establishes _ hcall hinit hearned _ _ _ houtputs hbefore =>
      rw [hcall] at hwire
      rw [houtputs, List.countP_append, hbefore.1, countP_initAck hearned hwire, Nat.zero_add]
      exact ⟨hinit, rfl⟩
  | accepts hstate _ _ _ => exact absurd hstate hs
  | sends hstate _ _ _ _ _ => exact absurd hstate hs

/-! ### Whole runs -/

/-- **Lifecycle under sequential use.**  Along every run, every call leaves the session
in `uninitialized`, `established` or `closed`, moves the observed state forward only,
and enters `established` only as `process_control_frame` of a `culpeo.init` that hands
exactly one init-ack to the transport. -/
theorem lifecycle_of_run (setup : Setup) (turns : List Turn)
    (hwire : ∀ turn ∈ turns, turn.invocation.call.FromWire) :
    ∀ rec ∈ sessionHistory setup turns,
      rec.result.state.state ≠ .initializing ∧
      Moves rec.before.state rec.result.state.state ∧
      (rec.before.state ≠ .established → rec.result.state.state = .established →
        (∃ f, rec.call.invocation.call = .processControlFrame f ∧
          f.event = some (ascii "culpeo.init")) ∧
        rec.result.outputs.countP Output.isInitAck = 1) := by
  refine history_forall (I := fun s : Impl => s.state ≠ .initializing)
    (G := fun turn : Turn => turn.invocation.call.FromWire) ?_ ?_ turns (fun h => by cases h) hwire
  · intro s turn hs _
    exact ((perform_cases setup turn.invocation turn.answers s).moves hs).ne_initializing
  · intro s turn hs hturn
    have hperform := perform_cases setup turn.invocation turn.answers s
    refine ⟨(hperform.moves hs).ne_initializing, hperform.moves hs, fun hne heq => ?_⟩
    obtain ⟨hinit, hack⟩ := hperform.establishing hturn hne heq
    exact ⟨hinit.exists_frame, hack⟩

/-! ### A session to try things on

The client declares one stream, in the direction and with the offset type that are
asked for.  `exampleJson` is the JSON library as far as this exchange uses it. -/

/-- The frame that `parse_headers` makes of one header and a body. -/
def controlFrame (event body : Bytes) : ParsedHeadersView where
  frameType := .control
  frame := encode [field .event event] body
  headerBlock := headerText (field .event event)
  body := body
  event := some event

def exampleInitBody (direction offsetType : Bytes) : Bytes :=
  ascii "\x7b\"version\":\"0.3\",\"streams\":[\x7b\"content_type\":\"audio/opus\",\"type\":\"" ++
    direction ++ ascii "\",\"offset_type\":\"" ++ offsetType ++ ascii "\"\x7d]\x7d"

def exampleInitValue (direction offsetType : Bytes) : Json :=
  .object
    [(ascii "streams", .array [.object
      [(ascii "content_type", .string (ascii "audio/opus")),
        (ascii "offset_type", .string offsetType), (ascii "type", .string direction)]]),
      (ascii "version", .string (ascii "0.3"))]

def exampleAckBody (direction offsetType : Bytes) : Bytes :=
  ascii "\x7b\"streams\":[\x7b\"content_type\":\"audio/opus\",\"id\":\"2a2a2a2a2a2a2a2a\"" ++
    ascii ",\"offset_type\":\"" ++ offsetType ++ ascii "\",\"type\":\"" ++ direction ++
      ascii "\"\x7d],\"version\":\"0.3\"\x7d"

def exampleJson (direction offsetType : Bytes) : JsonLib where
  parse text :=
    if text = exampleInitBody direction offsetType then
      some (exampleInitValue direction offsetType)
    else none
  dump _ := exampleAckBody direction offsetType

/-- A server that authenticates and watches everything. -/
def exampleSetup (direction offsetType : Bytes) : Setup where
  json := exampleJson direction offsetType
  callbacks :=
    { onAuthValidate := true, onMediaReceived := true, onRtt := true, onClose := true
      onAuthResponse := true }

def exampleInit (direction offsetType : Bytes) : Turn where
  invocation :=
    { call := .processControlFrame
        (controlFrame (ascii "culpeo.init") (exampleInitBody direction offsetType))
      ambient := { draw := fun _ => some fun _ => 0x2a } }

/-- The example session, established. -/
def exampleSession (direction offsetType : Bytes) : Impl :=
  ((exampleInit direction offsetType).act (exampleSetup direction offsetType)
    (Impl.initial (exampleSetup direction offsetType))).state

/-- An init followed by a second one. -/
theorem lifecycle_of_run_example :
    (exampleSession (ascii "input") (ascii "message")).state = .established ∧
    ∀ rec ∈ sessionHistory (exampleSetup (ascii "input") (ascii "message"))
        [exampleInit (ascii "input") (ascii "message"),
          exampleInit (ascii "input") (ascii "message")],
      rec.result.state.state ≠ .initializing ∧
      Moves rec.before.state rec.result.state.state ∧
      (rec.before.state ≠ .established → rec.result.state.state = .established →
        (∃ f, rec.call.invocation.call = .processControlFrame f ∧
          f.event = some (ascii "culpeo.init")) ∧
        rec.result.outputs.countP Output.isInitAck = 1) := by
  refine ⟨by decide +kernel, lifecycle_of_run _ _ ?_⟩
  have hparsed : Parsed (controlFrame (ascii "culpeo.init")
      (exampleInitBody (ascii "input") (ascii "message"))) :=
    ⟨.control, encode [field .event (ascii "culpeo.init")]
      (exampleInitBody (ascii "input") (ascii "message")), {}, by decide +kernel⟩
  intro turn hturn
  simp only [List.mem_cons, List.not_mem_nil, or_false, or_self] at hturn
  rw [hturn]
  exact hparsed

end CulpeoStream.Session
