import CulpeoStream.Session.Admission

/-!
# The whole effect of a `culpeo.init`

`act_init` follows the state of the session through an init.  Here is everything else that the
call does: before the decision it may ask for the verdict on the credentials, a refusal is an
init-error and the end of the connection (`perform_refused`), and an acceptance is one init-ack
(`perform_established`).

`act` is what comes of a call that returns.  A call does not return if a value cannot be dumped
(`Turn.Terminates`).
-/

namespace CulpeoStream.Session

open Message Resumption

variable {setup : Setup} {inv : Invocation} {answers : ℕ → Bool} {f : ParsedHeadersView} {s : Impl}
  {bodyJson : Json} {version : Bytes}

/-- What happens before the decision. -/
def credentials (setup : Setup) (f : ParsedHeadersView) : List Output :=
  if setup.callbacks.onAuthValidate then [.onAuthValidate (bearerToken f.authorization)] else []

theorem isInitAck_credentials : ∀ o ∈ credentials setup f, o.isInitAck = false := by
  rw [credentials]
  split
  · intro o ho
    rw [List.mem_singleton.mp ho]
    rfl
  · nofun

/-- The session that a handshake establishes. -/
def establish (e : Establishment) (s : Impl) : Impl :=
  { s with
      sessionIdStr := e.sessionId
      negotiatedVersion := e.version
      negotiatedBufferWindowMs := e.bufferWindowMs
      isResumedSession := e.resumption
      registry := e.registry
      state := .established }

/-- An init that is read goes to its decision. -/
theorem perform_init (hcall : inv.call = .processControlFrame f) (hinit : inv.call.DeliversInit)
    (hread : InitRead setup answers f s bodyJson version) :
    ∃ answers', perform setup inv answers s =
      ⟨((completeInit setup inv.ambient f bodyJson version { s with state := .initializing }).2.exec
          answers' (completeInit setup inv.ambient f bodyJson version
            { s with state := .initializing }).1).state,
        credentials setup f ++
          ((completeInit setup inv.ambient f bodyJson version
            { s with state := .initializing }).2.exec answers'
              (completeInit setup inv.ambient f bodyJson version
                { s with state := .initializing }).1).outputs,
        ((completeInit setup inv.ambient f bodyJson version
            { s with state := .initializing }).2.exec
          answers' (completeInit setup inv.ambient f bodyJson version
            { s with state := .initializing }).1).result⟩ := by
  obtain ⟨hstate, hverdict, hbody⟩ := hread
  rw [perform, enter_init hcall hinit, handleInit, if_neg (not_not.mpr hstate), hbody, credentials]
  dsimp only
  cases hauth : setup.callbacks.onAuthValidate with
  | false => exact ⟨answers, rfl⟩
  | true =>
      refine ⟨fun n => answers (n + 1), ?_⟩
      have hafter : ∀ s : Impl, s.state ≠ .closed →
          afterAuthValidate setup inv.ambient f bodyJson version (answers 0) s =
            completeInit setup inv.ambient f bodyJson version s := by
        intro s hs
        rw [afterAuthValidate, if_neg hs, hverdict hauth, if_neg (by decide)]
      have hopen : ({ s with state := .initializing } : Impl).state ≠ .closed := by
        exact fun h => by cases h
      rw [← hafter _ hopen]
      rfl

theorem perform_refused (hcall : inv.call = .processControlFrame f)
    (hinit : inv.call.DeliversInit) (hread : InitRead setup answers f s bodyJson version)
    {r : Rejection} {registry : StreamRegistry}
    (h : completeInit setup inv.ambient f bodyJson version { s with state := .initializing } =
      ({ s with state := .initializing, registry }, rejectInit r)) :
    perform setup inv answers s =
      ⟨transitionToClosed { s with state := .initializing, registry },
        credentials setup f ++
          (texts (endHeaders (ascii "culpeo.init-error") r.code r.reason) r.body ++
            [.closeTransport (toWsCloseCode r.code) r.reason]), .error r.error⟩ := by
  obtain ⟨answers', hperform⟩ := perform_init hcall hinit hread
  rw [hperform, h]
  dsimp only
  rw [exec_rejectInit]

theorem perform_established (hcall : inv.call = .processControlFrame f)
    (hinit : inv.call.DeliversInit) (hread : InitRead setup answers f s bodyJson version)
    {e : Establishment}
    (h : completeInit setup inv.ambient f bodyJson version { s with state := .initializing } =
      finalizeEstablished setup e { s with state := .initializing }) :
    perform setup inv answers s =
      ⟨establish e s, credentials setup f ++ texts (initAckHeaders e) (initAckBody setup.json e),
        .ok ()⟩ := by
  obtain ⟨answers', hperform⟩ := perform_init hcall hinit hread
  rw [hperform, h, finalizeEstablished]
  dsimp only
  rw [exec_reply]
  rfl

/-- A session is established by an init that is read. -/
theorem exists_read (hcall : inv.call = .processControlFrame f) (hinit : inv.call.DeliversInit)
    (hest : (perform setup inv answers s).state.state = .established) :
    ∃ bodyJson version e, InitRead setup answers f s bodyJson version ∧
      completeInit setup inv.ambient f bodyJson version { s with state := .initializing } =
        finalizeEstablished setup e { s with state := .initializing } ∧
      Earned setup inv.ambient f s.registry e := by
  rcases @act_init setup f ⟨inv, answers⟩ hcall hinit s with
    ⟨bodyJson, version, hread, -⟩ | ⟨-, hnot⟩
  · rcases completeInit_cases setup inv.ambient f bodyJson version
      { s with state := .initializing } with ⟨r, registry, h, -⟩ | ⟨e, h, hearned⟩
    · rw [perform_refused hcall hinit hread h] at hest
      cases hest
    · exact ⟨bodyJson, version, e, hread, h, hearned⟩
  · exact absurd hest hnot

/-! ### The init-ack -/

/-- The outcome hands out one init-ack, which is this frame. -/
structure Acknowledges (outcome : Outcome Impl Output Result) (frame : WireFrame) : Prop where
  event : frame.header .event = some (ascii "culpeo.init-ack")
  sent : ∃ before, outcome.outputs = before ++ [.sendText frame] ∧ ∀ o ∈ before, o.isInitAck = false

theorem Acknowledges.unique {outcome : Outcome Impl Output Result} {frame frame' : WireFrame}
    (h : Acknowledges outcome frame) (hmem : .sendText frame' ∈ outcome.outputs)
    (hevent : frame'.header .event = some (ascii "culpeo.init-ack")) : frame' = frame := by
  obtain ⟨before, houtputs, hbefore⟩ := h.sent
  rw [houtputs, List.mem_append, List.mem_singleton] at hmem
  rcases hmem with hmem | hmem
  · have hack := hbefore _ hmem
    rw [Output.isInitAck, Output.event, hevent] at hack
    cases hack
  · exact Output.sendText.inj hmem

theorem validHeaders_initAck {e : Establishment} (hid : validHeaderValue e.sessionId = true) :
    ValidHeaders (initAckHeaders e) := by
  have hwindow := validHeaderValue_decimal e.bufferWindowMs.toNat
  simp only [ValidHeaders, initAckHeaders, List.forall_mem_cons, field]
  exact ⟨⟨by decide, by decide⟩, ⟨by decide, hid⟩, ⟨by decide, hwindow⟩, ⟨by decide, by decide⟩,
    by simp⟩

/-- **An established session has acknowledged its init.** -/
theorem exists_initAck {registry : StreamRegistry} {e : Establishment}
    (hearned : Earned setup inv.ambient f registry e) (hf : Parsed f) (body : Bytes) (s : Impl) :
    ∃ frame, Acknowledges
        ⟨establish e s, credentials setup f ++ texts (initAckHeaders e) body, .ok ()⟩ frame ∧
      frame.headers = initAckHeaders e ∧ frame.body = body := by
  obtain ⟨frame, hframe⟩ := Option.isSome_iff_exists.mp
    (makeFrame_isSome_iff.mpr (validHeaders_initAck (hearned.validHeaderValue hf)) :
      (makeFrame .control (initAckHeaders e) body).isSome = true)
  obtain ⟨hheaders, hbody⟩ := makeFrame_eq_some hframe
  refine ⟨frame, ⟨?_, credentials setup f, ?_, isInitAck_credentials⟩, hheaders, hbody⟩
  · rw [WireFrame.header, hheaders, initAckHeaders, fieldValue_field_self]
  · rw [texts, hframe]
    rfl

/-! ### Calls that do not return -/

/-- The value that `finalize_established_locked` dumps, from the fields that it has set. -/
def ackValue (s : Impl) : Json :=
  initAckValue s.negotiatedVersion s.registry.snapshot s.isResumedSession

/-- The process ends in the call.  The bodies of an init-ack and of an init-error with the
supported versions are dumped outside of every `try`, in functions that are `noexcept`.  The only
other value that is dumped is the nonce of an auth-refresh, in hexadecimal digits. -/
def Turn.Terminates (turn : Turn) (setup : Setup) (s : Impl) : Prop :=
  (s.state ≠ .established ∧ (turn.act setup s).state.state = .established ∧
    ¬ (ackValue (turn.act setup s).state).IsUtf8) ∨
  ((turn.act setup s).result = .error .versionUnsupported ∧
    ¬ (initErrorValue setup.config.supportedVersions).IsUtf8)

instance Turn.decidableTerminates (turn : Turn) (setup : Setup) (s : Impl) :
    Decidable (turn.Terminates setup s) :=
  inferInstanceAs (Decidable (_ ∨ _))

/-- What comes of a call; nothing where the process ends in it. -/
def Turn.outcome (turn : Turn) (setup : Setup) (s : Impl) :
    Option (Outcome Impl Output Result) :=
  if turn.Terminates setup s then none else some (turn.act setup s)

theorem outcome_of_not_terminates {turn : Turn} (h : ¬ turn.Terminates setup s) :
    turn.outcome setup s = some (turn.act setup s) :=
  if_neg h

theorem outcome_of_terminates {turn : Turn} (h : turn.Terminates setup s) :
    turn.outcome setup s = none :=
  if_pos h

/-- A call that establishes the session returns if the strings of the init-ack are UTF-8. -/
theorem terminates_establish_iff {turn : Turn} {e : Establishment} {outputs : List Output}
    (hstate : s.state = .uninitialized)
    (hact : turn.act setup s = ⟨establish e s, outputs, .ok ()⟩) :
    turn.Terminates setup s ↔
      ¬ (Utf8.IsValid e.version ∧ ∀ stream ∈ e.registry.streams, stream.IsUtf8) := by
  have hack : (ackValue (establish e s)).IsUtf8 ↔
      Utf8.IsValid e.version ∧ ∀ stream ∈ e.registry.streams, stream.IsUtf8 :=
    isUtf8_initAckValue
  unfold Turn.Terminates
  rw [hact, ← hack]
  constructor
  · rintro (⟨-, -, hnot⟩ | ⟨hresult, -⟩)
    · exact hnot
    · cases hresult
  · exact fun hnot => .inl ⟨by rw [hstate]; exact nofun, rfl, hnot⟩

/-- A call that ends in another refusal than that of the version returns. -/
theorem not_terminates_of_refused {turn : Turn} {state : Impl} {outputs : List Output} {e : Error}
    (hact : turn.act setup s = ⟨transitionToClosed state, outputs, .error e⟩)
    (he : e ≠ .versionUnsupported) : ¬ turn.Terminates setup s := by
  unfold Turn.Terminates
  rw [hact]
  rintro (⟨-, hestablished, -⟩ | ⟨hresult, -⟩)
  · cases hestablished
  · exact he (Except.error.inj hresult)

/-! ### Examples -/

/-- The entries of an audio stream from the client and of captions to it. -/
def audioEntry : Json := .object
  [(ascii "content_type", .string (ascii "audio/pcm;rate=16000;channels=1;bits=16")),
    (ascii "offset_type", .string (ascii "time")), (ascii "type", .string (ascii "input"))]

def captionsEntry : Json := .object
  [(ascii "content_type", .string (ascii "text/plain")),
    (ascii "offset_type", .string (ascii "message")),
    (ascii "purpose", .string (ascii "captions")), (ascii "type", .string (ascii "output"))]

/-- The body of an init. -/
def initValue (streams : List Json) : Json :=
  .object [(ascii "streams", .array streams), (ascii "version", .string (ascii "0.3"))]

/-- What `parse_headers` makes of an init with these headers besides its event. -/
def initFrame (headers : List HeaderField) (streams : List Json) : ParsedHeadersView :=
  writtenView .control (field .event (ascii "culpeo.init") :: headers) (initValue streams).write

theorem parsed_initFrame {headers : List HeaderField} {streams : List Json}
    (h : RoundTrips (field .event (ascii "culpeo.init") :: headers)) :
    Parsed (initFrame headers streams) :=
  ⟨.control, _, {}, parseHeaders_encode h⟩

/-- A session whose library reads an init with these streams. -/
def readingSetup (streams : List Json) (priorState : Option PersistedSessionState := none) :
    Setup where
  json := .reading [initValue streams]
  priorState := priorState

/-- The call that processes a control frame, with a different id in each draw. -/
def readingTurn (f : ParsedHeadersView) : Turn where
  invocation :=
    { call := .processControlFrame f, ambient := { draw := fun k => some fun _ => k.toUInt8 } }

section Reading

variable (headers : List HeaderField) (streams : List Json)
  (priorState : Option PersistedSessionState)

theorem deliversInit_initFrame :
    (readingTurn (initFrame headers streams)).invocation.call.DeliversInit :=
  congrArg some (fieldValue_field_self .event _ headers)

theorem initRead_initFrame :
    InitRead (readingSetup streams priorState) (fun _ => true) (initFrame headers streams)
      (.initial (readingSetup streams priorState)) (initValue streams) (ascii "0.3") := by
  have hbody : (initFrame headers streams).body = (initValue streams).write := rfl
  have hparse := parse_reading (initValue streams)
  refine ⟨rfl, nofun, ?_⟩
  rw [hbody]
  change (orThrow _ ((JsonLib.reading [initValue streams]).parse (initValue streams).write) >>= _)
    = _
  rw [hparse]
  rfl

end Reading

/-- Both streams. -/
def exampleEntries : List Json := [audioEntry, captionsEntry]

/-- What they are declared as. -/
def exampleDeclarations : List StreamDeclaration :=
  [{ contentType := ascii "audio/pcm;rate=16000;channels=1;bits=16", direction := .input
     offsetType := some .time },
    { contentType := ascii "text/plain", direction := .output, purpose := ascii "captions"
      offsetType := some .message }]

/-- Both streams are accepted, whatever else the headers ask for. -/
theorem initFrame_established {headers : List HeaderField}
    (hfresh : (initFrame headers exampleEntries).sessionId = none) :
    ((readingTurn (initFrame headers exampleEntries)).act (readingSetup exampleEntries)
      (.initial (readingSetup exampleEntries))).state.state = .established := by
  have hparse : parseDeclarations (initValue exampleEntries) = .ok exampleDeclarations := rfl
  obtain ⟨e, hhandle⟩ : ∃ e, handleFresh (readingSetup exampleEntries)
      (readingTurn (initFrame headers exampleEntries)).invocation.ambient
      (initFrame headers exampleEntries) exampleDeclarations (ascii "0.3")
      (Impl.initial (readingSetup exampleEntries)).registry = .ok e :=
    ⟨_, rfl⟩
  have hcomplete : ∀ s : Impl, s.registry = (Impl.initial (readingSetup exampleEntries)).registry →
      completeInit (readingSetup exampleEntries)
        (readingTurn (initFrame headers exampleEntries)).invocation.ambient
        (initFrame headers exampleEntries) (initValue exampleEntries) (ascii "0.3") s =
      finalizeEstablished (readingSetup exampleEntries) e s := by
    intro s hregistry
    unfold completeInit
    rw [hparse, hfresh]
    dsimp only
    rw [hregistry, hhandle]
  have hact : (readingTurn (initFrame headers exampleEntries)).act (readingSetup exampleEntries)
      (.initial (readingSetup exampleEntries)) = _ :=
    perform_established rfl (deliversInit_initFrame headers _) (initRead_initFrame headers _ none)
      (hcomplete _ rfl)
  rw [hact]
  rfl

end CulpeoStream.Session
