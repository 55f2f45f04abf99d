import CulpeoStream.Session.Admission

/-!
# Expiry of a session that is resumed

A `culpeo.init` with the id of the persisted session goes through the checks on its body,
the verdict of the authentication callback, the age of the session and the match of its
streams.  `Resumes` collects all of them but the age, and `resumption_established_iff`
says when the handshake ends in an established session.

The age is only looked at when the stored `Buffer-Window` is not zero.
`resumption_expiry_iff` says what that leaves: a resumption within the window is all that
is accepted, unless the stored window is zero and some time has passed.
-/

namespace CulpeoStream.Session

open Message Resumption

/-! ### The init of a resumption -/

/-- The declared streams are those of the persisted session, at offsets it has reached. -/
def StreamsMatch (ps : PersistedSessionState) (decls : List StreamDeclaration) : Prop :=
  decls.length = ps.streams.length ∧
    ∃ restored, ps.streams.mapM (restoreStream decls) = .ok restored

/-- **Every check of a resumption but the one on its age** is passed: the session is new, the
body and the version are accepted, so are the credentials, and the streams match. -/
def Resumes (setup : Setup) (answers : ℕ → Bool) (ps : PersistedSessionState)
    (f : ParsedHeadersView) (s : Impl) : Prop :=
  ∃ bodyJson version decls, InitRead setup answers f s bodyJson version ∧
    parseDeclarations bodyJson = .ok decls ∧ StreamsMatch ps decls

/-- The age check of the source. -/
def Expired (ps : PersistedSessionState) (now : ℤ) : Prop :=
  0 < ps.bufferWindowMs ∧ (ps.bufferWindowMs.toNat : ℤ) < elapsedMs now ps.disconnectedAt

section Resumption

variable {setup : Setup} {ps : PersistedSessionState} {f : ParsedHeadersView}

theorem handleResumption_isOk_iff (hprior : setup.priorState = some ps) (amb : Ambient)
    (decls : List StreamDeclaration) (version : Bytes) (registry : StreamRegistry) :
    (∃ e, handleResumption setup amb f ps.sessionId decls version registry = .ok e) ↔
      ¬ Expired ps amb.steadyNow ∧ StreamsMatch ps decls := by
  unfold handleResumption Expired StreamsMatch
  rw [hprior]
  simp only [ne_eq, not_true_eq_false, if_false]
  split
  · simp [*]
  · split
    · simp [*]
    · cases hrestored : ps.streams.mapM (restoreStream decls) with
      | error r => simp [*]
      | ok restored => simp_all

/-- The decision on a resumption. -/
theorem decided_established_iff (hprior : setup.priorState = some ps)
    (hsid : f.sessionId = some ps.sessionId) (amb : Ambient) (bodyJson : Json) (version : Bytes)
    (s : Impl) :
    (decided setup amb f bodyJson version s).state = .established ↔
      ¬ Expired ps amb.steadyNow ∧
        ∃ decls, parseDeclarations bodyJson = .ok decls ∧ StreamsMatch ps decls := by
  unfold decided completeInit
  cases hdecls : parseDeclarations bodyJson with
  | error r => simp [exec_rejectInit]
  | ok decls =>
      have hok := handleResumption_isOk_iff (f := f) hprior amb decls version s.registry
      rw [hsid]
      simp only [Except.ok.injEq, exists_eq_left']
      rw [← hok]
      cases handleResumption setup amb f ps.sessionId decls version s.registry with
      | error r => simp [exec_rejectInit]
      | ok e => simp [finalizeEstablished, exec_reply]

/-- **When a resumption is accepted.** -/
theorem resumption_established_iff {turn : Turn} (hprior : setup.priorState = some ps)
    (hcall : turn.invocation.call = .processControlFrame f)
    (hinit : turn.invocation.call.DeliversInit) (hsid : f.sessionId = some ps.sessionId)
    (s : Impl) :
    (turn.act setup s).state.state = .established ↔
      Resumes setup turn.answers ps f s ∧ ¬ Expired ps turn.invocation.ambient.steadyNow := by
  rcases @act_init setup f turn hcall hinit s with ⟨bodyJson, version, hread, h⟩ | ⟨hunread, h⟩
  · rw [h, decided_established_iff hprior hsid]
    constructor
    · rintro ⟨hfresh, decls, hdecls, hmatch⟩
      exact ⟨⟨bodyJson, version, decls, hread, hdecls, hmatch⟩, hfresh⟩
    · rintro ⟨⟨bodyJson', version', decls, hread', hdecls, hmatch⟩, hfresh⟩
      obtain ⟨rfl, rfl⟩ := Prod.mk.inj (Except.ok.inj (hread.2.2.symm.trans hread'.2.2))
      exact ⟨hfresh, decls, hdecls, hmatch⟩
  · refine ⟨fun hest => absurd hest h, fun ⟨⟨bodyJson, version, _, hread, _⟩, _⟩ => ?_⟩
    exact absurd hread (hunread bodyJson version)

/-- **Expiry.**  That only sessions within their window are resumed holds of an init unless
everything else about it is in order, the stored window is zero and some time has passed. -/
theorem resumption_expiry_iff {turn : Turn} (hprior : setup.priorState = some ps)
    (hcall : turn.invocation.call = .processControlFrame f)
    (hinit : turn.invocation.call.DeliversInit) (hsid : f.sessionId = some ps.sessionId)
    (s : Impl) :
    ((turn.act setup s).state.state = .established →
        elapsedMs turn.invocation.ambient.steadyNow ps.disconnectedAt ≤ ps.bufferWindowMs.toNat) ↔
      (Resumes setup turn.answers ps f s → ps.bufferWindowMs = 0 →
        elapsedMs turn.invocation.ambient.steadyNow ps.disconnectedAt ≤ 0) := by
  rw [resumption_established_iff hprior hcall hinit hsid, Expired]
  have hzero : 0 < ps.bufferWindowMs ↔ ps.bufferWindowMs ≠ 0 := by
    rw [UInt32.lt_iff_toNat_lt, ne_eq, ← UInt32.toNat_inj, UInt32.toNat_zero]
    omega
  rw [hzero]
  constructor
  · intro h hresumes hwindow
    have hage := h ⟨hresumes, fun hexpired => hexpired.1 hwindow⟩
    rwa [hwindow] at hage
  · rintro h ⟨hresumes, hfresh⟩
    by_cases hwindow : ps.bufferWindowMs = 0
    · rw [hwindow]
      exact h hresumes hwindow
    · exact not_lt.mp fun hlate => hfresh ⟨hwindow, hlate⟩

end Resumption

/-! ### A session that declined resumption

The first connection asks for a `Buffer-Window`; its state is exported when it drops, and a
second connection names its id. -/

/-- The init of the example session with further headers. -/
def exampleHeadedInit (headers : List HeaderField) (now : ℤ) : Turn where
  invocation :=
    { call := .processControlFrame <|
        ((parseHeaders .control (encode (field .event (ascii "culpeo.init") :: headers)
          (exampleInitBody (ascii "input") (ascii "message"))) {}).toOption).getD
            (controlFrame (ascii "culpeo.init") [])
      ambient := { steadyNow := now, draw := fun _ => some fun _ => 0x2a } }

/-- What is left of the example session when its connection drops at time zero. -/
def exampleStored (window : UInt32) : PersistedSessionState where
  sessionId := bytesToHex (List.replicate 16 0x2a)
  streams := streams (exampleSession (ascii "input") (ascii "message"))
  bufferWindowMs := window
  disconnectedAt := 0

/-- The server that the client comes back to. -/
def exampleReturn (window : UInt32) : Setup :=
  { exampleSetup (ascii "input") (ascii "message") with priorState := some (exampleStored window) }

/-- The client comes back after an hour. -/
def exampleResume : Turn :=
  exampleHeadedInit [field .sessionId (exampleStored 0).sessionId] 3600000000000

/-- The init of the client that comes back, as the server parses it. -/
def exampleResumeView : ParsedHeadersView :=
  ((parseHeaders .control (encode [field .event (ascii "culpeo.init"),
    field .sessionId (exampleStored 0).sessionId]
      (exampleInitBody (ascii "input") (ascii "message"))) {}).toOption).getD
        (controlFrame (ascii "culpeo.init") [])

/-- With a window of five seconds the client comes back too late. -/
theorem resumption_expiry_iff_example :
    ((exampleResume.act (exampleReturn 5000) (Impl.initial (exampleReturn 5000))).state.state =
        .established → elapsedMs 3600000000000 0 ≤ (5000 : UInt32).toNat) ↔
      (Resumes (exampleReturn 5000) exampleResume.answers (exampleStored 5000) exampleResumeView
        (Impl.initial (exampleReturn 5000)) → (5000 : UInt32) = 0 →
          elapsedMs 3600000000000 0 ≤ 0) :=
  @resumption_expiry_iff (exampleReturn 5000) (exampleStored 5000) exampleResumeView exampleResume
    rfl rfl (by decide +kernel) (by decide +kernel) _

/-- A client that asked for no window comes back after an hour and is let in. -/
theorem resumption_of_declined_session :
    exportState ((exampleHeadedInit [field .bufferWindow (ascii "0")] 0).act
        (exampleSetup (ascii "input") (ascii "message"))
        (Impl.initial (exampleSetup (ascii "input") (ascii "message")))).state 0 =
      some (exampleStored 0) ∧
    exampleResumeView.sessionId = some (exampleStored 0).sessionId ∧
    exampleResume.invocation.call = .processControlFrame exampleResumeView ∧
    (exampleResume.act (exampleReturn 0) (Impl.initial (exampleReturn 0))).state.state =
      .established ∧
    ¬ elapsedMs exampleResume.invocation.ambient.steadyNow (exampleStored 0).disconnectedAt ≤
      (exampleStored 0).bufferWindowMs.toNat := by
  decide +kernel

end CulpeoStream.Session
