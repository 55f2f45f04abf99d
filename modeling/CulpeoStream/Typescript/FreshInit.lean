import CulpeoStream.Typescript.Resume

/-!
# A fresh init and the session that is stored

A server session may be constructed with a snapshot to resume from.  An init without a
`Session-Id` passes by the checks that belong to a resumption, but the streams are built from the
snapshot all the same.  So what a fresh init leads to depends on the snapshot whenever it comes
to that (`handleInit_ignoresSnapshot_iff`).
-/

namespace CulpeoStream.Typescript

open Message Utf16 Resumption

/-- What an init has led to: the state of the session, its confirmed streams and their
offsets. -/
structure InitOutcome where
  state : SessionState
  confirmed : List ConfirmedStreamDeclaration
  offsets : OffsetTracker

/-- What an init leads to, on a transport that takes every frame. -/
def initOutcome (options : ServerSessionOptions) (callbacks : Callbacks) (now : ℤ)
    (headers : InitHeaders) (body : InitBody) (s : Session) : InitOutcome :=
  let after := (alone (handleInit options callbacks now headers body s).2
    (handleInit options callbacks now headers body s).1).state
  ⟨after.stateValue, after.registry.confirmedOrder, after.registry.offsets⟩

/-- A session with the same options that has nothing to resume from. -/
def ServerSessionOptions.withoutSnapshot (options : ServerSessionOptions) :
    ServerSessionOptions :=
  { options with resumeSnapshot := none }

section FreshInit

variable {options : ServerSessionOptions} {now : ℤ} {headers : InitHeaders} {body : InitBody}
  {s : Session}

/-- The checks on a fresh init do not read the snapshot. -/
theorem checkInit_withoutSnapshot (hfresh : headers.sessionId = none) :
    checkInit options.withoutSnapshot now headers body = checkInit options now headers body := by
  unfold checkInit
  rw [hfresh]
  rfl

theorem confirm_order {registry registry' : StreamRegistry}
    {streams : List ConfirmedStreamDeclaration} (h : registry.confirm streams = .ok registry') :
    registry'.confirmedOrder = streams := by
  unfold StreamRegistry.confirm at h
  obtain ⟨-, -, h⟩ := Checks.exists_of_bind_ok h
  obtain ⟨offsets, -, h⟩ := Checks.exists_of_bind_ok h
  cases h
  rfl

/-- Streams that are built are confirmed. -/
theorem initOutcome_built (callbacks : Callbacks) (hfresh : headers.sessionId = none)
    (hcheck : checkInit options now headers body = .ok ())
    {streams : List ConfirmedStreamDeclaration}
    (hbuild : buildServerConfirmedStreams body.streams options.generateId (s.generated + 1)
      options.resumeSnapshot = .ok streams) :
    (initOutcome options callbacks now headers body s).state = .established ∧
      (initOutcome options callbacks now headers body s).confirmed = streams := by
  have hvalid := checkInit_ok hcheck
  rw [← build_declarations hbuild] at hvalid
  obtain ⟨registry, hconfirm⟩ := confirm_succeeds s.registry hvalid
  unfold initOutcome handleInit
  rw [hcheck, hfresh]
  dsimp only [Option.isSome_none, Option.getD_none]
  rw [if_neg Bool.false_ne_true, hbuild]
  dsimp only
  obtain ⟨-, hstate, -, hregistry, -⟩ := acceptInit_alone options callbacks headers body
    (options.generateId s.generated)
    (s := { s with
      stateValue := .initializing
      generated := if options.resumeSnapshot.isSome then s.generated + 1
        else s.generated + 1 + streams.length }) hconfirm
  exact ⟨hstate, by rw [hregistry, confirm_order hconfirm]⟩

/-- Declarations that do not match the snapshot are refused. -/
theorem initOutcome_refused (callbacks : Callbacks) (hfresh : headers.sessionId = none)
    (hcheck : checkInit options now headers body = .ok ()) {e : CulpeoError}
    (hbuild : buildServerConfirmedStreams body.streams options.generateId (s.generated + 1)
      options.resumeSnapshot = .error e) :
    (initOutcome options callbacks now headers body s).state = .closed := by
  unfold initOutcome handleInit
  rw [hcheck, hfresh]
  dsimp only [Option.isSome_none]
  rw [if_neg Bool.false_ne_true, hbuild]
  dsimp only
  rw [sendInitErrorAndClose, (@alike_notify _ callbacks _ _).1]
  rfl

/-- A stream that is built from a snapshot has an offset to resume from. -/
theorem resumeOffset_resumeStreams {streams : List ResumeStreamDeclaration}
    {remaining confirmed left : List ConfirmedStreamDeclaration}
    (h : resumeStreams remaining streams = .ok (confirmed, left)) :
    ∀ c ∈ confirmed, c.resumeOffset ≠ none := by
  induction streams generalizing remaining confirmed left with
  | nil =>
      cases h
      exact List.forall_mem_nil _
  | cons stream rest ih =>
      rw [resumeStreams] at h
      split at h
      · cases h
      split at h
      · cases h
      dsimp only at h
      split at h
      · cases h
      cases hrest : resumeStreams (remaining.eraseIdx _) rest with
      | error e =>
          rw [hrest] at h
          cases h
      | ok resumed =>
          obtain ⟨confirmed', left'⟩ := resumed
          rw [hrest] at h
          cases h
          exact List.forall_mem_cons.mpr ⟨Option.some_ne_none _, ih hrest⟩

/-- Streams are not built alike from a snapshot and from nothing. -/
theorem built_ne_nameStreams {snapshot : SessionSnapshot} {generateId : ℕ → Text} {k : ℕ}
    {requested : List ResumeStreamDeclaration} (hne : requested ≠ [])
    {streams : List ConfirmedStreamDeclaration}
    (hbuild : buildServerConfirmedStreams requested generateId k (some snapshot) = .ok streams) :
    streams ≠ nameStreams generateId k requested := by
  intro hsame
  unfold buildServerConfirmedStreams at hbuild
  dsimp only at hbuild
  split at hbuild
  · cases hbuild
  split at hbuild
  · cases hbuild
  rename_i confirmed left hresume
  split at hbuild
  · cases hbuild
    obtain ⟨stream, rest, rfl⟩ := List.exists_cons_of_ne_nil hne
    rw [nameStreams] at hsame
    refine resumeOffset_resumeStreams hresume _ (hsame ▸ List.mem_cons_self) rfl
  · cases hbuild

/-- **A fresh init leads to the same with and without the stored session** exactly if there is
none, or the init is refused before its streams are built. -/
theorem handleInit_ignoresSnapshot_iff (options : ServerSessionOptions) (callbacks : Callbacks)
    (now : ℤ) (headers : InitHeaders) (body : InitBody) (s : Session)
    (hfresh : headers.sessionId = none) :
    initOutcome options callbacks now headers body s =
        initOutcome options.withoutSnapshot callbacks now headers body s ↔
      options.resumeSnapshot = none ∨ checkInit options now headers body ≠ .ok () := by
  constructor
  · intro same
    by_contra hboth
    obtain ⟨hsome, hcheck⟩ := not_or.mp hboth
    rw [ne_eq, not_not] at hcheck
    obtain ⟨snapshot, hsnapshot⟩ := Option.ne_none_iff_exists'.mp hsome
    have hne : body.streams ≠ [] := by
      intro hnil
      have hvalid := checkInit_ok hcheck
      rw [hnil] at hvalid
      cases hvalid
    -- Without the snapshot the streams are named anew, with it they are not.
    have hnamed := initOutcome_built (s := s) callbacks hfresh
      ((checkInit_withoutSnapshot hfresh).trans hcheck) rfl
    rw [← same] at hnamed
    cases hbuild : buildServerConfirmedStreams body.streams options.generateId (s.generated + 1)
        options.resumeSnapshot with
    | error e =>
        have hclosed := initOutcome_refused callbacks hfresh hcheck hbuild
        rw [hnamed.1] at hclosed
        cases hclosed
    | ok streams =>
        have hbuilt := initOutcome_built callbacks hfresh hcheck hbuild
        rw [hsnapshot] at hbuild
        exact built_ne_nameStreams hne hbuild (hbuilt.2.symm.trans hnamed.2)
  · rintro (hnone | hrefused)
    · rw [show options.withoutSnapshot = options by
        rw [ServerSessionOptions.withoutSnapshot, ← hnone]]
    · cases hcheck : checkInit options now headers body with
      | ok _ => exact absurd hcheck hrefused
      | error frame =>
          have hcheck' := (checkInit_withoutSnapshot hfresh).trans hcheck
          unfold initOutcome handleInit
          rw [hcheck, hcheck']

end FreshInit

/-! ### An init that meets a stored session -/

/-- A microphone, as a stored session has it. -/
def microphone : ConfirmedStreamDeclaration where
  contentType := utf16 "text/plain"
  type := .input
  offsetType := .message
  id := utf16 "stored"
  resumeOffset := some 7

def storedOptions : ServerSessionOptions where
  generateId := fun k => utf16 "generated" ++ [k.toUInt16]
  resumeSnapshot := some
    { version := utf16 "0.3", sessionId := utf16 "old", bufferWindowMs := 0
      streams := [microphone] }

/-- An init for a microphone. -/
def microphoneHeaders : InitHeaders where
  authorization := utf16 "Bearer token"

def microphoneBody : InitBody where
  version := utf16 "0.3"
  streams := [{ microphone with id := none, resumeOffset := none }]

/-- The stored stream is handed to a new session. -/
theorem not_handleInit_ignoresSnapshot :
    ¬ ∀ (options : ServerSessionOptions) (callbacks : Callbacks) (now : ℤ)
      (headers : InitHeaders) (body : InitBody) (s : Session), headers.sessionId = none →
      initOutcome options callbacks now headers body s =
        initOutcome options.withoutSnapshot callbacks now headers body s := by
  intro hignores
  have same := hignores storedOptions {} 0 microphoneHeaders microphoneBody .createServer rfl
  exact absurd (congrArg InitOutcome.confirmed same) (by decide)

/-- The init is accepted by both servers, and only the one without a stored session ignores it. -/
theorem handleInit_ignoresSnapshot_accepted :
    ((initOutcome storedOptions.withoutSnapshot {} 0 microphoneHeaders microphoneBody
        .createServer).state = .established ∧
      initOutcome storedOptions.withoutSnapshot {} 0 microphoneHeaders microphoneBody
          .createServer =
        initOutcome storedOptions.withoutSnapshot.withoutSnapshot {} 0 microphoneHeaders
          microphoneBody .createServer) ∧
    (initOutcome storedOptions {} 0 microphoneHeaders microphoneBody .createServer).state =
        .established ∧
      initOutcome storedOptions {} 0 microphoneHeaders microphoneBody .createServer ≠
        initOutcome storedOptions.withoutSnapshot {} 0 microphoneHeaders microphoneBody
          .createServer := by
  have hiff := fun options =>
    handleInit_ignoresSnapshot_iff options {} 0 microphoneHeaders microphoneBody .createServer rfl
  refine ⟨⟨rfl, (hiff _).mpr (.inl rfl)⟩, rfl, fun same => ?_⟩
  obtain hnone | hrefused := (hiff storedOptions).mp same
  · cases hnone
  · exact hrefused rfl

end CulpeoStream.Typescript
