import Mathlib.Data.List.Perm.Basic
import CulpeoStream.Typescript.Link

/-!
# The handshake

What the server confirms: the streams that were requested, in their order, under distinct
ids (`build_declarations`, `build_nodup`).  `Answers` lists what a server can do with an
init, and `handleInit_answers` says that the list is complete.  The client then confirms
the same streams (`alone_clientReceive_ack`) or closes (`alone_clientReceive_error`).
-/

namespace CulpeoStream.Typescript

open Message Utf16 Resumption

/-! ### The streams of an init-ack -/

theorem declarations_matchSnapshot :
    ∀ (streams : List ResumeStreamDeclaration) (available : List ConfirmedStreamDeclaration),
      (StreamRegistry.matchSnapshot available streams).map
          ResumeStreamDeclaration.toStreamDeclaration =
        streams.map ResumeStreamDeclaration.toStreamDeclaration := by
  intro streams
  induction streams with
  | nil =>
      intro available
      rfl
  | cons stream rest ih =>
      intro available
      rw [StreamRegistry.matchSnapshot]
      split
      · rw [List.map_cons, List.map_cons, ih]
      · split
        · rw [List.map_cons, List.map_cons, ih]
        · rw [List.map_cons, List.map_cons, ih]

/-- An init asks for the planned streams. -/
theorem declarations_buildInitStreams (registry : StreamRegistry)
    (snapshot : Option SessionSnapshot) :
    (registry.buildInitStreams snapshot).map ResumeStreamDeclaration.toStreamDeclaration =
      registry.plannedStreams.map ResumeStreamDeclaration.toStreamDeclaration := by
  cases snapshot with
  | none => rfl
  | some snapshot => exact declarations_matchSnapshot registry.plannedStreams snapshot.streams

theorem declarations_nameStreams (generateId : ℕ → Text) :
    ∀ (streams : List ResumeStreamDeclaration) (k : ℕ),
      (nameStreams generateId k streams).map ConfirmedStreamDeclaration.toStreamDeclaration =
        streams.map ResumeStreamDeclaration.toStreamDeclaration := by
  intro streams
  induction streams with
  | nil =>
      intro k
      rfl
  | cons stream rest ih =>
      intro k
      rw [nameStreams, List.map_cons, List.map_cons, ih]

theorem mem_id_nameStreams {generateId : ℕ → Text} {id : Text} :
    ∀ {streams : List ResumeStreamDeclaration} {k : ℕ},
      id ∈ (nameStreams generateId k streams).map ConfirmedStreamDeclaration.id →
      ∃ n, k ≤ n ∧ id = generateId n := by
  intro streams
  induction streams with
  | nil =>
      intro k h
      cases h
  | cons stream rest ih =>
      intro k h
      rw [nameStreams, List.map_cons] at h
      rcases List.mem_cons.mp h with rfl | h
      · exact ⟨k, Nat.le_refl k, rfl⟩
      · obtain ⟨n, hn, heq⟩ := ih h
        exact ⟨n, by omega, heq⟩

/-- Generated ids are distinct. -/
theorem nodup_nameStreams {generateId : ℕ → Text} (hids : Function.Injective generateId) :
    ∀ (streams : List ResumeStreamDeclaration) (k : ℕ),
      ((nameStreams generateId k streams).map ConfirmedStreamDeclaration.id).Nodup := by
  intro streams
  induction streams with
  | nil =>
      intro k
      exact List.nodup_nil
  | cons stream rest ih =>
      intro k
      rw [nameStreams, List.map_cons, List.nodup_cons]
      refine ⟨fun hmem => ?_, ih (k + 1)⟩
      obtain ⟨n, hn, heq⟩ := mem_id_nameStreams hmem
      have hsame : k = n := hids heq
      omega

/-- **The resumed streams** are declared as requested, and they and the remaining ones
have the ids of the session. -/
theorem resumeStreams_ok :
    ∀ {streams : List ResumeStreamDeclaration}
      {remaining confirmed left : List ConfirmedStreamDeclaration},
      resumeStreams remaining streams = .ok (confirmed, left) →
      confirmed.map ConfirmedStreamDeclaration.toStreamDeclaration =
          streams.map ResumeStreamDeclaration.toStreamDeclaration ∧
        ((confirmed ++ left).map ConfirmedStreamDeclaration.id).Perm
          (remaining.map ConfirmedStreamDeclaration.id) := by
  intro streams
  induction streams with
  | nil =>
      intro remaining confirmed left h
      cases h
      exact ⟨rfl, List.Perm.refl _⟩
  | cons stream rest ih =>
      intro remaining confirmed left h
      rw [resumeStreams] at h
      split at h
      · cases h
      · rename_i index hindex
        obtain ⟨hlt, hmatch, -⟩ := List.findIdx?_eq_some_iff_getElem.mp hindex
        rw [List.getElem?_eq_getElem hlt] at h
        dsimp only at h
        split at h
        · cases h
        · cases hrest : resumeStreams (remaining.eraseIdx index) rest with
          | error e =>
              rw [hrest] at h
              cases h
          | ok resumed =>
              obtain ⟨confirmed', left'⟩ := resumed
              rw [hrest] at h
              cases h
              obtain ⟨hdeclarations, hperm⟩ := ih hrest
              refine ⟨?_, ?_⟩
              · rw [List.map_cons, List.map_cons, hdeclarations]
                exact congrArg (· :: _) (of_decide_eq_true hmatch)
              · -- The stream that was taken and those that were left are those there were.
                have hhere := (List.getElem_cons_eraseIdx_perm hlt).map
                  ConfirmedStreamDeclaration.id
                rw [List.map_cons] at hhere
                exact (hperm.cons remaining[index].id).trans hhere

/-- **The server confirms what was requested.** -/
theorem build_declarations {requested : List ResumeStreamDeclaration} {generateId : ℕ → Text}
    {k : ℕ} {snapshot : Option SessionSnapshot} {streams : List ConfirmedStreamDeclaration}
    (h : buildServerConfirmedStreams requested generateId k snapshot = .ok streams) :
    streams.map ConfirmedStreamDeclaration.toStreamDeclaration =
      requested.map ResumeStreamDeclaration.toStreamDeclaration := by
  cases snapshot with
  | none =>
      cases h
      exact declarations_nameStreams generateId requested k
  | some snapshot =>
      simp only [buildServerConfirmedStreams] at h
      split at h
      · cases h
      · split at h
        · cases h
        · rename_i hresume
          split at h
          · cases h
            exact (resumeStreams_ok hresume).1
          · cases h

/-- **The server confirms streams under distinct ids.** -/
theorem build_nodup {requested : List ResumeStreamDeclaration} {generateId : ℕ → Text}
    {k : ℕ} {snapshot : Option SessionSnapshot} {streams : List ConfirmedStreamDeclaration}
    (hids : Function.Injective generateId)
    (hsnapshot : ∀ s, snapshot = some s → (s.streams.map ConfirmedStreamDeclaration.id).Nodup)
    (h : buildServerConfirmedStreams requested generateId k snapshot = .ok streams) :
    (streams.map ConfirmedStreamDeclaration.id).Nodup := by
  cases snapshot with
  | none =>
      cases h
      exact nodup_nameStreams hids requested k
  | some snapshot =>
      simp only [buildServerConfirmedStreams] at h
      split at h
      · cases h
      · split at h
        · cases h
        · rename_i confirmed left hresume
          split at h
          · cases h
            have hnodup := (resumeStreams_ok hresume).2.nodup_iff.mpr (hsnapshot snapshot rfl)
            rw [List.map_append] at hnodup
            exact (List.nodup_append.mp hnodup).1
          · cases h

/-! ### The answer of the server -/

theorem checkInit_ok {options : ServerSessionOptions} {now : ℤ} {headers : InitHeaders}
    {body : InitBody} (h : checkInit options now headers body = .ok ()) :
    validateStreamDeclarations (body.streams.map ResumeStreamDeclaration.toStreamDeclaration)
      maxStreamCount = .ok () := by
  unfold checkInit at h
  split at h
  · cases h
  · split at h
    · cases h
    · assumption

/-- What a server does with an init: it refuses it and closes, or it acknowledges
streams. -/
inductive Answers (body : InitBody) (s : Session) (p : Rest) (s' : Session) : Prop where
  | refuses {frame : InitErrorFrame} (hstate : (alone p s').state.stateValue = .closed)
      (hauth : (alone p s').state.pendingAuthNonce = s.pendingAuthNonce)
      (hsent : sentFrames (alone p s').outputs = [.initError frame])
  | acknowledges {headers : InitAckHeaders} {streams : List ConfirmedStreamDeclaration}
      {registry : StreamRegistry}
      (hvalid : validateStreamDeclarations
        (streams.map ConfirmedStreamDeclaration.toStreamDeclaration) maxStreamCount = .ok ())
      (hdeclarations : streams.map ConfirmedStreamDeclaration.toStreamDeclaration =
        body.streams.map ResumeStreamDeclaration.toStreamDeclaration)
      (hnodup : (streams.map ConfirmedStreamDeclaration.id).Nodup)
      (hconfirm : s.registry.confirm streams = .ok registry)
      (hstate : (alone p s').state.stateValue = .established)
      (hauth : (alone p s').state.pendingAuthNonce = s.pendingAuthNonce)
      (hregistry : (alone p s').state.registry = registry)
      (hsent : sentFrames (alone p s').outputs =
        [.initAck headers { version := body.version, streams }])

theorem answers_refusal {body : InitBody} {s s' : Session} (callbacks : Callbacks)
    (frame : InitErrorFrame) (hauth : s'.pendingAuthNonce = s.pendingAuthNonce) :
    Answers body s (sendInitErrorAndClose callbacks frame) s' := by
  obtain ⟨hstate, hsent, -⟩ := @alike_notify s' callbacks (.initError frame)
    (dispatch (.initError frame) (.critical fun s => ({ s with stateValue := .closed }, done)))
  refine @Answers.refuses body s _ s' frame ?_ ?_ ?_
  · rw [sendInitErrorAndClose, hstate]
    rfl
  · rw [sendInitErrorAndClose, hstate]
    exact hauth
  · rw [sendInitErrorAndClose, hsent]
    rfl

/-- An init whose streams are confirmed is acknowledged. -/
theorem acceptInit_alone (options : ServerSessionOptions) (callbacks : Callbacks)
    (headers : InitHeaders) (body : InitBody) (sessionId : Text)
    {streams : List ConfirmedStreamDeclaration} {s : Session} {registry : StreamRegistry}
    (h : s.registry.confirm streams = .ok registry) :
    ∃ ackHeaders,
      (alone (acceptInit options callbacks headers body sessionId streams s).2
        (acceptInit options callbacks headers body sessionId streams s).1).state.stateValue =
          .established ∧
      (alone (acceptInit options callbacks headers body sessionId streams s).2
        (acceptInit options callbacks headers body sessionId streams s).1).state.pendingAuthNonce =
          s.pendingAuthNonce ∧
      (alone (acceptInit options callbacks headers body sessionId streams s).2
        (acceptInit options callbacks headers body sessionId streams s).1).state.registry =
          registry ∧
      sentFrames (alone (acceptInit options callbacks headers body sessionId streams s).2
        (acceptInit options callbacks headers body sessionId streams s).1).outputs =
          [.initAck ackHeaders { version := body.version, streams }] := by
  unfold acceptInit StreamRegistry.confirmForServer
  rw [h]
  dsimp only
  rw [alone_dispatch, alone_critical]
  dsimp only
  unfold notify
  split
  · exact ⟨_, rfl, rfl, rfl, rfl⟩
  · exact ⟨_, rfl, rfl, rfl, rfl⟩

/-- **Every init is answered**, when the registry is fresh and ids are distinct. -/
theorem handleInit_answers {options : ServerSessionOptions} (callbacks : Callbacks) (now : ℤ)
    (headers : InitHeaders) (body : InitBody) {s : Session} (hfresh : s.registry.offsets = {})
    (hids : Function.Injective options.generateId)
    (hsnapshot : ∀ snapshot, options.resumeSnapshot = some snapshot →
      (snapshot.streams.map ConfirmedStreamDeclaration.id).Nodup) :
    Answers body s (handleInit options callbacks now headers body s).2
      (handleInit options callbacks now headers body s).1 := by
  unfold handleInit
  cases hcheck : checkInit options now headers body with
  | error frame => exact answers_refusal callbacks frame rfl
  | ok _ =>
      dsimp only
      cases hbuild : buildServerConfirmedStreams body.streams options.generateId
          (if headers.sessionId.isSome then s.generated else s.generated + 1)
          options.resumeSnapshot with
      | error e => exact answers_refusal callbacks _ rfl
      | ok streams =>
          have hdeclarations := build_declarations hbuild
          have hnodup := build_nodup hids hsnapshot hbuild
          have hvalid := checkInit_ok hcheck
          rw [← hdeclarations] at hvalid
          obtain ⟨tracker, -, hconfirm⟩ := confirm_fresh hvalid hnodup
          have hconfirmed := hconfirm s.registry hfresh
          obtain ⟨ackHeaders, hstate, hauth, hregistry, hsent⟩ := acceptInit_alone options callbacks
            headers body (headers.sessionId.getD (options.generateId s.generated))
            (s := { s with
              stateValue := .initializing
              generated := if options.resumeSnapshot.isSome then
                  if headers.sessionId.isSome then s.generated else s.generated + 1
                else (if headers.sessionId.isSome then s.generated else s.generated + 1) +
                  streams.length }) hconfirmed
          exact .acknowledges hvalid hdeclarations hnodup hconfirmed hstate hauth hregistry hsent

/-! ### The client again -/

/-- The client of an init sends it. -/
theorem alone_start {s : Session} (h : s.stateValue = .uninitialized) (options : StartOptions) :
    ∃ headers body, sentFrames (alone (start options) s).outputs = [.init headers body] ∧
      body.streams = s.registry.buildInitStreams options.resumeFrom ∧
      (alone (start options) s).state.stateValue = .initializing ∧
      (alone (start options) s).state.registry = s.registry := by
  unfold start
  rw [alone_critical, if_neg (by rw [h]; exact fun hne => hne rfl)]
  exact ⟨_, _, rfl, rfl, rfl, rfl⟩

/-- An init-ack whose streams the registry confirms establishes the session. -/
theorem alone_clientReceive_ack {rt : Runtime} {s : Session} (callbacks : Callbacks) (now : ℤ)
    {headers : InitAckHeaders} {body : InitAckBody} {registry : StreamRegistry}
    (hs : s.stateValue = .initializing)
    (h : s.registry.confirmFromAck body.streams = .ok registry) :
    (alone (clientReceive rt callbacks now (.initAck headers body)) s).state.stateValue =
        .established ∧
      (alone (clientReceive rt callbacks now (.initAck headers body)) s).state.registry = registry ∧
      sentFrames (alone (clientReceive rt callbacks now (.initAck headers body)) s).outputs =
        [] := by
  have hframe : clientFrame rt callbacks now (.initAck headers body) s =
      handleInitAck callbacks headers body s := by
    unfold clientFrame
    rw [hs]
  unfold clientReceive
  rw [alone_critical, hframe]
  unfold handleInitAck
  rw [h]
  obtain ⟨hstate, hsent, -⟩ := @alike_notify
    { s with
      registry
      sessionIdValue := some headers.sessionId
      bufferWindowValue := headers.bufferWindow.getD s.bufferWindowValue
      versionValue := body.version
      stateValue := .established } callbacks (.initAck headers body) done
  exact ⟨by rw [hstate]; rfl, by rw [hstate]; rfl, hsent⟩

/-- An init-error closes the session. -/
theorem alone_clientReceive_error {rt : Runtime} {s : Session} (callbacks : Callbacks) (now : ℤ)
    (frame : InitErrorFrame) (hs : s.stateValue = .initializing) :
    (alone (clientReceive rt callbacks now (.initError frame)) s).state.stateValue = .closed ∧
      sentFrames (alone (clientReceive rt callbacks now (.initError frame)) s).outputs = [] := by
  have hframe : clientFrame rt callbacks now (.initError frame) s =
      handleInitError callbacks frame s := by
    unfold clientFrame
    rw [hs]
  unfold clientReceive
  rw [alone_critical, hframe]
  unfold handleInitError
  obtain ⟨hstate, hsent, -⟩ := @alike_notify
    { s with
      lastInitError := some frame
      supportedVersionsFromError := frame.supportedVersions
      stateValue := .closed } callbacks (.initError frame) done
  exact ⟨by rw [hstate]; rfl, hsent⟩

end CulpeoStream.Typescript
