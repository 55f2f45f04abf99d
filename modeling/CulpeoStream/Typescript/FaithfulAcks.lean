import CulpeoStream.Typescript.FreshInit

/-!
# Which acknowledgements a client takes

`confirmFromAck` compares the number of acknowledged streams with that of the planned ones, and
checks the declarations as such.  It does not look for an id that occurs twice, nor for the
planned streams among those that it is told (`clientReceive_faithful_iff`).
-/

namespace CulpeoStream.Typescript

open Message Utf16 Resumption Checks

/-- The streams are those that were planned, in some order, under distinct ids. -/
def Faithful (planned : List ResumeStreamDeclaration)
    (confirmed : List ConfirmedStreamDeclaration) : Prop :=
  (confirmed.map ConfirmedStreamDeclaration.id).Nodup ∧
    (confirmed.map ConfirmedStreamDeclaration.toStreamDeclaration).Perm
      (planned.map ResumeStreamDeclaration.toStreamDeclaration)

/-- The client that has received an init-ack. -/
def afterAck (rt : Runtime) (callbacks : Callbacks) (now : ℤ) (headers : InitAckHeaders)
    (body : InitAckBody) (answers : ℕ → Option Text) (s : Session) : Session :=
  ((clientReceive rt callbacks now (.initAck headers body)).exec answers s).state

/-- An established client has confirmed the planned streams; any other has the streams that it
had. -/
def TakesFaithfully (s after : Session) : Prop :=
  (after.stateValue = .established →
      Faithful s.registry.plannedStreams after.registry.confirmedOrder) ∧
    (after.stateValue ≠ .established → after.registry = s.registry)

section Ack

variable {rt : Runtime} {callbacks : Callbacks} {now : ℤ} {headers : InitAckHeaders}
  {body : InitAckBody} {answers : ℕ → Option Text} {s : Session}

theorem confirmFromAck_ok_iff {registry : StreamRegistry}
    {streams : List ConfirmedStreamDeclaration} :
    (∃ registry', registry.confirmFromAck streams = .ok registry') ↔
      streams.length = registry.plannedStreams.length ∧
        validateStreamDeclarations
          (streams.map ConfirmedStreamDeclaration.toStreamDeclaration) maxStreamCount = .ok () := by
  unfold StreamRegistry.confirmFromAck
  split
  · rename_i hlength
    exact iff_of_false nofun fun h => hlength h.1
  · rename_i hlength
    rw [not_not] at hlength
    refine ⟨fun ⟨registry', hconfirm⟩ => ⟨hlength, ?_⟩, fun h => confirm_succeeds registry h.2⟩
    obtain ⟨_, hvalid, -⟩ := exists_of_bind_ok hconfirm
    exact hvalid

/-- **What an init-ack leads to.** -/
theorem afterAck_eq (hs : s.stateValue = .initializing) :
    afterAck rt callbacks now headers body answers s =
      match s.registry.confirmFromAck body.streams with
      | .error _ => s
      | .ok registry =>
          { s with
            registry
            sessionIdValue := some headers.sessionId
            bufferWindowValue := headers.bufferWindow.getD s.bufferWindowValue
            versionValue := body.version
            stateValue := .established } := by
  have hframe : clientFrame rt callbacks now (.initAck headers body) s =
      handleInitAck callbacks headers body s := by
    unfold clientFrame
    rw [hs]
  unfold afterAck clientReceive
  rw [Prog.exec_critical, hframe]
  unfold handleInitAck
  cases s.registry.confirmFromAck body.streams with
  | error e => rfl
  | ok registry => exact exec_notify_done callbacks _ answers _

/-- **An acknowledgement is taken faithfully** exactly if it is refused for its count or for its
declarations, or it lists the planned streams under distinct ids. -/
theorem clientReceive_faithful_iff (hs : s.stateValue = .initializing) :
    TakesFaithfully s (afterAck rt callbacks now headers body answers s) ↔
      (body.streams.length = s.registry.plannedStreams.length →
        validateStreamDeclarations
            (body.streams.map ConfirmedStreamDeclaration.toStreamDeclaration) maxStreamCount =
          .ok () →
        Faithful s.registry.plannedStreams body.streams) := by
  rw [afterAck_eq hs, TakesFaithfully]
  cases hconfirm : s.registry.confirmFromAck body.streams with
  | error e =>
      have hrefused : ¬ ∃ registry', s.registry.confirmFromAck body.streams = .ok registry' := by
        rintro ⟨registry', hok⟩
        rw [hconfirm] at hok
        cases hok
      rw [confirmFromAck_ok_iff] at hrefused
      refine iff_of_true ⟨fun h => ?_, fun _ => rfl⟩ fun hlength hvalid =>
        absurd ⟨hlength, hvalid⟩ hrefused
      rw [hs] at h
      cases h
  | ok registry =>
      obtain ⟨hlength, hvalid⟩ := confirmFromAck_ok_iff.mp ⟨registry, hconfirm⟩
      have horder : registry.confirmedOrder = body.streams := by
        rw [StreamRegistry.confirmFromAck, if_neg (not_not.mpr hlength)] at hconfirm
        exact confirm_order hconfirm
      dsimp only
      rw [horder]
      exact ⟨fun h _ _ => h.1 rfl, fun h => ⟨fun _ => h hlength hvalid, fun h => absurd rfl h⟩⟩

end Ack

/-! ### Another stream -/

/-- A client that has asked for a stream of text. -/
def textClient : Session where
  registry :=
    { localRole := .client
      plannedStreams :=
        [{ contentType := utf16 "text/plain", type := .input, offsetType := .message }] }
  stateValue := .initializing

/-- A stream of bytes that was not asked for. -/
def otherStream : ConfirmedStreamDeclaration where
  contentType := utf16 "text/html"
  type := .output
  offsetType := .byte
  id := utf16 "other"

/-- The session is established with a stream that was not planned. -/
theorem not_clientReceive_faithful :
    ¬ ∀ (rt : Runtime) (callbacks : Callbacks) (now : ℤ) (headers : InitAckHeaders)
      (body : InitAckBody) (answers : ℕ → Option Text) (s : Session),
      s.stateValue = .initializing →
      TakesFaithfully s (afterAck rt callbacks now headers body answers s) := by
  intro faithful
  have taken := faithful ⟨id⟩ {} 0 ⟨utf16 "session", none⟩ ⟨utf16 "0.3", [otherStream]⟩
    (fun _ => none) textClient rfl
  have established : (afterAck ⟨id⟩ {} 0 ⟨utf16 "session", none⟩ ⟨utf16 "0.3", [otherStream]⟩
      (fun _ => none) textClient).stateValue = .established := rfl
  have perm := (taken.1 established).2
  exact absurd perm (by decide)

/-- A client that has asked for a second stream. -/
def captionedClient : Session :=
  { textClient with
    registry :=
      { textClient.registry with
        plannedStreams := textClient.registry.plannedStreams ++
          [{ contentType := utf16 "text/html", type := .output, offsetType := .byte }] } }

/-- Both streams, in the other order. -/
def swappedStreams : List ConfirmedStreamDeclaration :=
  [otherStream, { contentType := utf16 "text/plain", type := .input, offsetType := .message
                  id := utf16 "text" }]

theorem clientReceive_faithful_swapped :
    (afterAck ⟨id⟩ {} 0 ⟨utf16 "session", none⟩ ⟨utf16 "0.3", swappedStreams⟩ (fun _ => none)
      captionedClient).stateValue = .established ∧
    TakesFaithfully captionedClient (afterAck ⟨id⟩ {} 0 ⟨utf16 "session", none⟩
      ⟨utf16 "0.3", swappedStreams⟩ (fun _ => none) captionedClient) :=
  ⟨rfl, (clientReceive_faithful_iff rfl).mpr fun _ _ => ⟨by decide, List.Perm.swap _ _ []⟩⟩

end CulpeoStream.Typescript
