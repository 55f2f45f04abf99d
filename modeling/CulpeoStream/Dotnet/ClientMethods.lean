import CulpeoStream.Dotnet.StreamClientCalls

/-!
# Judgements on the methods of the client

What a method does to a judgement on rests of calls, for the methods that look at no stream.
All of them send, and reading and sending is what a judgement must allow.
-/

open Resumption

namespace CulpeoStream.Dotnet

open Message Utf16

namespace CulpeoStreamClient

/-- The action is part of a send. -/
def ClientAction.sends : ClientAction → Bool
  | .send _ _ _ | .socketState _ | .waitSendLock | .releaseSendLock => true
  | _ => false

/-- A judgement that allows to read the fields, and to send. -/
structure Sends (rel : CulpeoStreamClient → CulpeoStreamClient → Prop)
    (out : ClientAction → Prop) (Good : Rest → Prop) : Prop where
  closed : Async.Closed rel out Good
  refl : ∀ c, rel c c
  sends : ∀ action, action.sends = true → out action

namespace Sends

variable {rel : CulpeoStreamClient → CulpeoStreamClient → Prop} {out : ClientAction → Prop}
  {Good : Rest → Prop} (h : Sends rel out Good)
include h

theorem perform {action : ClientAction} (haction : out action) :
    Async.Keeps Good (perform action) :=
  h.closed.await haction _

theorem read {α : Type} (f : CulpeoStreamClient → α) : Async.Keeps Good (.read f : Method α) :=
  h.closed.read h.refl f

theorem sendIfOpen (messageType : WebSocketMessageType) (data : Bytes) :
    Async.Keeps Good (sendIfOpen messageType data) := by
  refine (h.read ws).bind fun ws => ?_
  cases ws with
  | none => exact Async.keeps_pure ()
  | some socket =>
      refine (h.closed.await (h.sends _ rfl) _).bind fun isOpen => ?_
      split
      · refine (h.read CulpeoStreamClient.ws).bind fun current => ?_
        cases current with
        | none => exact Async.keeps_throw _
        | some current => exact h.perform (h.sends _ rfl)
      · exact Async.keeps_pure ()

theorem sendFrameAsync (frame : CulpeoMessage) : Async.Keeps Good (sendFrameAsync frame) :=
  (h.perform (h.sends _ rfl)).bind fun _ =>
    (h.sendIfOpen _ _).ensuring (h.perform (h.sends _ rfl))

theorem trySendFrameAsync (frame : CulpeoMessage) : Async.Keeps Good (trySendFrameAsync frame) :=
  (h.sendFrameAsync frame).attempt.bind fun _ => Async.keeps_pure ()

theorem refuse (code reason : Text) : Async.Keeps Good (refuse code reason) :=
  (h.trySendFrameAsync _).bind fun _ => Async.keeps_pure true

theorem writeAsync {event : CulpeoClientEvent} (hwait : out (.waitToWrite event))
    (hwrite : ∀ c, rel c { c with written := c.written ++ [event] }) :
    Async.Keeps Good (writeAsync event) := by
  refine (h.perform hwait).bind fun _ => h.closed.step fun c => ?_
  split
  · exact h.refl c
  · exact hwrite c

omit h in
theorem returned {α : Type} (value : Except ClientExn α) : Async.Keeps Good (returned value) := by
  cases value with
  | ok a => exact Async.keeps_pure a
  | error e => exact Async.keeps_throw e

variable (env : Environment) (o : CulpeoStreamClientOptions)

theorem handleAuthRefreshAsync (htoken : out .getToken) (frame : CulpeoMessage) :
    Async.Keeps Good (handleAuthRefreshAsync env o frame) := by
  refine (returned _).bind fun nonce => ?_
  dsimp only
  split
  · exact h.refuse _ _
  · split
    · exact h.refuse _ _
    · refine (h.closed.await htoken _).attempt.bind fun token => ?_
      cases token with
      | error e => exact h.refuse _ _
      | ok newToken =>
          dsimp only
          split
          · exact h.refuse _ _
          · exact (h.sendFrameAsync _).bind fun _ => Async.keeps_pure _

theorem handlePingAsync (htime : out .utcNow) (frame : CulpeoMessage) :
    Async.Keeps Good (handlePingAsync env frame) :=
  (returned _).bind fun _ => (h.closed.await htime _).bind fun _ =>
    (h.trySendFrameAsync _).bind fun _ => Async.keeps_pure _

theorem handleApplicationEventAsync
    (hwait : ∀ name body, out (.waitToWrite (.applicationEventReceived name body)))
    (hwrite : ∀ c name body,
      rel c { c with written := c.written ++ [.applicationEventReceived name body] })
    (frame : CulpeoMessage) : Async.Keeps Good (handleApplicationEventAsync env frame) := by
  unfold CulpeoStreamClient.handleApplicationEventAsync
  dsimp only
  split
  · exact Async.keeps_pure _
  · exact (h.writeAsync (hwait _ _) fun c => hwrite c _ _).bind fun _ => Async.keeps_pure _

end Sends

/-! ### The calls that do not connect -/

/-- A stream, apart from how far the client has sent. -/
def receiveSide (stream : ConfirmedStream) : ConfirmedStream := { stream with sendOffset := 0 }

/-- What the calls do to the fields that do not connect. -/
structure StandsBy (c c' : CulpeoStreamClient) : Prop where
  connectState : c'.connectState = c.connectState
  closeProcessed : c'.closeProcessed = c.closeProcessed
  written : c'.written = c.written
  state : c.state = .disconnected → c'.state = .disconnected
  streamStates : c'.streamStates = c.streamStates
  streamObjects : c'.streamObjects.map receiveSide = c.streamObjects.map receiveSide

theorem StandsBy.refl (c : CulpeoStreamClient) : StandsBy c c := ⟨rfl, rfl, rfl, id, rfl, rfl⟩

theorem map_modify_of_same {α β : Type} {f : α → α} {g : α → β} (hf : ∀ a, g (f a) = g a)
    (l : List α) (i : ℕ) : (l.modify i f).map g = l.map g := by
  apply List.ext_getElem?
  intro j
  rw [List.getElem?_map, List.getElem?_map, List.getElem?_modify]
  cases l[j]? with
  | none => rfl
  | some a =>
      simp only [Option.map_eq_map, Option.map_some, Option.some.injEq]
      split
      · exact hf a
      · rfl

theorem standsBy_modifyStream (c : CulpeoStreamClient) (ref : ℕ)
    {f : ConfirmedStream → ConfirmedStream} (hf : ∀ s, receiveSide (f s) = receiveSide s) :
    StandsBy c (c.modifyStream ref f) :=
  ⟨rfl, rfl, rfl, id, rfl, map_modify_of_same hf _ _⟩

/-- The action is one of a call that does not connect. -/
def ClientAction.standsBy : ClientAction → Bool
  | .disposeSocket _ | .awaitLoop => true
  | action => action.sends

section StandsBy

variable {out : ClientAction → Prop} {Good : Rest → Prop}
  (h : Async.Closed StandsBy out Good) (hout : ∀ action, action.standsBy = true → out action)
include h hout

theorem sends_of_standsBy : Sends StandsBy out Good where
  closed := h
  refl := .refl
  sends action haction := hout action <| by
    cases action with
    | send _ _ _ | socketState _ | waitSendLock | releaseSendLock => rfl
    | _ => cases haction

omit hout in
theorem keeps_cancel : Async.Keeps Good cancel := by
  refine h.step fun c => ?_
  split
  · exact .refl c
  · exact ⟨rfl, rfl, rfl, id, rfl, rfl⟩

theorem keeps_awaitLoop : Async.Keeps Good awaitLoop := by
  refine ((sends_of_standsBy h hout).read loopStarted).bind fun started => ?_
  split
  · exact (h.await (hout _ rfl) _).attempt.bind fun _ => Async.keeps_pure ()
  · exact Async.keeps_pure ()

variable (hret : ∀ result, Good (.ret result))
include hret

theorem disconnectAsync_good (c : CulpeoStreamClient) : Good (disconnectAsync c).2 := by
  have hsends := sends_of_standsBy h hout
  unfold disconnectAsync
  dsimp only
  split
  · exact hret _
  · refine (hsends.read ws).bind (fun ws => ?_) _ hret
    have hrest : Async.Keeps Good (do
        cancel
        setState .disconnected
        awaitLoop) := by
      refine (keeps_cancel h).bind fun _ => Async.Keeps.bind ?_ fun _ => keeps_awaitLoop h hout
      exact h.update fun _ => ⟨rfl, rfl, rfl, fun _ => rfl, rfl, rfl⟩
    cases ws with
    | none => exact (Async.keeps_pure ()).bind fun _ => hrest
    | some socket =>
        refine (h.await (hout _ rfl) _).bind fun isOpen => ?_
        split
        · exact (hsends.trySendFrameAsync _).bind fun _ => hrest
        · exact (Async.keeps_pure ()).bind fun _ => hrest

theorem disposeAsync_good (c : CulpeoStreamClient) : Good (disposeAsync c).2 := by
  refine ((keeps_cancel h).bind fun _ => (keeps_awaitLoop h hout).bind fun _ =>
    ((sends_of_standsBy h hout).read ws).bind fun ws => ?_) _ hret
  have hrest : Async.Keeps Good (do
      .update ({ · with disposed := true })
      tryComplete) := by
    refine Async.Keeps.bind (h.update fun _ => ⟨rfl, rfl, rfl, id, rfl, rfl⟩) fun _ => ?_
    exact h.update fun _ => ⟨rfl, rfl, rfl, id, rfl, rfl⟩
  cases ws with
  | none => exact (Async.keeps_pure ()).bind fun _ => hrest
  | some socket => exact (h.await (hout _ rfl) _).bind fun _ => hrest

theorem sendMediaAsync_good (streamId : Text) (data : Bytes) (c : CulpeoStreamClient) :
    Good (sendMediaAsync streamId data c).2 := by
  have hsends := sends_of_standsBy h hout
  unfold sendMediaAsync
  dsimp only
  split
  · exact hret _
  · refine (hsends.read _).bind (fun found => ?_) _ hret
    cases found with
    | none => exact Async.keeps_throw _
    | some found =>
        dsimp only
        split
        · exact Async.keeps_throw _
        · refine (h.await (hout _ rfl) _).bind fun _ => ?_
          refine Async.Keeps.ensuring ?_ (h.await (hout _ rfl) _)
          refine (hsends.read _).bind fun stream => (hsends.sendIfOpen _ _).bind fun _ => ?_
          exact h.update fun c => standsBy_modifyStream c _ fun _ => rfl

theorem sendEventAsync_good (eventName jsonBody : Text) (c : CulpeoStreamClient) :
    Good (sendEventAsync eventName jsonBody c).2 := by
  unfold sendEventAsync
  dsimp only
  split
  · exact hret _
  · split
    · exact hret _
    · split
      · exact hret _
      · exact (sends_of_standsBy h hout).sendFrameAsync _ _ hret

variable (env : Environment) (o : CulpeoStreamClientOptions) (rounds : ℕ)

/-- **The calls that do not connect**, and a call of `ConnectAsync` that is refused. -/
theorem enter_good (call : ClientCall) {c : CulpeoStreamClient}
    (hcall : c.connectState = true ∨ ∀ scheme, call ≠ .connect scheme) :
    (enter env o rounds call c).1 = c ∧ Good (enter env o rounds call c).2 := by
  cases call with
  | connect scheme =>
      have hconnect : c.connectState = true :=
        hcall.resolve_right fun hother => hother scheme rfl
      rw [enter, connectAsync, if_pos hconnect]
      exact ⟨rfl, hret _⟩
  | disconnect => exact ⟨rfl, disconnectAsync_good h hout hret c⟩
  | dispose => exact ⟨rfl, disposeAsync_good h hout hret c⟩
  | sendMedia streamId data => exact ⟨rfl, sendMediaAsync_good h hout hret streamId data c⟩
  | sendEvent eventName jsonBody =>
      exact ⟨rfl, sendEventAsync_good h hout hret eventName jsonBody c⟩

end StandsBy

end CulpeoStreamClient

end CulpeoStream.Dotnet
