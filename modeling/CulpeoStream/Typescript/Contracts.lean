import CulpeoStream.Typescript.Concurrency

/-!
# Lenient contracts

Contracts that allow what most calls do: notify the application, send a close, and change
the session in anything but its auth challenge, without taking it back to its beginning.  The
methods that do no more than that meet all of them, and so do those that send a frame which
the contract allows.
-/

namespace CulpeoStream.Typescript

open Message Utf16
open Resumption (Prog Contract)

/-- A session that has begun does not go back. -/
def Begins (s t : Session) : Prop :=
  t.stateValue = .uninitialized → s.stateValue = .uninitialized

def Notification.isInitAck : Notification → Bool
  | .initAck _ _ => true
  | _ => false

/-- A contract that allows callbacks but for an init-ack, closes, and changes that leave the
challenge alone. -/
structure Lenient (K : Contract Session Output (Option Text)) : Prop where
  inv : ∀ s, K.inv s
  rel : ∀ s t : Session, t.pendingAuthNonce = s.pendingAuthNonce → Begins s t → K.rel s t
  close : ∀ code reason, K.out (.send (.close code reason))
  notify : ∀ notification, notification.isInitAck = false → K.out (.notify notification)
  onRtt : ∀ ts serverTs rttMicros, K.out (.onRtt ts serverTs rttMicros)

section Lenient

variable {K : Contract Session Output (Option Text)} (hK : Lenient K)

theorem meets_ret (result : Result) : Prog.Meets K (.ret result : Rest) := trivial

theorem meets_send {frame : CulpeoMessage} (hframe : K.out (.send frame)) {next : Rest}
    (h : next.Meets K) : (dispatch frame next).Meets K := by
  refine ⟨hframe, fun answer _ => ?_⟩
  cases answer with
  | none => exact meets_ret _
  | some _ => exact h

theorem meets_notification (callbacks : Callbacks) {notification : Notification}
    (hout : K.out (.notify notification)) {next : Rest} (h : next.Meets K) :
    (notify callbacks notification next).Meets K := by
  unfold notify
  split
  · exact ⟨hout, fun _ _ => h⟩
  · exact h

include hK

/-- A critical section that leaves the challenge and the state as they are. -/
theorem Lenient.holds {s t : Session} (hnonce : t.pendingAuthNonce = s.pendingAuthNonce)
    (hstate : t.stateValue = s.stateValue) {next : Rest} (h : next.Meets K) :
    K.Holds s (t, next) :=
  ⟨hK.inv t, hK.rel s t hnonce fun hfresh => hstate.symm.trans hfresh, h⟩

/-- A critical section that moves the session on. -/
theorem Lenient.holds_moved {s t : Session} (hnonce : t.pendingAuthNonce = s.pendingAuthNonce)
    (hstate : t.stateValue ≠ .uninitialized) {next : Rest} (h : next.Meets K) :
    K.Holds s (t, next) :=
  ⟨hK.inv t, hK.rel s t hnonce fun hfresh => absurd hfresh hstate, h⟩

theorem Lenient.holds_same {s : Session} {next : Rest} (h : next.Meets K) :
    K.Holds s (s, next) :=
  hK.holds (by rfl) (by rfl) h

theorem Lenient.holds_fail (s : Session) (e : CulpeoError) : K.Holds s (s, fail e) :=
  hK.holds_same (meets_ret _)

theorem Lenient.meets_notify (callbacks : Callbacks) {notification : Notification}
    (hack : notification.isInitAck = false) {next : Rest} (h : next.Meets K) :
    (Typescript.notify callbacks notification next).Meets K :=
  meets_notification callbacks (hK.notify notification hack) h

theorem Lenient.meets_close (code : Code) (reason : Text) {next : Rest} (h : next.Meets K) :
    (Typescript.close code reason next).Meets K := by
  refine Prog.meets_critical fun s _ => ?_
  split
  · exact hK.holds_same h
  · split
    · exact hK.holds_moved (by rfl) (by simp) h
    · exact hK.holds_moved (by rfl) (by simp) (meets_send (hK.close code reason) h)

theorem Lenient.meets_failWithClose (code : Code) (reason : Text) :
    (failWithClose code reason).Meets K :=
  hK.meets_close code reason (meets_ret _)

theorem Lenient.meets_handleClose (callbacks : Callbacks) (code : Code) (reason : Text) :
    (handleClose callbacks code reason).Meets K := by
  refine hK.meets_notify callbacks (by rfl) (Prog.meets_critical fun s _ => ?_)
  split
  · exact hK.holds_moved (by rfl) (by simp) (meets_ret _)
  · refine hK.holds (by rfl) (by rfl)
      (meets_send (hK.close code reason) (Prog.meets_critical fun t _ => ?_))
    exact hK.holds_moved (by rfl) (by simp) (meets_ret _)

theorem Lenient.holds_handleMedia (rt : Runtime) (callbacks : Callbacks) (headers : MediaHeaders)
    (body : Bytes) (s : Session) : K.Holds s (handleMedia rt callbacks headers body s) := by
  unfold handleMedia
  split
  · exact hK.holds_fail s _
  · exact hK.holds (by rfl) (by rfl) (hK.meets_notify callbacks (by rfl) (meets_ret _))

theorem Lenient.holds_handlePong (callbacks : Callbacks) (now ts serverTs : ℤ) (s : Session) :
    K.Holds s (handlePong callbacks now ts serverTs s) := by
  unfold handlePong
  split
  · exact hK.holds_same (meets_ret _)
  · refine hK.holds (by rfl) (by rfl) ?_
    split
    · exact ⟨hK.onRtt _ _ _, fun _ _ => meets_ret _⟩
    · exact meets_ret _

theorem Lenient.holds_handleApplication (callbacks : Callbacks) (event : ApplicationEvent)
    (s : Session) : K.Holds s (handleApplication callbacks event s) := by
  unfold handleApplication
  split
  · exact hK.holds_fail s _
  · split
    · exact hK.holds_same (meets_ret _)
    · exact hK.holds_same (hK.meets_notify callbacks (by rfl) (meets_ret _))

theorem Lenient.holds_handleInitAck (callbacks : Callbacks) {headers : InitAckHeaders}
    {body : InitAckBody} (hout : K.out (.notify (.initAck headers body))) (s : Session) :
    K.Holds s (handleInitAck callbacks headers body s) := by
  unfold handleInitAck
  split
  · exact hK.holds_fail s _
  · exact hK.holds_moved (by rfl) (by simp) (meets_notification callbacks hout (meets_ret _))

theorem Lenient.holds_handleInitError (callbacks : Callbacks) (frame : InitErrorFrame)
    (s : Session) : K.Holds s (handleInitError callbacks frame s) :=
  hK.holds_moved (by rfl) (by simp) (hK.meets_notify callbacks (by rfl) (meets_ret _))

theorem Lenient.meets_checkTimeouts (options : ServerSessionOptions) (now : ℤ) {next : Rest}
    (h : next.Meets K) : (checkTimeouts options now next).Meets K := by
  refine Prog.meets_critical fun s _ => ?_
  split
  · split
    · exact hK.holds_same (hK.meets_failWithClose _ _)
    · exact hK.holds_same h
  · exact hK.holds_same h

/-! ### Calls that send a frame -/

theorem Lenient.meets_sendMedia (rt : Runtime) (streamId : Text) (body : Bytes)
    (timestamp : Option ℤ) (hout : ∀ headers, K.out (.send (.media headers body))) :
    (sendMedia rt streamId body timestamp).Meets K := by
  refine Prog.meets_critical fun s _ => ?_
  split
  · exact hK.holds_fail s _
  · refine hK.holds (by rfl) (by rfl) ?_
    split
    · exact meets_ret _
    · exact meets_send (hout _) (meets_ret _)

theorem Lenient.meets_sendEvent (event body : Text) (streamId : Option Text)
    (hout : ∀ event, K.out (.send (.application event))) :
    (sendEvent event body streamId).Meets K := by
  refine Prog.meets_critical fun s _ => ?_
  split
  · exact hK.holds_fail s _
  · split
    · exact hK.holds_fail s _
    · exact hK.holds_same (meets_send (hout _) (meets_ret _))

theorem Lenient.meets_sendPing (now : ℤ) (hout : ∀ ts, K.out (.send (.ping ts))) :
    (sendPing now).Meets K := by
  refine Prog.meets_critical fun s _ => ?_
  split
  · exact hK.holds_fail s _
  · exact hK.holds (by rfl) (by rfl) (meets_send (hout _) (meets_ret _))

theorem Lenient.meets_sendInitErrorAndClose (callbacks : Callbacks) {frame : InitErrorFrame}
    (hout : K.out (.send (.initError frame))) :
    (sendInitErrorAndClose callbacks frame).Meets K := by
  refine hK.meets_notify callbacks (by rfl) (meets_send hout (Prog.meets_critical fun s _ => ?_))
  exact hK.holds_moved (by rfl) (by simp) (meets_ret _)

section Init

variable {options : ServerSessionOptions} {headers : InitHeaders}
  (hsend : ∀ sessionId body, K.out (.send (.initAck
    { sessionId, bufferWindow := some (grantBufferWindow options headers.bufferWindow) } body)))
  (hnotify : ∀ sessionId body, K.out (.notify (.initAck
    { sessionId, bufferWindow := some (grantBufferWindow options headers.bufferWindow) } body)))
  (herror : ∀ frame, K.out (.send (.initError frame)))
include hsend hnotify

theorem Lenient.holds_acceptInit (callbacks : Callbacks) (body : InitBody) (sessionId : Text)
    (streams : List ConfirmedStreamDeclaration) {s t : Session}
    (hnonce : t.pendingAuthNonce = s.pendingAuthNonce) (hstate : t.stateValue ≠ .uninitialized) :
    K.Holds s (acceptInit options callbacks headers body sessionId streams t) := by
  unfold acceptInit
  split
  · exact hK.holds_moved hnonce hstate (meets_ret _)
  · have hafter : ∀ u : Session, K.Holds u ({ u with stateValue := .established },
        Typescript.notify callbacks (.initAck
          { sessionId, bufferWindow := some (grantBufferWindow options headers.bufferWindow) }
          { version := body.version, streams }) done) :=
      fun u => hK.holds_moved (by rfl) (by simp)
        (meets_notification callbacks (hnotify _ _) (meets_ret _))
    have hrest := meets_send (hsend sessionId { version := body.version, streams })
      (Prog.meets_critical fun u _ => hafter u)
    exact ⟨hK.inv _, hK.rel _ _ hnonce fun hfresh => absurd hfresh hstate, hrest⟩

include herror

/-- An init is refused or acknowledged. -/
theorem Lenient.holds_handleInit (callbacks : Callbacks) (now : ℤ) (body : InitBody)
    (s : Session) : K.Holds s (handleInit options callbacks now headers body s) := by
  unfold handleInit
  split
  · exact hK.holds_moved (by rfl) (by simp) (hK.meets_sendInitErrorAndClose callbacks (herror _))
  · dsimp only
    split
    · exact hK.holds_moved (by rfl) (by simp)
        (hK.meets_sendInitErrorAndClose callbacks (herror _))
    · exact hK.holds_acceptInit hsend hnotify callbacks body _ _ (by rfl) (by simp)

end Init

theorem Lenient.holds_handleIncomingPing (now ts : ℤ) (s : Session)
    (hout : ∀ ts serverTs, K.out (.send (.pong ts serverTs))) :
    K.Holds s (handleIncomingPing now ts s) := by
  unfold handleIncomingPing
  dsimp only
  split
  · exact hK.holds (by rfl) (by rfl) (meets_ret _)
  · exact hK.holds (by rfl) (by rfl) (meets_send (hout _ _) (meets_ret _))

end Lenient

end CulpeoStream.Typescript
