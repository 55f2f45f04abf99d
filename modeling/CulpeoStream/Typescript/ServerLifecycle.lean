import CulpeoStream.Typescript.Contracts
import CulpeoStream.Typescript.Resume
import CulpeoStream.Typescript.ServerConnection

/-!
# The life of a server connection

The handler of an init-ack runs beside the message loop.  It stores the session, and only then
starts the timers and greets the application.  `handleWsClose` neither waits for it nor takes
notice of it: a connection that is closed meanwhile is said to be disconnected before it is
said to be connected, and its timers are started after they have been stopped.

`Happens` says what a move does to the life of a connection, and `Timely` is the condition on
moves under which the order is kept (`lifecycle_of_timely`).
-/

namespace CulpeoStream.Typescript

open Message Utf16 EventLoop Reactions
open Resumption (Prog Contract)

/-! ### The session -/

/-- The contract of a call that does not acknowledge an init. -/
def mute : Contract Session Output (Option Text) where
  inv _ := True
  rel := Begins
  out o := ∀ headers body, o ≠ .notify (.initAck headers body)
  ans _ _ := True

theorem lenient_mute : Lenient mute where
  inv _ := trivial
  rel _ _ _ hbegins := hbegins
  close _ _ := fun _ _ h => by cases h
  notify notification hack := fun headers body h => by cases h; cases hack
  onRtt _ _ _ := fun _ _ h => by cases h

theorem mute_send (frame : CulpeoMessage) : mute.out (.send frame) :=
  fun _ _ h => by cases h

theorem mute_requestAuthRefresh (options : ServerSessionOptions) (now : ℤ) :
    (requestAuthRefresh options now).Meets mute := by
  refine Prog.meets_critical fun s _ => ?_
  split
  · exact lenient_mute.holds_fail s _
  · exact ⟨trivial, id, meets_send (mute_send _) (meets_ret _)⟩

/-- A frame at a server, unless it is an init that is taken up. -/
theorem mute_serverFrame (rt : Runtime) (options : ServerSessionOptions) (callbacks : Callbacks)
    (now : ℤ) {frame : CulpeoMessage} {s : Session}
    (hframe : s.stateValue = .uninitialized → ∀ headers body, frame ≠ .init headers body) :
    mute.Holds s (serverFrame rt options callbacks now frame s) := by
  unfold serverFrame
  split
  · exact lenient_mute.holds_fail s _
  · rename_i hstate
    exact absurd rfl (hframe hstate _ _)
  · exact lenient_mute.holds_same (lenient_mute.meets_failWithClose _ _)
  · exact lenient_mute.holds_same (lenient_mute.meets_failWithClose _ _)
  · unfold serverEstablished
    split
    · exact lenient_mute.holds_handleMedia rt callbacks _ _ s
    · exact lenient_mute.holds_handleIncomingPing now _ s fun _ _ => mute_send _
    · exact lenient_mute.holds_handlePong callbacks now _ _ s
    · unfold handleAuthResponse
      split
      · exact ⟨trivial, id, meets_ret _⟩
      · exact lenient_mute.holds_same (lenient_mute.meets_failWithClose _ _)
    · exact lenient_mute.holds_same (lenient_mute.meets_handleClose callbacks _ _)
    · exact lenient_mute.holds_same (lenient_mute.meets_failWithClose _ _)
    · exact lenient_mute.holds_same (lenient_mute.meets_failWithClose _ _)
    · exact lenient_mute.holds_same (lenient_mute.meets_failWithClose _ _)
    · exact lenient_mute.holds_same (lenient_mute.meets_failWithClose _ _)
    · exact lenient_mute.holds_handleApplication callbacks _ s

/-- What follows an init-ack, once `sendFrame` has taken it. -/
def acknowledged (headers : InitAckHeaders) (body : InitAckBody) : Rest :=
  .critical fun s =>
    ({ s with stateValue := .established },
      notify ServerConnection.callbacks (.initAck headers body) done)

/-- **What a server does with an init**: it does not acknowledge it, or it sends an init-ack
and notifies the connection when that is done. -/
theorem handleInit_acknowledges (options : ServerSessionOptions) (now : ℤ)
    (headers : InitHeaders) (body : InitBody) (s : Session) :
    mute.Holds s (handleInit options ServerConnection.callbacks now headers body s) ∨
      ∃ s' ackHeaders ackBody, s'.stateValue = .initializing ∧
        handleInit options ServerConnection.callbacks now headers body s =
          (s', dispatch (.initAck ackHeaders ackBody) (acknowledged ackHeaders ackBody)) := by
  have hrefused : ∀ k frame, mute.Holds s
      ({ s with stateValue := .initializing, generated := k },
        sendInitErrorAndClose ServerConnection.callbacks frame) := fun k frame =>
    lenient_mute.holds_moved (by rfl) (by simp)
      (lenient_mute.meets_sendInitErrorAndClose _ (mute_send _))
  unfold handleInit
  split
  · exact .inl (hrefused s.generated _)
  · dsimp only
    split
    · exact .inl (hrefused _ _)
    · unfold acceptInit
      split
      · exact .inl (lenient_mute.holds_moved (by rfl) (by simp) (meets_ret _))
      · exact .inr ⟨_, _, _, rfl, rfl⟩

/-! ### The connection -/

/-- `handleWsClose` has begun. -/
def LoopStage.Ended : LoopStage → Prop
  | saving | parting | finished => True
  | _ => False

/-- The application has been told, or need not be. -/
def LoopStage.Parted : LoopStage → Prop
  | parting | finished => True
  | _ => False

/-- The session has not been made, and the init is known. -/
def LoopStage.Awaiting : LoopStage → Prop
  | authenticating _ _ | loading _ _ => True
  | _ => False

/-- An effect that is no call of `onConnected` or `onDisconnected`. -/
def ServerEffect.Plain (effect : ServerEffect) : Prop :=
  effect ≠ .onConnected ∧ effect ≠ .onDisconnected

def ServerConnectionOptions.SetsTimers (o : ServerConnectionOptions) : Prop :=
  0 < o.pingPeriodMs ∨ 0 < o.authRefreshPeriodMs

namespace ServerConnection

/-- What `coreSession.receive` awaits, and how it goes on. -/
inductive Expects (c : ServerConnection) (action : Output) (resume : Option Text → Rest) : Prop
  /-- No init-ack follows. -/
  | mute (hmute : ∀ a, (resume a).Meets mute)
  /-- The frame is taken up next. -/
  | frame (haction : action = .turn) (rt : Runtime) (options : ServerSessionOptions) (now : ℤ)
      (frame : CulpeoMessage)
      (hresume : ∀ a, resume a = .critical (serverFrame rt options callbacks now frame))
  /-- An init-ack is on its way, the first one of the connection. -/
  | initAck (headers : InitAckHeaders) (body : InitAckBody)
      (hresume : resume = onceSent (acknowledged headers body)) (hfirst : c.serverSession = none)

/-- What is kept of the session and of the calls on it. -/
structure Sound (c : ServerConnection) : Prop where
  closed : c.closed = true ↔ c.stage.Ended
  fresh : (∀ session, c.coreSession = some session → session.stateValue = .uninitialized) →
    c.serverSession = none
  before : c.initialized = false ∨ c.stage.Awaiting → c.coreSession = none
  asked : c.stage.Awaiting → c.initialized = true
  expects : ∀ greeting action resume, c.stage = .receiving greeting action resume →
    c.Expects action resume
  calls : ∀ w ∈ c.calls, ∀ a, (w.2 a).Meets mute

/-- The timers have been started, as far as they are set. -/
structure Started (o : ServerConnectionOptions) (c c' : ServerConnection) : Prop where
  known : c.intervals = [] → ∀ interval ∈ c'.intervals,
    c'.pingTimer = some interval ∨ c'.authRefreshTimer = some interval
  unset : ¬ o.SetsTimers → c'.intervals = c.intervals

/-- The fields that the life of a connection depends on stay as they are. -/
structure SameLife (c c' : ServerConnection) : Prop where
  serverSession : c'.serverSession = c.serverSession
  closed : c'.closed = c.closed
  greetings : c'.greetings = c.greetings
  pingTimer : c'.pingTimer = c.pingTimer
  authRefreshTimer : c'.authRefreshTimer = c.authRefreshTimer
  intervals : c'.intervals = c.intervals

/-- **What a move does** to the life of a connection. -/
inductive Happens (o : ServerConnectionOptions) (m : ServerConnectionMove)
    (c c' : ServerConnection) (effects : List ServerEffect) : Prop
  | nothing (hsame : SameLife c c') (hparted : c'.stage.Parted ↔ c.stage.Parted)
      (hplain : ∀ effect ∈ effects, effect.Plain)
  /-- The init is acknowledged, and the session is being stored. -/
  | stores (hfirst : c.serverSession = none) (hsome : c'.serverSession.isSome = true)
      (hclosed : c'.closed = c.closed) (hgreetings : c'.greetings = c.greetings + 1)
      (hping : c'.pingTimer = c.pingTimer) (hauth : c'.authRefreshTimer = c.authRefreshTimer)
      (hintervals : c'.intervals = c.intervals) (hparted : c'.stage.Parted ↔ c.stage.Parted)
      (hplain : ∀ effect ∈ effects, effect.Plain)
  /-- The init is acknowledged, and there is nothing to store. -/
  | greetsAtOnce (hfirst : c.serverSession = none) (hsome : c'.serverSession.isSome = true)
      (hopen : c.closed = false) (hclosed : c'.closed = c.closed)
      (hgreetings : c'.greetings = c.greetings) (hstarted : Started o c c')
      (hparted : c'.stage.Parted ↔ c.stage.Parted)
      (heffects : ∃ before after, effects = before ++ .onConnected :: after ∧
        (∀ effect ∈ before, effect.Plain) ∧ ∀ effect ∈ after, effect.Plain)
  /-- The session has been stored. -/
  | greets (hmove : m = .greetingSaved) (hserver : c'.serverSession = c.serverSession)
      (hclosed : c'.closed = c.closed) (hgreetings : c.greetings = c'.greetings + 1)
      (hstarted : Started o c c') (hparted : c'.stage.Parted ↔ c.stage.Parted)
      (heffects : ∃ before, effects = before ++ [.onConnected] ∧
        ∀ effect ∈ before, effect.Plain)
  /-- The connection is closed. -/
  | closes (hserver : c'.serverSession = c.serverSession) (hgreetings : c'.greetings = c.greetings)
      (hintervals : ∀ interval ∈ c'.intervals, interval ∈ c.intervals ∧
        c.pingTimer ≠ some interval ∧ c.authRefreshTimer ≠ some interval)
      (hparted : c.stage.Parted → c'.stage.Parted) (hplain : ∀ effect ∈ effects, effect.Plain)
  /-- The application is told. -/
  | parts (hmove : m = .snapshotSaved) (hsame : SameLife c c') (hstage : c.stage = .saving)
      (hserver : c.serverSession.isSome = true) (hparted : c'.stage.Parted)
      (heffects : effects = [.onDisconnected])
  /-- There is nothing to tell. -/
  | leaves (hsame : SameLife c c') (hparted : c'.stage.Parted)
      (hplain : ∀ effect ∈ effects, effect.Plain)

/-! ### From what happens to the life of a connection -/

/-- **The life of a connection.**  The application is told of the end after the beginning, and
of each once, and no interval runs on when the closure has completed and nothing is being
stored. -/
structure Lifecycle (c : ServerConnection) (effects : List ServerEffect) : Prop where
  connectedFirst : ∀ before after, effects = before ++ .onDisconnected :: after →
    .onConnected ∈ before
  connectedOnce : effects.count .onConnected ≤ 1
  disconnectedOnce : effects.count .onDisconnected ≤ 1
  timersStopped : c.stage = .finished → c.greetings = 0 → c.intervals = []

/-- The moves at which a pending store does not do any harm. -/
def Timely (o : ServerConnectionOptions) (c : ServerConnection) : ServerConnectionMove → Prop
  | .greetingSaved => c.greetings ≠ 0 → c.closed = true → ¬ o.SetsTimers
  | .snapshotSaved => c.stage = .saving → c.greetings = 0
  | _ => True

/-- What is kept of the beginning and of the timers. -/
structure Greeted (c : ServerConnection) (effects : List ServerEffect) : Prop where
  once : effects.count .onConnected + c.greetings = if c.serverSession.isSome then 1 else 0
  unset : effects.count .onConnected = 0 → c.intervals = []
  known : ∀ interval ∈ c.intervals,
    c.pingTimer = some interval ∨ c.authRefreshTimer = some interval
  stopped : c.closed = true → c.intervals = []

/-- What is kept of the end. -/
structure Told (c : ServerConnection) (effects : List ServerEffect) : Prop where
  untold : ¬ c.stage.Parted → effects.count .onDisconnected = 0
  once : effects.count .onDisconnected ≤ 1
  first : ∀ before after, effects = before ++ .onDisconnected :: after → .onConnected ∈ before

section Effects

variable {effects new : List ServerEffect}

theorem count_plain (h : ∀ effect ∈ new, effect.Plain) :
    new.count .onConnected = 0 ∧ new.count .onDisconnected = 0 :=
  ⟨List.count_eq_zero.mpr fun hmem => (h _ hmem).1 rfl,
    List.count_eq_zero.mpr fun hmem => (h _ hmem).2 rfl⟩

/-- Effects without `onDisconnected`. -/
theorem Told.append {c c' : ServerConnection} (h : Told c effects)
    (hparted : c.stage.Parted → c'.stage.Parted) (hnew : new.count .onDisconnected = 0) :
    Told c' (effects ++ new) where
  untold hstage := by
    rw [List.count_append, hnew]
    exact h.untold (mt hparted hstage)
  once := by
    rw [List.count_append, hnew]
    exact h.once
  first := by
    have hnot : ServerEffect.onDisconnected ∉ new := List.count_eq_zero.mp hnew
    intro before after hsplit
    rcases List.append_eq_append_iff.mp hsplit with ⟨mid, rfl, hmid⟩ | ⟨mid, hbefore, hmid⟩
    · refine absurd (?_ : ServerEffect.onDisconnected ∈ new) hnot
      rw [hmid]
      exact List.mem_append_right _ List.mem_cons_self
    · cases mid with
      | nil =>
          refine absurd (?_ : ServerEffect.onDisconnected ∈ new) hnot
          rw [List.nil_append] at hmid
          rw [← hmid]
          exact List.mem_cons_self
      | cons effect mid =>
          rw [List.cons_append, List.cons.injEq] at hmid
          obtain ⟨rfl, -⟩ := hmid
          exact h.first before mid hbefore

/-- The application is told, once it has been greeted. -/
theorem Told.tell {c c' : ServerConnection} (h : Told c effects) (huntold : ¬ c.stage.Parted)
    (hparted : c'.stage.Parted) (hgreeted : .onConnected ∈ effects) :
    Told c' (effects ++ [.onDisconnected]) where
  untold hstage := absurd hparted hstage
  once := by
    rw [List.count_append, h.untold huntold]
    simp
  first := by
    intro before after hsplit
    have hnone : ServerEffect.onDisconnected ∉ effects :=
      List.count_eq_zero.mp (h.untold huntold)
    rcases List.append_eq_append_iff.mp hsplit with ⟨mid, rfl, hmid⟩ | ⟨mid, hbefore, hmid⟩
    · exact List.mem_append_left _ hgreeted
    · cases mid with
      | nil =>
          rw [List.append_nil] at hbefore
          rw [← hbefore]
          exact hgreeted
      | cons effect mid =>
          rw [List.cons_append, List.cons.injEq] at hmid
          obtain ⟨rfl, -⟩ := hmid
          refine absurd ?_ hnone
          rw [hbefore]
          exact List.mem_append_right _ List.mem_cons_self

/-- Effects without `onConnected`. -/
theorem Greeted.same {c c' : ServerConnection} (h : Greeted c effects) (hsame : SameLife c c')
    (hnew : new.count .onConnected = 0) : Greeted c' (effects ++ new) where
  once := by
    rw [List.count_append, hnew, hsame.greetings, hsame.serverSession]
    exact h.once
  unset hcount := by
    rw [List.count_append, hnew] at hcount
    rw [hsame.intervals]
    exact h.unset hcount
  known := by
    rw [hsame.intervals, hsame.pingTimer, hsame.authRefreshTimer]
    exact h.known
  stopped hclosed := by
    rw [hsame.intervals]
    exact h.stopped (hsame.closed ▸ hclosed)

theorem Greeted.none {c : ServerConnection} (h : Greeted c effects)
    (hfirst : c.serverSession = none) : effects.count .onConnected = 0 ∧ c.greetings = 0 := by
  have honce := h.once
  rw [hfirst] at honce
  exact Nat.add_eq_zero_iff.mp honce

/-- The timers are started, and the application is greeted. -/
theorem Greeted.greet {o : ServerConnectionOptions} {c c' : ServerConnection}
    (hnone : effects.count .onConnected = 0) (hintervals : c.intervals = [])
    (hnew : new.count .onConnected = 1) (hgreetings : c'.greetings = 0)
    (hsome : c'.serverSession.isSome = true) (hstarted : Started o c c')
    (hunset : c'.closed = true → ¬ o.SetsTimers) : Greeted c' (effects ++ new) where
  once := by rw [List.count_append, hnone, hnew, hgreetings, hsome, if_pos rfl]
  unset hcount := by
    rw [List.count_append, hnew] at hcount
    omega
  known := hstarted.known hintervals
  stopped hclosed := (hstarted.unset (hunset hclosed)).trans hintervals

end Effects

/-- **One timely move** keeps the order. -/
theorem Happens.keeps {o : ServerConnectionOptions} {m : ServerConnectionMove}
    {c c' : ServerConnection} {effects new : List ServerEffect} (hnew : Happens o m c c' new)
    (hm : Timely o c m) (hgreeted : Greeted c effects) (htold : Told c effects) :
    Greeted c' (effects ++ new) ∧ Told c' (effects ++ new) := by
  cases hnew with
  | nothing hsame hparted hplain =>
      obtain ⟨hconnected, hdisconnected⟩ := count_plain hplain
      exact ⟨hgreeted.same hsame hconnected, htold.append hparted.mpr hdisconnected⟩
  | stores hfirst hsome hclosed hgreetings hping hauth hintervals hparted hplain =>
      obtain ⟨hconnected, hdisconnected⟩ := count_plain hplain
      obtain ⟨hnone, hzero⟩ := hgreeted.none hfirst
      refine ⟨⟨?_, fun _ => ?_, ?_, fun hc => ?_⟩, htold.append hparted.mpr hdisconnected⟩
      · rw [List.count_append, hconnected, hnone, hgreetings, hzero, hsome, if_pos rfl]
      · rw [hintervals]
        exact hgreeted.unset hnone
      · rw [hintervals, hping, hauth]
        exact hgreeted.known
      · rw [hintervals]
        exact hgreeted.stopped (hclosed ▸ hc)
  | greetsAtOnce hfirst hsome hopen hclosed hgreetings hstarted hparted heffects =>
      obtain ⟨before, after, rfl, hbefore, hafter⟩ := heffects
      obtain ⟨hnone, hzero⟩ := hgreeted.none hfirst
      obtain ⟨hconnected, hdisconnected⟩ := count_plain hbefore
      obtain ⟨hconnected', hdisconnected'⟩ := count_plain hafter
      refine ⟨.greet hnone (hgreeted.unset hnone) ?_ (hgreetings.trans hzero) hsome hstarted
        fun hc => ?_, htold.append hparted.mpr ?_⟩
      · rw [List.count_append, List.count_cons_self, hconnected, hconnected']
      · rw [hclosed, hopen] at hc
        cases hc
      · rw [List.count_append, List.count_cons_of_ne (by simp), hdisconnected, hdisconnected']
  | greets hmove hserver hclosed hgreetings hstarted hparted heffects =>
      obtain ⟨before, rfl, hbefore⟩ := heffects
      obtain ⟨hconnected, hdisconnected⟩ := count_plain hbefore
      have honce := hgreeted.once
      split at honce
      · rename_i hsome
        have hnone : effects.count .onConnected = 0 := by omega
        refine ⟨.greet hnone (hgreeted.unset hnone) ?_ (by omega) (hserver ▸ hsome) hstarted
          fun hc => ?_, htold.append hparted.mpr ?_⟩
        · rw [List.count_append, hconnected, List.count_singleton_self]
        · subst hmove
          exact hm (by omega) (hclosed ▸ hc)
        · rw [List.count_append, hdisconnected]
          rfl
      · omega
  | closes hserver hgreetings hintervals hparted hplain =>
      obtain ⟨hconnected, hdisconnected⟩ := count_plain hplain
      have hnone : c'.intervals = [] := by
        refine List.eq_nil_iff_forall_not_mem.mpr fun interval hmem => ?_
        obtain ⟨hrunning, hping, hauth⟩ := hintervals interval hmem
        exact (hgreeted.known interval hrunning).elim hping hauth
      refine ⟨⟨?_, fun _ => hnone, ?_, fun _ => hnone⟩, htold.append hparted hdisconnected⟩
      · rw [List.count_append, hconnected, hgreetings, hserver]
        exact hgreeted.once
      · rw [hnone]
        exact fun interval hmem => absurd hmem List.not_mem_nil
  | parts hmove hsame hstage hserver hparted heffects =>
      subst hmove heffects
      have honce := hgreeted.once
      rw [hm hstage, hserver, if_pos rfl] at honce
      have hmem : ServerEffect.onConnected ∈ effects := List.count_pos_iff.mp (by omega)
      refine ⟨hgreeted.same hsame rfl, htold.tell ?_ hparted hmem⟩
      rw [hstage]
      exact id
  | leaves hsame hparted hplain =>
      obtain ⟨hconnected, hdisconnected⟩ := count_plain hplain
      exact ⟨hgreeted.same hsame hconnected, htold.append (fun _ => hparted) hdisconnected⟩

/-! ### What a move does -/

section Steps

variable {o : ServerConnectionOptions} {m : ServerConnectionMove} {c : ServerConnection}

/-- A reaction of a sound connection. -/
def Goes (o : ServerConnectionOptions) (m : ServerConnectionMove) (c : ServerConnection)
    (r : ServerReaction) : Prop :=
  Sound r.1 ∧ Happens o m c r.1 r.2

theorem perform_mute {action : Output} (h : mute.out action) (now : ℤ) (c : ServerConnection) :
    ∃ effects, (∀ effect ∈ effects, effect.Plain) ∧ c.perform o now action = (c, effects) := by
  cases action with
  | send frame =>
      refine ⟨_, ?_, rfl⟩
      split <;> simp [ServerEffect.Plain]
  | notify notification =>
      cases notification with
      | initAck headers body => exact absurd rfl (h headers body)
      | initError frame => exact ⟨_, by simp, rfl⟩
      | media headers body =>
          refine ⟨_, ?_, rfl⟩
          split <;> simp [ServerEffect.Plain]
      | application event =>
          refine ⟨_, ?_, rfl⟩
          split <;> simp [ServerEffect.Plain]
      | close code reason => exact ⟨_, by simp [ServerEffect.Plain], rfl⟩
  | onRtt ts serverTs rttMicros => exact ⟨_, by simp, rfl⟩
  | refreshAuthToken => exact ⟨_, by simp, rfl⟩
  | turn => exact ⟨_, by simp, rfl⟩

theorem performAll_mute {actions : List Output} (h : ∀ action ∈ actions, mute.out action)
    (now : ℤ) (c : ServerConnection) :
    ∃ effects, (∀ effect ∈ effects, effect.Plain) ∧
      c.performAll o now actions = (c, effects) := by
  induction actions with
  | nil => exact ⟨[], by simp, rfl⟩
  | cons action actions ih =>
      obtain ⟨haction, hactions⟩ := List.forall_mem_cons.mp h
      obtain ⟨effects, hplain, hperform⟩ := perform_mute haction now c
      obtain ⟨effects', hplain', hperform'⟩ := ih hactions
      refine ⟨effects ++ effects', List.forall_mem_append.mpr ⟨hplain, hplain'⟩, ?_⟩
      rw [performAll, hperform, Reaction.also, hperform']

theorem call_mute {session : Session} {p : Rest}
    (h : ∀ action ∈ (stretch instant p session).actions, mute.out action) (now : ℤ)
    (c : ServerConnection) : ∃ effects, (∀ effect ∈ effects, effect.Plain) ∧
      c.call o now session p =
        ({ c with coreSession := some (stretch instant p session).state }, effects) :=
  performAll_mute h now _

theorem stretch_mute {p : Rest} (hp : p.Meets mute) (s : Session) :
    Begins s (stretch instant p s).state ∧
      (∀ action ∈ (stretch instant p s).actions, mute.out action) ∧
      ∀ action resume, (stretch instant p s).outlook = .awaits action resume →
        ∀ a, (resume a).Meets mute := by
  obtain ⟨-, hbegins, hactions, hawaits⟩ := stretch_meets instant (K := mute)
    (fun _ _ _ => trivial) (fun _ => id) (fun _ _ _ h h' hfresh => h (h' hfresh)) hp trivial
  exact ⟨hbegins, hactions, fun action resume houtlook a =>
    (hawaits action resume houtlook).2 a trivial⟩

/-- The loop goes on to the next message, to close the socket, or to wait. -/
theorem receives_cases (c : ServerConnection) (greeting : Bool)
    (outlook : Outlook Session Output (Option Text) Result) :
    ∃ stage effects, c.receives greeting outlook = ({ c with stage := stage }, effects) ∧
      ¬ stage.Ended ∧ ¬ stage.Awaiting ∧ (∀ effect ∈ effects, effect.Plain) ∧
      ∀ greeting' action resume, stage = .receiving greeting' action resume →
        outlook = .awaits action resume := by
  unfold receives
  split
  · split
    · exact ⟨_, _, rfl, id, id, by simp [ServerEffect.Plain], fun _ _ _ h => by cases h⟩
    · exact ⟨_, _, rfl, id, id, by simp, fun _ _ _ h => by cases h⟩
  · exact ⟨_, _, rfl, id, id, by simp [ServerEffect.Plain], fun _ _ _ h => by cases h⟩
  · refine ⟨_, _, rfl, id, id, by simp, fun _ _ _ h => ?_⟩
    cases h
    rfl

theorem LoopStage.not_parted {stage : LoopStage} (h : ¬ stage.Ended) : ¬ stage.Parted := by
  cases stage <;> first | exact id | exact absurd trivial h

theorem Expects.same {c' : ServerConnection} {action : Output} {resume : Option Text → Rest}
    (h : c.Expects action resume) (hserver : c'.serverSession = c.serverSession) :
    c'.Expects action resume := by
  cases h with
  | mute hmute => exact .mute hmute
  | frame haction rt options now frame hresume =>
      exact .frame haction rt options now frame hresume
  | initAck headers body hresume hfirst =>
      exact .initAck headers body hresume (hserver.trans hfirst)

/-- The loop stands elsewhere, and the session has moved on. -/
theorem goes_proceeds (h : Sound c) (hopen : ¬ c.stage.Ended) (hinitialized : c.initialized = true)
    {session : Session} (hfresh : session.stateValue = .uninitialized → c.serverSession = none)
    {resumeSnapshot : Option SessionSnapshot} {stage : LoopStage} (hended : ¬ stage.Ended)
    (hawaiting : ¬ stage.Awaiting)
    (hexpects : ∀ greeting action resume, stage = .receiving greeting action resume →
      c.Expects action resume)
    {effects : List ServerEffect} (hplain : ∀ effect ∈ effects, effect.Plain) :
    Goes o m c ({ c with coreSession := some session, resumeSnapshot, stage }, effects) := by
  refine ⟨⟨?_, fun hall => hfresh (hall session rfl), ?_, fun hstage => absurd hstage hawaiting,
    ?_, h.calls⟩, .nothing ⟨rfl, rfl, rfl, rfl, rfl, rfl⟩ ?_ hplain⟩
  · exact iff_of_false (mt h.closed.mp hopen) hended
  · rintro (hnot | hstage)
    · rw [hinitialized] at hnot
      cases hnot
    · exact absurd hstage hawaiting
  · exact fun greeting action resume hstage =>
      (hexpects greeting action resume hstage).same rfl
  · exact iff_of_false (LoopStage.not_parted hended) (LoopStage.not_parted hopen)

/-- A stretch of `coreSession.receive` that does not acknowledge an init. -/
theorem goes_silent (h : Sound c) (hopen : ¬ c.stage.Ended) (hinitialized : c.initialized = true)
    (resumeSnapshot : Option SessionSnapshot) {now : ℤ} {greeting : Bool} {session : Session}
    {p : Rest} (hactions : ∀ action ∈ (stretch instant p session).actions, mute.out action)
    (hfresh : (stretch instant p session).state.stateValue = .uninitialized →
      c.serverSession = none)
    (hexpects : ∀ action resume, (stretch instant p session).outlook = .awaits action resume →
      c.Expects action resume) :
    Goes o m c ({ c with resumeSnapshot := resumeSnapshot }.proceeds o now greeting session p) := by
  obtain ⟨effects, hplain, hcall⟩ :=
    @call_mute o _ _ hactions now { c with resumeSnapshot := resumeSnapshot }
  obtain ⟨stage, effects', hreceives, hended, hawaiting, hplain', hstage⟩ := receives_cases
    { c with
      resumeSnapshot := resumeSnapshot
      coreSession := some (stretch instant p session).state } greeting
    (stretch instant p session).outlook
  rw [proceeds, hcall, Reaction.also, hreceives]
  exact goes_proceeds h hopen hinitialized hfresh hended hawaiting
    (fun greeting' action resume hreceiving =>
      hexpects action resume (hstage greeting' action resume hreceiving))
    (List.forall_mem_append.mpr ⟨hplain, hplain'⟩)

theorem goes_mute (h : Sound c) (hopen : ¬ c.stage.Ended) (hinitialized : c.initialized = true)
    {now : ℤ} {greeting : Bool} {session : Session} (hsession : c.coreSession = some session)
    {p : Rest} (hp : p.Meets mute) : Goes o m c (c.proceeds o now greeting session p) := by
  obtain ⟨hbegins, hactions, hawaits⟩ := stretch_mute hp session
  refine goes_silent h hopen hinitialized c.resumeSnapshot hactions (fun hfresh => ?_)
    fun action resume houtlook => .mute (hawaits action resume houtlook)
  refine h.fresh fun session' hsession' => ?_
  rw [hsession, Option.some.injEq] at hsession'
  exact hsession' ▸ hbegins hfresh

/-- The frame is taken up. -/
theorem goes_frame (h : Sound c) (hopen : ¬ c.stage.Ended) (hinitialized : c.initialized = true)
    {now now' : ℤ} {greeting : Bool} {session : Session} (hsession : c.coreSession = some session)
    (rt : Runtime) (options : ServerSessionOptions) (frame : CulpeoMessage) :
    Goes o m c (c.proceeds o now greeting session
      (.critical (serverFrame rt options callbacks now' frame))) := by
  have hfirst : session.stateValue = .uninitialized → c.serverSession = none := by
    refine fun hfresh => h.fresh fun session' hsession' => ?_
    rw [hsession, Option.some.injEq] at hsession'
    exact hsession' ▸ hfresh
  by_cases hinit : session.stateValue = .uninitialized ∧
      ∃ headers body, frame = .init headers body
  · obtain ⟨hfresh, headers, body, rfl⟩ := hinit
    have hframe : serverFrame rt options callbacks now' (.init headers body) session =
        handleInit options callbacks now' headers body session := by
      unfold serverFrame
      rw [hfresh]
    rcases handleInit_acknowledges options now' headers body session with
      hmute | ⟨session', ackHeaders, ackBody, hstate, hack⟩
    · have hmeets : (handleInit options callbacks now' headers body session).2.Meets mute :=
        hmute.2.2
      obtain ⟨hbegins, hactions, hawaits⟩ := stretch_mute hmeets
        (handleInit options callbacks now' headers body session).1
      rw [← hframe, ← stretch_critical] at hbegins hactions hawaits
      exact goes_silent h hopen hinitialized c.resumeSnapshot hactions (fun _ => hfirst hfresh)
        fun action resume houtlook => .mute (hawaits action resume houtlook)
    · have hstretch : stretch instant
          (.critical (serverFrame rt options callbacks now' (.init headers body))) session =
            ⟨session', [.send (.initAck ackHeaders ackBody)],
              .awaits (.send (.initAck ackHeaders ackBody))
                (onceSent (acknowledged ackHeaders ackBody))⟩ := by
        rw [stretch_critical, hframe, hack]
        rfl
      refine goes_silent h hopen hinitialized c.resumeSnapshot ?_ ?_ ?_
      · rw [hstretch]
        exact List.forall_mem_singleton.mpr (mute_send _)
      · exact fun _ => hfirst hfresh
      · rw [hstretch]
        intro action resume houtlook
        cases houtlook
        exact .initAck ackHeaders ackBody rfl (hfirst hfresh)
  · have hmute : mute.Holds session (serverFrame rt options callbacks now' frame session) :=
      mute_serverFrame rt options callbacks now' fun hfresh headers body hframe =>
        hinit ⟨hfresh, headers, body, hframe⟩
    obtain ⟨-, hbegins, hmeets⟩ := hmute
    obtain ⟨hbegins', hactions, hawaits⟩ := stretch_mute hmeets
      (serverFrame rt options callbacks now' frame session).1
    rw [← stretch_critical] at hbegins' hactions hawaits
    exact goes_silent h hopen hinitialized c.resumeSnapshot hactions
      (fun hfresh => hfirst (hbegins (hbegins' hfresh)))
      fun action resume houtlook => .mute (hawaits action resume houtlook)

/-- A frame is received; it is taken up in the next turn. -/
theorem goes_receive (h : Sound c) (hopen : ¬ c.stage.Ended) (hinitialized : c.initialized = true)
    (resumeSnapshot : Option SessionSnapshot) {now now' : ℤ} {greeting : Bool} {session : Session}
    (hfirst : session.stateValue = .uninitialized → c.serverSession = none)
    (rt : Runtime) (options : ServerSessionOptions) (frame : CulpeoMessage) :
    Goes o m c ({ c with resumeSnapshot := resumeSnapshot }.proceeds o now greeting session
      (serverReceive rt options callbacks now' frame)) := by
  have hclosing := stretch_mute (lenient_mute.meets_failWithClose .authExpired
    (utf16 "Authentication challenge timed out.")) session
  have hturn : ∀ action resume,
      (stretch instant (.call .turn fun _ =>
          .critical (serverFrame rt options callbacks now' frame) : Rest) session).outlook =
        .awaits action resume → c.Expects action resume := by
    intro action resume houtlook
    cases houtlook
    exact .frame rfl rt options now' frame fun _ => rfl
  have hstretch : stretch instant (serverReceive rt options callbacks now' frame) session =
        stretch instant (failWithClose .authExpired
          (utf16 "Authentication challenge timed out.")) session ∨
      stretch instant (serverReceive rt options callbacks now' frame) session =
        stretch instant (.call .turn fun _ =>
          .critical (serverFrame rt options callbacks now' frame)) session := by
    unfold serverReceive checkTimeouts
    rw [stretch_critical]
    split
    · split
      · exact .inl rfl
      · exact .inr rfl
    · exact .inr rfl
  rcases hstretch with hstretch | hstretch
  · refine goes_silent h hopen hinitialized resumeSnapshot ?_ ?_ ?_ <;> rw [hstretch]
    · exact hclosing.2.1
    · exact fun hfresh => hfirst (hclosing.1 hfresh)
    · exact fun action resume houtlook => .mute (hclosing.2.2 action resume houtlook)
  · refine goes_silent h hopen hinitialized resumeSnapshot ?_ ?_ ?_ <;> rw [hstretch]
    · exact List.forall_mem_singleton.mpr fun _ _ hnotify => by cases hnotify
    · exact hfirst
    · exact hturn

/-- A call of the timers or of the application. -/
theorem goes_goesOn (h : Sound c) {now : ℤ} {session : Session}
    (hsession : c.coreSession = some session) {p : Rest} (hp : p.Meets mute)
    {calls : List (Output × (Option Text → Rest))}
    (hcalls : ∀ w ∈ calls, ∀ a, (w.2 a).Meets mute) :
    Goes o m c ({ c with calls := calls }.goesOn o now session p) := by
  obtain ⟨hbegins, hactions, hawaits⟩ := stretch_mute hp session
  obtain ⟨effects, hplain, hcall⟩ := @call_mute o _ _ hactions now { c with calls := calls }
  have hsound : ∀ later, (∀ w ∈ later, ∀ a, (w.2 a).Meets mute) →
      Sound { c with coreSession := some (stretch instant p session).state, calls := later } := by
    intro later hlater
    refine ⟨h.closed, fun hall => h.fresh fun session' hsession' => ?_, fun hbefore => ?_, h.asked,
      fun greeting action resume hstage => (h.expects greeting action resume hstage).same rfl,
      hlater⟩
    · rw [hsession, Option.some.injEq] at hsession'
      exact hsession' ▸ hbegins (hall _ rfl)
    · rw [h.before hbefore] at hsession
      cases hsession
  rw [goesOn, hcall, Reaction.also]
  dsimp only
  split
  · refine ⟨hsound calls hcalls, .nothing ⟨rfl, rfl, rfl, rfl, rfl, rfl⟩ Iff.rfl ?_⟩
    rw [List.append_nil]
    exact hplain
  · rename_i action resume houtlook
    refine ⟨hsound _ (List.forall_mem_append.mpr ⟨hcalls, List.forall_mem_singleton.mpr
      (hawaits action resume houtlook)⟩), .nothing ⟨rfl, rfl, rfl, rfl, rfl, rfl⟩ Iff.rfl ?_⟩
    rw [List.append_nil]
    exact hplain

/-! #### The timers -/

/-- The timers are set that have a period, and nothing else changes. -/
theorem startTimers_cases (o : ServerConnectionOptions) (c : ServerConnection) :
    ∃ pingTimer authRefreshTimer intervals timers effects,
      c.startTimers o = ({ c with pingTimer, authRefreshTimer, intervals, timers }, effects) ∧
      (∀ effect ∈ effects, effect.Plain) ∧
      Started o c { c with pingTimer, authRefreshTimer, intervals, timers } := by
  by_cases hping : 0 < o.pingPeriodMs <;> by_cases hauth : 0 < o.authRefreshPeriodMs
  · refine ⟨some c.timers, some (c.timers + 1), (c.timers + 1) :: c.timers :: c.intervals,
      c.timers + 2, [.sets c.timers, .sets (c.timers + 1)], ?_, by simp [ServerEffect.Plain],
      fun hnone => ?_, fun hunset => absurd (.inl hping) hunset⟩
    · simp only [startTimers, if_pos hping, if_pos hauth, Reaction.also]
      rfl
    · simp [hnone]
  · refine ⟨some c.timers, c.authRefreshTimer, c.timers :: c.intervals, c.timers + 1,
      [.sets c.timers], ?_, by simp [ServerEffect.Plain], fun hnone => ?_,
      fun hunset => absurd (.inl hping) hunset⟩
    · simp only [startTimers, if_pos hping, if_neg hauth, Reaction.also]
      rfl
    · simp [hnone]
  · refine ⟨c.pingTimer, some c.timers, c.timers :: c.intervals, c.timers + 1,
      [.sets c.timers], ?_, by simp [ServerEffect.Plain], fun hnone => ?_,
      fun hunset => absurd (.inr hauth) hunset⟩
    · simp only [startTimers, if_neg hping, if_pos hauth, Reaction.also]
      rfl
    · simp [hnone]
  · refine ⟨c.pingTimer, c.authRefreshTimer, c.intervals, c.timers, [], ?_, by simp,
      fun hnone => ?_, fun _ => rfl⟩
    · simp only [startTimers, if_neg hping, if_neg hauth, Reaction.also]
      rfl
    · simp [hnone]

/-- The init-ack has been taken, and the connection is notified. -/
theorem goes_acknowledged (h : Sound c) (hopen : ¬ c.stage.Ended)
    (hinitialized : c.initialized = true) {now : ℤ} {greeting : Bool} {session : Session}
    (headers : InitAckHeaders) (body : InitAckBody) (hfirst : c.serverSession = none) :
    Goes o m c (c.proceeds o now greeting session (acknowledged headers body)) := by
  have hnotopen : c.closed = false := Bool.eq_false_iff.mpr (mt h.closed.mp hopen)
  have hsound : ∀ pingTimer authRefreshTimer intervals timers greetings,
      Sound { c with
        coreSession := some { session with stateValue := .established }
        serverSession := some body.streams
        pingTimer, authRefreshTimer, intervals, timers, greetings, stage := .reading } := by
    refine fun _ _ _ _ _ => ⟨iff_of_false (mt h.closed.mp hopen) id, fun hall => ?_, ?_,
      fun hstage => hstage.elim, fun greeting' action resume hstage => ?_, h.calls⟩
    · cases hall _ rfl
    · rintro (hnot | hstage)
      · rw [hinitialized] at hnot
        cases hnot
      · exact hstage.elim
    · cases hstage
  have hparted : LoopStage.Parted .reading ↔ c.stage.Parted :=
    iff_of_false id (LoopStage.not_parted hopen)
  have hstretch : stretch instant (acknowledged headers body) session =
      ⟨{ session with stateValue := .established }, [.notify (.initAck headers body)],
        .returned (.ok ())⟩ := rfl
  have hreceives : ∀ c' : ServerConnection, c'.serverSession = some body.streams →
      c'.receives greeting (.returned (.ok ())) = ({ c' with stage := .reading }, []) := by
    intro c' hserver
    rw [receives, if_neg]
    rw [hserver]
    simp
  simp only [proceeds, call, hstretch, performAll, perform, handleNotification, Option.map_some]
  split
  · simp only [Reaction.also, List.append_nil]
    rw [hreceives _ rfl]
    refine ⟨hsound _ _ _ _ _, .stores hfirst rfl rfl rfl rfl rfl rfl hparted ?_⟩
    simp [ServerEffect.Plain]
  · obtain ⟨pingTimer, authRefreshTimer, intervals, timers, effects, hstart, hplain, hstarted⟩ :=
      startTimers_cases o { c with
        coreSession := some { session with stateValue := .established }
        serverSession := some body.streams }
    simp only [greet, hstart, Reaction.also, List.append_nil]
    rw [hreceives _ rfl]
    refine ⟨hsound _ _ _ _ _, .greetsAtOnce hfirst rfl hnotopen rfl rfl
      ⟨hstarted.known, hstarted.unset⟩ hparted ⟨effects, [], by simp, hplain, by simp⟩⟩

/-! #### Every move -/

theorem goes_same (h : Sound c) {effects : List ServerEffect}
    (hplain : ∀ effect ∈ effects, effect.Plain) : Goes o m c (c, effects) :=
  ⟨h, .nothing ⟨rfl, rfl, rfl, rfl, rfl, rfl⟩ Iff.rfl hplain⟩

theorem goes_nothing (h : Sound c) : Goes o m c (c, []) := goes_same h (by simp)

/-- The loop stands elsewhere, before the closure. -/
theorem goes_stage (h : Sound c) (hopen : ¬ c.stage.Ended) {initialized : Bool}
    (hinitialized : c.initialized = true → initialized = true) {stage : LoopStage}
    (hended : ¬ stage.Ended)
    (hawaiting : stage.Awaiting → initialized = true ∧ c.coreSession = none)
    (hreceiving : ∀ greeting action resume, stage ≠ .receiving greeting action resume)
    {effects : List ServerEffect} (hplain : ∀ effect ∈ effects, effect.Plain) :
    Goes o m c ({ c with initialized, stage }, effects) := by
  refine ⟨⟨iff_of_false (mt h.closed.mp hopen) hended, h.fresh, ?_,
    fun hstage => (hawaiting hstage).1,
    fun greeting action resume hstage => absurd hstage (hreceiving greeting action resume),
    h.calls⟩, .nothing ⟨rfl, rfl, rfl, rfl, rfl, rfl⟩ ?_ hplain⟩
  · rintro (hnot | hstage)
    · refine h.before (.inl (Bool.eq_false_iff.mpr fun htrue => ?_))
      rw [hinitialized htrue] at hnot
      cases hnot
    · exact (hawaiting hstage).2
  · exact iff_of_false (LoopStage.not_parted hended) (LoopStage.not_parted hopen)

/-- The loop goes on to close the socket, or to read. -/
theorem goes_socket (h : Sound c) (hopen : ¬ c.stage.Ended) {stage : LoopStage}
    (hstage : stage = .reading ∨ stage = .refusing ∨ stage = .breaking)
    {effects : List ServerEffect} (hplain : ∀ effect ∈ effects, effect.Plain) :
    Goes o m c ({ c with stage }, effects) := by
  rcases hstage with rfl | rfl | rfl <;>
    exact goes_stage h hopen id id (fun hawaiting => absurd hawaiting id)
      (fun _ _ _ hreceiving => by cases hreceiving) hplain

theorem goes_handleInitMessage (h : Sound c) (hopen : ¬ c.stage.Ended)
    (hfresh : c.initialized = false) (frame : CulpeoMessage) :
    Goes o m c ({ c with initialized := true }.handleInitMessage frame) := by
  unfold handleInitMessage
  split
  · exact goes_stage h hopen (fun _ => rfl) id (fun _ => ⟨rfl, h.before (.inl hfresh)⟩)
      (fun _ _ _ hreceiving => by cases hreceiving) (by simp [ServerEffect.Plain])
  · exact goes_stage h hopen (fun _ => rfl) id (fun hawaiting => absurd hawaiting id)
      (fun _ _ _ hreceiving => by cases hreceiving) (by simp [ServerEffect.Plain])

theorem goes_openSession (h : Sound c) (hopen : ¬ c.stage.Ended) (hawaiting : c.stage.Awaiting)
    (now : ℤ) (headers : InitHeaders) (body : InitBody)
    (resumeSnapshot : Option SessionSnapshot) :
    Goes o m c (c.openSession o now headers body resumeSnapshot) := by
  refine goes_receive h hopen (h.asked hawaiting) resumeSnapshot (fun _ => h.fresh ?_) _ _ _
  intro session hsession
  rw [h.before (.inr hawaiting)] at hsession
  cases hsession

theorem goes_authenticated (h : Sound c) (hopen : ¬ c.stage.Ended) (hawaiting : c.stage.Awaiting)
    (now : ℤ) (headers : InitHeaders) (body : InitBody) (accepted : Bool) :
    Goes o m c (c.authenticated o now headers body accepted) := by
  unfold authenticated
  split
  · exact goes_socket h hopen (.inr (.inl rfl)) (by simp [ServerEffect.Plain])
  · split
    · exact goes_stage h hopen id id (fun _ => ⟨h.asked hawaiting, h.before (.inr hawaiting)⟩)
        (fun _ _ _ hreceiving => by cases hreceiving) (by simp [ServerEffect.Plain])
    · exact goes_openSession h hopen hawaiting now headers body none

theorem plain_saveSnapshot (now : ℤ) (c : ServerConnection) :
    ∀ effect ∈ c.saveSnapshot now, effect.Plain := by
  unfold saveSnapshot
  split
  · simp
  · split
    · simp
    · split <;> simp [ServerEffect.Plain]

theorem goes_handleWsClose (h : Sound c) (hopen : ¬ c.stage.Ended) (now : ℤ) :
    Goes o m c (c.handleWsClose now) := by
  unfold handleWsClose
  rw [if_neg (mt h.closed.mp hopen)]
  refine ⟨⟨iff_of_true rfl trivial, h.fresh, fun hbefore => ?_, fun hstage => absurd hstage id,
    (fun _ _ _ hreceiving => by cases hreceiving), h.calls⟩,
    .closes rfl rfl (fun interval hinterval => ?_) (fun hparted => ?_) ?_⟩
  · rcases hbefore with hnot | hstage
    · exact h.before (.inl hnot)
    · exact hstage.elim
  · obtain ⟨hrunning, hkept⟩ := List.mem_filter.mp hinterval
    simp only [List.mem_append, Option.mem_toList, not_or, decide_eq_true_eq] at hkept
    exact ⟨hrunning, hkept.1, hkept.2⟩
  · exact absurd hparted (LoopStage.not_parted hopen)
  · refine List.forall_mem_append.mpr ⟨?_, plain_saveSnapshot now _⟩
    intro effect heffect
    obtain ⟨interval, -, rfl⟩ := List.mem_map.mp heffect
    simp [ServerEffect.Plain]

/-- A session that has been stored. -/
theorem goes_greetingSaved (h : Sound c) (hgreetings : c.greetings ≠ 0) :
    Goes o .greetingSaved c ({ c with greetings := c.greetings - 1 }.greet o) := by
  obtain ⟨pingTimer, authRefreshTimer, intervals, timers, effects, hstart, hplain, hstarted⟩ :=
    startTimers_cases o { c with greetings := c.greetings - 1 }
  simp only [greet, hstart, Reaction.also]
  refine ⟨⟨h.closed, h.fresh, h.before, h.asked,
    fun greeting action resume hstage => (h.expects greeting action resume hstage).same rfl,
    h.calls⟩, .greets rfl rfl rfl ?_ ⟨hstarted.known, hstarted.unset⟩ Iff.rfl
      ⟨effects, rfl, hplain⟩⟩
  exact (Nat.sub_add_cancel (Nat.pos_of_ne_zero hgreetings)).symm

theorem LoopStage.not_awaiting {stage : LoopStage} (h : stage.Parted) : ¬ stage.Awaiting := by
  cases stage <;> first | exact id | exact absurd h id

/-- The closure goes on. -/
theorem Sound.parts (h : Sound c) (hended : c.stage.Ended) {stage : LoopStage}
    (hparted : stage.Parted) : Sound { c with stage } where
  closed := by
    refine iff_of_true (h.closed.mpr hended) ?_
    cases stage <;> trivial
  fresh := h.fresh
  before hbefore := h.before (hbefore.imp_right fun hawaiting =>
    absurd hawaiting (LoopStage.not_awaiting hparted))
  asked hawaiting := absurd hawaiting (LoopStage.not_awaiting hparted)
  expects greeting action resume hreceiving := by
    dsimp only at hreceiving
    rw [hreceiving] at hparted
    exact absurd hparted id
  calls := h.calls

theorem goes_part (h : Sound c) (hstage : c.stage = .saving) :
    Goes o .snapshotSaved c c.part := by
  have hended : c.stage.Ended := by rw [hstage]; trivial
  unfold part
  split
  · rename_i hserver
    exact ⟨h.parts hended trivial,
      .parts rfl ⟨rfl, rfl, rfl, rfl, rfl, rfl⟩ hstage hserver trivial rfl⟩
  · exact ⟨h.parts hended trivial, .leaves ⟨rfl, rfl, rfl, rfl, rfl, rfl⟩ trivial
      (by simp [ServerEffect.Plain])⟩

theorem mute_sessionCall (o : ServerConnectionOptions) (c : ServerConnection)
    (call : SessionCall) : (call.prog o c).Meets mute := by
  cases call with
  | sendMedia streamId body =>
      exact lenient_mute.meets_sendMedia _ streamId body none fun _ => mute_send _
  | sendEvent event body =>
      exact lenient_mute.meets_sendEvent event body none fun _ => mute_send _
  | sendPing now => exact lenient_mute.meets_sendPing now fun _ => mute_send _
  | requestAuthRefresh now => exact mute_requestAuthRefresh _ now
  | close reason => exact lenient_mute.meets_close .normal reason (meets_ret _)

/-- **One move** of a sound connection. -/
theorem goes_step (h : Sound c) (m : ServerConnectionMove) : Goes o m c (c.step o m) := by
  cases m with
  | message now frame =>
      unfold step
      dsimp only
      split
      · rename_i hstage
        exact goes_socket h (by rw [hstage]; exact id) (.inr (.inr rfl))
          (by simp [ServerEffect.Plain])
      · rename_i frame hstage
        have hopen : ¬ c.stage.Ended := by rw [hstage]; exact id
        split
        · rename_i hfresh
          exact goes_handleInitMessage h hopen (by simpa using hfresh) frame
        · rename_i hinitialized
          split
          · exact goes_nothing h
          · rename_i session hsession
            refine goes_receive h hopen (by simpa using hinitialized) c.resumeSnapshot
              (fun hfresh => h.fresh fun session' hsession' => ?_) _ _ _
            rw [hsession, Option.some.injEq] at hsession'
            exact hsession' ▸ hfresh
      · exact goes_nothing h
  | ends now =>
      unfold step
      dsimp only
      split
      · rename_i hstage
        exact goes_handleWsClose h (by rw [hstage]; exact id) now
      · exact goes_nothing h
  | authenticated now accepted =>
      unfold step
      dsimp only
      split
      · rename_i headers body hstage
        exact goes_authenticated h (by rw [hstage]; exact id) (by rw [hstage]; trivial) now
          headers body accepted
      · exact goes_nothing h
  | loaded now stored =>
      unfold step
      dsimp only
      split
      · rename_i headers body stored hstage
        exact goes_openSession h (by rw [hstage]; exact id) (by rw [hstage]; trivial) now headers
          body stored
      · rename_i headers body hstage
        exact goes_socket h (by rw [hstage]; exact id) (.inr (.inr rfl))
          (by simp [ServerEffect.Plain])
      · exact goes_nothing h
  | receiveSettles now =>
      unfold step
      dsimp only
      split
      · rename_i greeting action resume session hstage hsession
        have hopen : ¬ c.stage.Ended := by rw [hstage]; exact id
        have hinitialized : c.initialized = true := by
          refine Bool.of_not_eq_false fun hnot => ?_
          rw [h.before (.inl hnot)] at hsession
          cases hsession
        cases h.expects greeting action resume hstage with
        | mute hmute => exact goes_mute h hopen hinitialized hsession (hmute _)
        | frame haction rt options now' frame hresume =>
            rw [hresume]
            exact goes_frame h hopen hinitialized hsession rt options frame
        | initAck headers body hresume hfirst =>
            rw [hresume]
            cases answer o action with
            | some token => exact goes_acknowledged h hopen hinitialized headers body hfirst
            | none => exact goes_mute h hopen hinitialized hsession (meets_ret _)
      · exact goes_nothing h
  | closeSettles now fulfilled =>
      unfold step
      dsimp only
      split
      · rename_i hstage
        have hopen : ¬ c.stage.Ended := by rw [hstage]; exact id
        split
        · exact goes_socket h hopen (.inl rfl) (by simp)
        · exact goes_socket h hopen (.inr (.inr rfl)) (by simp [ServerEffect.Plain])
      · rename_i hstage
        exact goes_handleWsClose h (by rw [hstage]; exact id) now
      · exact goes_nothing h
  | greetingSaved =>
      unfold step
      dsimp only
      split
      · exact goes_nothing h
      · rename_i hgreetings
        exact goes_greetingSaved h hgreetings
  | snapshotSaved =>
      unfold step
      dsimp only
      split
      · rename_i hstage
        exact goes_part h hstage
      · exact goes_nothing h
  | parted =>
      unfold step
      dsimp only
      split
      · rename_i hstage
        exact ⟨h.parts (by rw [hstage]; trivial) trivial,
          .nothing ⟨rfl, rfl, rfl, rfl, rfl, rfl⟩ (iff_of_true trivial (by rw [hstage]; trivial))
            (by simp [ServerEffect.Plain])⟩
      · exact goes_nothing h
  | calls now call =>
      unfold step
      dsimp only
      split
      · exact goes_nothing h
      · rename_i session hsession
        exact goes_goesOn h hsession (mute_sessionCall o c call) h.calls
  | callSettles now i =>
      unfold step
      dsimp only
      split
      · rename_i action resume session hcall hsession
        refine goes_goesOn h hsession (h.calls _ (List.mem_of_getElem? hcall) _) fun w hw => ?_
        exact h.calls w (List.mem_of_mem_eraseIdx hw)
      · exact goes_nothing h

end Steps

theorem sound_initial : Sound {} where
  closed := iff_of_false Bool.false_ne_true id
  fresh _ := rfl
  before _ := rfl
  asked hawaiting := absurd hawaiting id
  expects _ _ _ hreceiving := by cases hreceiving
  calls w hw := absurd hw List.not_mem_nil

/-- What a run keeps. -/
structure Alive (c : ServerConnection) (effects : List ServerEffect) : Prop where
  sound : Sound c
  greeted : Greeted c effects
  told : Told c effects

/-- **The life of a server connection** in a run whose moves are timely: the application is told
of the end after the beginning, and of each once, and no interval is left running. -/
theorem lifecycle_of_timely (o : ServerConnectionOptions) (ms : List ServerConnectionMove)
    (h : Along (step o) (Timely o) {} ms) : Lifecycle (run o {} ms).1 (run o {} ms).2 := by
  have hinitial : Alive {} [] :=
    ⟨sound_initial, ⟨rfl, fun _ => rfl, fun _ hmem => absurd hmem List.not_mem_nil, fun _ => rfl⟩,
      ⟨fun _ => rfl, by simp, fun before after hsplit => by simp at hsplit⟩⟩
  have halive : Alive (run o {} ms).1 (run o {} ms).2 := by
    refine run_keeps (I := Alive) (fun m hc hm => ?_) ms hinitial h
    obtain ⟨hsound, hhappens⟩ := goes_step hc.sound m
    obtain ⟨hgreeted, htold⟩ := hhappens.keeps hm hc.greeted hc.told
    exact ⟨hsound, hgreeted, htold⟩
  refine ⟨halive.told.first, ?_, halive.told.once, fun hover _ => halive.greeted.stopped
    (halive.sound.closed.mpr (by rw [hover]; trivial))⟩
  have honce := halive.greeted.once
  split at honce <;> omega

/-! ### Examples -/

def uploadServerOptions : ServerConnectionOptions where
  runtime := uploadLink.runtime
  generateId := uploadLink.options.generateId
  serializes := fun _ => true

/-- A client is accepted, and its session is being stored. -/
def acceptedUpload : List ServerConnectionMove :=
  [.message 0 (some (.init { authorization := utf16 "Bearer t" }
      { version := utf16 "0.3", streams := uploads })),
    .authenticated 0 true, .receiveSettles 0, .receiveSettles 0]

/-- The session is stored before the connection is closed. -/
theorem lifecycle_of_timely_example :
    Lifecycle
      (run uploadServerOptions {}
        (acceptedUpload ++ [.greetingSaved, .ends 1, .snapshotSaved, .parted])).1
      (run uploadServerOptions {}
        (acceptedUpload ++ [.greetingSaved, .ends 1, .snapshotSaved, .parted])).2 := by
  refine lifecycle_of_timely uploadServerOptions _
    ⟨trivial, trivial, trivial, trivial, fun _ hclosed => ?_, trivial, fun _ => ?_, trivial,
      trivial⟩
  · exact absurd hclosed (by decide)
  · decide

/-- The connection is closed while the session is being stored. -/
theorem lifecycle_broken : ¬ ∀ (o : ServerConnectionOptions) (ms : List ServerConnectionMove),
    Lifecycle (run o {} ms).1 (run o {} ms).2 := by
  intro h
  have hlife := h uploadServerOptions
    (acceptedUpload ++ [.ends 1, .snapshotSaved, .greetingSaved, .parted])
  have htimers := hlife.timersStopped rfl (by decide)
  revert htimers
  decide

end ServerConnection

end CulpeoStream.Typescript
