import CulpeoStream.Typescript.Contracts
import CulpeoStream.Typescript.Finality
import CulpeoStream.Typescript.StreamClient

/-!
# `disconnect`

After `disconnect` the intent flag is set, and the timer is not.  Two ways around the flag
are left.  `runConnection` does not look at it after `await options.getToken()`, and starts a
session.  And a session that was not yet established is not closed: its init-ack may still
arrive, and then it sends like any other.

`Quiet` is the condition on moves that excludes what these two lead to, and under it
`disconnect` is final (`disconnect_is_final`).
-/

namespace CulpeoStream.Typescript

open Message Utf16 EventLoop Reactions
open Resumption (Prog Contract)

/-- What may happen after `disconnect`: no session is started, and no frame but a close is
handed to a socket. -/
def ClientEffect.IsFinal : ClientEffect → Prop
  | .starts => False
  | .hands _ frame => Output.isClose (.send frame) = true
  | _ => True

/-! ### The session -/

/-- The contract of a call that sends nothing but a close. -/
def closing : Contract Session Output (Option Text) where
  inv _ := True
  rel _ _ := True
  out o := o.isSend = true → o.isClose = true
  ans _ _ := True

theorem lenient_closing : Lenient closing where
  inv _ := trivial
  rel _ _ _ _ := trivial
  close _ _ := fun _ => rfl
  notify _ _ := fun h => by cases h
  onRtt _ _ _ := fun h => by cases h

/-- A frame at a client, unless it is a ping or an auth-refresh at an established one. -/
theorem closing_clientFrame (rt : Runtime) (callbacks : Callbacks) (now : ℤ)
    {frame : CulpeoMessage} {s : Session}
    (hping : s.stateValue = .established → ∀ ts, frame ≠ .ping ts)
    (hrefresh : s.stateValue = .established → ∀ nonce, frame ≠ .authRefresh nonce) :
    closing.Holds s (clientFrame rt callbacks now frame s) := by
  unfold clientFrame
  split
  · exact lenient_closing.holds_fail s _
  · exact lenient_closing.holds_handleInitAck callbacks (fun h => by cases h) s
  · exact lenient_closing.holds_handleInitError callbacks _ s
  · exact lenient_closing.holds_same (lenient_closing.meets_failWithClose _ _)
  · exact lenient_closing.holds_same (lenient_closing.meets_failWithClose _ _)
  · rename_i hestablished
    unfold clientEstablished
    split
    · exact lenient_closing.holds_handleMedia rt callbacks _ _ s
    · exact absurd rfl (hping hestablished _)
    · exact lenient_closing.holds_handlePong callbacks now _ _ s
    · exact absurd rfl (hrefresh hestablished _)
    · exact lenient_closing.holds_same (lenient_closing.meets_handleClose callbacks _ _)
    · exact lenient_closing.holds_same (lenient_closing.meets_failWithClose _ _)
    · exact lenient_closing.holds_same (lenient_closing.meets_failWithClose _ _)
    · exact lenient_closing.holds_same (lenient_closing.meets_failWithClose _ _)
    · exact lenient_closing.holds_same (lenient_closing.meets_failWithClose _ _)
    · exact lenient_closing.holds_handleApplication callbacks _ s

/-- The actions that calls of a client await: behind most of them nothing but a close is
sent, and behind the token an auth-response. -/
inductive Known (action : Output) (resume : Option Text → Rest) : Prop where
  | closes (h : ∀ a, (resume a).Meets closing)
  | refreshes (haction : action = .refreshAuthToken) (hnone : (resume none).Meets closing)
      (hsome : ∀ token, ∃ frame, resume (some token) = dispatch frame done)

/-- In its next stretch the call sends nothing but a close. -/
def OnlyCloses (p : Rest) (s : Session) : Prop :=
  ∀ action ∈ (stretch instant p s).actions, closing.out action

/-- What the call awaits is known. -/
def EndsKnown (outlook : Outlook Session Output (Option Text) Result) : Prop :=
  ∀ action resume, outlook = .awaits action resume → Known action resume

theorem closing_stretch {p : Rest} (hp : p.Meets closing) (s : Session) :
    OnlyCloses p s ∧ EndsKnown (stretch instant p s).outlook := by
  obtain ⟨-, -, hactions, hawaits⟩ := stretch_meets instant (K := closing)
    (fun _ _ _ => trivial) (fun _ => trivial) (fun _ _ _ _ _ => trivial) hp (s := s) trivial
  refine ⟨hactions, fun action resume houtlook => .closes fun a => ?_⟩
  exact (hawaits action resume houtlook).2 a trivial

theorem closing_stretch_critical {body : Session → Session × Rest} {s : Session}
    (h : closing.Holds s (body s)) :
    OnlyCloses (.critical body) s ∧ EndsKnown (stretch instant (.critical body) s).outlook :=
  closing_stretch h.2.2 (body s).1

/-- A frame that is sent, and nothing else. -/
theorem endsKnown_dispatch (frame : CulpeoMessage) (s : Session) :
    EndsKnown (stretch instant (dispatch frame done) s).outlook := by
  intro action resume houtlook
  cases houtlook
  refine .closes fun a => ?_
  cases a <;> exact meets_ret _

theorem stretch_handleAuthRefresh (callbacks : Callbacks) (nonce : Text) (s : Session) :
    OnlyCloses (handleAuthRefresh callbacks nonce) s ∧
      EndsKnown (stretch instant (handleAuthRefresh callbacks nonce) s).outlook := by
  unfold handleAuthRefresh
  split
  · exact closing_stretch (lenient_closing.meets_failWithClose _ _) s
  · constructor
    · intro action haction hsend
      rw [List.mem_singleton.mp haction] at hsend
      cases hsend
    · intro action resume houtlook
      cases houtlook
      exact .refreshes rfl (lenient_closing.meets_failWithClose _ _) fun token => ⟨_, rfl⟩

theorem clientFrame_established {rt : Runtime} {callbacks : Callbacks} {now : ℤ}
    {frame : CulpeoMessage} {s : Session} (hs : s.stateValue = .established) :
    clientFrame rt callbacks now frame s = clientEstablished rt callbacks now frame s := by
  unfold clientFrame
  rw [hs]

/-- **A frame is received.**  What the session awaits then is known, and it sends nothing but
a close, unless it is established and the frame is a ping. -/
theorem stretch_receive (rt : Runtime) (callbacks : Callbacks) (now : ℤ)
    (frame : CulpeoMessage) (s : Session) :
    ((s.stateValue = .established → ∀ ts, frame ≠ .ping ts) →
      OnlyCloses (clientReceive rt callbacks now frame) s) ∧
    EndsKnown (stretch instant (clientReceive rt callbacks now frame) s).outlook := by
  by_cases hestablished : s.stateValue = .established
  · by_cases hping : ∃ ts, frame = .ping ts
    · obtain ⟨ts, rfl⟩ := hping
      refine ⟨fun hnot => absurd rfl (hnot hestablished ts), ?_⟩
      rw [clientReceive, stretch_critical, clientFrame_established hestablished]
      exact endsKnown_dispatch _ s
    · by_cases hrefresh : ∃ nonce, frame = .authRefresh nonce
      · obtain ⟨nonce, rfl⟩ := hrefresh
        unfold OnlyCloses
        rw [clientReceive, stretch_critical, clientFrame_established hestablished]
        obtain ⟨honly, hends⟩ := stretch_handleAuthRefresh callbacks nonce s
        exact ⟨fun _ => honly, hends⟩
      · obtain ⟨honly, hends⟩ := closing_stretch_critical (closing_clientFrame rt callbacks now
          (fun _ ts h => hping ⟨ts, h⟩) fun _ nonce h => hrefresh ⟨nonce, h⟩)
        exact ⟨fun _ => honly, hends⟩
  · have hclosing : closing.Holds s (clientFrame rt callbacks now frame s) :=
      closing_clientFrame rt callbacks now (fun h => absurd h hestablished)
        fun h => absurd h hestablished
    obtain ⟨honly, hends⟩ := closing_stretch_critical hclosing
    exact ⟨fun _ => honly, hends⟩

theorem endsKnown_start (options : StartOptions) (s : Session) :
    EndsKnown (stretch instant (start options) s).outlook := by
  rw [start, stretch_critical]
  split
  · intro action resume houtlook
    cases houtlook
  · exact endsKnown_dispatch _ _

/-- **A known action is answered.** -/
theorem Known.stretch {action : Output} {resume : Option Text → Rest} (h : Known action resume)
    (a : Option Text) (s : Session) :
    ((action = .refreshAuthToken → a = none) → OnlyCloses (resume a) s) ∧
      EndsKnown (EventLoop.stretch instant (resume a) s).outlook := by
  cases h with
  | closes h =>
      obtain ⟨honly, hends⟩ := closing_stretch (h a) s
      exact ⟨fun _ => honly, hends⟩
  | refreshes haction hnone hsome =>
      cases a with
      | none =>
          obtain ⟨honly, hends⟩ := closing_stretch hnone s
          exact ⟨fun _ => honly, hends⟩
      | some token =>
          refine ⟨fun hnot => ?_, ?_⟩
          · cases hnot haction
          · obtain ⟨frame, hframe⟩ := hsome token
            rw [hframe]
            exact endsKnown_dispatch frame s

/-- Media that the registry does not accept. -/
theorem onlyCloses_sendMedia (rt : Runtime) (streamId : Text) (body : Bytes)
    (timestamp : Option ℤ) {s : Session} (hs : s.stateValue = .established)
    (hrefused : ¬ SendsMedia rt streamId body s) :
    OnlyCloses (sendMedia rt streamId body timestamp) s := by
  intro action haction
  rw [sendMedia, stretch_critical, if_neg (not_not.mpr hs)] at haction
  dsimp only at haction
  split at haction
  · cases haction
  · rename_i tracked hsend
    exact absurd ⟨_, hsend⟩ hrefused

/-- An event on an unknown stream. -/
theorem onlyCloses_sendEvent (event body : Text) (streamId : Option Text) {s : Session}
    (hs : s.stateValue = .established) (hrefused : ¬ SendsEvent streamId s) :
    OnlyCloses (sendEvent event body streamId) s := by
  intro action haction
  rw [sendEvent, stretch_critical, if_neg (not_not.mpr hs)] at haction
  split at haction
  · cases haction
  · rename_i hknown
    exact absurd (Bool.eq_false_iff.mpr hknown) hrefused

/-! ### The client -/

/-- The action of a session that the thread awaits. -/
def Stage.action : Stage → Option Output
  | starting action _ | receiving action _ => some action
  | _ => none

namespace StreamClient

/-- The moves after a `disconnect` that do not get around it. -/
def Quiet (o : StreamClientOptions) (c : StreamClient) : StreamClientMove → Prop
  | .connect url options _ =>
      c.connectUrl = none → validateUrl o.runtime url options.allowInsecure = false
  | .tokenSettles _ => c.stage = .refreshing → ∀ options session,
      c.connectOptions = some options →
        Session.createClient options.streams (options.version.getD (utf16 "0.3")) ≠ .ok session
  | .sessionSettles token => c.stage.action = some .refreshAuthToken → token = none
  | .message _ frame => c.stage = .reading → ∀ session, c.session = some session →
      session.stateValue = .established → ∀ ts, frame ≠ some (.ping ts)
  | .sendMedia streamId body => ∀ session, c.session = some session →
      session.stateValue = .established → ¬ SendsMedia o.runtime streamId body session
  | .sendEvent _ _ streamId => ∀ session, c.session = some session →
      session.stateValue = .established → ¬ SendsEvent streamId session
  | .sendPing _ => ∀ session, c.session = some session → session.stateValue ≠ .established
  | .disconnect | .connectSettles _ | .ends _ | .closeSettles | .timerFires _ => True

/-- What the thread awaits of the session is known. -/
def Tame (c : StreamClient) : Prop :=
  ∀ action resume, (c.stage = .starting action resume ∨ c.stage = .receiving action resume) →
    Known action resume

/-- A client that has been disconnected. -/
structure Gone (c : StreamClient) : Prop where
  intentional : c.intentionalDisconnect = true
  timer : c.stage ≠ .waiting
  tame : c.Tame

section Steps

variable {o : StreamClientOptions} {c : StreamClient}

theorem final_handleNotification (c : StreamClient) (notification : Notification) :
    ∀ effect ∈ (c.handleNotification notification).2, effect.IsFinal := by
  have hclose : ∀ effect ∈ c.closeSocket, effect.IsFinal := by
    intro effect heffect
    obtain ⟨socket, -, rfl⟩ := List.mem_map.mp heffect
    trivial
  cases notification with
  | initAck headers body =>
      refine List.forall_mem_append.mpr ⟨?_, ?_⟩
      · split <;> simp [ClientEffect.IsFinal]
      · simp [ClientEffect.IsFinal]
  | initError frame =>
      refine List.forall_mem_append.mpr ⟨List.forall_mem_append.mpr ⟨hclose, ?_⟩, ?_⟩
      · simp [ClientEffect.IsFinal]
      · split <;> simp [ClientEffect.IsFinal]
  | media headers body => simp [handleNotification, ClientEffect.IsFinal]
  | application event => simp [handleNotification, ClientEffect.IsFinal]
  | close code reason =>
      refine List.forall_mem_append.mpr ⟨hclose, ?_⟩
      simp [ClientEffect.IsFinal]

theorem final_perform {action : Output} (h : closing.out action) :
    ∀ effect ∈ (c.perform o action).2, effect.IsFinal := by
  cases action with
  | send frame =>
      intro effect heffect
      unfold perform at heffect
      dsimp only at heffect
      split at heffect
      · rw [List.mem_singleton.mp heffect]
        exact h rfl
      · cases heffect
  | notify notification => exact final_handleNotification c notification
  | onRtt ts serverTs rttMicros => simp [perform, ClientEffect.IsFinal]
  | refreshAuthToken => simp [perform]
  | turn => simp [perform]

theorem final_performAll {actions : List Output} (h : ∀ action ∈ actions, closing.out action) :
    ∀ effect ∈ (c.performAll o actions).2, effect.IsFinal := by
  induction actions generalizing c with
  | nil => exact fun effect heffect => absurd heffect List.not_mem_nil
  | cons action actions ih =>
      obtain ⟨haction, hactions⟩ := List.forall_mem_cons.mp h
      exact List.forall_mem_append.mpr ⟨final_perform haction, ih hactions⟩

/-! #### Every move -/

theorem tame_stage {c' : StreamClient} (h : c.Tame) (hstage : c'.stage = c.stage) : c'.Tame := by
  intro action resume hawaits
  rw [hstage] at hawaits
  exact h action resume hawaits

theorem tame_rest : c.rest.1.Tame := by
  rintro action resume (h | h) <;> cases h

theorem tame_openConnection (made : Bool) : (c.openConnection made).1.Tame := by
  unfold openConnection
  split
  · rintro action resume (h | h) <;> cases h
  · exact tame_rest

theorem tame_scheduleReconnect : c.scheduleReconnect.1.Tame := by
  unfold scheduleReconnect
  split <;> rintro action resume (h | h) <;> cases h

theorem tame_receives {outlook : Outlook Session Output (Option Text) Result}
    (h : EndsKnown outlook) : (c.receives outlook).1.Tame := by
  unfold receives
  split
  · rintro action resume (h | h) <;> cases h
  · rintro action resume (h | h) <;> cases h
  · rename_i action resume
    rintro action' resume' (h' | h') <;> cases h'
    exact h action resume rfl

theorem tame_starts {outlook : Outlook Session Output (Option Text) Result}
    (h : EndsKnown outlook) : (c.starts outlook).1.Tame := by
  unfold starts
  split
  · rintro action resume (h | h) <;> cases h
  · rintro action resume (h | h) <;> cases h
  · rename_i action resume
    rintro action' resume' (h' | h') <;> cases h'
    exact h action resume rfl

theorem tame_startSession (options : ConnectOptions) (authorization : Text) :
    (c.startSession o options authorization).1.Tame := by
  unfold startSession
  split
  · exact tame_rest
  · exact tame_starts (endsKnown_start _ _)

theorem tame_connected (options : ConnectOptions) (fulfilled : Bool) :
    (c.connected o options fulfilled).1.Tame := by
  unfold connected
  split
  · exact tame_rest
  · split
    · exact tame_scheduleReconnect
    · split
      · rintro action resume (h | h) <;> cases h
      · exact tame_startSession options _

theorem tame_finish (now : ℤ) : (c.finish now).1.Tame := by
  unfold finish
  split
  · exact tame_rest
  · split
    · exact tame_scheduleReconnect
    · split <;> exact tame_scheduleReconnect

theorem tame_callEstablished (h : c.Tame) (p : Rest) : (c.callEstablished o p).1.Tame :=
  tame_stage h (notified_callEstablished o c p).stage

theorem tame_disconnect (h : c.Tame) : (c.disconnect o).1.Tame := by
  unfold disconnect
  refine tame_callEstablished (fun action resume hawaits => h action resume ?_) _
  dsimp only at hawaits
  split at hawaits
  · rcases hawaits with h | h <;> cases h
  · exact hawaits

/-- **Every move** leaves the thread at an action that is known. -/
theorem tame_step (h : c.Tame) (m : StreamClientMove) : (c.step o m).1.Tame := by
  cases m with
  | connect url options made =>
      change (c.connect o url options made).1.Tame
      unfold connect
      split
      · exact h
      · exact tame_openConnection made
  | disconnect => exact tame_disconnect h
  | sendMedia streamId body => exact tame_callEstablished h _
  | sendEvent event body streamId => exact tame_callEstablished h _
  | sendPing now => exact tame_callEstablished h _
  | connectSettles fulfilled =>
      unfold step
      dsimp only
      split
      · exact tame_connected _ fulfilled
      · exact h
  | tokenSettles token =>
      unfold step
      dsimp only
      split
      · exact tame_startSession _ _
      · exact h
  | message now frame =>
      unfold step
      dsimp only
      split
      · split
        · exact h
        · exact tame_receives (stretch_receive _ _ now _ _).2
      · exact h
  | ends now =>
      unfold step
      dsimp only
      split
      · exact tame_finish now
      · exact h
  | sessionSettles token =>
      unfold step
      dsimp only
      split
      · rename_i action resume session hstage _
        exact tame_starts ((h action resume (.inl hstage)).stretch _ session).2
      · rename_i action resume session hstage _
        exact tame_receives ((h action resume (.inr hstage)).stretch _ session).2
      · exact h
  | closeSettles =>
      unfold step
      dsimp only
      split
      · exact tame_rest
      · exact h
  | timerFires made =>
      unfold step
      dsimp only
      split
      · exact tame_openConnection made
      · exact h

/-! #### After `disconnect` -/

/-- The client stays disconnected, and nothing happens that may not. -/
def Going (r : ClientReaction) : Prop := r.1.Gone ∧ ∀ effect ∈ r.2, effect.IsFinal

theorem Going.also {r : ClientReaction} {next : StreamClient → ClientReaction} (h : Going r)
    (hnext : r.1.Gone → Going (next r.1)) : Going (r.also next) :=
  ⟨(hnext h.1).1, List.forall_mem_append.mpr ⟨h.2, (hnext h.1).2⟩⟩

theorem going_same (h : c.Gone) {effects : List ClientEffect}
    (heffects : ∀ effect ∈ effects, effect.IsFinal) : Going (c, effects) :=
  ⟨h, heffects⟩

theorem going_rest (h : c.Gone) : Going c.rest := by
  refine ⟨⟨h.intentional, ?_, tame_rest⟩, fun effect heffect => absurd heffect List.not_mem_nil⟩
  intro hstage
  cases hstage

theorem going_call (h : c.Gone) {session : Session} {p : Rest} (hp : OnlyCloses p session) :
    Going (c.call o session p) := by
  have hnotified := notified_call o c session p
  refine ⟨⟨hnotified.intentional h.intentional, ?_, tame_stage h.tame hnotified.stage⟩,
    final_performAll hp⟩
  rw [hnotified.stage]
  exact h.timer

theorem going_callEstablished (h : c.Gone) {p : Rest}
    (hp : ∀ session, c.session = some session → session.stateValue = .established →
      OnlyCloses p session) : Going (c.callEstablished o p) := by
  unfold callEstablished
  split
  · exact going_same h fun effect heffect => absurd heffect List.not_mem_nil
  · rename_i session hsession
    split
    · rename_i hs
      exact going_call h (hp session hsession hs)
    · exact going_same h fun effect heffect => absurd heffect List.not_mem_nil

theorem going_receives (h : c.Gone) {outlook : Outlook Session Output (Option Text) Result}
    (houtlook : EndsKnown outlook) : Going (c.receives outlook) := by
  refine ⟨⟨?_, ?_, tame_receives houtlook⟩, ?_⟩
  · unfold receives
    split <;> exact h.intentional
  · unfold receives
    split <;> simp
  · unfold receives
    split <;> simp [ClientEffect.IsFinal]

theorem going_starts (h : c.Gone) {outlook : Outlook Session Output (Option Text) Result}
    (houtlook : EndsKnown outlook) : Going (c.starts outlook) := by
  refine ⟨⟨?_, ?_, tame_starts houtlook⟩, ?_⟩
  · unfold starts
    split <;> exact h.intentional
  · unfold starts
    split <;> simp
  · unfold starts
    split
    · simp
    · refine List.forall_mem_append.mpr ⟨?_, ?_⟩
      · split <;> simp [ClientEffect.IsFinal]
      · simp [ClientEffect.IsFinal]
    · simp

/-- `disconnect` itself. -/
theorem going_disconnect (h : c.Tame) : Going (c.disconnect o) := by
  unfold disconnect
  refine Going.also (going_callEstablished ⟨rfl, ?_, ?_⟩ fun session _ _ => ?_) fun hgone => ?_
  · dsimp only
    split <;> simp_all
  · intro action resume hawaits
    refine h action resume ?_
    dsimp only at hawaits
    split at hawaits
    · rcases hawaits with h | h <;> cases h
    · exact hawaits
  · exact (closing_stretch (lenient_closing.meets_close _ _ (meets_ret _)) session).1
  · refine ⟨⟨hgone.intentional, hgone.timer, hgone.tame⟩, List.forall_mem_append.mpr ⟨?_, ?_⟩⟩
    · intro effect heffect
      obtain ⟨socket, -, rfl⟩ := List.mem_map.mp heffect
      trivial
    · simp [ClientEffect.IsFinal]

/-- **One quiet move** of a disconnected client. -/
theorem going_step (h : c.Gone) {m : StreamClientMove} (hm : Quiet o c m) : Going (c.step o m) := by
  have hnothing : Going (c, []) :=
    going_same h fun effect heffect => absurd heffect List.not_mem_nil
  cases m with
  | connect url options made =>
      change Going (c.connect o url options made)
      have hrefused : (c.connectUrl.isSome ||
          !validateUrl o.runtime url options.allowInsecure) = true := by
        cases hurl : c.connectUrl with
        | none => rw [hm hurl]; rfl
        | some url => rfl
      rw [connect, if_pos hrefused]
      exact going_same h (by simp [ClientEffect.IsFinal])
  | disconnect => exact going_disconnect h.tame
  | sendMedia streamId body =>
      exact going_callEstablished h fun session hsession hs =>
        onlyCloses_sendMedia o.runtime streamId body none hs (hm session hsession hs)
  | sendEvent event body streamId =>
      exact going_callEstablished h fun session hsession hs =>
        onlyCloses_sendEvent event body streamId hs (hm session hsession hs)
  | sendPing now =>
      exact going_callEstablished h fun session hsession hs => absurd hs (hm session hsession)
  | connectSettles fulfilled =>
      unfold step
      dsimp only
      split
      · unfold connected
        rw [if_pos h.intentional]
        exact going_rest h
      · exact hnothing
  | tokenSettles token =>
      unfold step
      dsimp only
      split
      · rename_i options hstage hoptions
        unfold startSession
        split
        · exact going_rest h
        · rename_i session hsession
          exact absurd hsession (hm hstage options session hoptions)
      · exact hnothing
  | message now frame =>
      unfold step
      dsimp only
      split
      · rename_i session options hstage hsession _
        split
        · exact going_same h (by simp [ClientEffect.IsFinal])
        · rename_i frame
          obtain ⟨honly, hends⟩ := stretch_receive o.runtime (callbacks options) now frame session
          refine (going_call h (honly fun hs ts => ?_)).also fun hgone => going_receives hgone hends
          exact fun heq => hm hstage session hsession hs ts (congrArg some heq)
      · exact hnothing
  | ends now =>
      unfold step
      dsimp only
      split
      · unfold finish
        rw [if_pos h.intentional]
        exact going_rest h
      · exact hnothing
  | sessionSettles token =>
      have hanswer : ∀ action, c.stage.action = some action →
          action = .refreshAuthToken → answer o token action = none := by
        rintro action hstage rfl
        exact hm hstage
      unfold step
      dsimp only
      split
      · rename_i action resume session hstage _
        obtain ⟨honly, hends⟩ := (h.tame action resume (.inl hstage)).stretch
          (answer o token action) session
        exact (going_call h (honly (hanswer action (by rw [hstage]; rfl)))).also
          fun hgone => going_starts hgone hends
      · rename_i action resume session hstage _
        obtain ⟨honly, hends⟩ := (h.tame action resume (.inr hstage)).stretch
          (answer o token action) session
        exact (going_call h (honly (hanswer action (by rw [hstage]; rfl)))).also
          fun hgone => going_receives hgone hends
      · exact hnothing
  | closeSettles =>
      unfold step
      dsimp only
      split
      · exact going_rest h
      · exact hnothing
  | timerFires made =>
      unfold step
      dsimp only
      split
      · rename_i hstage
        exact absurd hstage h.timer
      · exact hnothing

theorem going_run (ms : List StreamClientMove) (h : c.Gone) (hms : Along o (Quiet o) c ms) :
    Going (c.run o ms) := by
  have hrun : (c.run o ms).1.Gone ∧ ∀ effect ∈ [] ++ (c.run o ms).2, effect.IsFinal := by
    refine run_keeps (I := fun c effects => c.Gone ∧ ∀ effect ∈ effects, effect.IsFinal)
      (fun m hc hm => ?_) ms ⟨h, fun effect heffect => absurd heffect List.not_mem_nil⟩ hms
    obtain ⟨hgone, hfinal⟩ := going_step hc.1 hm
    exact ⟨hgone, List.forall_mem_append.mpr ⟨hc.2, hfinal⟩⟩
  exact hrun

theorem tame_run (ms : List StreamClientMove) (h : c.Tame) : (c.run o ms).1.Tame :=
  @run_always _ _ _ _ (fun c _ => c.Tame) (fun m hc => tame_step hc m) ms c [] h

end Steps

/-- **`disconnect` is final.**  Whatever has happened before it, no session is started and no
frame but a close is handed to a socket, if the moves behind it are quiet. -/
theorem disconnect_is_final (o : StreamClientOptions) (before after : List StreamClientMove)
    (hafter : Along o (Quiet o) ((run o {} before).1.disconnect o).1 after) :
    ∀ effect ∈ ((run o {} before).1.run o (.disconnect :: after)).2, effect.IsFinal := by
  have htame : (run o {} before).1.Tame := by
    refine tame_run before ?_
    rintro action resume (h | h) <;> cases h
  exact ((going_disconnect htame).also fun hgone => going_run after hgone hafter).2

/-! ### Examples -/

/-- A client that uploads messages. -/
def uploadClientOptions : StreamClientOptions where
  runtime := uploadLink.runtime
  serializes := fun _ => true

def uploadOptions : ConnectOptions where
  token := utf16 "t"
  streams := uploads
  getToken := true

/-- A connection is opened, and a session started over it. -/
def openedUpload : List StreamClientMove :=
  [.connect (utf16 "wss://a") uploadOptions true, .connectSettles true, .sessionSettles none]

def uploadAck : CulpeoMessage :=
  .initAck { sessionId := utf16 "a" }
    { version := utf16 "0.3"
      streams := [{ contentType := utf16 "text/plain", type := .input, offsetType := .message
                    id := utf16 "aa" }] }

/-- The first connection has failed, and the token is being refreshed for the second one. -/
def refreshingUpload : List StreamClientMove :=
  [.connect (utf16 "wss://a") uploadOptions true, .connectSettles false, .timerFires true,
    .connectSettles true]

/-- An established session is disconnected; a ping is on its way. -/
theorem disconnect_is_final_example :
    ((run uploadClientOptions {} (openedUpload ++ [.message 0 (some uploadAck)])).1.run
      uploadClientOptions [.disconnect, .message 1 (some (.ping 0)), .ends 2]).2 ≠ [] ∧
    ∀ effect ∈ ((run uploadClientOptions {} (openedUpload ++ [.message 0 (some uploadAck)])).1.run
      uploadClientOptions [.disconnect, .message 1 (some (.ping 0)), .ends 2]).2,
        effect.IsFinal := by
  refine ⟨by decide, ?_⟩
  refine disconnect_is_final uploadClientOptions _ [.message 1 (some (.ping 0)), .ends 2]
    ⟨fun _ session hsession hs => ?_, trivial, trivial⟩
  have hclosed : ((run uploadClientOptions {}
      (openedUpload ++ [.message 0 (some uploadAck)])).1.disconnect
        uploadClientOptions).1.session.map Session.stateValue = some .closed := by decide
  rw [hsession, Option.map_some, hs] at hclosed
  cases hclosed

/-- A session is started when the token comes after `disconnect`, and a ping is answered when
the init-ack does. -/
theorem disconnect_is_not_final :
    (¬ ∀ effect ∈ ((run uploadClientOptions {} refreshingUpload).1.run uploadClientOptions
      [.disconnect, .tokenSettles (some (utf16 "u"))]).2, effect.IsFinal) ∧
    ¬ ∀ effect ∈ ((run uploadClientOptions {} openedUpload).1.run uploadClientOptions
      [.disconnect, .message 0 (some uploadAck), .message 1 (some (.ping 0))]).2,
        effect.IsFinal := by
  constructor
  · intro h
    exact h .starts (by decide)
  · intro h
    have hfinal : Output.isClose (.send (.pong 0 1)) = true :=
      h (.hands 0 (.pong 0 1)) (by decide)
    cases hfinal

end StreamClient

end CulpeoStream.Typescript
