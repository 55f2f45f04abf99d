import CulpeoStream.Lib.Challenges
import CulpeoStream.Typescript.Contracts

/-!
# Auth challenges of the TypeScript server

`pendingAuthNonce` holds the nonce of the last challenge.  `requestAuthRefresh` sets it
whatever it holds, so a challenge that has not been answered is forgotten.  As long as it is
called only when no challenge is pending, there is one challenge at a time, and the nonce
that is not yet answered is the one that is held (`challenged_run`).
-/

namespace CulpeoStream.Typescript

open Challenges Message Utf16 EventLoop
open Resumption (Prog Contract)

/-- The nonce of a challenge that is sent. -/
def Output.challenge : Output → Option Text
  | .send (.authRefresh nonce) => some nonce
  | _ => none

/-! ### Calls that are no part of a challenge -/

/-- The contract of every call but `requestAuthRefresh` and the receipt of an auth-response,
from its first `await` for nothing on. -/
def unrelated : Contract Session Output (Option Text) where
  inv _ := True
  rel s t := t.pendingAuthNonce = s.pendingAuthNonce
  out o := o.challenge = none ∧ o ≠ .turn
  ans _ _ := True

theorem lenient_unrelated : Lenient unrelated where
  inv _ := trivial
  rel _ _ hnonce _ := hnonce
  close _ _ := ⟨rfl, by simp⟩
  notify _ _ := ⟨rfl, by simp⟩
  onRtt _ _ _ := ⟨rfl, by simp⟩

theorem unrelated_fail (e : CulpeoError) : (fail e).Meets unrelated := trivial

/-- A critical section that leaves the challenge as it is. -/
theorem holds_unrelated {s t : Session} (hnonce : t.pendingAuthNonce = s.pendingAuthNonce)
    {next : Rest} (h : next.Meets unrelated) : unrelated.Holds s (t, next) :=
  ⟨trivial, hnonce, h⟩

theorem unrelated_handleInit (options : ServerSessionOptions) (callbacks : Callbacks) (now : ℤ)
    (headers : InitHeaders) (body : InitBody) (s : Session) :
    unrelated.Holds s (handleInit options callbacks now headers body s) :=
  lenient_unrelated.holds_handleInit (fun _ _ => ⟨rfl, by simp⟩) (fun _ _ => ⟨rfl, by simp⟩)
    (fun _ => ⟨rfl, by simp⟩) callbacks now body s

/-- A frame at a server, unless an established session gets an auth-response. -/
theorem unrelated_serverFrame (rt : Runtime) (options : ServerSessionOptions)
    (callbacks : Callbacks) (now : ℤ) {frame : CulpeoMessage} {s : Session}
    (hframe : s.stateValue = .established →
      ∀ authorization nonce, frame ≠ .authResponse authorization nonce) :
    unrelated.Holds s (serverFrame rt options callbacks now frame s) := by
  unfold serverFrame
  split
  · exact holds_unrelated rfl (unrelated_fail _)
  · exact unrelated_handleInit options callbacks now _ _ s
  · exact holds_unrelated rfl (lenient_unrelated.meets_failWithClose _ _)
  · exact holds_unrelated rfl (lenient_unrelated.meets_failWithClose _ _)
  · rename_i hestablished
    unfold serverEstablished
    split
    · exact lenient_unrelated.holds_handleMedia rt callbacks _ _ s
    · exact lenient_unrelated.holds_handleIncomingPing now _ s fun _ _ => ⟨rfl, by simp⟩
    · exact lenient_unrelated.holds_handlePong callbacks now _ _ s
    · exact absurd rfl (hframe hestablished _ _)
    · exact holds_unrelated rfl (lenient_unrelated.meets_handleClose callbacks _ _)
    · exact holds_unrelated rfl (lenient_unrelated.meets_failWithClose _ _)
    · exact holds_unrelated rfl (lenient_unrelated.meets_failWithClose _ _)
    · exact holds_unrelated rfl (lenient_unrelated.meets_failWithClose _ _)
    · exact holds_unrelated rfl (lenient_unrelated.meets_failWithClose _ _)
    · exact lenient_unrelated.holds_handleApplication callbacks _ s

/-! ### Runs -/

abbrev SuspendedCall := Suspended Session Output (Option Text) Result ServerEntry

/-- The challenge that a suspended call answers when it goes on: an established session has
got an auth-response with a credential. -/
def answeredBy (w : SuspendedCall) (s : Session) : Option Text :=
  match w.call, w.action with
  | .receive _ (.authResponse authorization nonce), .turn =>
      if s.stateValue = .established ∧ !(trim authorization).isEmpty then some nonce else none
  | _, _ => none

/-- The nonce that a move sees answered. -/
def answeredIn (l : SessionLoop ServerEntry) : SessionMove ServerEntry → Option Text
  | .enter _ => none
  | .settle i _ => l.suspended[i]?.bind fun w => answeredBy w l.state

/-- What a move means for the challenges: one that is answered, and those that are sent. -/
def challengeMarks (o : LinkOptions) (l : SessionLoop ServerEntry)
    (m : SessionMove ServerEntry) : List (Mark Text) :=
  (answeredIn l m).toList.map .answered ++
    (((step instant (ServerEntry.program o) l m).trace.drop l.trace.length).filterMap
      Output.challenge).map .issued

/-- On an established session, a challenge is requested only when none is pending. -/
def AsksWhenAnswered (l : SessionLoop ServerEntry) : SessionMove ServerEntry → Prop
  | .enter (.call (.requestAuthRefresh _)) =>
      l.state.stateValue = .established → l.state.pendingAuthNonce = none
  | _ => True

/-- A receipt that awaits the start of its work on a frame. -/
def receipt (o : LinkOptions) (now : ℤ) (frame : CulpeoMessage) : SuspendedCall :=
  ⟨.receive now frame, .turn, fun _ =>
    .critical (serverFrame o.runtime o.options o.server now frame)⟩

/-- The receipt of an auth-response. -/
def Responds (o : LinkOptions) (w : SuspendedCall) : Prop :=
  ∃ now authorization nonce, w = receipt o now (.authResponse authorization nonce)

/-- A call that has nothing to do with challenges. -/
structure StandsBy (w : SuspendedCall) : Prop where
  meets : ∀ a, (w.resume a).Meets unrelated
  answers : ∀ s, answeredBy w s = none

/-- The open nonces are the pending one, and the calls are as they should be. -/
structure Challenged (o : LinkOptions) (l : SessionLoop ServerEntry) (nonces : List Text) :
    Prop where
  current : nonces = l.state.pendingAuthNonce.toList
  waits : ∀ w ∈ l.suspended, StandsBy w ∨ Responds o w

section Run

variable {o : LinkOptions} {l : SessionLoop ServerEntry} {nonces : List Text}

theorem challengeMarks_enter {c : ServerEntry} :
    challengeMarks o l (.enter c) =
      ((stretch instant (c.program o) l.state).actions.filterMap Output.challenge).map
        .issued := by
  unfold challengeMarks
  rw [step, advance, List.drop_left]
  rfl

theorem challengeMarks_settle {i : ℕ} {a : Option Text} {w : SuspendedCall}
    (hw : l.suspended[i]? = some w) :
    challengeMarks o l (.settle i a) = (answeredBy w l.state).toList.map .answered ++
      ((stretch instant (w.resume a) l.state).actions.filterMap Output.challenge).map
        .issued := by
  unfold challengeMarks
  simp only [step, hw, advance, List.drop_left, answeredIn, Option.bind_some]

/-- A call takes a stretch after which the pending nonce is the open one. -/
theorem challenged_advance {c : ServerEntry} {p : Rest}
    (hwaits : ∀ w ∈ l.suspended, StandsBy w ∨ Responds o w)
    (hcurrent : nonces = (stretch instant p l.state).state.pendingAuthNonce.toList)
    (hnew : ∀ action resume, (stretch instant p l.state).outlook = .awaits action resume →
      StandsBy ⟨c, action, resume⟩ ∨ Responds o ⟨c, action, resume⟩) :
    Challenged o (advance instant l c p) nonces := by
  refine ⟨hcurrent, fun w hw => ?_⟩
  rcases List.mem_append.mp hw with hold | hstretch
  · exact hwaits w hold
  · cases houtlook : (stretch instant p l.state).outlook with
    | returned result =>
        rw [houtlook] at hstretch
        cases hstretch
    | awaits action resume =>
        rw [houtlook, List.mem_singleton] at hstretch
        rw [hstretch]
        exact hnew action resume houtlook

theorem answeredBy_of_ne_turn {w : SuspendedCall} (h : w.action ≠ .turn) (s : Session) :
    answeredBy w s = none := by
  unfold answeredBy
  split
  · rename_i hturn
    exact absurd hturn h
  · rfl

/-- **A stretch of an unrelated call.** -/
theorem unrelated_stretch {p : Rest} (hp : p.Meets unrelated) (c : ServerEntry) (s : Session) :
    (stretch instant p s).state.pendingAuthNonce = s.pendingAuthNonce ∧
      (stretch instant p s).actions.filterMap Output.challenge = [] ∧
      ∀ action resume, (stretch instant p s).outlook = .awaits action resume →
        StandsBy ⟨c, action, resume⟩ := by
  obtain ⟨-, hnonce, hactions, hawaits⟩ := stretch_meets instant (K := unrelated)
    (fun _ _ _ => trivial) (fun _ => rfl) (fun _ _ _ h h' => Eq.trans h' h) hp (s := s) trivial
  refine ⟨hnonce, List.filterMap_eq_nil_iff.mpr fun out hout => (hactions out hout).1, ?_⟩
  intro action resume houtlook
  obtain ⟨hout, hmeets⟩ := hawaits action resume houtlook
  exact ⟨fun a => hmeets a trivial, answeredBy_of_ne_turn hout.2⟩

/-- A move keeps the nonces in step, and issues no challenge over an open one. -/
def KeepsStep (o : LinkOptions) (nonces : List Text) (ms : List (Mark Text))
    (l : SessionLoop ServerEntry) : Prop :=
  Single nonces ms ∧ Challenged o l (opened nonces ms)

theorem keepsStep_unrelated (h : Challenged o l nonces) {c : ServerEntry} {p : Rest}
    (hp : p.Meets unrelated) :
    KeepsStep o nonces
      (((stretch instant p l.state).actions.filterMap Output.challenge).map .issued)
      (advance instant l c p) := by
  obtain ⟨hnonce, hactions, hawaits⟩ := unrelated_stretch hp c l.state
  rw [hactions]
  refine ⟨trivial, challenged_advance h.waits ?_ fun action resume houtlook => ?_⟩
  · rw [hnonce]
    exact h.current
  · exact .inl (hawaits action resume houtlook)

/-- The timeout check lets the call go on, or closes. -/
theorem stretch_checkTimeouts (options : ServerSessionOptions) (now : ℤ) (next : Rest)
    (s : Session) :
    stretch instant (checkTimeouts options now next) s = stretch instant next s ∨
      stretch instant (checkTimeouts options now next) s =
        stretch instant
          (failWithClose .authExpired (utf16 "Authentication challenge timed out.")) s := by
  unfold checkTimeouts
  rw [stretch_critical]
  split
  · split
    · exact .inr rfl
    · exact .inl rfl
  · exact .inl rfl

/-- **A frame is received**: the timeout check, and an `await`. -/
theorem keepsStep_receive (h : Challenged o l nonces) (now : ℤ) (frame : CulpeoMessage) :
    KeepsStep o nonces (challengeMarks o l (.enter (.receive now frame)))
      (step instant (ServerEntry.program o) l (.enter (.receive now frame))) := by
  rw [challengeMarks_enter]
  change KeepsStep o nonces _ (advance instant l _ (serverReceive _ _ _ now frame))
  have hwaits : StandsBy (receipt o now frame) ∨ Responds o (receipt o now frame) := by
    by_cases hframe : ∀ authorization nonce, frame ≠ .authResponse authorization nonce
    · refine .inl ⟨fun _ => Prog.meets_critical fun s _ => ?_, fun s => ?_⟩
      · exact unrelated_serverFrame o.runtime o.options o.server now fun _ => hframe
      · unfold answeredBy
        split
        · rename_i hcall _
          cases hcall
          exact absurd rfl (hframe _ _)
        · rfl
    · push Not at hframe
      obtain ⟨authorization, nonce, rfl⟩ := hframe
      exact .inr ⟨now, authorization, nonce, rfl⟩
  rcases stretch_checkTimeouts o.options now
    (.call .turn fun _ => .critical (serverFrame o.runtime o.options o.server now frame))
    l.state with hgoes | hcloses
  · have hstretch : stretch instant
        (ServerEntry.program o (.receive now frame)) l.state = ⟨l.state, [.turn], .awaits .turn
          fun _ => .critical (serverFrame o.runtime o.options o.server now frame)⟩ := hgoes
    rw [hstretch]
    refine ⟨trivial, challenged_advance h.waits ?_ fun action resume houtlook => ?_⟩
    · exact h.current.trans (by rw [serverReceive, hgoes]; rfl)
    · rw [serverReceive, hgoes] at houtlook
      cases houtlook
      exact hwaits
  · have hstretch : stretch instant (ServerEntry.program o (.receive now frame)) l.state = _ :=
      hcloses
    rw [hstretch, serverReceive, advance_congr instant hcloses]
    exact keepsStep_unrelated h (lenient_unrelated.meets_failWithClose _ _)

theorem keepsStep_requestAuthRefresh (h : Challenged o l nonces) (now : ℤ)
    (hm : l.state.stateValue = .established → l.state.pendingAuthNonce = none) :
    KeepsStep o nonces (challengeMarks o l (.enter (.call (.requestAuthRefresh now))))
      (step instant (ServerEntry.program o) l (.enter (.call (.requestAuthRefresh now)))) := by
  rw [challengeMarks_enter]
  change KeepsStep o nonces
    (((stretch instant (requestAuthRefresh o.options now) l.state).actions.filterMap
      Output.challenge).map .issued)
    (advance instant l _ (requestAuthRefresh o.options now))
  by_cases hestablished : l.state.stateValue = .established
  · have hnone : nonces = [] := h.current.trans (by rw [hm hestablished]; rfl)
    have hstretch : stretch instant (requestAuthRefresh o.options now) l.state =
        stretch instant
          (dispatch (.authRefresh (o.options.generateId l.state.generated)) done)
          { l.state with
            generated := l.state.generated + 1
            pendingAuthNonce := some (o.options.generateId l.state.generated)
            authChallengeIssuedAt := some now } := by
      unfold requestAuthRefresh
      rw [stretch_critical, if_neg (not_not.mpr hestablished)]
    rw [hstretch]
    refine ⟨⟨hnone, trivial⟩, challenged_advance h.waits ?_ fun action resume houtlook => ?_⟩
    · rw [hstretch, hnone]
      rfl
    · rw [hstretch] at houtlook
      cases houtlook
      refine .inl ⟨fun a => ?_, answeredBy_of_ne_turn (by simp)⟩
      cases a <;> trivial
  · have hstretch : stretch instant (requestAuthRefresh o.options now) l.state =
        stretch instant (fail notEstablished) l.state := by
      unfold requestAuthRefresh
      rw [stretch_critical, if_pos hestablished]
    rw [hstretch, advance_congr instant hstretch]
    exact keepsStep_unrelated h (unrelated_fail _)

theorem answeredBy_receipt {now : ℤ} {authorization nonce : Text} (s : Session) :
    answeredBy (receipt o now (.authResponse authorization nonce)) s =
      if s.stateValue = .established ∧ !(trim authorization).isEmpty then some nonce else none :=
  rfl

/-- An answer to another challenge leaves the pending one open. -/
theorem opened_answered_of_ne {pending : Option Text} {nonce : Text} (h : pending ≠ some nonce) :
    opened pending.toList [.answered nonce] = pending.toList := by
  cases pending with
  | none => rfl
  | some n =>
      have hne : n ≠ nonce := fun heq => h (congrArg some heq)
      simp [opened, Mark.apply, hne]

/-- Marks that come first and open nothing. -/
theorem KeepsStep.after {ms ms' : List (Mark Text)} {l' : SessionLoop ServerEntry}
    (hsingle : Single nonces ms) (hopened : opened nonces ms = nonces)
    (h : KeepsStep o nonces ms' l') : KeepsStep o nonces (ms ++ ms') l' := by
  refine ⟨single_append hsingle ?_, ?_⟩
  · rw [hopened]
    exact h.1
  · rw [opened_append, hopened]
    exact h.2

theorem stretch_authResponse {now : ℤ} {authorization nonce : Text} {s : Session}
    (hs : s.stateValue = .established) :
    stretch instant (.critical
        (serverFrame o.runtime o.options o.server now (.authResponse authorization nonce))) s =
      stretch instant (handleAuthResponse authorization nonce s).2
        (handleAuthResponse authorization nonce s).1 := by
  rw [stretch_critical]
  unfold serverFrame
  rw [hs]
  rfl

/-- An auth-response outside of an established session. -/
theorem serverFrame_refuses (o : LinkOptions) (now : ℤ) (authorization nonce : Text)
    {s : Session} (hs : s.stateValue ≠ .established) :
    ∃ p : Rest, p.Meets unrelated ∧
      serverFrame o.runtime o.options o.server now (.authResponse authorization nonce) s =
        (s, p) := by
  unfold serverFrame
  cases hstate : s.stateValue with
  | closed => exact ⟨_, unrelated_fail _, rfl⟩
  | uninitialized => exact ⟨_, lenient_unrelated.meets_failWithClose _ _, rfl⟩
  | initializing => exact ⟨_, lenient_unrelated.meets_failWithClose _ _, rfl⟩
  | established => exact absurd hstate hs

/-- The pending challenge is answered. -/
theorem keepsStep_accepts (h : Challenged o l nonces) {now : ℤ} {authorization nonce : Text}
    (hs : l.state.stateValue = .established)
    (hmatches : l.state.pendingAuthNonce = some nonce ∧ !(trim authorization).isEmpty)
    (a : Option Text) :
    KeepsStep o nonces
      ([.answered nonce] ++ ((stretch instant
        ((receipt o now (.authResponse authorization nonce)).resume a)
          l.state).actions.filterMap Output.challenge).map .issued)
      (advance instant l (.receive now (.authResponse authorization nonce))
        ((receipt o now (.authResponse authorization nonce)).resume a)) := by
  have hstretch : stretch instant ((receipt o now (.authResponse authorization nonce)).resume a)
      l.state = ⟨{ l.state with pendingAuthNonce := none, authChallengeIssuedAt := none }, [],
        .returned (.ok ())⟩ := by
    refine (stretch_authResponse hs).trans ?_
    rw [handleAuthResponse, if_pos hmatches]
    rfl
  rw [hstretch]
  refine ⟨trivial, challenged_advance h.waits ?_ fun action resume houtlook => ?_⟩
  · rw [hstretch, h.current, hmatches.1]
    simp [opened, Mark.apply]
  · rw [hstretch] at houtlook
    cases houtlook

/-- **An auth-response is taken up.** -/
theorem keepsStep_responds (h : Challenged o l nonces) (now : ℤ) (authorization nonce : Text)
    (a : Option Text) :
    KeepsStep o nonces
      ((answeredBy (receipt o now (.authResponse authorization nonce)) l.state).toList.map
          .answered ++
        ((stretch instant ((receipt o now (.authResponse authorization nonce)).resume a)
          l.state).actions.filterMap Output.challenge).map .issued)
      (advance instant l (.receive now (.authResponse authorization nonce))
        ((receipt o now (.authResponse authorization nonce)).resume a)) := by
  rw [answeredBy_receipt]
  by_cases hs : l.state.stateValue = .established
  · by_cases hmatches : l.state.pendingAuthNonce = some nonce ∧ !(trim authorization).isEmpty
    · rw [if_pos ⟨hs, hmatches.2⟩]
      exact keepsStep_accepts h hs hmatches a
    · have hstretch : stretch instant
          ((receipt o now (.authResponse authorization nonce)).resume a) l.state =
          stretch instant
            (failWithClose .unauthorized (utf16 "Authentication challenge failed.")) l.state := by
        refine (stretch_authResponse hs).trans ?_
        rw [handleAuthResponse, if_neg hmatches]
      rw [hstretch, advance_congr instant hstretch]
      refine (keepsStep_unrelated h (lenient_unrelated.meets_failWithClose _ _)).after ?_ ?_
      · split <;> trivial
      · split
        · rename_i hcredential
          rw [h.current]
          exact opened_answered_of_ne fun hnonce => hmatches ⟨hnonce, hcredential.2⟩
        · rfl
  · rw [if_neg fun hcredential => hs hcredential.1]
    obtain ⟨p, hp, hframe⟩ := serverFrame_refuses o now authorization nonce hs
    have hstretch : stretch instant
        ((receipt o now (.authResponse authorization nonce)).resume a) l.state =
        stretch instant p l.state := by
      change stretch instant (.critical _) l.state = _
      rw [stretch_critical, hframe]
    rw [hstretch, advance_congr instant hstretch]
    exact keepsStep_unrelated h hp

/-- **One move.** -/
theorem challenged_step (h : Challenged o l nonces) {m : SessionMove ServerEntry}
    (hm : AsksWhenAnswered l m) :
    KeepsStep o nonces (challengeMarks o l m) (step instant (ServerEntry.program o) l m) := by
  cases m with
  | enter c =>
      cases c with
      | receive now frame => exact keepsStep_receive h now frame
      | call c =>
          cases c with
          | requestAuthRefresh now => exact keepsStep_requestAuthRefresh h now hm
          | sendMedia streamId body timestamp =>
              rw [challengeMarks_enter]
              exact keepsStep_unrelated h
                (lenient_unrelated.meets_sendMedia _ streamId body timestamp
                  fun _ => ⟨rfl, by simp⟩)
          | sendEvent event body streamId =>
              rw [challengeMarks_enter]
              exact keepsStep_unrelated h
                (lenient_unrelated.meets_sendEvent event body streamId fun _ => ⟨rfl, by simp⟩)
          | sendPing now =>
              rw [challengeMarks_enter]
              exact keepsStep_unrelated h
                (lenient_unrelated.meets_sendPing now fun _ => ⟨rfl, by simp⟩)
          | close code reason =>
              rw [challengeMarks_enter]
              exact keepsStep_unrelated h (lenient_unrelated.meets_close code reason trivial)
          | checkTimeouts now =>
              rw [challengeMarks_enter]
              exact keepsStep_unrelated h
                (lenient_unrelated.meets_checkTimeouts o.options now trivial)
  | settle i a =>
      cases hw : l.suspended[i]? with
      | none =>
          have hmarks : challengeMarks o l (.settle i a) = [] := by
            simp [challengeMarks, answeredIn, step, hw]
          rw [hmarks, step, hw]
          exact ⟨trivial, h⟩
      | some w =>
          rw [challengeMarks_settle hw, step, hw]
          have hrest : Challenged o { l with suspended := l.suspended.eraseIdx i } nonces :=
            ⟨h.current, fun v hv => h.waits v (List.mem_of_mem_eraseIdx hv)⟩
          rcases h.waits w (List.mem_of_getElem? hw) with hstands | ⟨now, authorization, nonce, rfl⟩
          · rw [hstands.answers]
            exact keepsStep_unrelated hrest (hstands.meets a)
          · exact keepsStep_responds hrest now authorization nonce a

/-- **Runs.**  One challenge at a time, and the one that is open is the pending one. -/
theorem challenged_run (o : LinkOptions) {moves : List (SessionMove ServerEntry)}
    (hmoves : Along instant (ServerEntry.program o) AsksWhenAnswered { state := .createServer }
      moves) :
    Single [] (marks (step instant (ServerEntry.program o)) (challengeMarks o)
        { state := .createServer } moves) ∧
      Challenged o (runServer o { state := .createServer } moves)
        (opened [] (marks (step instant (ServerEntry.program o)) (challengeMarks o)
          { state := .createServer } moves)) := by
  obtain ⟨hsingle, hkept, -⟩ := marks_induction
    (I := fun l nonces ms => Challenged o l nonces ∧
      Along instant (ServerEntry.program o) AsksWhenAnswered l ms)
    (fun l nonces m ms h => ⟨(challenged_step h.1 h.2.1).1, (challenged_step h.1 h.2.1).2, h.2.2⟩)
    moves ⟨⟨rfl, fun w hw => absurd hw List.not_mem_nil⟩, hmoves⟩
  exact ⟨hsingle, hkept⟩

end Run

end CulpeoStream.Typescript
