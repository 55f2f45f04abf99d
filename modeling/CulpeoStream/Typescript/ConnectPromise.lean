import CulpeoStream.Typescript.Disconnect

/-!
# The promise of `connect`

`pendingConnect` is settled by the init-ack, by an init-error, by a `session.start` that throws
and by the last attempt that fails.  A run of `runConnection` that returns for the intent flag,
or that ends in an exception of its own, does not look at it, and neither does `disconnect`
when it takes the timer away.

`Heard` is the condition on moves that excludes these ends, and under it the promise is
settled when the thread is at rest (`connect_settles`).
-/

namespace CulpeoStream.Typescript

open Message Utf16 EventLoop Reactions

/-- The stages at which the promise is not pending. -/
def Stage.Over : Stage → Prop
  | .idle | .tearingDown => True
  | _ => False

namespace StreamClient

/-- The constructor of a session accepts the streams. -/
def Accepted (options : ConnectOptions) : Prop :=
  ∃ session, Session.createClient options.streams (options.version.getD (utf16 "0.3")) =
    .ok session

/-- The moves that do not end a run of `runConnection` while the promise is pending, except
where the code settles it. -/
def Heard (o : StreamClientOptions) (c : StreamClient) : StreamClientMove → Prop
  | .connect url options made =>
      c.connectUrl = none → validateUrl o.runtime url options.allowInsecure = true → made = true
  | .disconnect => c.stage = .waiting → c.pendingConnect = false
  | .connectSettles fulfilled => c.stage = .connecting → c.pendingConnect = true →
      c.intentionalDisconnect = false ∧
        ∀ options, c.connectOptions = some options → fulfilled = true →
          (0 < c.reconnectAttempt && options.getToken) = false → Accepted options
  | .tokenSettles _ => c.stage = .refreshing → c.pendingConnect = true →
      ∀ options, c.connectOptions = some options → Accepted options
  | .ends _ => c.stage = .reading → c.pendingConnect = true → c.intentionalDisconnect = false
  | .timerFires made => c.stage = .waiting → c.pendingConnect = true → made = true
  | .sendMedia _ _ | .sendEvent _ _ _ | .sendPing _ | .message _ _ | .sessionSettles _
  | .closeSettles => True

/-- What is kept: the promise is pending from `connect` on until it is settled, and it is not
pending when the thread is over. -/
structure Promised (c : StreamClient) (effects : List ClientEffect) : Prop where
  called : c.connectUrl.isSome = true → c.pendingConnect = true ∨ Settled effects
  rests : c.stage.Over → c.pendingConnect = false

/-- A reaction that keeps it. -/
structure Answers (c : StreamClient) (r : ClientReaction) : Prop where
  connectUrl : r.1.connectUrl = c.connectUrl
  pending : c.pendingConnect = true → r.1.pendingConnect = true ∨ Settled r.2
  rests : r.1.stage.Over → r.1.pendingConnect = false

section Steps

variable {o : StreamClientOptions} {c : StreamClient} {effects : List ClientEffect}

theorem Answers.promised {r : ClientReaction} (h : Answers c r) (hc : Promised c effects) :
    Promised r.1 (effects ++ r.2) where
  called hurl := by
    rw [h.connectUrl] at hurl
    rcases hc.called hurl with hpending | hsettled
    · exact (h.pending hpending).imp id Settled.append_right
    · exact .inr hsettled.append_left
  rests := h.rests

theorem Notified.answers {r : ClientReaction} (h : Notified c r)
    (hrests : c.stage.Over → c.pendingConnect = false) : Answers c r where
  connectUrl := h.connectUrl
  pending := h.pending
  rests hover := h.settled (hrests (by rwa [h.stage] at hover))

theorem Answers.notified {c' : StreamClient} {r : ClientReaction} (h : Answers c (c', []))
    (hr : Notified c' r) : Answers c r where
  connectUrl := hr.connectUrl.trans h.connectUrl
  pending hpending := (h.pending hpending).elim hr.pending fun hsettled =>
    hsettled.elim (absurd · List.not_mem_nil) (absurd · List.not_mem_nil)
  rests hover := hr.settled (h.rests (by rwa [hr.stage] at hover))

theorem Notified.then {r : ClientReaction} {next : StreamClient → ClientReaction}
    (h : Notified c r)
    (hnext : Answers r.1 (next r.1)) : Answers c (r.also next) where
  connectUrl := hnext.connectUrl.trans h.connectUrl
  pending hpending := by
    rcases h.pending hpending with hpending | hsettled
    · exact (hnext.pending hpending).imp id Settled.append_right
    · exact .inr hsettled.append_left
  rests := hnext.rests

theorem answers_same (h : c.stage.Over → c.pendingConnect = false)
    (effects : List ClientEffect) : Answers c (c, effects) :=
  (Notified.refl c effects).answers h

/-- A move of the thread to an `await`. -/
theorem answers_stage {stage : Stage} (h : ¬ stage.Over) (effects : List ClientEffect) :
    Answers c ({ c with stage := stage }, effects) :=
  ⟨rfl, .inl, fun hover => absurd hover h⟩

theorem answers_rest (h : c.pendingConnect = false) : Answers c c.rest where
  connectUrl := rfl
  pending hpending := by rw [h] at hpending; cases hpending
  rests _ := h

theorem answers_openConnection {made : Bool} (h : c.pendingConnect = true → made = true) :
    Answers c (c.openConnection made) := by
  unfold openConnection
  split
  · exact ⟨rfl, .inl, fun hover => absurd hover id⟩
  · rename_i hmade
    exact answers_rest (Bool.eq_false_iff.mpr fun hpending => hmade (h hpending))

/-- The last attempt rejects. -/
theorem answers_scheduleReconnect : Answers c c.scheduleReconnect := by
  unfold scheduleReconnect
  split
  · refine ⟨rfl, fun hpending => .inr (.inr ?_), fun _ => rfl⟩
    rw [if_pos hpending]
    exact List.mem_cons_self
  · exact ⟨rfl, .inl, fun hover => absurd hover id⟩

theorem answers_receives (outlook : Outlook Session Output (Option Text) Result) :
    Answers c (c.receives outlook) := by
  unfold receives
  split <;> exact answers_stage id _

/-- A `session.start` that throws rejects. -/
theorem answers_starts (outlook : Outlook Session Output (Option Text) Result) :
    Answers c (c.starts outlook) := by
  unfold starts
  split
  · exact answers_stage id _
  · refine ⟨rfl, fun hpending => .inr (.inr ?_), fun _ => rfl⟩
    rw [if_pos hpending]
    exact List.mem_cons_self
  · exact answers_stage id _

theorem answers_startSession {options : ConnectOptions} {authorization : Text}
    (h : c.pendingConnect = true → Accepted options) :
    Answers c (c.startSession o options authorization) := by
  unfold startSession
  split
  · rename_i failure hfailure
    refine answers_rest (Bool.eq_false_iff.mpr fun hpending => ?_)
    obtain ⟨session, hsession⟩ := h hpending
    rw [hfailure] at hsession
    cases hsession
  · rename_i session hsession
    have hstarts : Notified c ({ c with sessionSocket := c.attemptSocket }, [.starts]) :=
      ⟨rfl, rfl, id, .inl, id⟩
    exact hstarts.then ((notified_call o _ session _).then (answers_starts _))

theorem answers_connected {options : ConnectOptions} {fulfilled : Bool}
    (h : c.pendingConnect = true → c.intentionalDisconnect = false ∧ (fulfilled = true →
      (0 < c.reconnectAttempt && options.getToken) = false → Accepted options)) :
    Answers c (c.connected o options fulfilled) := by
  unfold connected
  split
  · rename_i hintentional
    refine answers_rest (Bool.eq_false_iff.mpr fun hpending => ?_)
    rw [(h hpending).1] at hintentional
    cases hintentional
  · split
    · exact answers_scheduleReconnect
    · rename_i hfulfilled
      split
      · exact answers_stage id _
      · rename_i hrefresh
        refine answers_startSession fun hpending => (h hpending).2 ?_ ?_
        · simpa using hfulfilled
        · exact Bool.eq_false_iff.mpr hrefresh

theorem answers_finish {now : ℤ}
    (h : c.pendingConnect = true → c.intentionalDisconnect = false) :
    Answers c (c.finish now) := by
  unfold finish
  split
  · rename_i hintentional
    refine answers_rest (Bool.eq_false_iff.mpr fun hpending => ?_)
    rw [h hpending] at hintentional
    cases hintentional
  · split
    · exact answers_scheduleReconnect
    · split
      · exact answers_scheduleReconnect
      · rename_i snapshot _
        have hnext := @answers_scheduleReconnect { c with snapshot := some snapshot }
        exact ⟨hnext.connectUrl, hnext.pending, hnext.rests⟩

theorem answers_callEstablished (h : c.stage.Over → c.pendingConnect = false) (p : Rest) :
    Answers c (c.callEstablished o p) :=
  (notified_callEstablished o c p).answers h

/-- `disconnect` takes the timer away. -/
theorem answers_disconnect (h : c.stage.Over → c.pendingConnect = false)
    (hwaiting : c.stage = .waiting → c.pendingConnect = false) :
    Answers c (c.disconnect o) := by
  unfold disconnect
  refine Answers.notified ?_ ((notified_callEstablished o _ _).also ⟨rfl, rfl, id, .inl, id⟩)
  refine ⟨rfl, .inl, fun hover => ?_⟩
  dsimp only at hover
  split at hover
  · rename_i hwait
    exact hwaiting hwait
  · exact h hover

/-- **One move** that is heard. -/
theorem promised_step (h : Promised c effects) {m : StreamClientMove} (hm : Heard o c m) :
    Promised (c.step o m).1 (effects ++ (c.step o m).2) := by
  have hnothing : Answers c (c, []) := answers_same h.rests []
  cases m with
  | connect url options made =>
      change Promised (c.connect o url options made).1
        (effects ++ (c.connect o url options made).2)
      unfold connect
      split
      · exact (answers_same h.rests _).promised h
      · rename_i haccepted
        simp only [Bool.or_eq_true, Bool.not_eq_true', not_or, Bool.not_eq_true,
          Bool.not_eq_false, Option.isSome_eq_false_iff, Option.isNone_iff_eq_none]
          at haccepted
        rw [hm haccepted.1 haccepted.2]
        exact ⟨fun _ => .inl rfl, fun hover => absurd hover id⟩
  | disconnect => exact (answers_disconnect h.rests hm).promised h
  | sendMedia streamId body => exact (answers_callEstablished h.rests _).promised h
  | sendEvent event body streamId => exact (answers_callEstablished h.rests _).promised h
  | sendPing now => exact (answers_callEstablished h.rests _).promised h
  | connectSettles fulfilled =>
      refine Answers.promised ?_ h
      unfold step
      dsimp only
      split
      · rename_i options hstage hoptions
        exact answers_connected fun hpending =>
          ⟨(hm hstage hpending).1, (hm hstage hpending).2 options hoptions⟩
      · exact hnothing
  | tokenSettles token =>
      refine Answers.promised ?_ h
      unfold step
      dsimp only
      split
      · rename_i options hstage hoptions
        exact answers_startSession fun hpending => hm hstage hpending options hoptions
      · exact hnothing
  | message now frame =>
      refine Answers.promised ?_ h
      unfold step
      dsimp only
      split
      · split
        · exact answers_same h.rests _
        · exact (notified_call o c _ _).then (answers_receives _)
      · exact hnothing
  | ends now =>
      refine Answers.promised ?_ h
      unfold step
      dsimp only
      split
      · rename_i hstage
        exact answers_finish (hm hstage)
      · exact hnothing
  | sessionSettles token =>
      refine Answers.promised ?_ h
      unfold step
      dsimp only
      split
      · exact (notified_call o c _ _).then (answers_starts _)
      · exact (notified_call o c _ _).then (answers_receives _)
      · exact hnothing
  | closeSettles =>
      refine Answers.promised ?_ h
      unfold step
      dsimp only
      split
      · rename_i hstage
        exact answers_rest (h.rests (by rw [hstage]; trivial))
      · exact hnothing
  | timerFires made =>
      refine Answers.promised ?_ h
      unfold step
      dsimp only
      split
      · rename_i hstage
        exact answers_openConnection (hm hstage)
      · exact hnothing

end Steps

/-- **`connect` does not hang.**  When a call of `connect` has gone through and the client is at
rest, the promise is settled, if the moves so far are heard. -/
theorem connect_settles (o : StreamClientOptions) (ms : List StreamClientMove)
    (h : Along o (Heard o) {} ms) (hcalled : (run o {} ms).1.connectUrl.isSome = true)
    (hidle : (run o {} ms).1.stage = .idle) : Settled (run o {} ms).2 := by
  have hinitial : Promised {} [] := ⟨fun hurl => absurd hurl Bool.false_ne_true, fun _ => rfl⟩
  have hpromised : Promised (run o {} ms).1 (run o {} ms).2 :=
    run_keeps (I := Promised) (fun _ hc hm => promised_step hc hm) ms hinitial h
  refine (hpromised.called hcalled).resolve_left ?_
  rw [hpromised.rests (by rw [hidle]; trivial)]
  exact Bool.false_ne_true

/-! ### Examples -/

theorem accepted_uploadOptions : Accepted uploadOptions := ⟨_, rfl⟩

/-- The server has refused the session, and closed the socket. -/
theorem connect_settles_example :
    Settled (run uploadClientOptions {} (openedUpload ++ [.message 0 (some (.initError
      { code := .unauthorized, reason := utf16 "no" })), .ends 1])).2 := by
  refine connect_settles uploadClientOptions _ ⟨fun _ _ => rfl, fun _ _ => ⟨rfl, ?_⟩, trivial,
    trivial, fun _ hpending => ?_, trivial⟩ (by decide) rfl
  · intro options hoptions _ _
    cases hoptions
    exact accepted_uploadOptions
  · cases hpending

/-- The first connection fails, and the client is disconnected while the timer is set. -/
theorem connect_hangs : ¬ ∀ (o : StreamClientOptions) (ms : List StreamClientMove),
    (run o {} ms).1.connectUrl.isSome = true → (run o {} ms).1.stage = .idle →
      Settled (run o {} ms).2 := by
  intro h
  rcases h uploadClientOptions [.connect (utf16 "wss://a") uploadOptions true,
    .connectSettles false, .disconnect] (by decide) rfl with hresolves | hrejects
  · revert hresolves
    decide
  · revert hrejects
    decide

end StreamClient

end CulpeoStream.Typescript
