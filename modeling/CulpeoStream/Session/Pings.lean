import CulpeoStream.Lib.FixedWindow
import CulpeoStream.Session.Lifecycle

/-!
# The ping limit

A session that receives pings one after another.  Its limiter is a fixed window
(`isCounter_pingCounter`), so the pongs of a second stay within
`max_ping_rate_per_second` as long as no window is opened right after a burst
(`pings_bounded`), and a window that is opened too early can be followed by more pongs
than that (`pings_exceeded`).
-/

namespace CulpeoStream.Session

open Message Resumption FixedWindow

/-- An established session. -/
abbrev Established := { s : Impl // s.state = .established }

/-- A ping that arrives, and what is read from the clocks then. -/
structure Ping where
  frame : ParsedHeadersView
  ambient : Ambient
  control : frame.frameType = .control
  event : frame.event = some (ascii "culpeo.ping")

/-- A ping frame with a body at a reading of the steady clock. -/
def Ping.at (body : Bytes) (steadyNow : ℤ) : Ping where
  frame := controlFrame (ascii "culpeo.ping") body
  ambient := { steadyNow }
  control := rfl
  event := rfl

def Ping.invocation (ping : Ping) : Invocation where
  call := .processControlFrame ping.frame
  ambient := ping.ambient

/-- A ping reaches `handle_ping`. -/
theorem enter_ping (setup : Setup) (ping : Ping) {s : Impl} (hs : s.state = .established) :
    enter setup ping.invocation s = handlePing setup ping.ambient ping.frame s := by
  have huninit : ¬ (s.state = .uninitialized ∧ ascii "culpeo.ping" ≠ ascii "culpeo.init") :=
    fun h => by rw [hs] at h; cases h.1
  change processControlFrame setup ping.ambient ping.frame s = _
  rw [processControlFrame, if_neg (not_not.mpr ping.control), ping.event]
  change (if !isValidEventName (ascii "culpeo.ping") then _ else _) = _
  rw [if_neg (by decide), dispatch, if_neg huninit, if_neg (by decide), if_pos rfl]

theorem validHeaders_pong : ValidHeaders pongHeaders := by
  simp only [ValidHeaders, pongHeaders, List.forall_mem_cons, field]
  exact ⟨⟨by decide, by decide⟩, ⟨by decide, by decide⟩, by simp⟩

def Output.isPong (o : Output) : Bool := o.event == some (ascii "culpeo.pong")

/-- **What a session does with a ping**: it counts it, and hands one pong to the transport
or nothing. -/
theorem perform_ping (setup : Setup) (ping : Ping) (answers : ℕ → Bool) {s : Impl}
    (hs : s.state = .established) :
    (perform setup ping.invocation answers s).state =
        (countPing setup.config ping.ambient.steadyNow s).1 ∧
      (perform setup ping.invocation answers s).outputs.countP Output.isPong =
        if (countPing setup.config ping.ambient.steadyNow s).2 then 1 else 0 := by
  rw [perform, enter_ping setup ping hs, handlePing, if_neg (not_not.mpr hs)]
  cases hcount : (countPing setup.config ping.ambient.steadyNow s).2 with
  | false => simp
  | true =>
      have hbody : ∀ body, (texts pongHeaders body).countP Output.isPong = 1 := by
        intro body
        obtain ⟨frame, hframe⟩ := Option.isSome_iff_exists.mp
          (makeFrame_isSome_iff.mpr validHeaders_pong :
            (makeFrame .control pongHeaders body).isSome = true)
        have hevent : Output.event (.sendText frame) = some (ascii "culpeo.pong") :=
          @event_of_mem_texts _ [field .contentType (ascii "application/json")] body _
            (List.mem_map_of_mem (Option.mem_toList.mpr hframe))
        simp [texts, hframe, Output.isPong, hevent]
      simp [exec_reply, hbody]

theorem countPing_state (config : SessionConfig) (now : ℤ) (s : Impl) :
    (countPing config now s).1.state = s.state := by
  unfold countPing
  split <;> rfl

/-- Whether a pong was handed to the transport. -/
def answersPing (outcome : { o : Outcome Impl Output Result // o.state.state = .established }) :
    Bool :=
  outcome.1.outputs.countP Output.isPong = 1

/-- The limiter of `handle_ping`; a millisecond has a million ticks of the clock. -/
def pingCounter (setup : Setup) : Counter Established Ping
    { o : Outcome Impl Output Result // o.state.state = .established } where
  act := fun ping s => ⟨perform setup ping.invocation (fun _ => true) s.1, by
    rw [(perform_ping setup ping _ s.2).1, countPing_state, s.2]⟩
  next := fun o => ⟨o.1.state, o.2⟩
  opened := fun s => s.1.pingWindowStart
  counted := fun s => s.1.pingsInWindow.toNat
  time := fun ping => ping.ambient.steadyNow
  accepts := answersPing
  limit := setup.config.maxPingRatePerSecond.toNat
  reach := 1000000000
  size := 2 ^ 32

theorem elapsedMs_iff (now since : ℤ) :
    1000 ≤ elapsedMs now since ↔ 1000000000 ≤ now - since := by
  unfold elapsedMs
  constructor
  · intro h
    by_contra hlt
    have hle : (now - since).tdiv 1000000 ≤ Int.tdiv 999999999 1000000 :=
      Int.tdiv_le_tdiv (by decide) (by omega)
    have hquotient : Int.tdiv 999999999 1000000 = 999 := rfl
    omega
  · exact fun h => Int.le_tdiv_of_mul_le (by decide) (by omega)

theorem isCounter_pingCounter (setup : Setup) : (pingCounter setup).IsCounter := by
  have haccepts : ∀ (s : Established) (ping : Ping),
      (pingCounter setup).accepts ((pingCounter setup).act ping s) =
        (countPing setup.config ping.ambient.steadyNow s.1).2 := by
    intro s ping
    have hpongs := (perform_ping setup ping (fun _ => true) s.2).2
    change decide ((perform setup ping.invocation (fun _ => true) s.1).outputs.countP
      Output.isPong = 1) = _
    rw [hpongs]
    cases (countPing setup.config ping.ambient.steadyNow s.1).2 <;> rfl
  have hnext : ∀ (s : Established) (ping : Ping),
      ((pingCounter setup).next ((pingCounter setup).act ping s)).1 =
        (countPing setup.config ping.ambient.steadyNow s.1).1 :=
    fun s ping => (perform_ping setup ping (fun _ => true) s.2).1
  constructor
  · intro s ping hopens
    have hms := (elapsedMs_iff ping.ambient.steadyNow s.1.pingWindowStart).mpr hopens
    refine ⟨?_, ?_, ?_⟩
    · rw [haccepts, countPing, if_pos hms]
    · change ((pingCounter setup).next ((pingCounter setup).act ping s)).1.pingWindowStart = _
      rw [hnext, countPing, if_pos hms]
      rfl
    · change ((pingCounter setup).next
        ((pingCounter setup).act ping s)).1.pingsInWindow.toNat = _
      rw [hnext, countPing, if_pos hms]
      rfl
  · intro s ping hcounts
    have hms := mt (elapsedMs_iff ping.ambient.steadyNow s.1.pingWindowStart).mp hcounts
    refine ⟨?_, ?_, ?_⟩
    · rw [haccepts, countPing, if_neg hms]
      rfl
    · change ((pingCounter setup).next ((pingCounter setup).act ping s)).1.pingWindowStart = _
      rw [hnext, countPing, if_neg hms]
      rfl
    · change ((pingCounter setup).next
        ((pingCounter setup).act ping s)).1.pingsInWindow.toNat = _
      rw [hnext, countPing, if_neg hms]
      exact UInt32.toNat_add _ _

/-- **The ping limit**, in a run whose pings are all spaced: a ping opens a window only
when pings are allowed at all and every pong is a second old, and the counter of a window
does not overflow. -/
theorem pings_bounded (setup : Setup) (s : Established) (pings : List Ping)
    (hclock : pings.Pairwise fun p q => p.ambient.steadyNow ≤ q.ambient.steadyNow)
    (hspaced : (pingCounter setup).AllSpaced ((pingCounter setup).run s pings)) (t : ℤ) :
    (pingCounter setup).load ((pingCounter setup).run s pings) t ≤
      setup.config.maxPingRatePerSecond.toNat :=
  bounded (isCounter_pingCounter setup) hclock hspaced t

/-- **A window that is opened too early** can be followed by more pongs than the limit. -/
theorem pings_exceeded (setup : Setup) (s : Established) (pings : List Ping) (ping : Ping)
    (hclock : (pings ++ [ping]).Pairwise fun p q => p.ambient.steadyNow ≤ q.ambient.steadyNow)
    (hopens : (pingCounter setup).Opens
      (History.final (pingCounter setup).act (pingCounter setup).next s pings) ping)
    (hspaced : ¬ (pingCounter setup).Spaced ((pingCounter setup).run s pings)
      (History.final (pingCounter setup).act (pingCounter setup).next s pings) ping) :
    ∃ k t, setup.config.maxPingRatePerSecond.toNat < (pingCounter setup).load
      ((pingCounter setup).run s (pings ++ ping :: List.replicate k ping)) t :=
  exceeded (isCounter_pingCounter setup) (by decide : (0 : ℤ) < 1000000000)
    (UInt32.toNat_lt _) hclock hopens hspaced

/-! ### Examples -/

/-- The example session, just established. -/
def examplePinged : Established :=
  ⟨exampleSession (ascii "input") (ascii "message"), by decide +kernel⟩

/-- Two pings a second apart. -/
def exampleSpacedPings : List Ping := [.at emptyObject 5000000000, .at emptyObject 6000000000]

theorem exampleSpacedPings_spaced :
    (pingCounter (exampleSetup (ascii "input") (ascii "message"))).AllSpaced
      ((pingCounter (exampleSetup (ascii "input") (ascii "message"))).run examplePinged
        exampleSpacedPings) := by
  refine allSpaced_pair.mpr ?_
  decide +kernel

theorem pings_bounded_examplePinged :
    (pingCounter (exampleSetup (ascii "input") (ascii "message"))).load
      ((pingCounter (exampleSetup (ascii "input") (ascii "message"))).run examplePinged
        exampleSpacedPings) 5000000000 ≤ 5 :=
  pings_bounded (exampleSetup (ascii "input") (ascii "message")) examplePinged
    exampleSpacedPings (by decide) exampleSpacedPings_spaced 5000000000

/-- Five pings late in a window, and five when the next one opens. -/
def exampleBurst : List Ping :=
  .at emptyObject 5000000000 :: List.replicate 4 (.at emptyObject 5999000000) ++
    List.replicate 5 (.at emptyObject 6000000000)

/-- Nine pongs within a millisecond. -/
theorem burst_exceeds_ping_limit :
    ¬ ∀ (setup : Setup) (s : Established) (pings : List Ping),
      (pings.Pairwise fun p q => p.ambient.steadyNow ≤ q.ambient.steadyNow) → ∀ t,
        (pingCounter setup).load ((pingCounter setup).run s pings) t ≤
          setup.config.maxPingRatePerSecond.toNat := by
  intro h
  have hle := h (exampleSetup (ascii "input") (ascii "message")) examplePinged exampleBurst
    (by decide) 5999000000
  exact absurd hle (by decide +kernel)

end CulpeoStream.Session
