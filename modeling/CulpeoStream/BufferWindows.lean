import CulpeoStream.IntegerHeaders
import CulpeoStream.Session.Handshake
import CulpeoStream.Typescript.Contracts
import CulpeoStream.Typescript.Resume

/-!
# The negotiated buffer window

A server answers the `Buffer-Window` of an init with the window that it grants.  `WindowRule`
is what it should grant: the requested window or its own default, up to its maximum, and
nothing for a header that is no numeral.  The C++ session uses its default for anything that it
cannot read, and does not hold the default against the maximum; the TypeScript server grants
no window to a client that asks for none, and reads the header with `parseInt`
(`buffer_window_rule_iff`).
-/

namespace CulpeoStream

open Message Utf16

/-- The window `w` is what a server grants to an accepted init with this `Buffer-Window`. -/
structure WindowRule {T : Type} (decimal : ℕ → T) (maximum default : ℤ) (header : Option T)
    (w : ℤ) : Prop where
  nonneg : 0 ≤ w
  le : w ≤ maximum
  requested : ∀ n, header = some (decimal n) → w = min (n : ℤ) maximum
  absent : header = none → w = min default maximum
  canonical : ∀ v, header = some v → ∃ n, v = decimal n

section WindowRule

variable {T : Type} {decimal : ℕ → T} {maximum default w : ℤ}

theorem windowRule_none_iff (hmaximum : 0 ≤ maximum) (hdefault : 0 ≤ default) :
    WindowRule decimal maximum default none w ↔ w = min default maximum := by
  constructor
  · intro h
    exact h.absent rfl
  · rintro rfl
    exact ⟨le_min hdefault hmaximum, min_le_right _ _, fun n h => (by cases h), fun _ => rfl,
      fun v h => (by cases h)⟩

theorem windowRule_some_iff (hdecimal : Function.Injective decimal) (hmaximum : 0 ≤ maximum)
    {v : T} : WindowRule decimal maximum default (some v) w ↔
      ∃ n : ℕ, v = decimal n ∧ w = min (n : ℤ) maximum := by
  constructor
  · intro h
    obtain ⟨n, rfl⟩ := h.canonical v rfl
    exact ⟨n, rfl, h.requested n rfl⟩
  · rintro ⟨n, rfl, rfl⟩
    refine ⟨le_min (Int.natCast_nonneg n) hmaximum, min_le_right _ _, fun m hm => ?_,
      fun h => (by cases h), fun v hv => ⟨n, (Option.some.inj hv).symm⟩⟩
    rw [hdecimal (Option.some.inj hm)]

end WindowRule

/-! ### The C++ session -/

namespace Session

open Resumption

/-- The window of `handle_init` and of `handle_resumption_locked`. -/
theorem negotiateBufferWindow_rule_iff (config : SessionConfig) (requested : Option Bytes) :
    WindowRule decimal config.maxBufferWindowMs.toNat config.defaultBufferWindowMs.toNat requested
        (negotiateBufferWindow config requested).toNat ↔
      (requested = none ∧ config.defaultBufferWindowMs ≤ config.maxBufferWindowMs) ∨
      ∃ n, requested = some (decimal n) ∧
        (n < 2 ^ 64 ∨ config.defaultBufferWindowMs = config.maxBufferWindowMs) := by
  cases requested with
  | none =>
      rw [windowRule_none_iff (Int.natCast_nonneg _) (Int.natCast_nonneg _), negotiateBufferWindow,
        UInt32.le_iff_toNat_le]
      simp only [true_and, reduceCtorEq, false_and, exists_false, or_false]
      omega
  | some text =>
      rw [windowRule_some_iff decimal_injective (Int.natCast_nonneg _)]
      simp only [reduceCtorEq, false_and, false_or, Option.some.injEq]
      refine exists_congr fun n => and_congr_right fun htext => ?_
      rw [htext, ← negotiateBufferWindow_decimal]
      omega

/-- **The announced window** of a session that accepts an init. -/
theorem announced_window {setup : Setup} {turn : Turn} {f : ParsedHeadersView} {s : Impl}
    (hcall : turn.invocation.call = .processControlFrame f)
    (hinit : turn.invocation.call.DeliversInit) (hf : Parsed f)
    (haccept : (turn.act setup s).state.state = .established) :
    ∃ frame, Acknowledges (turn.act setup s) frame ∧
      frame.header .bufferWindow =
        some (decimal (negotiateBufferWindow setup.config f.bufferWindow).toNat) := by
  have hwindow := act_window hcall hinit haccept
  obtain ⟨bodyJson, version, e, hread, hdecide, hearned⟩ := exists_read hcall hinit haccept
  have hact : turn.act setup s = _ := perform_established hcall hinit hread hdecide
  rw [hact] at hwindow ⊢
  obtain ⟨frame, hack, hheaders, -⟩ := exists_initAck hearned hf (initAckBody setup.json e) s
  refine ⟨frame, hack, ?_⟩
  rw [← hwindow, WireFrame.header, hheaders, initAckHeaders, fieldValue_field_of_ne (by decide),
    fieldValue_field_of_ne (by decide), fieldValue_field_self]
  rfl

end Session

/-! ### The TypeScript server -/

namespace Typescript

open Resumption (Prog Contract)

/-- The contract of a call that grants this window, if any. -/
def granting (window : ℤ) : Contract Session Output (Option Text) where
  inv _ := True
  rel _ _ := True
  out o := ∀ headers body, o = .send (.initAck headers body) → headers.bufferWindow = some window
  ans _ _ := True

theorem lenient_granting (window : ℤ) : Lenient (granting window) where
  inv _ := trivial
  rel _ _ _ _ := trivial
  close _ _ _ _ h := by cases h
  notify _ _ _ _ h := by cases h
  onRtt _ _ _ _ _ h := by cases h

/-- An init is acknowledged with the granted window. -/
theorem serverReceive_grants (rt : Runtime) (options : ServerSessionOptions)
    (callbacks : Callbacks) (now : ℤ) (headers : InitHeaders) (body : InitBody)
    (answers : ℕ → Option Text) (s : Session) :
    ∀ o ∈ ((serverReceive rt options callbacks now (.init headers body)).exec answers s).outputs,
      (granting (grantBufferWindow options headers.bufferWindow)).out o := by
  have hK := lenient_granting (grantBufferWindow options headers.bufferWindow)
  have hframe : ∀ t, (granting (grantBufferWindow options headers.bufferWindow)).Holds t
      (serverFrame rt options callbacks now (.init headers body) t) := by
    intro t
    unfold serverFrame
    split
    · exact hK.holds_fail t _
    · rename_i hinit
      cases hinit
      refine hK.holds_handleInit (fun _ _ _ _ hsent => ?_) (fun _ _ _ _ h => by cases h)
        (fun _ _ _ h => by cases h) callbacks now _ t
      cases hsent
      rfl
    · rename_i hnot
      exact absurd rfl (hnot headers body)
    · exact hK.holds_same (hK.meets_failWithClose _ _)
    · exact hK.holds_same (hK.meets_failWithClose _ _)
  have hmeets : (serverReceive rt options callbacks now (.init headers body)).Meets
      (granting (grantBufferWindow options headers.bufferWindow)) := by
    refine hK.meets_checkTimeouts options now ⟨fun _ _ h => (by cases h), fun _ _ => ?_⟩
    exact Prog.meets_critical fun t _ => hframe t
  exact (hmeets.exec (fun _ _ => trivial) trivial answers).2

variable {J : Type}

theorem parseControlFrame_init {headers : Headers} {json body : J} {init : InitHeaders}
    (h : parseControlFrame headers json = .ok (.init init body)) :
    headers (mapKey .event) ≠ none ∧
      parseNumber headers (mapKey .bufferWindow) = .ok init.bufferWindow := by
  unfold parseControlFrame at h
  split at h
  · cases h
  · rename_i event hevent
    refine ⟨fun habsent => ?_, ?_⟩
    · change headers (utf16 "event") = none at habsent
      rw [hevent] at habsent
      cases habsent
    · split at h
      · obtain ⟨window, hwindow, h⟩ := Checks.exists_of_bind_ok h
        cases h
        exact hwindow
      · split at h
        · cases h
        · obtain ⟨window, -, h⟩ := Checks.exists_of_bind_ok h
          cases h
      all_goals
        try split at h
        all_goals cases h

theorem parseNumber_of_value {headers : Headers} {name value : Text} {window : Option ℤ}
    (h : parseNumber headers name = .ok window) (hvalue : headers name = some value) :
    ∃ parsed, parseInt value = some parsed ∧ window = some (Binary64.roundInt parsed) := by
  rw [parseNumber, hvalue] at h
  dsimp only at h
  split at h
  · cases h
  · rename_i parsed hparsed
    split at h
    · cases h
    · exact ⟨parsed, hparsed, (Except.ok.inj h).symm⟩

/-- The window that an init asks for. -/
theorem parseFrame_init_window {platform : Platform J} {input : FrameData} {limits : ParseLimits}
    {init : InitHeaders} {body : J}
    (h : parseFrame platform input .text limits = .ok (.init init body)) :
    (written platform.toRuntime input.toUint8Array .bufferWindow = none ∧
        init.bufferWindow = none) ∨
      ∃ v parsed, written platform.toRuntime input.toUint8Array .bufferWindow = some v ∧
        parseInt (trim v) = some parsed ∧
        init.bufferWindow = some (Binary64.roundInt parsed) := by
  obtain ⟨⟨headers, bodyOffset⟩, hextract, hbody⟩ := Checks.exists_of_bind_ok h
  obtain ⟨json, -, hcontrol⟩ := Checks.exists_of_bind_ok hbody
  obtain ⟨hevent, hnumber⟩ := parseControlFrame_init hcontrol
  obtain ⟨t, hfirst, -, hreads | ⟨-, rfl⟩⟩ := extractHeaders_reads hextract
  · have hwritten := headers_written hfirst hreads .bufferWindow
    cases hvalue : written platform.toRuntime input.toUint8Array .bufferWindow with
    | none =>
        rw [hvalue] at hwritten
        rw [parseNumber, hwritten] at hnumber
        exact .inl ⟨rfl, (Except.ok.inj hnumber).symm⟩
    | some v =>
        rw [hvalue] at hwritten
        obtain ⟨parsed, hparsed, hwindow⟩ := parseNumber_of_value hnumber hwritten
        exact .inr ⟨v, parsed, rfl, hparsed, hwindow⟩
  · exact absurd rfl hevent

theorem grantBufferWindow_decimal (options : ServerSessionOptions) (n : ℕ) :
    grantBufferWindow options (some (Binary64.roundInt n)) =
      min (Binary64.round n : ℤ) (max 0 options.maxBufferWindowMs) := by
  rw [grantBufferWindow, Option.getD_some, Binary64.roundInt_natCast]
  split
  · omega
  · rfl

/-- **The granted window** of an init as it is written. -/
theorem grantBufferWindow_rule_iff {platform : Platform J} {input : FrameData}
    {limits : ParseLimits} {init : InitHeaders} {body : J}
    (h : parseFrame platform input .text limits = .ok (.init init body))
    (options : ServerSessionOptions) :
    WindowRule Numeral.decimal (max 0 options.maxBufferWindowMs) (max 0 options.maxBufferWindowMs)
        (written platform.toRuntime input.toUint8Array .bufferWindow)
        (grantBufferWindow options init.bufferWindow) ↔
      (written platform.toRuntime input.toUint8Array .bufferWindow = none ∧
        options.maxBufferWindowMs ≤ 0) ∨
      ∃ n : ℕ, written platform.toRuntime input.toUint8Array .bufferWindow =
          some (Numeral.decimal n) ∧
        (Binary64.Representable n ∨
          options.maxBufferWindowMs ≤ n ∧ options.maxBufferWindowMs ≤ Binary64.round n) := by
  have hmaximum : 0 ≤ max 0 options.maxBufferWindowMs := le_max_left _ _
  rcases parseFrame_init_window h with ⟨hwritten, hwindow⟩ | ⟨v, parsed, hwritten, hparsed, hwindow⟩
  · rw [hwritten, hwindow, windowRule_none_iff hmaximum hmaximum]
    have hgrant : grantBufferWindow options none = 0 := rfl
    simp only [hgrant, true_and, reduceCtorEq, false_and, exists_false, or_false]
    omega
  · rw [hwritten, hwindow, windowRule_some_iff Numeral.decimal_injective hmaximum]
    simp only [reduceCtorEq, false_and, false_or, Option.some.injEq]
    refine exists_congr fun n => and_congr_right fun hv => ?_
    have hcanonical : Numeral.Canonical v := hv ▸ Numeral.canonical_decimal n
    have hn : parsed = n := by
      rw [trim_canonical hcanonical, parseInt_canonical hcanonical, hv,
        Numeral.natValue_decimal] at hparsed
      exact (Option.some.inj hparsed).symm
    rw [hn, grantBufferWindow_decimal, ← Binary64.round_eq_self_iff]
    omega

end Typescript

/-! ### Both servers -/

/-- **The rule is kept** by the C++ session when the header is absent and the default within
the maximum, or when it is a numeral of 64 bits (or the default is the maximum); and by the
TypeScript server when the header is absent and no window is ever granted, or when it is a
numeral that a double represents (or that is past the maximum, and its nearest double too). -/
theorem buffer_window_rule_iff {J : Type} (setup : Session.Setup) (turn : Session.Turn)
    (f : ParsedHeadersView) (s : Session.Impl) (platform : Typescript.Platform J)
    (input : Typescript.FrameData) (limits : Typescript.ParseLimits)
    (options : Typescript.ServerSessionOptions) (callbacks : Typescript.Callbacks) (now : ℤ)
    (body : Typescript.InitBody) (answers : ℕ → Option Text) (server : Typescript.Session) :
    (turn.invocation.call = .processControlFrame f → turn.invocation.call.DeliversInit →
      Session.Parsed f → (turn.act setup s).state.state = .established →
      ∃ frame, ∃ w : ℕ, Session.Acknowledges (turn.act setup s) frame ∧
        frame.header .bufferWindow = some (decimal w) ∧
        (WindowRule decimal setup.config.maxBufferWindowMs.toNat
            setup.config.defaultBufferWindowMs.toNat f.bufferWindow w ↔
          (f.bufferWindow = none ∧
            setup.config.defaultBufferWindowMs ≤ setup.config.maxBufferWindowMs) ∨
          ∃ n, f.bufferWindow = some (decimal n) ∧ (n < 2 ^ 64 ∨
            setup.config.defaultBufferWindowMs = setup.config.maxBufferWindowMs))) ∧
    ∀ (init : Typescript.InitHeaders) (json : J) (ackHeaders : Typescript.InitAckHeaders)
      (ackBody : Typescript.InitAckBody),
      Typescript.parseFrame platform input .text limits = .ok (.init init json) →
      .send (.initAck ackHeaders ackBody) ∈ ((Typescript.serverReceive platform.toRuntime options
        callbacks now (.init init body)).exec answers server).outputs →
      ∃ w, ackHeaders.bufferWindow = some w ∧
        (WindowRule Numeral.decimal (max 0 options.maxBufferWindowMs)
            (max 0 options.maxBufferWindowMs)
            (Typescript.written platform.toRuntime input.toUint8Array .bufferWindow) w ↔
          (Typescript.written platform.toRuntime input.toUint8Array .bufferWindow = none ∧
            options.maxBufferWindowMs ≤ 0) ∨
          ∃ n : ℕ, Typescript.written platform.toRuntime input.toUint8Array .bufferWindow =
              some (Numeral.decimal n) ∧
            (Binary64.Representable n ∨
              options.maxBufferWindowMs ≤ n ∧ options.maxBufferWindowMs ≤ Binary64.round n)) := by
  constructor
  · intro hcall hinit hf haccept
    obtain ⟨frame, hack, hheader⟩ := Session.announced_window hcall hinit hf haccept
    exact ⟨frame, _, hack, hheader, Session.negotiateBufferWindow_rule_iff _ _⟩
  · intro init json ackHeaders ackBody hparse hsent
    have hgrants := Typescript.serverReceive_grants platform.toRuntime options callbacks now init
      body answers server _ hsent
    exact ⟨_, hgrants ackHeaders ackBody rfl,
      Typescript.grantBufferWindow_rule_iff hparse options⟩

/-! ### Windows that break the rule -/

namespace Session

/-- An init with two streams that asks for a window in words. -/
def wordyHeaders : ParsedHeadersView :=
  initFrame [field .bufferWindow (ascii "abc")] exampleEntries

theorem wordyHeaders_window : wordyHeaders.bufferWindow = some (ascii "abc") := by
  have hslot : wordyHeaders.slot .bufferWindow = _ := slot_filledView .bufferWindow
  rw [fieldValue_field_of_ne (by decide), fieldValue_field_self] at hslot
  exact hslot

theorem wordyHeaders_window_ne (n : ℕ) : wordyHeaders.bufferWindow ≠ some (decimal n) := by
  intro hwritten
  have hdigit := isDigit_of_mem_decimal (n := n) (c := ch 'a')
  rw [wordyHeaders_window] at hwritten
  rw [← Option.some.inj hwritten] at hdigit
  exact absurd (hdigit (by decide)) (by decide)

theorem parsed_wordyHeaders : Parsed wordyHeaders := parsed_initFrame (by decide)

theorem wordyHeaders_sessionId : wordyHeaders.sessionId = none := by
  have hslot : wordyHeaders.slot .sessionId = _ := slot_filledView .sessionId
  rw [fieldValue_field_of_ne (by decide), fieldValue_field_of_ne (by decide)] at hslot
  exact hslot

theorem wordyHeaders_established :
    ((readingTurn wordyHeaders).act (readingSetup exampleEntries)
      (.initial (readingSetup exampleEntries))).state.state = .established := by
  rw [wordyHeaders]
  exact initFrame_established wordyHeaders_sessionId

end Session

/-- An init without a window. -/
def plainInit : Bytes := ascii "Event: culpeo.init\r\nAuthorization: t\r\n\r\n"

def plainInitHeaders : Typescript.InitHeaders where
  authorization := utf16 "t"

def plainInitBody : Typescript.InitBody where
  version := utf16 "0.3"
  streams := Typescript.uploads

theorem parseFrame_plainInit :
    Typescript.parseFrame asciiPlatform (.binary plainInit) .text {} =
      .ok (.init plainInitHeaders ()) := by
  rfl

theorem plainInit_acknowledged : ∃ ackHeaders ackBody,
    .send (.initAck ackHeaders ackBody) ∈ ((Typescript.serverReceive asciiPlatform.toRuntime
      Typescript.uploadLink.options {} 0 (.init plainInitHeaders plainInitBody)).exec
        (fun _ => some []) .createServer).outputs :=
  ⟨_, _, List.mem_cons_of_mem _ (List.mem_cons_self ..)⟩

theorem buffer_window_rule_iff_examples :
    (∃ frame, ∃ w : ℕ, Session.Acknowledges
        ((Session.readingTurn Session.wordyHeaders).act
          (Session.readingSetup Session.exampleEntries)
          (.initial (Session.readingSetup Session.exampleEntries))) frame ∧
      frame.header .bufferWindow = some (decimal w) ∧
      ¬ WindowRule decimal 30000 5000 Session.wordyHeaders.bufferWindow w) ∧
    ∃ w, ¬ WindowRule Numeral.decimal 30000 30000
      (Typescript.written asciiPlatform.toRuntime plainInit .bufferWindow) w := by
  have hrule := buffer_window_rule_iff (Session.readingSetup Session.exampleEntries)
    (Session.readingTurn Session.wordyHeaders) Session.wordyHeaders
    (.initial (Session.readingSetup Session.exampleEntries)) asciiPlatform (.binary plainInit) {}
    Typescript.uploadLink.options {} 0 plainInitBody (fun _ => some []) .createServer
  constructor
  · obtain ⟨frame, w, hack, hheader, hiff⟩ := hrule.1 rfl
      (Session.deliversInit_initFrame _ _) Session.parsed_wordyHeaders
      Session.wordyHeaders_established
    refine ⟨frame, w, hack, hheader, fun hkept => ?_⟩
    rcases hiff.mp hkept with ⟨habsent, -⟩ | ⟨n, hwritten, -⟩
    · rw [Session.wordyHeaders_window] at habsent
      cases habsent
    · exact Session.wordyHeaders_window_ne n hwritten
  · obtain ⟨ackHeaders, ackBody, hsent⟩ := plainInit_acknowledged
    obtain ⟨w, -, hiff⟩ := hrule.2 plainInitHeaders () ackHeaders ackBody parseFrame_plainInit hsent
    refine ⟨w, fun hkept => ?_⟩
    rcases hiff.mp hkept with ⟨-, hmaximum⟩ | ⟨n, hwritten, -⟩
    · exact absurd hmaximum (by decide)
    · cases hwritten

/-- **Neither server keeps the rule**: the C++ session grants its default to an init with a
window `abc`, and the TypeScript server grants none to an init without a window. -/
theorem not_buffer_window_rule :
    (¬ ∀ (setup : Session.Setup) (turn : Session.Turn) (f : ParsedHeadersView)
        (s : Session.Impl), turn.invocation.call = .processControlFrame f →
      turn.invocation.call.DeliversInit → Session.Parsed f →
      (turn.act setup s).state.state = .established →
      ∃ frame, ∃ w : ℕ, Session.Acknowledges (turn.act setup s) frame ∧
        frame.header .bufferWindow = some (decimal w) ∧
        WindowRule decimal setup.config.maxBufferWindowMs.toNat
          setup.config.defaultBufferWindowMs.toNat f.bufferWindow w) ∧
    ¬ ∀ (platform : Typescript.Platform Unit) (input : Typescript.FrameData)
        (limits : Typescript.ParseLimits) (options : Typescript.ServerSessionOptions)
        (callbacks : Typescript.Callbacks) (now : ℤ) (init : Typescript.InitHeaders)
        (body : Typescript.InitBody) (answers : ℕ → Option Text) (server : Typescript.Session)
        (ackHeaders : Typescript.InitAckHeaders) (ackBody : Typescript.InitAckBody),
      Typescript.parseFrame platform input .text limits = .ok (.init init ()) →
      .send (.initAck ackHeaders ackBody) ∈ ((Typescript.serverReceive platform.toRuntime options
        callbacks now (.init init body)).exec answers server).outputs →
      ∃ w, ackHeaders.bufferWindow = some w ∧
        WindowRule Numeral.decimal (max 0 options.maxBufferWindowMs)
          (max 0 options.maxBufferWindowMs)
          (Typescript.written platform.toRuntime input.toUint8Array .bufferWindow) w := by
  constructor
  · intro h
    obtain ⟨frame, w, -, -, hrule⟩ := h (Session.readingSetup Session.exampleEntries)
      (Session.readingTurn Session.wordyHeaders) Session.wordyHeaders
      (.initial (Session.readingSetup Session.exampleEntries)) rfl
      (Session.deliversInit_initFrame _ _) Session.parsed_wordyHeaders
      Session.wordyHeaders_established
    obtain ⟨n, hn⟩ := hrule.canonical (ascii "abc") Session.wordyHeaders_window
    exact Session.wordyHeaders_window_ne n (Session.wordyHeaders_window.trans (congrArg some hn))
  · intro h
    obtain ⟨ackHeaders, ackBody, hsent⟩ := plainInit_acknowledged
    obtain ⟨w, hw, hrule⟩ := h asciiPlatform (.binary plainInit) {} Typescript.uploadLink.options {}
      0 plainInitHeaders plainInitBody (fun _ => some []) .createServer ackHeaders ackBody
      parseFrame_plainInit hsent
    have hgranted := Typescript.serverReceive_grants asciiPlatform.toRuntime
      Typescript.uploadLink.options {} 0 plainInitHeaders plainInitBody (fun _ => some [])
      .createServer _ hsent ackHeaders ackBody rfl
    rw [hgranted, Option.some.injEq] at hw
    have habsent := hrule.absent rfl
    rw [← hw] at habsent
    exact absurd habsent (by decide)

end CulpeoStream
