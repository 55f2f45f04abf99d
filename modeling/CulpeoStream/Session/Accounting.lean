import CulpeoStream.Lib.Ledger
import CulpeoStream.Session.Lifecycle

/-!
# Offset accounting

The offset of an input stream over a whole run of a session.  Only accepted media
frames move it: they are contiguous from the offset at which the stream was opened,
and the offset at the end is the one the stream was opened at plus all increments, as
natural numbers.  `on_media_received` sees the same frames in the same order.

A run has two parts.  Up to the call that ends the handshake there are no streams, or
none that matters; `books_of_run` covers what follows, call by call (`act_books`), and
`offset_accounting` puts the two together.
-/

namespace CulpeoStream.Session

open Message Resumption History Ledger

abbrev SessionRecord := Record Impl Turn (Outcome Impl Output Result)

/-- The state at the end of a run from a new session. -/
def sessionFinal (setup : Setup) (turns : List Turn) : Impl :=
  final (Turn.act setup) Outcome.state (Impl.initial setup) turns

/-- The frame of a call, when it is a media frame that was accepted on the stream. -/
def acceptedOn (id : Bytes) (rec : SessionRecord) : Option ParsedHeadersView :=
  match rec.call.invocation.call, rec.result.result with
  | .processMediaFrame f, .ok () => if f.streamId = some id then some f else none
  | _, _ => none

/-- The media frames accepted on a stream, in order. -/
def acceptedFrames (id : Bytes) (records : List SessionRecord) : List ParsedHeadersView :=
  records.filterMap (acceptedOn id)

/-- What a call of `on_media_received` for the stream is given. -/
def delivery (id : Bytes) : Output → Option (StreamInfo × Bytes)
  | .onMediaReceived stream _ body => if stream.id = id then some (stream, body) else none
  | _ => none

/-- The calls of `on_media_received` for a stream, in order. -/
def deliveries (id : Bytes) (records : List SessionRecord) : List (StreamInfo × Bytes) :=
  records.flatMap fun rec => rec.result.outputs.filterMap (delivery id)

/-! ### One call -/

theorem deliveries_of_noMedia {outputs : List Output} (h : NoMedia outputs) (id : Bytes) :
    outputs.filterMap (delivery id) = [] := by
  rw [List.filterMap_eq_nil_iff]
  intro o ho
  cases o with
  | onMediaReceived stream timestampUs body => cases h _ ho
  | _ => rfl

theorem acceptedOn_eq_none {id : Bytes} {rec : SessionRecord}
    (h : rec.result.result = .ok () → ∀ f, rec.call.invocation.call ≠ .processMediaFrame f) :
    acceptedOn id rec = none := by
  unfold acceptedOn
  split
  · exact absurd ‹_› (h ‹_› _)
  · rfl

/-- The stream of an accepted frame is updated in place. -/
theorem Accepts.find_update {registry : StreamRegistry} {f : ParsedHeadersView} {id : Bytes}
    {stream advanced : StreamInfo} (h : Accepts registry f id stream advanced) :
    advanced.id = id ∧ (registry.update advanced).find id = some advanced :=
  ⟨(advanceOffset_id h.advance).trans (StreamRegistry.find_id h.found),
    StreamRegistry.find_update_self h.found (advanceOffset_id h.advance)⟩

/-- **What one call does to an input stream**: nothing, or it accepts one frame on it. -/
theorem act_books {setup : Setup} (turn : Turn) {s : Impl} {id : Bytes} {info : StreamInfo}
    (hs : s.state ≠ .uninitialized) (hfind : s.registry.find id = some info)
    (hdir : info.direction = .input) :
    (acceptedOn id ⟨s, turn, turn.act setup s⟩ = none ∧
      (turn.act setup s).state.registry.find id = some info ∧
      (turn.act setup s).outputs.filterMap (delivery id) = []) ∨
    ∃ f info', acceptedOn id ⟨s, turn, turn.act setup s⟩ = some f ∧
      Accepts s.registry f id info info' ∧
      (turn.act setup s).state.registry.find id = some info' ∧
      (turn.act setup s).outputs.filterMap (delivery id) =
        if setup.callbacks.onMediaReceived then [(info', f.body)] else [] := by
  have hperform : Performs setup turn.invocation s (turn.act setup s) :=
    perform_cases setup turn.invocation turn.answers s
  cases hperform with
  | passes hagree hquiet hresult =>
      exact .inl ⟨acceptedOn_eq_none hresult, by rw [hagree.registry, hfind],
        deliveries_of_noMedia hquiet id⟩
  | closes _ hregistry _ hquiet hresult =>
      refine .inl ⟨acceptedOn_eq_none hresult, ?_, deliveries_of_noMedia hquiet id⟩
      rcases hregistry with hsame | ⟨huninit, -⟩
      · rw [hsame, hfind]
      · exact absurd huninit hs
  | establishes hstate _ _ _ _ _ _ _ _ => exact absurd hstate hs
  | @accepts f advanced timestampUs _ hcall haccept hout =>
      -- The frame names the stream it was accepted on, which may be another one.
      obtain ⟨id', stream, haccepts⟩ := acceptMedia_ok haccept
      obtain ⟨hid, hself⟩ := haccepts.find_update
      by_cases hsame : id' = id
      · subst hsame
        obtain rfl : stream = info := Option.some.inj (haccepts.found.symm.trans hfind)
        refine .inr ⟨f, advanced, ?_, haccepts, ?_, ?_⟩
        · simp [acceptedOn, hcall, hout, haccepts.streamId]
        · rw [hout]
          exact hself
        · rw [hout]
          cases setup.callbacks.onMediaReceived with
          | false => rfl
          | true => simp [delivery, hid]
      · refine .inl ⟨?_, ?_, ?_⟩
        · simp [acceptedOn, hcall, hout, haccepts.streamId, hsame]
        · rw [hout]
          exact (StreamRegistry.find_update_of_ne (by rw [hid]; exact Ne.symm hsame)).trans hfind
        · rw [hout]
          cases setup.callbacks.onMediaReceived with
          | false => rfl
          | true => simp [delivery, hid, hsame]
  | @sends streamId payload timestampUs stream advanced _ hcall hstream hadvance hafter houtputs =>
      -- `send_media` refuses input streams, so the stream it advances is another one.
      obtain ⟨hfound, hnotInput⟩ := validateServerSend_ok hstream
      have hid : advanced.id = streamId :=
        (advanceOffset_id hadvance).trans (StreamRegistry.find_id hfound)
      have hother : id ≠ streamId := by
        rintro rfl
        rw [hfind, Option.some.injEq] at hfound
        exact hnotInput (hfound ▸ hdir)
      refine .inl ⟨acceptedOn_eq_none fun _ f => by simp [hcall], ?_, ?_⟩
      · rw [hafter]
        exact (StreamRegistry.find_update_of_ne (by rwa [hid])).trans hfind
      · rw [houtputs, List.filterMap_map]
        exact List.filterMap_eq_nil_iff.mpr fun _ _ => rfl

/-- Once the handshake is over, no stream appears, and of a stream only the offset
changes. -/
theorem act_find {setup : Setup} (turn : Turn) {s : Impl} {id : Bytes} {info : StreamInfo}
    (hs : s.state ≠ .uninitialized)
    (hfind : (turn.act setup s).state.registry.find id = some info) :
    ∃ info₀, s.registry.find id = some info₀ ∧ info = { info₀ with offset := info.offset } := by
  -- Frames that are accepted and frames that are sent advance a stream in the same way.
  have hupdate : ∀ {id' : Bytes} {stream advanced : StreamInfo} {body : Bytes},
      s.registry.find id' = some stream →
      advanceOffset stream body.length.toUInt64 = .ok advanced →
      (s.registry.update advanced).find id = some info →
      ∃ info₀, s.registry.find id = some info₀ ∧
        info = { info₀ with offset := info.offset } := by
    intro id' stream advanced body hstream hadvance h
    have hid : advanced.id = id' :=
      (advanceOffset_id hadvance).trans (StreamRegistry.find_id hstream)
    rw [StreamRegistry.find_update, hid] at h
    split at h
    · rename_i hsame
      subst hsame
      rw [hstream, Option.map_some, Option.some.injEq] at h
      subst h
      exact ⟨stream, hstream, (advanceOffset_ok hadvance).2⟩
    · exact ⟨info, h, rfl⟩
  have hperform : Performs setup turn.invocation s (turn.act setup s) :=
    perform_cases setup turn.invocation turn.answers s
  cases hperform with
  | passes hagree _ _ =>
      rw [hagree.registry] at hfind
      exact ⟨info, hfind, rfl⟩
  | closes _ hregistry _ _ _ =>
      rcases hregistry with hsame | ⟨huninit, -⟩
      · rw [hsame] at hfind
        exact ⟨info, hfind, rfl⟩
      · exact absurd huninit hs
  | establishes hstate _ _ _ _ _ _ _ _ => exact absurd hstate hs
  | accepts _ _ haccept hout =>
      obtain ⟨id', stream, haccepts⟩ := acceptMedia_ok haccept
      rw [hout] at hfind
      exact hupdate haccepts.found haccepts.advance hfind
  | sends _ _ hstream hadvance hafter _ =>
      rw [hafter] at hfind
      exact hupdate (validateServerSend_ok hstream).1 hadvance hfind

/-- The handshake is over: the session is established or closed. -/
def Settled (s : Impl) : Prop :=
  s.state ≠ .uninitialized ∧ s.state ≠ .initializing

/-- Once over, a handshake stays over, and so does the question whether the session was
resumed. -/
theorem act_settled (setup : Setup) (turn : Turn) {s : Impl} (hs : Settled s) :
    Settled (turn.act setup s).state ∧
      (turn.act setup s).state.isResumedSession = s.isResumedSession := by
  have hperform : Performs setup turn.invocation s (turn.act setup s) :=
    perform_cases setup turn.invocation turn.answers s
  obtain ⟨hbegun, hdone⟩ := hs
  refine ⟨⟨?_, (hperform.moves hdone).ne_initializing⟩, ?_⟩
  · exact (hperform.moves hdone).ne_uninitialized hbegun
  · cases hperform with
    | passes hagree _ _ => exact hagree.isResumedSession
    | closes _ _ hresumed _ _ => exact hresumed
    | establishes hstate _ _ _ _ _ _ _ _ => exact absurd hstate hbegun
    | accepts _ _ _ hout => rw [hout]
    | sends _ _ _ _ hafter _ => rw [hafter]

/-! ### From the handshake on -/

/-- How far a frame moves the offset of a stream. -/
def frameLength (info : StreamInfo) (f : ParsedHeadersView) : ℕ :=
  increment info f.body

/-- **The books of a stream** that stood at `base` and now is `info`: the accepted
frames are contiguous from `base`, their increments make up the difference, and the
application was given each of them with the offset behind it. -/
structure Books (setup : Setup) (base : ℕ) (info : StreamInfo)
    (frames : List ParsedHeadersView) (given : List (StreamInfo × Bytes)) : Prop where
  offsets : Contiguous (fun f => offsetOf f.offset) (frameLength info) base frames
  final : info.offset.toNat = base + total (frameLength info) frames
  given : setup.callbacks.onMediaReceived = true → ∀ k, given[k]? = frames[k]?.map fun f =>
    ({ info with offset :=
        (base + total (frameLength info) (frames.take (k + 1))).toUInt64 }, f.body)

theorem books_nil (setup : Setup) (info : StreamInfo) :
    Books setup info.offset.toNat info [] [] :=
  ⟨contiguous_nil, rfl, fun _ _ => rfl⟩

/-- One accepted frame is entered into the books. -/
theorem Books.cons {setup : Setup} {registry : StreamRegistry} {f : ParsedHeadersView}
    {id : Bytes} {info₀ info₁ info : StreamInfo} {frames : List ParsedHeadersView}
    {given : List (StreamInfo × Bytes)} (hf : Accepts registry f id info₀ info₁)
    (hinfo : info = { info₁ with offset := info.offset })
    (h : Books setup info₁.offset.toNat info frames given) :
    Books setup info₀.offset.toNat info (f :: frames)
      ((if setup.callbacks.onMediaReceived then [(info₁, f.body)] else []) ++ given) := by
  obtain ⟨hadd, hsame⟩ := advanceOffset_ok hf.advance
  have hinc : frameLength info f = increment info₀ f.body := by
    refine increment_congr ?_ ?_ f.body
    · rw [hinfo, hsame]
    · rw [hinfo, hsame]
  have hnext : info₀.offset.toNat + frameLength info f = info₁.offset.toNat := by
    rw [hinc, hadd]
  refine ⟨?_, ?_, fun hcb k => ?_⟩
  · rw [contiguous_cons, hnext]
    exact ⟨hf.offset, h.offsets⟩
  · rw [total_cons, ← Nat.add_assoc, hnext]
    exact h.final
  · -- The k-th delivery: the new frame, or one of the old ones with its total shifted.
    rw [if_pos hcb]
    cases k with
    | zero =>
        have hfirst : info₁ = { info with offset := info₁.offset } := by rw [hinfo]
        simp only [List.singleton_append, List.getElem?_cons_zero, Option.map_some,
          List.take_succ_cons, List.take_zero, total_cons, total_nil, Nat.add_zero, hnext,
          Nat.toUInt64_eq, UInt64.ofNat_toNat, ← hfirst]
    | succ k =>
        have hk := h.given hcb k
        simp only [List.singleton_append, List.getElem?_cons_succ, List.take_succ_cons, total_cons,
          ← Nat.add_assoc, hnext]
        exact hk

/-- **A whole run from the end of the handshake on** keeps the books of an input
stream. -/
theorem books_of_run (setup : Setup) (id : Bytes) :
    ∀ (turns : List Turn) {s : Impl} {info₀ : StreamInfo}, Settled s →
      s.registry.find id = some info₀ → info₀.direction = .input →
      ∃ info, (final (Turn.act setup) Outcome.state s turns).registry.find id = some info ∧
        info = { info₀ with offset := info.offset } ∧
        Books setup info₀.offset.toNat info
          (acceptedFrames id (history (Turn.act setup) Outcome.state s turns))
          (deliveries id (history (Turn.act setup) Outcome.state s turns)) := by
  intro turns
  induction turns with
  | nil =>
      intro s info₀ _ hfind _
      exact ⟨info₀, hfind, rfl, books_nil setup info₀⟩
  | cons turn turns ih =>
      intro s info₀ hs hfind hdir
      have hsettled := (act_settled setup turn hs).1
      simp only [final_cons, history_cons, acceptedFrames, deliveries, List.filterMap_cons,
        List.flatMap_cons]
      rcases act_books turn hs.1 hfind hdir with ⟨hnone, hkeep, hgiven⟩ |
        ⟨f, info₁, hsome, haccepts, hmove, hgiven⟩
      · obtain ⟨info, hfinal, hinfo, hbooks⟩ := ih hsettled hkeep hdir
        refine ⟨info, hfinal, hinfo, ?_⟩
        rw [hnone, hgiven]
        exact hbooks
      · have hsame := (advanceOffset_ok haccepts.advance).2
        obtain ⟨info, hfinal, hinfo, hbooks⟩ := ih hsettled hmove (by rw [hsame]; exact hdir)
        refine ⟨info, hfinal, ?_, ?_⟩
        · rw [hinfo, hsame]
        · rw [hsome, hgiven]
          exact hbooks.cons haccepts hinfo

theorem find_of_run (setup : Setup) (id : Bytes) :
    ∀ (turns : List Turn) {s : Impl} {info : StreamInfo}, Settled s →
      (final (Turn.act setup) Outcome.state s turns).registry.find id = some info →
      ∃ info₀, s.registry.find id = some info₀ ∧ info.direction = info₀.direction := by
  intro turns
  induction turns with
  | nil =>
      intro s info _ hfind
      exact ⟨info, hfind, rfl⟩
  | cons turn turns ih =>
      intro s info hs hfind
      obtain ⟨info₁, hnext, hdir⟩ := ih (act_settled setup turn hs).1 hfind
      obtain ⟨info₀, hfirst, hsame⟩ := act_find turn hs.1 hnext
      refine ⟨info₀, hfirst, ?_⟩
      rw [hdir, hsame]

theorem isResumedSession_of_run (setup : Setup) (turns : List Turn) {s : Impl}
    (hs : Settled s) :
    (final (Turn.act setup) Outcome.state s turns).isResumedSession = s.isResumedSession := by
  have hkeep := final_induction (G := fun _ : Turn => True)
    (I := fun t : Impl => Settled t ∧ t.isResumedSession = s.isResumedSession)
    (fun t turn h _ => ⟨(act_settled setup turn h.1).1, (act_settled setup turn h.1).2.trans h.2⟩)
    turns ⟨hs, rfl⟩ fun _ _ => trivial
  exact hkeep.2

/-! ### Whole runs -/

/-- The call establishes a session from its prior state, and the init-ack it sends
confirms the stream at `base`. -/
def Confirms (setup : Setup) (id : Bytes) (base : ℕ) (rec : SessionRecord) : Prop :=
  ∃ f e before info₀, rec.before.state = .uninitialized ∧ e.resumption = true ∧
    Earned setup rec.call.invocation.ambient f rec.before.registry e ∧
    rec.result.outputs = before ++ texts (initAckHeaders e) (initAckBody setup.json e) ∧
    e.registry.find id = some info₀ ∧ info₀.offset.toNat = base

/-- The offset at which the stream was opened: zero in a fresh session, the confirmed
offset in a resumed one. -/
def InitialOffset (setup : Setup) (id : Bytes) (s : Impl) (turns : List Turn) (base : ℕ) : Prop :=
  if (final (Turn.act setup) Outcome.state s turns).isResumedSession then
    ∃ rec ∈ history (Turn.act setup) Outcome.state s turns, Confirms setup id base rec
  else base = 0

/-- The books of a stream from the last call of the handshake on, when that call leaves
the stream at its initial offset. -/
theorem books_from_settled {setup : Setup} {id : Bytes} {turn : Turn} {turns : List Turn}
    {s : Impl} {info : StreamInfo} (hs : Settled (turn.act setup s).state)
    (hquiet : acceptedOn id ⟨s, turn, turn.act setup s⟩ = none ∧
      (turn.act setup s).outputs.filterMap (delivery id) = [])
    (hfind : (final (Turn.act setup) Outcome.state s (turn :: turns)).registry.find id = some info)
    (hdir : info.direction = .input) :
    ∃ info₀, (turn.act setup s).state.registry.find id = some info₀ ∧
      (final (Turn.act setup) Outcome.state s (turn :: turns)).isResumedSession =
        (turn.act setup s).state.isResumedSession ∧
      Books setup info₀.offset.toNat info
        (acceptedFrames id (history (Turn.act setup) Outcome.state s (turn :: turns)))
        (deliveries id (history (Turn.act setup) Outcome.state s (turn :: turns))) := by
  obtain ⟨info₀, hopen, hsame⟩ := find_of_run setup id turns hs hfind
  obtain ⟨info', hfinal, -, hbooks⟩ := books_of_run setup id turns hs hopen (hsame.symm.trans hdir)
  obtain rfl : info' = info := Option.some.inj (hfinal.symm.trans hfind)
  refine ⟨info₀, hopen, isResumedSession_of_run setup turns hs, ?_⟩
  simp only [history_cons, acceptedFrames, deliveries, List.filterMap_cons, List.flatMap_cons,
    hquiet.1, hquiet.2, List.nil_append]
  exact hbooks

theorem books_from_opening (setup : Setup) (id : Bytes) :
    ∀ (turns : List Turn) {s : Impl} {info : StreamInfo}, s.state = .uninitialized →
      s.registry.streams = [] → s.isResumedSession = false →
      (final (Turn.act setup) Outcome.state s turns).registry.find id = some info →
      info.direction = .input →
      ∃ base, InitialOffset setup id s turns base ∧
        Books setup base info
          (acceptedFrames id (history (Turn.act setup) Outcome.state s turns))
          (deliveries id (history (Turn.act setup) Outcome.state s turns)) := by
  intro turns
  induction turns with
  | nil =>
      intro s info _ hempty _ hfind _
      simp [StreamRegistry.find, hempty] at hfind
  | cons turn turns ih =>
      intro s info hs hempty hfresh hfind hdir
      have hperform : Performs setup turn.invocation s (turn.act setup s) :=
        perform_cases setup turn.invocation turn.answers s
      cases hperform with
      | passes hagree hquiet hresult =>
          -- Still before the handshake: nothing is entered into the books.
          obtain ⟨base, hbase, hbooks⟩ := ih (hagree.state.trans hs)
            (by rw [hagree.registry, hempty]) (hagree.isResumedSession.trans hfresh) hfind hdir
          refine ⟨base, ?_, ?_⟩
          · unfold InitialOffset at hbase ⊢
            rw [final_cons, history_cons]
            split at hbase
            · rename_i hresumed
              rw [if_pos hresumed]
              obtain ⟨rec, hrec, hconfirms⟩ := hbase
              exact ⟨rec, List.mem_cons_of_mem _ hrec, hconfirms⟩
            · rename_i hresumed
              rw [if_neg hresumed]
              exact hbase
          · have hnone : acceptedOn id ⟨s, turn, turn.act setup s⟩ = none :=
              acceptedOn_eq_none hresult
            simp only [history_cons, acceptedFrames, deliveries, List.filterMap_cons,
              List.flatMap_cons, hnone, deliveries_of_noMedia hquiet, List.nil_append]
            exact hbooks
      | closes hclosed hregistry hresumed hquiet hresult =>
          have hsettled : Settled (turn.act setup s).state := by simp [Settled, hclosed]
          obtain ⟨info₀, hopen, hkeep, hbooks⟩ := books_from_settled hsettled
            ⟨acceptedOn_eq_none hresult, deliveries_of_noMedia hquiet id⟩ hfind hdir
          have hzero : info₀.offset = 0 := by
            rcases hregistry with hsame | ⟨-, hzero⟩
            · simp [StreamRegistry.find, hsame, hempty] at hopen
            · exact hzero info₀ (List.mem_of_find?_eq_some hopen)
          refine ⟨0, ?_, ?_⟩
          · rw [InitialOffset, hkeep, hresumed, hfresh]
            rfl
          · rw [hzero] at hbooks
            exact hbooks
      | @establishes f e before hstate hcall _ hearned hestablished hregistry hresumed houtputs
          hbefore =>
          have hsettled : Settled (turn.act setup s).state := by simp [Settled, hestablished]
          have hquiet : NoMedia (turn.act setup s).outputs := by
            rw [houtputs]
            simp [hbefore.2]
          obtain ⟨info₀, hopen, hkeep, hbooks⟩ := books_from_settled hsettled
            ⟨acceptedOn_eq_none fun _ g => by simp [hcall], deliveries_of_noMedia hquiet id⟩
            hfind hdir
          refine ⟨info₀.offset.toNat, ?_, hbooks⟩
          rw [hregistry] at hopen
          rw [InitialOffset, hkeep, hresumed]
          cases hresumption : e.resumption with
          | true =>
              exact ⟨_, List.mem_cons_self, f, e, before, info₀, hstate, hresumption, hearned,
                houtputs, hopen, rfl⟩
          | false =>
              cases hearned with
              | fresh _ _ hoffset =>
                  have hzero := hoffset info₀ (List.mem_of_find?_eq_some hopen)
                  simp [hzero]
              | resumed hresumed' _ _ _ _ =>
                  rw [hresumption] at hresumed'
                  cases hresumed'
      | accepts hstate _ _ _ =>
          rw [hs] at hstate
          cases hstate
      | sends hstate _ _ _ _ _ =>
          rw [hs] at hstate
          cases hstate

/-- **Offset accounting over whole runs.**  On every input stream, the `k`-th accepted
media frame carried the initial offset plus the increments of the frames accepted
before it; the offset at the end is the initial one plus all increments and has not
wrapped; and `on_media_received`, when set, was called once for each accepted frame, in
order, with its body and the offset behind it. -/
theorem offset_accounting (setup : Setup) (turns : List Turn) (id : Bytes) (info : StreamInfo)
    (hfind : (sessionFinal setup turns).registry.find id = some info)
    (hdir : info.direction = .input) :
    ∃ base, InitialOffset setup id (Impl.initial setup) turns base ∧
      (∀ k f, (acceptedFrames id (sessionHistory setup turns))[k]? = some f →
        offsetOf f.offset = some (base + total (frameLength info)
          ((acceptedFrames id (sessionHistory setup turns)).take k))) ∧
      info.offset.toNat =
        base + total (frameLength info) (acceptedFrames id (sessionHistory setup turns)) ∧
      base + total (frameLength info) (acceptedFrames id (sessionHistory setup turns)) < 2 ^ 64 ∧
      (setup.callbacks.onMediaReceived = true → ∀ k : ℕ,
        (deliveries id (sessionHistory setup turns))[k]? =
          (acceptedFrames id (sessionHistory setup turns))[k]?.map fun f =>
            ({ info with offset := (base + total (frameLength info)
                ((acceptedFrames id (sessionHistory setup turns)).take (k + 1))).toUInt64 },
              f.body)) := by
  obtain ⟨base, hbase, hbooks⟩ := books_from_opening setup id turns rfl rfl rfl hfind hdir
  refine ⟨base, hbase, hbooks.offsets, hbooks.final, ?_, hbooks.given⟩
  calc base + total (frameLength info) (acceptedFrames id (sessionHistory setup turns))
      = info.offset.toNat := hbooks.final.symm
    _ < 2 ^ 64 := info.offset.toNat_lt

/-- A media frame as `parse_headers` reads it, on the stream of the example session. -/
def exampleMedia (offset body : Bytes) : ParsedHeadersView where
  frameType := .media
  frame := encode [field .streamId (ascii "2a2a2a2a2a2a2a2a"), field .offset offset,
    field .contentType (ascii "audio/opus")] body
  headerBlock := crlf.intercalate
    [headerText (field .streamId (ascii "2a2a2a2a2a2a2a2a")), headerText (field .offset offset),
      headerText (field .contentType (ascii "audio/opus"))]
  body := body
  streamId := some (ascii "2a2a2a2a2a2a2a2a")
  offset := some offset
  contentType := some (ascii "audio/opus")

/-- Two frames on the stream of the example session, whose offset counts bytes. -/
theorem offset_accounting_example :
    ∃ base info, info.offset.toNat = base + total (frameLength info)
      (acceptedFrames (ascii "2a2a2a2a2a2a2a2a")
        (sessionHistory (exampleSetup (ascii "input") (ascii "byte"))
          [exampleInit (ascii "input") (ascii "byte"),
            { invocation := { call := .processMediaFrame (exampleMedia (ascii "0") [1, 2, 3]) } },
            { invocation := { call := .processMediaFrame (exampleMedia (ascii "3") [4]) } }])) ∧
      info.offset = 4 := by
  obtain ⟨base, -, -, hfinal, -⟩ := offset_accounting
    (exampleSetup (ascii "input") (ascii "byte"))
    [exampleInit (ascii "input") (ascii "byte"),
      { invocation := { call := .processMediaFrame (exampleMedia (ascii "0") [1, 2, 3]) } },
      { invocation := { call := .processMediaFrame (exampleMedia (ascii "3") [4]) } }]
    (ascii "2a2a2a2a2a2a2a2a")
    { id := ascii "2a2a2a2a2a2a2a2a", contentType := ascii "audio/opus", direction := .input
      purpose := [], offset := 4, codec := .opus, pcmParams := none, offsetType := .byte }
    (by decide +kernel) rfl
  exact ⟨base, _, hfinal, rfl⟩

end CulpeoStream.Session
