import CulpeoStream.Lib.SharedCounter
import CulpeoStream.Session.Accounting
import CulpeoStream.Session.OutboundOrder

/-!
# Duplex streams

A stream of the session has one offset, and `process_media_frame` and `send_media` both
check and advance it.  On a duplex stream the client and the server each count their own
frames, so a frame in one direction puts the other direction out of step.

`duplex_run` says how far the two directions are independent: as long as no frame
follows a frame of nonzero increment in the other direction.  The calls on the stream
are the acts of a `SharedCounter` (`simulates`), and the result is the one proved there.
-/

namespace CulpeoStream.Session

open Message Resumption History Ledger SharedCounter Checks

/-! ### Mismatched offsets -/

theorem faulty_error {α : Type} {reason : Bytes} {x : Except Error α} {fault : MediaFault}
    (h : faulty reason x = .error fault) : x = .error fault.error := by
  cases x with
  | error e =>
      cases h
      rfl
  | ok a => cases h

theorem required_ne_mismatch {reason : Bytes} {header : Option Bytes} {fault : MediaFault}
    (h : required reason header = .error fault) : fault.error ≠ .offsetMismatch := by
  cases header with
  | none =>
      cases h
      nofun
  | some value => cases h

theorem validateClientSend_ne_mismatch {registry : StreamRegistry} {id : Bytes} :
    registry.validateClientSend id ≠ .error .offsetMismatch := by
  unfold StreamRegistry.validateClientSend
  split
  · nofun
  · split <;> nofun

theorem parseUint64_ne_mismatch {text : Bytes} : parseUint64 text ≠ .error .offsetMismatch := by
  unfold parseUint64
  split
  · nofun
  · split
    · nofun
    · split
      · nofun
      · split <;> nofun

theorem advanceOffset_ne_mismatch {stream : StreamInfo} {frameBytes : UInt64} :
    advanceOffset stream frameBytes ≠ .error .offsetMismatch := by
  have hinc : frameIncrement stream frameBytes ≠ .error .offsetMismatch := by
    unfold frameIncrement computePcmIncrement
    split
    · split
      · nofun
      · split
        · nofun
        · split
          · nofun
          · dsimp only
            split <;> nofun
    · nofun
    · nofun
  unfold advanceOffset
  cases hcase : frameIncrement stream frameBytes with
  | error e =>
      rintro ⟨⟩
      exact hinc hcase
  | ok n =>
      dsimp only
      split <;> nofun

/-- **A mismatch is a mismatch**: the offset of the frame is not the one of its stream. -/
theorem acceptMedia_mismatch {registry : StreamRegistry} {f : ParsedHeadersView}
    {fault : MediaFault} (h : acceptMedia registry f = .error fault)
    (hfault : fault.error = .offsetMismatch) :
    ∃ id stream, f.streamId = some id ∧ registry.find id = some stream ∧
      offsetOf f.offset ≠ some stream.offset.toNat := by
  unfold acceptMedia at h
  rcases error_of_bind_error h with h | ⟨id, hid, h⟩
  · exact absurd hfault (required_ne_mismatch h)
  rcases error_of_bind_error h with h | ⟨stream, hstream, h⟩
  · exact absurd (hfault ▸ faulty_error h) validateClientSend_ne_mismatch
  rcases error_of_bind_error h with h | ⟨text, htext, h⟩
  · exact absurd hfault (required_ne_mismatch h)
  rcases error_of_bind_error h with h | ⟨n, hn, h⟩
  · exact absurd (hfault ▸ faulty_error h) parseUint64_ne_mismatch
  rcases error_of_bind_error h with h | ⟨_, -, h⟩
  · -- The check of the offset is the one place where the mismatch arises.
    have hcheck := faulty_error h
    unfold checkOffset at hcheck
    split at hcheck
    · rename_i hne
      refine ⟨id, stream, required_ok hid, (validateClientSend_ok (faulty_ok hstream)).1, ?_⟩
      rw [required_ok htext, offsetOf, Option.bind_some, faulty_ok hn]
      intro heq
      exact hne (UInt64.toNat_inj.mp (Option.some.inj heq))
    · cases hcheck
  rcases error_of_bind_error h with h | ⟨contentType, -, h⟩
  · exact absurd hfault (required_ne_mismatch h)
  rcases error_of_bind_error h with h | ⟨_, -, h⟩
  · unfold checkContentType at h
    split at h
    · cases h
    · cases h
      cases hfault
  rcases error_of_bind_error h with h | ⟨_, -, h⟩
  · unfold parseTimestamp at h
    split at h
    · cases h
    · exact absurd (hfault ▸ faulty_error h) parseUint64_ne_mismatch
  rcases error_of_bind_error h with h | ⟨_, -, h⟩
  · exact absurd (hfault ▸ faulty_error h) advanceOffset_ne_mismatch
  · cases h

/-! ### The calls on a stream -/

/-- What passes over a stream: a frame that is received, or a payload to be sent. -/
inductive Traffic where
  | received (f : ParsedHeadersView)
  | sending (payload : Bytes)
  deriving DecidableEq

def Traffic.isInward : Traffic → Bool
  | received _ => true
  | sending _ => false

/-- How far it moves the offset of the stream. -/
def Traffic.length (info : StreamInfo) : Traffic → ℕ
  | received f => frameLength info f
  | sending payload => increment info payload

def Traffic.entry (info : StreamInfo) : Traffic → Entry ℕ
  | received f => .inward (offsetOf f.offset) (frameLength info f)
  | sending payload => .outward (increment info payload)

/-- What a call means for a stream: media frames received on it, and sends on it. -/
def trafficOn (id : Bytes) : Call → Option Traffic
  | .processMediaFrame f =>
      if f.frameType = .media ∧ f.streamId = some id then some (.received f) else none
  | .sendMedia streamId payload _ => if streamId = id then some (.sending payload) else none
  | _ => none

/-- The traffic on a stream. -/
def traffic (id : Bytes) (turns : List Turn) : List Traffic :=
  turns.filterMap fun turn => trafficOn id turn.invocation.call

/-- The frames received on a stream. -/
def receivedFrames (id : Bytes) (turns : List Turn) : List ParsedHeadersView :=
  (traffic id turns).filterMap fun
    | .received f => some f
    | .sending _ => none

/-- The frames of a stream that a call hands to the transport. -/
def sentFrames (id : Bytes) (rec : SessionRecord) : List WireFrame :=
  rec.result.outputs.filterMap (handedOver id)

/-- Where a stream stands, in a session that is established. -/
def position (id : Bytes) (s : Impl) : Option ℕ :=
  if s.state = .established then (s.registry.find id).map fun now => now.offset.toNat else none

/-- The entry that a call offers to the offset of a stream. -/
def offer (id : Bytes) (info : StreamInfo) (turn : Turn) : Option (Entry ℕ) :=
  (trafficOn id turn.invocation.call).map (Traffic.entry info)

/-- What a call hands to the transport on a stream, as positions and lengths. -/
def stampsOf (id : Bytes) (info : StreamInfo) (rec : SessionRecord) : List (Option ℕ × ℕ) :=
  (sentFrames id rec).map fun w => (w.offset, w.length info)

/-- The session is over, or the stream is there with only its offset changed. -/
def Serves (id : Bytes) (info : StreamInfo) (s : Impl) : Prop :=
  s.state = .closed ∨ s.state = .established ∧ ∃ now, s.registry.find id = some now ∧
    now = { info with offset := now.offset }

theorem position_closed {id : Bytes} {s : Impl} (h : s.state = .closed) : position id s = none := by
  rw [position, h]
  rfl

theorem position_established {id : Bytes} {s : Impl} {now : StreamInfo}
    (h : s.state = .established) (hfind : s.registry.find id = some now) :
    position id s = some now.offset.toNat := by
  rw [position, if_pos h, hfind, Option.map_some]

theorem sentFrames_of_noMedia {rec : SessionRecord} (h : NoMedia rec.result.outputs)
    (id : Bytes) : sentFrames id rec = [] := by
  rw [sentFrames, List.filterMap_eq_nil_iff]
  intro o ho
  cases o with
  | sendBinary frame => cases h _ ho
  | _ => rfl

/-! ### One call -/

section Receive

variable {setup : Setup} {turn : Turn} {s : Impl} {f : ParsedHeadersView}

theorem act_processMediaFrame (hcall : turn.invocation.call = .processMediaFrame f) :
    turn.act setup s =
      (processMediaFrame setup f s).2.exec turn.answers (processMediaFrame setup f s).1 := by
  unfold Turn.act perform enter
  rw [hcall]

theorem act_receive_closed (hcall : turn.invocation.call = .processMediaFrame f)
    (hmedia : f.frameType = .media) (hs : s.state = .closed) :
    turn.act setup s = ⟨s, [], .error .wrongState⟩ := by
  rw [act_processMediaFrame hcall, processMediaFrame, if_neg (by simp [hmedia]),
    if_neg (by simp [hs]), if_pos (by simp [hs])]
  rfl

/-- A media frame of an established session is accepted, or closes it with its fault. -/
theorem act_receive (id : Bytes) (hcall : turn.invocation.call = .processMediaFrame f)
    (hmedia : f.frameType = .media) (hs : s.state = .established) :
    (∃ fault, acceptMedia s.registry f = .error fault ∧
      (turn.act setup s).state.state = .closed ∧ NoMedia (turn.act setup s).outputs ∧
      (turn.act setup s).result = .error fault.error) ∨
    ∃ stream timestampUs, acceptMedia s.registry f = .ok (stream, timestampUs) ∧
      (turn.act setup s).state = { s with registry := s.registry.update stream } ∧
      (turn.act setup s).outputs.filterMap (handedOver id) = [] ∧
      (turn.act setup s).result = .ok () := by
  rw [act_processMediaFrame hcall, processMediaFrame, if_neg (by simp [hmedia]),
    if_neg (by simp [hs]), if_neg (by simp [hs])]
  cases haccept : acceptMedia s.registry f with
  | error fault =>
      simp only [exec_abort]
      exact .inl ⟨fault, rfl, rfl, by simp [Output.isMedia], rfl⟩
  | ok accepted =>
      obtain ⟨stream, timestampUs⟩ := accepted
      have hexec := exec_deliver turn.answers { s with registry := s.registry.update stream } setup
        stream timestampUs f.body
      rw [deliver] at hexec
      dsimp only
      rw [hexec]
      refine .inr ⟨stream, timestampUs, rfl, rfl, ?_, rfl⟩
      cases setup.callbacks.onMediaReceived <;> rfl

/-- Only an established session reports a mismatch, on a stream that stands elsewhere. -/
theorem act_mismatch {id : Bytes} (hcall : turn.invocation.call = .processMediaFrame f)
    (hmedia : f.frameType = .media) (hid : f.streamId = some id)
    (hs : s.state = .closed ∨ s.state = .established)
    (hresult : (turn.act setup s).result = .error .offsetMismatch) :
    ∃ p, position id s = some p ∧ offsetOf f.offset ≠ some p := by
  rcases hs with hs | hs
  · rw [act_receive_closed hcall hmedia hs] at hresult
    cases hresult
  · rcases act_receive id hcall hmedia hs with
      ⟨fault, hfault, -, -, herror⟩ | ⟨_, _, -, -, -, hok⟩
    · rw [herror, Except.error.injEq] at hresult
      obtain ⟨id', stream, hid', hfind, hne⟩ := acceptMedia_mismatch hfault hresult
      rw [hid, Option.some.injEq] at hid'
      subst hid'
      exact ⟨_, position_established hs hfind, hne⟩
    · rw [hok] at hresult
      cases hresult

end Receive

theorem legal_receive {setup : Setup} {turn : Turn} {s : Impl} {f : ParsedHeadersView}
    {id : Bytes} {info : StreamInfo} (hs : Serves id info s)
    (hcall : turn.invocation.call = .processMediaFrame f) (hmedia : f.frameType = .media)
    (hid : f.streamId = some id) :
    Serves id info (turn.act setup s).state ∧
      Legal (Sendable info) ⟨position id s, Traffic.entry info (.received f),
        position id (turn.act setup s).state, stampsOf id info ⟨s, turn, turn.act setup s⟩⟩ := by
  rw [stampsOf, Traffic.entry]
  rcases hs with hs | ⟨hs, now, hfind, hnow⟩
  · rw [act_receive_closed hcall hmedia hs]
    refine ⟨.inl hs, ?_⟩
    simp only [position_closed hs]
    exact .finished _
  · have hbefore := position_established hs hfind
    rcases act_receive id hcall hmedia hs with
      ⟨fault, hfault, hclosed, hquiet, -⟩ | ⟨advanced, timestampUs, haccept, hafter, hquiet, -⟩
    · -- Whatever the fault, the frame ends the session.
      refine ⟨.inl hclosed, ?_⟩
      rw [hbefore, position_closed hclosed, sentFrames_of_noMedia hquiet]
      exact .ended _ _ _
    · obtain ⟨id', stream, haccepts⟩ := acceptMedia_ok haccept
      obtain rfl : id = id' := Option.some.inj (hid.symm.trans haccepts.streamId)
      obtain rfl : now = stream := Option.some.inj (hfind.symm.trans haccepts.found)
      obtain ⟨hadd, hadvanced⟩ := advanceOffset_ok haccepts.advance
      have hfind' := StreamRegistry.find_update_self hfind (advanceOffset_id haccepts.advance)
      have hlength : frameLength info f = increment now f.body := by
        rw [frameLength, hnow]
        exact increment_congr rfl rfl f.body
      have hposition : position id { s with registry := s.registry.update advanced } =
          some advanced.offset.toNat := position_established hs hfind'
      rw [hbefore, hafter, sentFrames, hquiet, haccepts.offset, hlength, hposition, hadd]
      refine ⟨.inr ⟨hs, advanced, hfind', ?_⟩, .accepted _ _⟩
      rw [hadvanced, hnow]

theorem legal_send {setup : Setup} {turn : Turn} {s : Impl} {id payload : Bytes}
    {timestampUs : UInt64} {info : StreamInfo} (hs : Serves id info s)
    (hcall : turn.invocation.call = .sendMedia id payload timestampUs) :
    Serves id info (turn.act setup s).state ∧
      Legal (Sendable info) ⟨position id s, Traffic.entry info (.sending payload),
        position id (turn.act setup s).state, stampsOf id info ⟨s, turn, turn.act setup s⟩⟩ := by
  have hact : turn.act setup s = (sendMedia id payload timestampUs s).2.exec turn.answers
      (sendMedia id payload timestampUs s).1 := by
    unfold Turn.act perform enter
    rw [hcall]
  rw [stampsOf, Traffic.entry]
  rcases sendMedia_spec id payload timestampUs s with ⟨e, hfail⟩ |
    ⟨stream, advanced, hestablished, hstream, hadvance, hsend⟩
  · have hout : turn.act setup s = ⟨s, [], .error e⟩ := by
      rw [hact, hfail]
      rfl
    rw [hout]
    refine ⟨hs, ?_⟩
    rcases hs with hs | ⟨hs, now, hfind, -⟩
    · simp only [position_closed hs]
      exact .finished _
    · simp only [position_established hs hfind]
      exact .refused _ _
  · rcases hs with hs | ⟨hs, now, hfind, hnow⟩
    · rw [hestablished] at hs
      cases hs
    · obtain rfl : now = stream :=
        Option.some.inj (hfind.symm.trans (validateServerSend_ok hstream).1)
      obtain ⟨hadd, hadvanced⟩ := advanceOffset_ok hadvance
      have hfind' := StreamRegistry.find_update_self hfind (advanceOffset_id hadvance)
      obtain ⟨hafter, houtputs⟩ := exec_handOver turn.answers
        { s with registry := s.registry.update advanced } (mediaHeaders id now timestampUs) payload
      have hlength : increment info payload = increment now payload := by
        rw [hnow]
        exact increment_congr rfl rfl payload
      have hvalid : ValidHeaders (mediaHeaders id now timestampUs) ↔ Sendable info := by
        rw [validHeaders_mediaHeaders, Sendable, ← StreamRegistry.find_id hfind, hnow]
      have hposition : position id { s with registry := s.registry.update advanced } =
          some advanced.offset.toNat := position_established hs hfind'
      rw [hact, hsend, hafter, sentFrames, houtputs, position_established hs hfind, hposition, hadd,
        hlength]
      refine ⟨.inr ⟨hs, advanced, hfind', by rw [hadvanced, hnow]⟩, ?_⟩
      -- The offset is taken before the frame is built; if that fails, nothing is sent.
      cases hframe : makeFrame .media (mediaHeaders id now timestampUs) payload with
      | none =>
          refine .hidden ?_ _ _
          rw [← hvalid, ← @makeFrame_isSome_iff .media _ payload, hframe]
          exact Bool.false_ne_true
      | some frame =>
          obtain ⟨hheader, hoffset, hbody⟩ := mediaFrame_header hframe
          have hsendable : Sendable info := by
            rw [← hvalid, ← @makeFrame_isSome_iff .media _ payload, hframe]
            rfl
          have hwire : frame.length info = increment now payload := by
            rw [WireFrame.length, hbody, hlength]
          simp only [Option.toList_some, List.map_cons, List.map_nil, List.filterMap_cons,
            List.filterMap_nil, handedOver, onStream, hheader, if_true, hoffset, hwire]
          exact .sent hsendable _ _

/-- **Every call on the stream is an act on its offset.** -/
theorem legal_act {setup : Setup} {turn : Turn} {s : Impl} {id : Bytes} {info : StreamInfo}
    {t : Traffic} (hs : Serves id info s) (ht : trafficOn id turn.invocation.call = some t) :
    Serves id info (turn.act setup s).state ∧
      Legal (Sendable info) ⟨position id s, t.entry info, position id (turn.act setup s).state,
        stampsOf id info ⟨s, turn, turn.act setup s⟩⟩ := by
  cases hcall : turn.invocation.call with
  | processMediaFrame f =>
      rw [hcall, trafficOn] at ht
      split at ht
      · rename_i hon
        cases ht
        exact legal_receive hs hcall hon.1 hon.2
      · cases ht
  | sendMedia streamId payload timestampUs =>
      rw [hcall, trafficOn] at ht
      split at ht
      · rename_i hon
        subst hon
        cases ht
        exact legal_send hs hcall
      · cases ht
  | _ =>
      rw [hcall] at ht
      cases ht

/-- A call that is not about the stream leaves it alone, or ends the session. -/
theorem act_elsewhere {setup : Setup} {turn : Turn} {s : Impl} {id : Bytes} {info : StreamInfo}
    (hs : Serves id info s) (htraffic : trafficOn id turn.invocation.call = none) :
    Serves id info (turn.act setup s).state ∧
      (position id (turn.act setup s).state = position id s ∨
        position id (turn.act setup s).state = none) ∧
      sentFrames id ⟨s, turn, turn.act setup s⟩ = [] := by
  -- A session in which the stream is found as before serves it as before.
  have hsame : ∀ {s' : Impl}, s'.state = s.state → s'.registry.find id = s.registry.find id →
      Serves id info s' ∧ (position id s' = position id s ∨ position id s' = none) := by
    intro s' hstate hfind
    refine ⟨?_, .inl ?_⟩
    · rw [Serves, hstate, hfind]
      exact hs
    · rw [position, position, hstate, hfind]
  have hother : ∀ {id' : Bytes} {stream advanced : StreamInfo} {body : Bytes},
      s.registry.find id' = some stream →
      advanceOffset stream body.length.toUInt64 = .ok advanced → id ≠ id' →
      (s.registry.update advanced).find id = s.registry.find id := by
    intro id' stream advanced body hfind hadvance hne
    have hid : advanced.id = id' :=
      (advanceOffset_id hadvance).trans (StreamRegistry.find_id hfind)
    exact StreamRegistry.find_update_of_ne (by rwa [hid])
  have hperform : Performs setup turn.invocation s (turn.act setup s) :=
    perform_cases setup turn.invocation turn.answers s
  cases hperform with
  | passes hagree hquiet _ =>
      obtain ⟨hserves, hposition⟩ := hsame hagree.state (by rw [hagree.registry])
      exact ⟨hserves, hposition, sentFrames_of_noMedia hquiet id⟩
  | closes hclosed _ _ hquiet _ =>
      exact ⟨.inl hclosed, .inr (position_closed hclosed), sentFrames_of_noMedia hquiet id⟩
  | establishes hstate _ _ _ _ _ _ _ _ =>
      rcases hs with hs | ⟨hs, -⟩
      · rw [hs] at hstate
        cases hstate
      · rw [hs] at hstate
        cases hstate
  | @accepts f advanced timestampUs _ hcall haccept hout =>
      obtain ⟨id', stream, haccepts⟩ := acceptMedia_ok haccept
      have hmedia : f.frameType = .media := by
        by_contra hno
        rw [act_processMediaFrame hcall, processMediaFrame, if_pos hno] at hout
        cases congrArg Outcome.result hout
      have hne : id ≠ id' := by
        rintro rfl
        rw [hcall, trafficOn, if_pos ⟨hmedia, haccepts.streamId⟩] at htraffic
        cases htraffic
      rw [hout]
      obtain ⟨hserves, hposition⟩ := @hsame { s with registry := s.registry.update advanced } rfl
        (hother haccepts.found haccepts.advance hne)
      refine ⟨hserves, hposition, ?_⟩
      rw [sentFrames]
      cases setup.callbacks.onMediaReceived <;> rfl
  | @sends streamId payload timestampUs stream advanced _ hcall hstream hadvance hafter houtputs =>
      have hne : id ≠ streamId := by
        rintro rfl
        rw [hcall, trafficOn, if_pos rfl] at htraffic
        cases htraffic
      obtain ⟨hserves, hposition⟩ := @hsame { s with registry := s.registry.update advanced } rfl
        (hother (validateServerSend_ok hstream).1 hadvance hne)
      rw [hafter, sentFrames, houtputs]
      refine ⟨hserves, hposition, ?_⟩
      cases hframe : makeFrame .media (mediaHeaders streamId stream timestampUs) payload with
      | none => rfl
      | some frame =>
          simp [handedOver, onStream, (mediaFrame_header hframe).1, Ne.symm hne]

/-! ### Runs -/

/-- **A stream of a session is a shared counter.** -/
theorem simulates (setup : Setup) (id : Bytes) (info : StreamInfo) :
    Simulates (Turn.act setup) Outcome.state (offer id info) (position id) (stampsOf id info)
      (Sendable info) fun s _ => Serves id info s := by
  refine ⟨fun s turn _ hs => ?_, fun s turn _ entry hs hoffer => ?_, fun s turn _ hs hoffer => ?_⟩
  · cases ht : trafficOn id turn.invocation.call with
    | none => exact (act_elsewhere hs ht).1
    | some t => exact (legal_act hs ht).1
  · obtain ⟨t, ht, rfl⟩ := Option.map_eq_some_iff.mp hoffer
    exact (legal_act hs ht).2
  · obtain ⟨-, hposition, hsilent⟩ := @act_elsewhere setup turn s id info hs
      (Option.map_eq_none_iff.mp hoffer)
    exact ⟨hposition, by rw [stampsOf, hsilent, List.map_nil]⟩

theorem trafficOn_eq_received {id : Bytes} {call : Call} {f : ParsedHeadersView}
    (h : trafficOn id call = some (.received f)) :
    call = .processMediaFrame f ∧ f.frameType = .media ∧ f.streamId = some id := by
  cases call with
  | processMediaFrame g =>
      rw [trafficOn] at h
      split at h
      · rename_i hon
        cases h
        exact ⟨rfl, hon⟩
      · cases h
  | sendMedia streamId payload timestampUs =>
      rw [trafficOn] at h
      split at h <;> cases h
  | _ => cases h

theorem filterMap_offer (info : StreamInfo) (id : Bytes) (turns : List Turn) :
    turns.filterMap (offer id info) = (traffic id turns).map (Traffic.entry info) := by
  rw [traffic, List.map_filterMap]
  rfl

theorem filter_entries (info : StreamInfo) (id : Bytes) (turns : List Turn) :
    ((traffic id turns).map (Traffic.entry info)).filter Entry.isInward =
      (receivedFrames id turns).map fun f =>
        .inward (offsetOf f.offset) (frameLength info f) := by
  apply filter_inward
  · rintro (f | payload) f' h <;> cases h
    rfl
  · rintro (f | payload) h <;> cases h
    rfl

/-- **Duplex streams of a session.**  In every run of calls of an established session,
if the frames received on a stream are contiguous from its offset, and on this stream no
frame follows a frame of nonzero increment in the other direction, then none of them is
rejected for its offset, and the frames sent on it are contiguous from its offset. -/
theorem duplex_run (setup : Setup) (s : Impl) (hs : s.state = .established) (id : Bytes)
    (info : StreamInfo) (hfind : s.registry.find id = some info) (turns : List Turn)
    (hreceived : Contiguous (fun f => offsetOf f.offset) (frameLength info) info.offset.toNat
      (receivedFrames id turns))
    (honeWay : OneWay Traffic.isInward (Traffic.length info) (traffic id turns)) :
    (∀ rec ∈ history (Turn.act setup) Outcome.state s turns, ∀ f,
      trafficOn id rec.call.invocation.call = some (.received f) →
      rec.result.result ≠ .error .offsetMismatch) ∧
    Contiguous WireFrame.offset (WireFrame.length info) info.offset.toNat
      ((history (Turn.act setup) Outcome.state s turns).flatMap (sentFrames id)) := by
  have hserves : Serves id info s := .inr ⟨hs, info, hfind, rfl⟩
  have hsimulates := simulates setup id info
  obtain ⟨hmeets, hsent⟩ := hsimulates.independent hserves (position_established hs hfind)
    (by
      rw [filterMap_offer, oneWay_map]
      refine honeWay.imp fun {t u} h hne => ?_
      cases t <;> cases u <;> exact h hne)
    (by
      rw [filterMap_offer, filter_entries, contiguous_map]
      exact hreceived)
  have hframes : ∀ records : List SessionRecord, records.flatMap (stampsOf id info) =
      (records.flatMap (sentFrames id)).map fun w => (w.offset, w.length info) := by
    intro records
    rw [List.map_flatMap]
    rfl
  rw [hframes, contiguous_map] at hsent
  refine ⟨fun rec hrec f htraffic hresult => ?_, hsent⟩
  obtain ⟨hact, -, hbefore⟩ := hsimulates.before hserves rec hrec
  obtain ⟨hcall, hmedia, hid⟩ := trafficOn_eq_received htraffic
  rw [hact] at hresult
  obtain ⟨p, hp, hne⟩ := act_mismatch hcall hmedia hid (hbefore.imp_right And.left) hresult
  have hoffer : offer id info rec.call = some (Traffic.entry info (.received f)) := by
    rw [offer, htraffic, Option.map_some]
  exact hne (hmeets rec hrec _ p hoffer rfl hp)

end CulpeoStream.Session
