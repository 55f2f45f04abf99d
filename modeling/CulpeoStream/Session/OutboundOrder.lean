import CulpeoStream.Lib.Ledger
import CulpeoStream.Session.Lifecycle

/-!
# The order of outgoing media

`send_media` takes its offset in one critical section and hands its frame to the
transport after it has released the mutex, so two calls may hand their frames over in
the wrong order.  A receiver that checks offsets closes the session on such a frame.

What the session does promise is said by `outbound_contiguous`: the frames of a stream
are contiguous as long as every hand-over is made by the call that has waited longest
among those on the same stream.  The invariant is that the frames already handed over
and the frames still in flight, in the order in which the calls entered, are contiguous
together and make up the offset of the stream.
-/

namespace CulpeoStream.Session

open Message Resumption Ledger

/-! ### Frames of a stream -/

/-- The frame, when it belongs to the stream. -/
def onStream (id : Bytes) (frame : WireFrame) : Option WireFrame :=
  if frame.header .streamId = some id then some frame else none

/-- The media frame of the stream that an action hands to the transport. -/
def handedOver (id : Bytes) : Output → Option WireFrame
  | .sendBinary frame => onStream id frame
  | _ => none

/-- The media frame of the stream that a call is about to hand over. -/
def inFlight (id : Bytes) : Rest → Option WireFrame
  | .call out _ => handedOver id out
  | _ => none

@[simp] theorem inFlight_ret (id : Bytes) (result : Result) :
    inFlight id (.ret result) = none := rfl

@[simp] theorem inFlight_sendBinary (id : Bytes) (frame : WireFrame) (next : Bool → Rest) :
    inFlight id (.call (.sendBinary frame) next) = onStream id frame := rfl

/-- The `Offset` of a frame on the wire. -/
def WireFrame.offset (frame : WireFrame) : Option ℕ :=
  offsetOf (frame.header .offset)

/-- How far a frame on the wire moves the offset of a stream. -/
def WireFrame.length (info : StreamInfo) (frame : WireFrame) : ℕ :=
  increment info frame.body

/-- The frames of a stream handed over so far, in order. -/
def sent (id : Bytes) (cfg : Config Impl Output Bool Result) : List WireFrame :=
  cfg.trace.filterMap (handedOver id)

/-- The frames of a stream still in flight, in the order their calls entered. -/
def waiting (id : Bytes) (cfg : Config Impl Output Bool Result) : List WireFrame :=
  cfg.pool.filterMap (inFlight id)

/-- Only `send_media` is called, and a frame of the stream is handed over only when no
call that entered earlier still has one. -/
def InTurn (id : Bytes) (cfg : Config Impl Output Bool Result) : Move Invocation Bool → Prop
  | .enter inv => ∃ streamId payload timestampUs, inv.call = .sendMedia streamId payload timestampUs
  | .resume i _ => ∀ p, cfg.pool[i]? = some p → (inFlight id p).isSome = true →
      (cfg.pool.take i).filterMap (inFlight id) = []

/-! ### What a call hands over -/

/-- The headers of the stream can be serialized. -/
def Sendable (info : StreamInfo) : Prop :=
  validHeaderValue info.id = true ∧ validHeaderValue info.contentType = true

theorem validHeaders_mediaHeaders {id : Bytes} {stream : StreamInfo} {timestampUs : UInt64} :
    ValidHeaders (mediaHeaders id stream timestampUs) ↔
      validHeaderValue id = true ∧ validHeaderValue stream.contentType = true := by
  have hnames : ∀ r : Reserved, validHeaderName r.headerName = true := by
    intro r
    cases r <;> decide
  simp [ValidHeaders, mediaHeaders, field, hnames, validHeaderValue_decimal]

/-- A frame made by `send_media` carries the id of its stream, and the offset at which
it stood. -/
theorem mediaFrame_header {id payload : Bytes} {stream : StreamInfo} {timestampUs : UInt64}
    {frame : WireFrame}
    (h : makeFrame .media (mediaHeaders id stream timestampUs) payload = some frame) :
    frame.header .streamId = some id ∧ frame.offset = some stream.offset.toNat ∧
      frame.body = payload := by
  obtain ⟨hheaders, hbody⟩ := makeFrame_eq_some h
  refine ⟨?_, ?_, hbody⟩
  · rw [WireFrame.header, hheaders, mediaHeaders, fieldValue_field_self]
  · rw [WireFrame.offset, WireFrame.header, hheaders, mediaHeaders,
      fieldValue_field_of_ne (by decide), fieldValue_field_self, offsetOf, Option.bind_some,
      parseUint64_decimal]
    rfl

/-- A call of `send_media` that is under way: it has a frame to hand over and then
returns, or it has returned. -/
def Sending (p : Rest) : Prop :=
  (∃ result, p = .ret result) ∨
    ∃ frame next, p = .call (.sendBinary frame) next ∧ ∀ answer, ∃ result, next answer = .ret result

theorem sending_handOver (headers : List HeaderField) (payload : Bytes) :
    Sending (handOver headers payload) := by
  unfold handOver
  split
  · exact .inl ⟨_, rfl⟩
  · exact .inr ⟨_, _, rfl, fun _ => ⟨_, rfl⟩⟩

theorem inFlight_handOver (id : Bytes) (headers : List HeaderField) (payload : Bytes) :
    inFlight id (handOver headers payload) =
      (makeFrame .media headers payload).bind (onStream id) := by
  unfold handOver
  cases makeFrame .media headers payload with
  | none => rfl
  | some frame => rfl

/-! ### The invariant -/

/-- **Frames handed over and frames in flight make up the offset of the stream.** -/
structure Outbound (id : Bytes) (info : StreamInfo) (cfg : Config Impl Output Bool Result) :
    Prop where
  sending : ∀ p ∈ cfg.pool, Sending p
  stream : ∃ now, cfg.shared.registry.find id = some now ∧
    now = { info with offset := now.offset } ∧
    (Sendable info → now.offset.toNat =
      info.offset.toNat + total (WireFrame.length info) (sent id cfg ++ waiting id cfg))
  unsendable : ¬ Sendable info → sent id cfg ++ waiting id cfg = []
  contiguous : Contiguous WireFrame.offset (WireFrame.length info) info.offset.toNat
    (sent id cfg ++ waiting id cfg)

/-- The invariant looks at the stream and at the frames of both kinds together. -/
theorem Outbound.congr {id : Bytes} {info : StreamInfo} {cfg cfg' : Config Impl Output Bool Result}
    (h : Outbound id info cfg) (hsending : ∀ p ∈ cfg'.pool, Sending p)
    (hfind : cfg'.shared.registry.find id = cfg.shared.registry.find id)
    (hframes : sent id cfg' ++ waiting id cfg' = sent id cfg ++ waiting id cfg) :
    Outbound id info cfg' := by
  refine ⟨hsending, ?_, ?_, ?_⟩
  · rw [hfind, hframes]
    exact h.stream
  · rw [hframes]
    exact h.unsendable
  · rw [hframes]
    exact h.contiguous

theorem filterMap_set {α β : Type} {l : List α} {i : ℕ} (hi : i < l.length) (f : α → Option β)
    (a : α) :
    (l.set i a).filterMap f =
      (l.take i).filterMap f ++ ((f a).toList ++ (l.drop (i + 1)).filterMap f) := by
  rw [List.set_eq_take_append_cons_drop, if_pos hi, List.filterMap_append, List.filterMap_cons]
  cases f a <;> rfl

theorem sending_concat {pool : List Rest} {p : Rest} (h : ∀ q ∈ pool, Sending q)
    (hp : Sending p) : ∀ q ∈ pool ++ [p], Sending q := by
  intro q hq
  rcases List.mem_append.mp hq with hold | hnew
  · exact h q hold
  · rw [List.mem_singleton] at hnew
    rw [hnew]
    exact hp

/-- What a call brings along when it enters goes to the end. -/
theorem frames_enter (id : Bytes) (cfg : Config Impl Output Bool Result) (s : Impl) (p : Rest) :
    sent id { cfg with shared := s, pool := cfg.pool ++ [p] } ++
        waiting id { cfg with shared := s, pool := cfg.pool ++ [p] } =
      (sent id cfg ++ waiting id cfg) ++ (inFlight id p).toList := by
  unfold sent waiting
  rw [List.filterMap_append, ← List.append_assoc, List.filterMap_cons]
  cases inFlight id p with
  | none => rfl
  | some frame => rfl

/-- A call that enters on the stream puts its frame at the end. -/
theorem Outbound.enter_self {id : Bytes} {info : StreamInfo}
    {cfg : Config Impl Output Bool Result} (h : Outbound id info cfg) {payload : Bytes}
    {timestampUs : UInt64} {stream advanced : StreamInfo}
    (hfound : cfg.shared.registry.find id = some stream)
    (hadvance : advanceOffset stream payload.length.toUInt64 = .ok advanced) :
    Outbound id info
      { cfg with
        shared := { cfg.shared with registry := cfg.shared.registry.update advanced }
        pool := cfg.pool ++ [handOver (mediaHeaders id stream timestampUs) payload] } := by
  obtain ⟨now, hnow, hsame, htotal⟩ := h.stream
  obtain rfl : now = stream := Option.some.inj (hnow.symm.trans hfound)
  obtain ⟨hadd, hadvanced⟩ := advanceOffset_ok hadvance
  have hid : now.id = id := StreamRegistry.find_id hfound
  have hfind := StreamRegistry.find_update_self hfound (advanceOffset_id hadvance)
  have hinfo : advanced = { info with offset := advanced.offset } := by rw [hadvanced, hsame]
  have hvalid : ValidHeaders (mediaHeaders id now timestampUs) ↔ Sendable info := by
    rw [validHeaders_mediaHeaders, Sendable, ← hid, hsame]
  have hpool := sending_concat h.sending
    (sending_handOver (mediaHeaders id now timestampUs) payload)
  -- Whether the headers can be serialized depends on the stream alone, so either every call
  -- on it has a frame or none has.
  cases hframe : makeFrame .media (mediaHeaders id now timestampUs) payload with
  | none =>
      have hno : ¬ Sendable info := by
        rw [← hvalid, ← @makeFrame_isSome_iff .media _ payload, hframe]
        nofun
      have hnothing : inFlight id (handOver (mediaHeaders id now timestampUs) payload) = none := by
        rw [inFlight_handOver, hframe, Option.bind_none]
      refine ⟨hpool, ⟨advanced, hfind, hinfo, fun hyes => absurd hyes hno⟩, fun _ => ?_, ?_⟩
      · rw [frames_enter, hnothing, Option.toList_none, List.append_nil]
        exact h.unsendable hno
      · rw [frames_enter, hnothing, Option.toList_none, List.append_nil]
        exact h.contiguous
  | some frame =>
      obtain ⟨hstream, hoffset, hbody⟩ := mediaFrame_header hframe
      have hyes : Sendable info := by
        rw [← hvalid, ← @makeFrame_isSome_iff .media _ payload, hframe]
        rfl
      have hlength : frame.length info = increment now payload := by
        rw [WireFrame.length, hbody, hsame]
        exact increment_congr rfl rfl payload
      have hnew : inFlight id (handOver (mediaHeaders id now timestampUs) payload) =
          some frame := by
        rw [inFlight_handOver, hframe, Option.bind_some, onStream, if_pos hstream]
      refine ⟨hpool, ⟨advanced, hfind, hinfo, fun _ => ?_⟩, fun hno => absurd hyes hno, ?_⟩
      · rw [frames_enter, hnew, Option.toList_some, total_append, total_cons, total_nil, hadd,
          htotal hyes, hlength]
        omega
      · rw [frames_enter, hnew, Option.toList_some, contiguous_append, ← htotal hyes]
        exact ⟨h.contiguous, contiguous_cons.mpr ⟨hoffset, contiguous_nil⟩⟩

/-- A call of `send_media` keeps the invariant when it enters. -/
theorem Outbound.enter {id : Bytes} {info : StreamInfo} {cfg : Config Impl Output Bool Result}
    (h : Outbound id info cfg) (streamId payload : Bytes) (timestampUs : UInt64) :
    Outbound id info
      { cfg with
        shared := (sendMedia streamId payload timestampUs cfg.shared).1
        pool := cfg.pool ++ [(sendMedia streamId payload timestampUs cfg.shared).2] } := by
  rcases sendMedia_spec streamId payload timestampUs cfg.shared with ⟨e, hfail⟩ |
    ⟨stream, advanced, -, hstream, hadvance, hsend⟩
  · rw [hfail]
    refine h.congr (sending_concat h.sending (.inl ⟨_, rfl⟩)) rfl ?_
    rw [frames_enter, inFlight_ret, Option.toList_none, List.append_nil]
  · rw [hsend]
    have hfound := (validateServerSend_ok hstream).1
    by_cases hid : streamId = id
    · subst hid
      exact h.enter_self hfound hadvance
    · -- A frame of another stream: its id is in its headers.
      have hadvanced : advanced.id = streamId :=
        (advanceOffset_id hadvance).trans (StreamRegistry.find_id hfound)
      refine h.congr (sending_concat h.sending (sending_handOver _ _)) ?_ ?_
      · show (cfg.shared.registry.update advanced).find id = _
        exact StreamRegistry.find_update_of_ne (by rw [hadvanced]; exact Ne.symm hid)
      · have hother : inFlight id (handOver (mediaHeaders streamId stream timestampUs) payload) =
            none := by
          rw [inFlight_handOver]
          cases hframe : makeFrame .media (mediaHeaders streamId stream timestampUs) payload with
          | none => rfl
          | some frame => simp [onStream, (mediaFrame_header hframe).1, hid]
        rw [frames_enter, hother, Option.toList_none, List.append_nil]

/-- A hand-over in turn takes the first frame in flight. -/
theorem Outbound.resume {setup : Setup} {id : Bytes} {info : StreamInfo}
    {cfg : Config Impl Output Bool Result} (h : Outbound id info cfg) {i : ℕ} {answer : Bool}
    (hturn : InTurn id cfg (.resume i answer)) :
    Outbound id info (step (Session.enter setup) cfg (.resume i answer)) := by
  cases hi : cfg.pool[i]? with
  | none => simpa [step, hi] using h
  | some p =>
      have hp : Sending p := h.sending p (List.mem_of_getElem? hi)
      rcases hp with ⟨result, rfl⟩ | ⟨frame, next, rfl, hnext⟩
      · simpa [step, hi] using h
      · obtain ⟨result, hresult⟩ := hnext answer
        obtain ⟨hlt, hget⟩ := List.getElem?_eq_some_iff.mp hi
        simp only [step, hi, hresult]
        refine h.congr (fun q hq => ?_) rfl ?_
        · rcases List.mem_or_eq_of_mem_set hq with hold | rfl
          · exact h.sending q hold
          · exact .inl ⟨result, rfl⟩
        · have hbefore := filterMap_set hlt (inFlight id) (cfg.pool[i])
          rw [List.set_getElem_self, hget, inFlight_sendBinary] at hbefore
          have hafter := filterMap_set hlt (inFlight id) (.ret result)
          simp only [sent, waiting, hbefore, hafter, inFlight_ret, List.filterMap_append]
          cases hon : onStream id frame with
          | none => simp [handedOver, hon]
          | some g =>
              have hfirst := hturn _ hi (by rw [inFlight_sendBinary, hon]; rfl)
              simp [handedOver, hon, hfirst]

/-! ### Interleavings -/

/-- **Order of outgoing media.**  In every interleaving of `send_media` calls in which
each hand-over on the stream is made by the call that has waited longest, the frames
handed to the transport are contiguous from the offset of the stream. -/
theorem outbound_contiguous (setup : Setup) (s : Impl) (id : Bytes) (info : StreamInfo)
    (hfind : s.registry.find id = some info) (moves : List (Move Invocation Bool))
    (hturn : Along (enter setup) (InTurn id) ⟨s, [], []⟩ moves) :
    Contiguous WireFrame.offset (WireFrame.length info) info.offset.toNat
      (sent id (run (enter setup) ⟨s, [], []⟩ moves)) := by
  have hinit : Outbound id info ⟨s, [], []⟩ :=
    ⟨nofun, ⟨info, hfind, rfl, fun _ => rfl⟩, fun _ => rfl, contiguous_nil⟩
  have hkept : Outbound id info (run (enter setup) ⟨s, [], []⟩ moves) := by
    refine run_induction (fun cfg m hcfg hm => ?_) moves hinit hturn
    cases m with
    | enter inv =>
        obtain ⟨streamId, payload, timestampUs, hcall⟩ := hm
        have henter : enter setup inv cfg.shared =
            sendMedia streamId payload timestampUs cfg.shared := by
          rw [enter, hcall]
        simp only [step, henter]
        exact hcfg.enter streamId payload timestampUs
    | resume i answer => exact hcfg.resume hm
  exact (contiguous_append.mp hkept.contiguous).1

/-- A call of `send_media` on the stream of the example session. -/
def exampleSend (payload : Bytes) : Invocation where
  call := .sendMedia (ascii "2a2a2a2a2a2a2a2a") payload 0

/-- The stream of the example session, which counts frames. -/
def exampleOutput : StreamInfo where
  id := ascii "2a2a2a2a2a2a2a2a"
  contentType := ascii "audio/opus"
  direction := .output
  purpose := []
  offset := 0
  codec := .opus
  pcmParams := none
  offsetType := .message

/-- The example session is established, and knows the stream. -/
theorem exampleOutput_opened :
    (exampleSession (ascii "output") (ascii "message")).state = .established ∧
      (exampleSession (ascii "output") (ascii "message")).registry.find
        (ascii "2a2a2a2a2a2a2a2a") = some exampleOutput := by
  decide +kernel

/-- Two calls overlap and hand over in turn. -/
theorem outbound_contiguous_example :
    Contiguous WireFrame.offset (WireFrame.length exampleOutput) exampleOutput.offset.toNat
      (sent (ascii "2a2a2a2a2a2a2a2a")
        (run (enter (exampleSetup (ascii "output") (ascii "message")))
          ⟨exampleSession (ascii "output") (ascii "message"), [], []⟩
          [.enter (exampleSend [1]), .enter (exampleSend [2]), .resume 0 true,
            .resume 1 true])) := by
  refine outbound_contiguous _ _ _ exampleOutput (by decide +kernel) _
    ⟨⟨_, _, _, rfl⟩, ⟨_, _, _, rfl⟩, fun _ _ _ => ?_, fun _ _ _ => ?_, trivial⟩
  · rw [List.take_zero, List.filterMap_nil]
  · decide +kernel

/-- Two calls overlap and the second one hands its frame over first: the offsets on the
wire are one and zero. -/
theorem outbound_out_of_order :
    ¬ ∀ (setup : Setup) (s : Impl) (id : Bytes) (info : StreamInfo), s.state = .established →
      s.registry.find id = some info → info.direction ≠ .input →
      ∀ moves : List (Move Invocation Bool),
        (∀ inv, .enter inv ∈ moves →
          ∃ payload timestampUs, inv.call = .sendMedia id payload timestampUs) →
        ∃ base, Contiguous WireFrame.offset (WireFrame.length info) base
          (sent id (run (enter setup) ⟨s, [], []⟩ moves)) := by
  intro h
  obtain ⟨base, hcontiguous⟩ := h (exampleSetup (ascii "output") (ascii "message"))
    (exampleSession (ascii "output") (ascii "message")) (ascii "2a2a2a2a2a2a2a2a") exampleOutput
    exampleOutput_opened.1 exampleOutput_opened.2 (by decide)
    [.enter (exampleSend [1]), .enter (exampleSend [2]), .resume 1 true, .resume 0 true]
    (by simp [exampleSend])
  have hoffsets : (sent (ascii "2a2a2a2a2a2a2a2a")
      (run (enter (exampleSetup (ascii "output") (ascii "message")))
        ⟨exampleSession (ascii "output") (ascii "message"), [], []⟩
        [.enter (exampleSend [1]), .enter (exampleSend [2]), .resume 1 true,
          .resume 0 true])).map WireFrame.offset = [some 1, some 0] := by
    decide +kernel
  obtain ⟨f, fs, hsent, hf, hfs⟩ := List.map_eq_cons_iff.mp hoffsets
  obtain ⟨g, gs, rfl, hg, -⟩ := List.map_eq_cons_iff.mp hfs
  rw [hsent, contiguous_cons, contiguous_cons] at hcontiguous
  obtain ⟨hbase, hnext, -⟩ := hcontiguous
  rw [hf, Option.some.injEq] at hbase
  rw [hg, Option.some.injEq] at hnext
  omega

end CulpeoStream.Session
