import CulpeoStream.Http2.Session
import CulpeoStream.Lib.History

/-!
# The send queue

`send_frame` puts an envelope at the end of a queue, and `nghttp2` takes octets off its
front through `data_read_callback`, as flow control allows.  When the queue is empty the
callback answers `NGHTTP2_ERR_DEFERRED`, and `nghttp2` does not call it again before
`resume_data`.

`Conserves` is the invariant: what was returned and what is still queued make up what was
queued, and a deferred provider has an empty queue.  `send_queue_conserved` and
`graceful_close_iff` are its consequences for a whole run.
-/

namespace CulpeoStream.Http2

open Message (Bytes)

/-! ### Runs -/

inductive SendEvent where
  | enqueueSend (stream_id : ℤ) (envelope : Bytes)
  | sendFrame (stream_id : ℤ) (type_byte : UInt8) (payload : Bytes)
  | dataRead (stream_id : ℤ) (length : ℕ)
  | closeStream (stream_id : ℤ) (error_code : UInt32) (rv : ℤ)
deriving DecidableEq

namespace SendEvent

def streamId : SendEvent → ℤ
  | enqueueSend stream_id _ => stream_id
  | sendFrame stream_id _ _ => stream_id
  | dataRead stream_id _ => stream_id
  | closeStream stream_id _ _ => stream_id

/-- A call that throws has no effect. -/
def act : SendEvent → H2Session → H2Session × H2Session.Effects
  | enqueueSend stream_id envelope, self => self.enqueueSend stream_id envelope
  | sendFrame stream_id type_byte payload, self =>
      (self.sendFrame stream_id type_byte payload).toOption.getD (self, {})
  | dataRead stream_id length, self => self.readData stream_id length
  | closeStream stream_id error_code rv, self => self.closeStream stream_id error_code rv

/-- Envelopes are not empty, and `nghttp2` asks for at least one octet. -/
def Proper : SendEvent → Prop
  | enqueueSend _ envelope => envelope ≠ []
  | dataRead _ length => 0 < length
  | _ => True

end SendEvent

abbrev SendRecord := History.Record H2Session SendEvent (H2Session × H2Session.Effects)

namespace H2Session

/-- What happens in a run. -/
def sent (s : H2Session) (events : List SendEvent) : List SendRecord :=
  History.history SendEvent.act Prod.fst s events

/-- The state at the end of a run. -/
def afterSending (s : H2Session) (events : List SendEvent) : H2Session :=
  History.final SendEvent.act Prod.fst s events

/-- The octets of an answer of the callback. -/
def Read.bytes : Read → Bytes
  | .deferred => []
  | .data bytes _ => bytes

def Effects.returned (e : Effects) : Bytes := (e.read.map Read.bytes).getD []

end H2Session

/-- What a record says about a stream. -/
def SendRecord.on (sid : ℤ) (r : SendRecord) : H2Session.Effects :=
  if r.call.streamId = sid then r.result.2 else {}

/-- All octets that were queued for a stream. -/
def queuedOctets (sid : ℤ) (records : List SendRecord) : Bytes :=
  records.flatMap fun r => (SendRecord.on sid r).queued

/-- All octets that the callback returned for a stream. -/
def returnedOctets (sid : ℤ) (records : List SendRecord) : Bytes :=
  records.flatMap fun r => (SendRecord.on sid r).returned

/-- The octets that are still queued. -/
def SendQueue.unread (q : SendQueue) : Bytes := q.pending.flatMap fun b => b.data.drop b.offset

/-! ### The queue of one stream -/

/-- Every buffer of the queue has octets left. -/
def SendQueue.Proper (q : SendQueue) : Prop := ∀ b ∈ q.pending, b.offset < b.data.length

theorem SendQueue.pending_eq_nil {q : SendQueue} (h : q.Proper) (hunread : q.unread = []) :
    q.pending = [] := by
  cases hpending : q.pending with
  | nil => rfl
  | cons b rest =>
      have hlt := h b (hpending ▸ List.mem_cons_self)
      rw [SendQueue.unread, hpending, List.flatMap_cons, List.append_eq_nil_iff,
        List.drop_eq_nil_iff] at hunread
      omega

namespace H2Session

variable {s : H2Session} {sid : ℤ} {st : StreamState}

theorem stream_of_lookup (h : s.streams_.lookup sid = some st) : s.stream sid = st := by
  rw [stream, h, Option.getD_some]

theorem ng_resumeData (s : H2Session) (sid : ℤ) : (s.resumeData sid).ng_ sid ≠ .deferred := by
  unfold resumeData
  split
  · simp
  · assumption

/-- A call moves the queue of a stream on. -/
structure Advances (s : H2Session) (sid : ℤ) (st st' : StreamState) (r : H2Session × Effects) :
    Prop where
  tracked : r.1.streams_.lookup sid = some st'
  conserved : r.2.returned ++ st'.send.unread = st.send.unread ++ r.2.queued
  proper : st'.send.Proper
  waits : r.1.ng_ sid = .deferred → st'.send.pending = []
  deferring : r.2.read = some .deferred → r.1.ng_ sid = .deferred
  kept : r.2.read = none → r.2.resumed = false → r.1.ng_ sid = s.ng_ sid
  wakes : s.ng_ sid = .deferred → r.2.queued ≠ [] → r.2.resumed = true
  ending : ∀ bytes, r.2.read = some (.data bytes true) →
    bytes = [] ∧ st.send.pending = [] ∧ st.send.closed = true

variable (h : s.streams_.lookup sid = some st) (hproper : st.send.Proper)
  (hwaits : s.ng_ sid = .deferred → st.send.pending = [])

include h hproper hwaits

omit h in
/-- Nothing happens on the stream. -/
theorem advances_idle {s' : H2Session} (htracked : s'.streams_.lookup sid = some st)
    (hng : s'.ng_ sid = s.ng_ sid) : Advances s sid st st (s', {}) where
  tracked := htracked
  conserved := (List.append_nil _).symm
  proper := hproper
  waits hdeferred := hwaits (hng ▸ hdeferred)
  deferring := nofun
  kept _ _ := hng
  wakes _ hqueued := absurd rfl hqueued
  ending _ := nofun

theorem advances_enqueueSend {envelope : Bytes} (henvelope : envelope ≠ []) :
    ∃ st', st'.send.closed = st.send.closed ∧
      Advances s sid st st' (s.enqueueSend sid envelope) := by
  refine ⟨{ st with send := { st.send with
    pending := st.send.pending ++ [{ data := envelope }] } }, rfl, ?_⟩
  have hstream := stream_of_lookup h
  have hunread : ({ st.send with pending := st.send.pending ++ [{ data := envelope }] } :
      SendQueue).unread = st.send.unread ++ envelope := by
    simp [SendQueue.unread]
  have hqueue : ({ st.send with pending := st.send.pending ++ [{ data := envelope }] } :
      SendQueue).Proper := by
    intro b hb
    rcases List.mem_append.mp hb with hb | hb
    · exact hproper b hb
    · cases List.mem_singleton.mp hb
      exact List.length_pos_iff.mpr henvelope
  unfold enqueueSend
  rw [hstream]
  dsimp only
  split
  -- The queue was empty, so the provider may be deferred and is resumed.
  · rename_i hempty
    exact {
      tracked := by rw [streams_resumeData, lookup_setStream]
      conserved := hunread
      proper := hqueue
      waits := fun hdeferred => absurd hdeferred (ng_resumeData _ sid)
      deferring := nofun
      kept := nofun
      wakes := fun _ _ => rfl
      ending := nofun }
  -- The provider of a queue with octets is not deferred.
  · rename_i hnonempty
    exact {
      tracked := lookup_setStream ..
      conserved := hunread
      proper := hqueue
      waits := fun hdeferred => absurd (hwaits hdeferred) hnonempty
      deferring := nofun
      kept := fun _ _ => rfl
      wakes := fun hdeferred _ => absurd (hwaits hdeferred) hnonempty
      ending := nofun }

omit hwaits in
/-- The callback takes octets off the front of the queue. -/
theorem dataReadCallback_cons {front : SendBuf} {rest : List SendBuf}
    (hpending : st.send.pending = front :: rest) (length : ℕ) :
    ∃ send bytes, s.dataReadCallback sid length =
        (s.setStream sid { st with send := send }, .data bytes false) ∧
      send.closed = st.send.closed ∧ send.Proper ∧ bytes ++ send.unread = st.send.unread := by
  have hrest : ∀ b ∈ rest, b.offset < b.data.length :=
    fun b hb => hproper b (hpending ▸ List.mem_cons_of_mem front hb)
  unfold dataReadCallback
  rw [h]
  dsimp only
  rw [hpending]
  refine ⟨_, _, rfl, rfl, ?_, ?_⟩
  · intro b hb
    dsimp only at hb
    split at hb
    · exact hrest b hb
    · rename_i hmore
      rcases List.mem_cons.mp hb with rfl | hb
      · exact Nat.lt_of_not_le hmore
      · exact hrest b hb
  · have hunread : st.send.unread = front.data.drop front.offset ++
        rest.flatMap fun b => b.data.drop b.offset := by
      rw [SendQueue.unread, hpending, List.flatMap_cons]
    rw [hunread]
    unfold SendQueue.unread
    dsimp only
    split
    · rename_i hall
      rw [List.take_of_length_le (by rw [List.length_drop]; omega)]
    · rw [List.flatMap_cons, ← List.append_assoc]
      dsimp only
      rw [← List.drop_drop, List.take_append_drop]

omit hwaits in
/-- What the callback returns comes off the front of the queue. -/
theorem advances_readData (length : ℕ) :
    ∃ st', st'.send.closed = st.send.closed ∧ Advances s sid st st' (s.readData sid length) := by
  cases hpending : st.send.pending with
  | nil =>
      have hunread : st.send.unread = [] := by rw [SendQueue.unread, hpending]; rfl
      unfold readData dataReadCallback
      rw [h]
      dsimp only
      rw [hpending]
      refine ⟨st, rfl, ?_⟩
      -- Nothing is queued: the stream ends, or the provider is deferred.
      cases hclosed : st.send.closed with
      | true =>
          exact {
            tracked := h
            conserved := by rw [hunread]; rfl
            proper := hproper
            waits := fun _ => hpending
            deferring := nofun
            kept := nofun
            wakes := fun _ hqueued => absurd rfl hqueued
            ending := fun bytes hread => by cases hread; exact ⟨rfl, hpending, hclosed⟩ }
      | false =>
          exact {
            tracked := h
            conserved := by rw [hunread]; rfl
            proper := hproper
            waits := fun _ => hpending
            deferring := fun _ => Function.update_self ..
            kept := nofun
            wakes := fun _ hqueued => absurd rfl hqueued
            ending := nofun }
  | cons front rest =>
      obtain ⟨send, bytes, hread, hclosed, hqueue, hunread⟩ :=
        dataReadCallback_cons h hproper hpending length
      refine ⟨{ st with send := send }, hclosed, ?_⟩
      unfold readData
      rw [hread]
      exact {
        tracked := lookup_setStream ..
        conserved := hunread.trans (List.append_nil _).symm
        proper := hqueue
        waits := fun hdeferred => by
          have hactive : Function.update s.ng_ sid Provider.active sid = .deferred := hdeferred
          rw [Function.update_self] at hactive
          cases hactive
        deferring := nofun
        kept := nofun
        wakes := fun _ hqueued => absurd rfl hqueued
        ending := nofun }

/-- The stream is marked closed. -/
theorem advances_closeStream (error_code : UInt32) (rv : ℤ) :
    ∃ st', Advances s sid st st' (s.closeStream sid error_code rv) := by
  unfold closeStream
  split
  · exact ⟨st, advances_idle hproper hwaits h rfl⟩
  · rw [h]
    dsimp only
    refine ⟨{ st with send := { st.send with closed := true } }, ?_⟩
    have hconserved : ([] : Bytes) ++ ({ st.send with closed := true } : SendQueue).unread =
        st.send.unread ++ [] := (List.append_nil _).symm
    -- `resume_data` has failed and the stream is reset, or it has woken the provider.
    split
    · exact {
        tracked := by
          show AList.lookup sid ((H2Session.resumeData _ sid).streams_) = _
          rw [streams_resumeData, lookup_setStream]
        conserved := hconserved
        proper := hproper
        waits := fun hdeferred => by
          rw [show (submitRstStream _ sid).ng_ sid = Provider.finished
            from Function.update_self ..] at hdeferred
          cases hdeferred
        deferring := nofun
        kept := nofun
        wakes := fun _ hqueued => absurd rfl hqueued
        ending := nofun }
    · exact {
        tracked := by rw [streams_resumeData, lookup_setStream]
        conserved := hconserved
        proper := hproper
        waits := fun hdeferred => absurd hdeferred (ng_resumeData _ sid)
        deferring := nofun
        kept := nofun
        wakes := fun _ hqueued => absurd rfl hqueued
        ending := nofun }

theorem advances_sendFrame (type_byte : UInt8) (payload : Bytes) :
    ∃ st', st'.send.closed = st.send.closed ∧
      Advances s sid st st' ((SendEvent.sendFrame sid type_byte payload).act s) := by
  have hidle : Advances s sid st st (s, {}) := advances_idle hproper hwaits h rfl
  simp only [SendEvent.act, sendFrame]
  split
  · exact ⟨st, rfl, hidle⟩
  · split
    · exact ⟨st, rfl, hidle⟩
    · cases hencode : encodeH2Envelope type_byte payload with
      | error message => exact ⟨st, rfl, hidle⟩
      | ok envelope =>
          refine advances_enqueueSend h hproper hwaits fun hnil => ?_
          have hfront := envelopeFront_envelope hencode []
          rw [hnil] at hfront
          cases hfront

/-- **One step on the stream.** -/
theorem advances_act {e : SendEvent} (he : e.streamId = sid) (hevent : e.Proper) :
    ∃ st', Advances s sid st st' (e.act s) ∧ (st'.send.closed = true →
      st.send.closed = true ∨ ∃ error_code rv, e = .closeStream sid error_code rv) := by
  subst he
  cases e with
  | enqueueSend stream_id envelope =>
      obtain ⟨st', hclosed, hadvances⟩ := advances_enqueueSend h hproper hwaits hevent
      exact ⟨st', hadvances, fun hmarked => .inl (hclosed ▸ hmarked)⟩
  | sendFrame stream_id type_byte payload =>
      obtain ⟨st', hclosed, hadvances⟩ := advances_sendFrame h hproper hwaits type_byte payload
      exact ⟨st', hadvances, fun hmarked => .inl (hclosed ▸ hmarked)⟩
  | dataRead stream_id length =>
      obtain ⟨st', hclosed, hadvances⟩ := advances_readData h hproper length
      exact ⟨st', hadvances, fun hmarked => .inl (hclosed ▸ hmarked)⟩
  | closeStream stream_id error_code rv =>
      obtain ⟨st', hadvances⟩ := advances_closeStream h hproper hwaits error_code rv
      exact ⟨st', hadvances, fun _ => .inr ⟨error_code, rv, rfl⟩⟩

end H2Session

/-! ### Other streams -/

namespace H2Session

variable {s : H2Session} {sid other : ℤ}

theorem lookup_setStream_ne (h : sid ≠ other) (s : H2Session) (st : StreamState) :
    (s.setStream other st).streams_.lookup sid = s.streams_.lookup sid :=
  AList.lookup_insert_ne h

theorem ng_resumeData_ne (h : sid ≠ other) (s : H2Session) :
    (s.resumeData other).ng_ sid = s.ng_ sid := by
  unfold resumeData
  split
  · exact Function.update_of_ne h ..
  · rfl

theorem enqueueSend_ne (h : sid ≠ other) (envelope : Bytes) :
    (s.enqueueSend other envelope).1.streams_.lookup sid = s.streams_.lookup sid ∧
      (s.enqueueSend other envelope).1.ng_ sid = s.ng_ sid := by
  unfold enqueueSend
  dsimp only
  split
  · rw [streams_resumeData, lookup_setStream_ne h, ng_resumeData_ne h]
    exact ⟨rfl, rfl⟩
  · exact ⟨lookup_setStream_ne h .., rfl⟩

theorem readData_ne (h : sid ≠ other) (length : ℕ) :
    (s.readData other length).1.streams_.lookup sid = s.streams_.lookup sid ∧
      (s.readData other length).1.ng_ sid = s.ng_ sid := by
  have hcallback : (s.dataReadCallback other length).1.streams_.lookup sid =
      s.streams_.lookup sid ∧ (s.dataReadCallback other length).1.ng_ = s.ng_ := by
    unfold dataReadCallback
    split
    · exact ⟨rfl, rfl⟩
    · split
      · exact ⟨rfl, rfl⟩
      · exact ⟨lookup_setStream_ne h .., rfl⟩
  refine ⟨hcallback.1, ?_⟩
  exact (Function.update_of_ne h ..).trans (congrFun hcallback.2 sid)

theorem closeStream_ne (h : sid ≠ other) (error_code : UInt32) (rv : ℤ) :
    (s.closeStream other error_code rv).1.streams_.lookup sid = s.streams_.lookup sid ∧
      (s.closeStream other error_code rv).1.ng_ sid = s.ng_ sid := by
  unfold closeStream
  split
  · exact ⟨rfl, rfl⟩
  · split
    · dsimp only
      split
      · refine ⟨?_, ?_⟩
        · show AList.lookup sid ((resumeData _ other).streams_) = _
          rw [streams_resumeData, lookup_setStream_ne h]
        · exact (Function.update_of_ne h ..).trans (ng_resumeData_ne h _)
      · rw [streams_resumeData, lookup_setStream_ne h, ng_resumeData_ne h]
        exact ⟨rfl, rfl⟩
    · exact ⟨rfl, Function.update_of_ne h ..⟩

/-- **One step on another stream.** -/
theorem act_ne {e : SendEvent} (he : e.streamId ≠ sid) :
    (e.act s).1.streams_.lookup sid = s.streams_.lookup sid ∧
      (e.act s).1.ng_ sid = s.ng_ sid := by
  have hne := Ne.symm he
  cases e with
  | enqueueSend other envelope => exact enqueueSend_ne hne envelope
  | sendFrame other type_byte payload =>
      simp only [SendEvent.act, sendFrame]
      split
      · exact ⟨rfl, rfl⟩
      · split
        · exact ⟨rfl, rfl⟩
        · cases encodeH2Envelope type_byte payload with
          | error message => exact ⟨rfl, rfl⟩
          | ok envelope => exact enqueueSend_ne hne envelope
  | dataRead other length => exact readData_ne hne length
  | closeStream other error_code rv => exact closeStream_ne hne error_code rv

end H2Session

/-! ### The run -/

variable {s : H2Session} {sid : ℤ} {past : List SendRecord}

theorem queuedOctets_append (sid : ℤ) (past : List SendRecord) (r : SendRecord) :
    queuedOctets sid (past ++ [r]) = queuedOctets sid past ++ (r.on sid).queued := by
  simp [queuedOctets]

theorem returnedOctets_append (sid : ℤ) (past : List SendRecord) (r : SendRecord) :
    returnedOctets sid (past ++ [r]) = returnedOctets sid past ++ (r.on sid).returned := by
  simp [returnedOctets]

/-- What has come of the events so far on a tracked stream. -/
structure Conserves (sid : ℤ) (past : List SendRecord) (s : H2Session) : Prop where
  tracked : ∃ st, s.streams_.lookup sid = some st
  conserved : returnedOctets sid past ++ (s.stream sid).send.unread = queuedOctets sid past
  proper : (s.stream sid).send.Proper
  waits : s.ng_ sid = .deferred → (s.stream sid).send.pending = []
  /-- The callback has last answered `DEFERRED`, and `resume_data` was not called since. -/
  deferred : ∀ pre d post, past = pre ++ d :: post → (d.on sid).read = some .deferred →
    (∀ g ∈ post, (g.on sid).read = none ∧ (g.on sid).resumed = false) → s.ng_ sid = .deferred
  marked : (s.stream sid).send.closed = true →
    ∃ r ∈ past, ∃ code rv, r.call = .closeStream sid code rv

theorem Conserves.start {st : StreamState} (h : s.streams_.lookup sid = some st)
    (hnew : st.send = {}) : Conserves sid [] s where
  tracked := ⟨st, h⟩
  conserved := by rw [H2Session.stream_of_lookup h, hnew]; rfl
  proper := by rw [H2Session.stream_of_lookup h, hnew]; exact fun b hb => by cases hb
  waits _ := by rw [H2Session.stream_of_lookup h, hnew]
  deferred pre d post hpast := by simp at hpast
  marked hclosed := by
    rw [H2Session.stream_of_lookup h, hnew] at hclosed
    cases hclosed

theorem Conserves.step (h : Conserves sid past s) {e : SendEvent} (he : e.Proper) :
    Conserves sid (past ++ [⟨s, e, e.act s⟩]) (e.act s).1 := by
  obtain ⟨st, hst⟩ := h.tracked
  have hstream := H2Session.stream_of_lookup hst
  by_cases hon : e.streamId = sid
  · have hproper := h.proper
    have hwaits := h.waits
    rw [hstream] at hproper hwaits
    obtain ⟨st', hadvances, hclosed⟩ := H2Session.advances_act hst hproper hwaits hon he
    have hstream' := H2Session.stream_of_lookup hadvances.tracked
    have heffects : SendRecord.on sid ⟨s, e, e.act s⟩ = (e.act s).2 := if_pos hon
    refine ⟨⟨st', hadvances.tracked⟩, ?_, hstream' ▸ hadvances.proper,
      hstream' ▸ hadvances.waits, ?_, ?_⟩
    · have hconserved := h.conserved
      rw [hstream] at hconserved
      rw [returnedOctets_append, queuedOctets_append, heffects, hstream', List.append_assoc,
        hadvances.conserved, ← List.append_assoc, hconserved]
    -- The answer that defers is this one, or an earlier one that nothing has undone.
    · intro pre d post hpast hd hpost
      rcases History.split_concat hpast with ⟨rfl, rfl⟩ | ⟨post', rfl, hsplit⟩
      · rw [heffects] at hd
        exact hadvances.deferring hd
      · have hlast := hpost _ (List.mem_append_right _ (List.mem_singleton_self _))
        rw [heffects] at hlast
        rw [hadvances.kept hlast.1 hlast.2]
        exact h.deferred pre d post' hsplit hd fun g hg => hpost g (List.mem_append_left _ hg)
    · rw [hstream']
      intro hmarked
      rcases hclosed hmarked with hmarked | ⟨code, rv, hcode⟩
      · obtain ⟨r, hr, hcode⟩ := h.marked (hstream ▸ hmarked)
        exact ⟨r, List.mem_append_left _ hr, hcode⟩
      · exact ⟨_, List.mem_append_right _ (List.mem_singleton_self _), code, rv, hcode⟩
  -- An event on another stream changes nothing on this one.
  · obtain ⟨hlookup, hng⟩ := H2Session.act_ne (s := s) hon
    have hstream' : (e.act s).1.stream sid = s.stream sid := by
      unfold H2Session.stream
      rw [hlookup]
    have heffects : SendRecord.on sid ⟨s, e, e.act s⟩ = {} := if_neg hon
    refine ⟨⟨st, hlookup.trans hst⟩, ?_, hstream' ▸ h.proper, ?_, ?_, ?_⟩
    · rw [returnedOctets_append, queuedOctets_append, heffects, hstream']
      exact (congrArg (· ++ _) (List.append_nil _)).trans
        (h.conserved.trans (List.append_nil _).symm)
    · rw [hng, hstream']
      exact h.waits
    · intro pre d post hpast hd hpost
      rw [hng]
      rcases History.split_concat hpast with ⟨rfl, rfl⟩ | ⟨post', rfl, hsplit⟩
      · rw [heffects] at hd
        cases hd
      · exact h.deferred pre d post' hsplit hd fun g hg => hpost g (List.mem_append_left _ hg)
    · rw [hstream']
      intro hmarked
      obtain ⟨r, hr, hcode⟩ := h.marked hmarked
      exact ⟨r, List.mem_append_left _ hr, hcode⟩

theorem conserves_run {st : StreamState} (h : s.streams_.lookup sid = some st)
    (hnew : st.send = {}) (events : List SendEvent) (hevents : ∀ e ∈ events, e.Proper) :
    Conserves sid (s.sent events) (s.afterSending events) := by
  refine History.history_induction (G := SendEvent.Proper) (T := fun _ _ => True)
    (Conserves.start h hnew) (fun past s e hpast he _ => hpast.step he) events hevents ?_
  exact List.pairwise_of_forall fun _ _ => trivial

/-- The invariant holds at the point of a record. -/
theorem conserves_before {st : StreamState} (h : s.streams_.lookup sid = some st)
    (hnew : st.send = {}) {events : List SendEvent} (hevents : ∀ e ∈ events, e.Proper)
    {pre post : List SendRecord} {r : SendRecord} (hsplit : s.sent events = pre ++ r :: post) :
    Conserves sid pre r.before ∧ r.result = r.call.act r.before ∧ r.call.Proper := by
  obtain ⟨calls, rest, rfl, rfl, hr⟩ := History.history_split hsplit
  rw [hr]
  refine ⟨conserves_run h hnew calls fun e he => hevents e (List.mem_append_left _ he), rfl, ?_⟩
  exact hevents _ (List.mem_append_right _ List.mem_cons_self)

/-- A step on a tracked stream, with what was queued before it. -/
theorem Conserves.advances (h : Conserves sid past s) {e : SendEvent} (hon : e.streamId = sid)
    (he : e.Proper) : ∃ st', H2Session.Advances s sid (s.stream sid) st' (e.act s) := by
  obtain ⟨st, hst⟩ := h.tracked
  have hstream := H2Session.stream_of_lookup hst
  have hproper := h.proper
  have hwaits := h.waits
  rw [hstream] at hproper hwaits ⊢
  obtain ⟨st', hadvances, -⟩ := H2Session.advances_act hst hproper hwaits hon he
  exact ⟨st', hadvances⟩

theorem Conserves.unread_eq_nil (h : Conserves sid past s) :
    (s.stream sid).send.unread = [] ↔ returnedOctets sid past = queuedOctets sid past := by
  rw [← h.conserved, List.self_eq_append_right]

theorem SendQueue.unread_eq_nil {q : SendQueue} (h : q.pending = []) : q.unread = [] := by
  rw [SendQueue.unread, h]
  rfl

/-- **The send queue.**  What the callback returned, followed by what is still queued, is
what was queued, in order.  The callback ends a stream only when it was marked closed and
everything was returned.  When it has last answered `DEFERRED`, `resume_data` is called by
the end of the step that queues an envelope next; so a deferred provider has nothing
to send. -/
theorem send_queue_conserved {st : StreamState} (htracked : s.streams_.lookup sid = some st)
    (hnew : st.send = {}) (events : List SendEvent) (hevents : ∀ e ∈ events, e.Proper) :
    returnedOctets sid (s.sent events) ++ ((s.afterSending events).stream sid).send.unread =
        queuedOctets sid (s.sent events) ∧
      (∀ pre r post bytes, s.sent events = pre ++ r :: post →
        (r.on sid).read = some (.data bytes true) →
        (∃ g ∈ pre, ∃ code rv, g.call = .closeStream sid code rv) ∧
          returnedOctets sid (pre ++ [r]) = queuedOctets sid pre) ∧
      (∀ pre d mid r post, s.sent events = pre ++ d :: mid ++ r :: post →
        (d.on sid).read = some .deferred → (∀ g ∈ mid, (g.on sid).read = none) →
        (r.on sid).queued ≠ [] → ∃ g ∈ mid ++ [r], (g.on sid).resumed = true) ∧
      ((s.afterSending events).ng_ sid = .deferred →
        ((s.afterSending events).stream sid).send.unread = []) := by
  have hrun := conserves_run htracked hnew events hevents
  refine ⟨hrun.conserved, ?_, ?_, fun hdeferred => SendQueue.unread_eq_nil (hrun.waits hdeferred)⟩
  -- The read that ends the stream has found the queue empty.
  · intro pre r post bytes hsplit hread
    obtain ⟨hbefore, hresult, hproper⟩ := conserves_before htracked hnew hevents hsplit
    have hon : r.call.streamId = sid := by
      by_contra hne
      rw [SendRecord.on, if_neg hne] at hread
      cases hread
    rw [SendRecord.on, if_pos hon, hresult] at hread
    obtain ⟨st', hadvances⟩ := hbefore.advances hon hproper
    obtain ⟨rfl, hempty, hclosed⟩ := hadvances.ending bytes hread
    refine ⟨hbefore.marked hclosed, ?_⟩
    have hnone : (r.on sid).returned = [] := by
      rw [SendRecord.on, if_pos hon, hresult, H2Session.Effects.returned, hread]
      rfl
    rw [returnedOctets_append, hnone, List.append_nil]
    exact hbefore.unread_eq_nil.mp (SendQueue.unread_eq_nil hempty)
  · intro pre d mid r post hsplit hd hmid hqueued
    obtain ⟨hbefore, hresult, hproper⟩ := conserves_before htracked hnew hevents hsplit
    by_cases hresumed : ∃ g ∈ mid, (g.on sid).resumed = true
    · obtain ⟨g, hg, hresumed⟩ := hresumed
      exact ⟨g, List.mem_append_left _ hg, hresumed⟩
    · have hon : r.call.streamId = sid := by
        by_contra hne
        rw [SendRecord.on, if_neg hne] at hqueued
        exact hqueued rfl
      -- Nothing has resumed the provider in between, so it is still deferred.
      have hdeferred : r.before.ng_ sid = .deferred := by
        refine hbefore.deferred pre d mid rfl hd fun g hg => ⟨hmid g hg, ?_⟩
        exact Bool.eq_false_iff.mpr fun h => hresumed ⟨g, hg, h⟩
      obtain ⟨st', hadvances⟩ := hbefore.advances hon hproper
      refine ⟨r, List.mem_append_right _ (List.mem_singleton_self r), ?_⟩
      rw [SendRecord.on, if_pos hon, hresult] at hqueued ⊢
      exact hadvances.wakes hdeferred hqueued

/-- A session that tracks stream 1 and has sent nothing on it. -/
def newStream : H2Session := H2Session.setStream {} 1 {}

/-- An envelope is queued, read in two pieces, and the stream is closed. -/
def oneEnvelope : List SendEvent :=
  [.dataRead 1 8, .enqueueSend 1 [0, 0, 0, 1, 1], .dataRead 1 4, .dataRead 1 4, .dataRead 1 4,
    .closeStream 1 0 0, .dataRead 1 4]

theorem send_queue_conserved_oneEnvelope :
    returnedOctets 1 (newStream.sent oneEnvelope) ++
          ((newStream.afterSending oneEnvelope).stream 1).send.unread =
        queuedOctets 1 (newStream.sent oneEnvelope) ∧
      (∀ pre r post bytes, newStream.sent oneEnvelope = pre ++ r :: post →
        (r.on 1).read = some (.data bytes true) →
        (∃ g ∈ pre, ∃ code rv, g.call = .closeStream 1 code rv) ∧
          returnedOctets 1 (pre ++ [r]) = queuedOctets 1 pre) ∧
      (∀ pre d mid r post, newStream.sent oneEnvelope = pre ++ d :: mid ++ r :: post →
        (d.on 1).read = some .deferred → (∀ g ∈ mid, (g.on 1).read = none) →
        (r.on 1).queued ≠ [] → ∃ g ∈ mid ++ [r], (g.on 1).resumed = true) ∧
      ((newStream.afterSending oneEnvelope).ng_ 1 = .deferred →
        ((newStream.afterSending oneEnvelope).stream 1).send.unread = []) := by
  have hevents : ∀ e ∈ oneEnvelope, e.Proper := by simp [oneEnvelope, SendEvent.Proper]
  exact send_queue_conserved (H2Session.lookup_setStream ..) rfl oneEnvelope hevents

/-! ### Closing a stream -/

/-- `close_stream` falls back to `RST_STREAM` exactly when `resume_data` fails. -/
theorem rst_closeStream {st : StreamState} (htracked : s.streams_.lookup sid = some st)
    (error_code : UInt32) (rv : ℤ) :
    (s.closeStream sid error_code rv).2.rst.isSome ↔ s.closed_ = false ∧ rv ≠ 0 := by
  unfold H2Session.closeStream
  cases hclosed : s.closed_ with
  | true => simp
  | false =>
      rw [htracked]
      simp only [Bool.false_eq_true, if_false, true_and]
      split
      · rename_i hfailure
        exact iff_of_true rfl hfailure
      · rename_i hsuccess
        exact iff_of_false Bool.false_ne_true hsuccess

/-- What `nghttp2` promises of `resume_data`: it returns 0 exactly when the provider is deferred.
The callback has deferred it, or `nghttp2` itself has, as the window of the stream is used up;
`held` says after which records this is so. -/
def ResumesDeferred (sid : ℤ) (held : List SendRecord → Prop) (records : List SendRecord) : Prop :=
  ∀ pre r post code rv, records = pre ++ r :: post → r.call = .closeStream sid code rv →
    r.before.closed_ = false → (rv = 0 ↔ r.before.ng_ sid = .deferred ∨ held pre)

/-- **Closing gracefully.**  `close_stream` with error code 0 never submits `RST_STREAM`
while the queue is not empty, exactly if it is only called when the callback has returned
every octet that was queued, or when `nghttp2` holds the stream back for its own window. -/
theorem graceful_close_iff {st : StreamState} (htracked : s.streams_.lookup sid = some st)
    (hnew : st.send = {}) (events : List SendEvent) (hevents : ∀ e ∈ events, e.Proper)
    (held : List SendRecord → Prop) (hresume : ResumesDeferred sid held (s.sent events)) :
    (∀ pre r post rv, s.sent events = pre ++ r :: post → r.call = .closeStream sid 0 rv →
        (r.on sid).rst.isSome → (r.before.stream sid).send.pending = []) ↔
      (∀ pre r post rv, s.sent events = pre ++ r :: post → r.call = .closeStream sid 0 rv →
        r.before.closed_ = false → held pre ∨ returnedOctets sid pre = queuedOctets sid pre) := by
  have hrst : ∀ {pre r post rv}, s.sent events = pre ++ r :: post →
      r.call = .closeStream sid 0 rv → Conserves sid pre r.before ∧
        ((r.on sid).rst.isSome ↔ r.before.closed_ = false ∧ rv ≠ 0) := by
    intro pre r post rv hsplit hcall
    obtain ⟨hbefore, hresult, -⟩ := conserves_before htracked hnew hevents hsplit
    obtain ⟨st', hst'⟩ := hbefore.tracked
    refine ⟨hbefore, ?_⟩
    rw [SendRecord.on, if_pos (by rw [hcall]; rfl), hresult, hcall]
    exact rst_closeStream hst' 0 rv
  constructor
  · intro h pre r post rv hsplit hcall hopen
    obtain ⟨hbefore, hiff⟩ := hrst hsplit hcall
    refine or_iff_not_imp_left.mpr fun hfree =>
      hbefore.unread_eq_nil.mp (SendQueue.unread_eq_nil ?_)
    by_cases hdeferred : r.before.ng_ sid = .deferred
    · exact hbefore.waits hdeferred
    · have hfails : rv ≠ 0 := fun hzero =>
        ((hresume pre r post 0 rv hsplit hcall hopen).mp hzero).elim hdeferred hfree
      exact h pre r post rv hsplit hcall (hiff.mpr ⟨hopen, hfails⟩)
  · intro h pre r post rv hsplit hcall hreset
    obtain ⟨hbefore, hiff⟩ := hrst hsplit hcall
    obtain ⟨hopen, hfails⟩ := hiff.mp hreset
    have hfree : ¬ held pre := fun hheld =>
      hfails ((hresume pre r post 0 rv hsplit hcall hopen).mpr (.inr hheld))
    refine SendQueue.pending_eq_nil hbefore.proper (hbefore.unread_eq_nil.mpr ?_)
    exact (h pre r post rv hsplit hcall hopen).resolve_left hfree

/-- The window of the stream is used up in the middle of a frame, and the stream is closed.  The
window opens again, and the rest of the frame is read. -/
def heldClose : List SendEvent :=
  [.dataRead 1 16384, .sendFrame 1 kTypeMedia (List.replicate 20 0), .dataRead 1 10,
    .closeStream 1 0 0, .dataRead 1 16384, .dataRead 1 16384]

/-- `nghttp2` holds the stream back when three calls have been made. -/
def afterThree (pre : List SendRecord) : Prop := pre.length = 3

theorem resumesDeferred_heldClose : ResumesDeferred 1 afterThree (newStream.sent heldClose) := by
  intro pre r post code rv hsplit hcall _
  have hr : (newStream.sent heldClose)[pre.length]? = some r := by rw [hsplit]; simp
  unfold afterThree
  generalize pre.length = i at hr
  -- Only the fourth call is one of `close_stream`.
  rcases i with _ | _ | _ | _ | _ | _ | i
  case succ.succ.succ.zero =>
    cases hr
    cases hcall
    exact iff_of_true rfl (.inr rfl)
  all_goals cases hr
  all_goals cases hcall

theorem graceful_close_held :
    (∀ pre r post rv, newStream.sent heldClose = pre ++ r :: post →
        r.call = .closeStream 1 0 rv → (r.on 1).rst.isSome →
        (r.before.stream 1).send.pending = []) ↔
      (∀ pre r post rv, newStream.sent heldClose = pre ++ r :: post →
        r.call = .closeStream 1 0 rv → r.before.closed_ = false →
        afterThree pre ∨ returnedOctets 1 pre = queuedOctets 1 pre) := by
  have hevents : ∀ e ∈ heldClose, e.Proper := by simp [heldClose, SendEvent.Proper]
  exact graceful_close_iff (H2Session.lookup_setStream ..) rfl heldClose hevents afterThree
    resumesDeferred_heldClose

/-- `NGHTTP2_ERR_INVALID_ARGUMENT`. -/
def ngErrInvalidArgument : ℤ := -501

/-- A frame is sent when the window of the connection has 10 octets left, and the stream is
closed. -/
def blockedClose : List SendEvent :=
  [.dataRead 1 16384, .sendFrame 1 kTypeMedia (List.replicate 20 0), .dataRead 1 10,
    .closeStream 1 0 ngErrInvalidArgument]

/-- `nghttp2` does not hold the stream back for its own window. -/
theorem resumesDeferred_blockedClose :
    ResumesDeferred 1 (fun _ => False) (newStream.sent blockedClose) := by
  intro pre r post code rv hsplit hcall _
  have hr : (newStream.sent blockedClose)[pre.length]? = some r := by rw [hsplit]; simp
  generalize pre.length = i at hr
  rcases i with _ | _ | _ | _ | i
  case succ.succ.succ.zero =>
    cases hr
    cases hcall
    exact iff_of_false (by decide) fun h => h.elim (by decide) id
  all_goals cases hr
  all_goals cases hcall

/-- The frame was accepted.  The provider is active, so that `resume_data` fails, and the stream
is reset with 15 octets of the frame still queued. -/
theorem reset_with_pending :
    ResumesDeferred 1 (fun _ => False) (newStream.sent blockedClose) ∧
      (newStream.sent blockedClose).map (fun r => (r.on 1).rst) =
        [none, none, none, some 0] ∧
      ((newStream.sent blockedClose).map fun r => (r.before.stream 1).send.unread.length) =
        [0, 0, 25, 15] ∧
      ((newStream.sent blockedClose).map fun r => r.before.ng_ 1) =
        [.active, .deferred, .active, .active] ∧
      queuedOctets 1 (newStream.sent blockedClose) =
        [0, 0, 0, 21, 2] ++ List.replicate 20 0 :=
  ⟨resumesDeferred_blockedClose, by decide⟩

end CulpeoStream.Http2
