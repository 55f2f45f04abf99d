import Mathlib.Data.Finset.Card
import CulpeoStream.Http2.Session
import CulpeoStream.Lib.History

/-!
# The stream table

A server keeps the state of its streams in `streams_`, and refuses a new request when the
table holds `max_concurrent_streams` of them.  Callbacks of `nghttp2` add and remove
entries; `send_frame` and `receive_frame` create an entry when there is none, and the
handlers that call them may hold the id of a stream that has been closed.

A `Connection` is a session together with the streams that are open for `nghttp2`: a
request opens a new stream, data and the close come for a stream that is open.

The table holds open streams only, in every state of a run, exactly if no call re-creates
the entry of a stream that is not open (`stream_table_open_iff`).
-/

namespace CulpeoStream.Http2

open Message (Bytes)

/-! ### Requests -/

namespace H2Session

/-- `NGHTTP2_REFUSED_STREAM`. -/
def refusedStream : UInt32 := 0x7

/-- `on_begin_headers_callback` of a server, for the headers of a request or for others. -/
def onBeginHeadersCallback (max_concurrent_streams_ : UInt32) (self : H2Session) (request : Bool)
    (sid : ℤ) : H2Session × Effects :=
  if request then
    if max_concurrent_streams_.toNat ≤ self.streams_.keys.length then
      let self := self.submitRstStream sid
      ({ self with refused_streams_ := self.refused_streams_.insert sid },
        { rst := some refusedStream })
    else (self.setStream sid (self.stream sid), {})
  else (self, {})

variable (s : H2Session) (other : ℤ)

/-! What each operation does to the table. -/

theorem mem_setStream (sid : ℤ) (st : StreamState) :
    other ∈ (s.setStream sid st).streams_ ↔ other = sid ∨ other ∈ s.streams_ :=
  AList.mem_insert _

theorem mem_onBeginHeadersCallback {max_concurrent_streams_ : UInt32} {request : Bool} {sid : ℤ}
    (h : other ∈ (s.onBeginHeadersCallback max_concurrent_streams_ request sid).1.streams_) :
    other ∈ s.streams_ ∨ request = true ∧ other = sid := by
  unfold onBeginHeadersCallback at h
  split at h
  · rename_i hrequest
    split at h
    · exact .inl h
    · rcases (mem_setStream s other sid _).mp h with rfl | hmem
      · exact .inr ⟨hrequest, rfl⟩
      · exact .inl hmem
  · exact .inl h

theorem mem_onDataChunkRecvCallback {sid : ℤ} {data : Bytes}
    (h : other ∈ (s.onDataChunkRecvCallback sid data).1.streams_) :
    other = sid ∨ other ∈ s.streams_ := by
  unfold onDataChunkRecvCallback dispatchRecvFrames at h
  split at h
  · exact .inr h
  · simp only [lookup_setStream] at h
    rcases (mem_setStream _ other sid _).mp h with rfl | hmem
    · exact .inl rfl
    · exact (mem_setStream s other sid _).mp hmem

theorem mem_onStreamCloseCallback {sid : ℤ} :
    other ∈ (s.onStreamCloseCallback sid).1.streams_ ↔ other ≠ sid ∧ other ∈ s.streams_ := by
  unfold onStreamCloseCallback
  dsimp only
  split
  · rename_i hnone
    have hnot : sid ∉ s.streams_ := AList.lookup_eq_none.mp hnone
    exact ⟨fun hmem => ⟨fun heq => hnot (heq ▸ hmem), hmem⟩, And.right⟩
  · exact AList.mem_erase

theorem mem_enqueueSend (sid : ℤ) (envelope : Bytes) :
    other ∈ (s.enqueueSend sid envelope).1.streams_ ↔ other = sid ∨ other ∈ s.streams_ := by
  unfold enqueueSend
  dsimp only
  split
  · rw [streams_resumeData]
    exact mem_setStream s other sid _
  · exact mem_setStream s other sid _

theorem mem_receiveFrame (sid : ℤ) :
    other ∈ (s.receiveFrame sid).1.streams_ ↔ other = sid ∨ other ∈ s.streams_ :=
  mem_setStream s other sid _

theorem mem_closeStream (sid : ℤ) (error_code : UInt32) (rv : ℤ) :
    other ∈ (s.closeStream sid error_code rv).1.streams_ ↔ other ∈ s.streams_ := by
  unfold closeStream
  split
  · exact Iff.rfl
  · dsimp only
    split
    · rename_i st hlookup
      have hmem : sid ∈ s.streams_ := AList.lookup_isSome.mp (by rw [hlookup]; rfl)
      have htable : other ∈ (s.setStream sid
          { st with send := { st.send with closed := true } }).streams_ ↔ other ∈ s.streams_ := by
        rw [mem_setStream]
        exact ⟨fun h => h.elim (fun heq => heq ▸ hmem) fun hmem => hmem, .inr⟩
      split
      · show other ∈ (resumeData _ sid).streams_ ↔ _
        rw [streams_resumeData]
        exact htable
      · rw [streams_resumeData]
        exact htable
    · exact Iff.rfl

end H2Session

/-! ### Connections -/

/-- What happens on the strand of a server. -/
inductive TableEvent where
  | beginHeaders (request : Bool) (stream_id : ℤ)
  | dataChunk (stream_id : ℤ) (data : Bytes)
  | streamClose (stream_id : ℤ)
  | sendFrame (stream_id : ℤ) (type_byte : UInt8) (payload : Bytes)
  | receiveFrame (stream_id : ℤ)
  | closeStream (stream_id : ℤ) (error_code : UInt32) (rv : ℤ)
  deriving DecidableEq

/-- A session, and the streams that are open for `nghttp2`. -/
structure Connection where
  session : H2Session := {}
  opened : Finset ℤ := ∅

namespace Connection

/-- The table holds open streams only. -/
def Tracked (c : Connection) : Prop := ∀ sid ∈ c.session.streams_, sid ∈ c.opened

end Connection

namespace TableEvent

def act (max_concurrent_streams_ : UInt32) : TableEvent → Connection → Connection
  | beginHeaders request sid, c =>
      { session := (c.session.onBeginHeadersCallback max_concurrent_streams_ request sid).1
        opened := if request then insert sid c.opened else c.opened }
  | dataChunk sid data, c => { c with session := (c.session.onDataChunkRecvCallback sid data).1 }
  | streamClose sid, c =>
      { session := (c.session.onStreamCloseCallback sid).1, opened := c.opened.erase sid }
  | sendFrame sid type_byte payload, c =>
      match c.session.sendFrame sid type_byte payload with
      | .ok (session, _) => { c with session }
      | .error _ => c
  | receiveFrame sid, c => { c with session := (c.session.receiveFrame sid).1 }
  | closeStream sid error_code rv, c =>
      { c with session := (c.session.closeStream sid error_code rv).1 }

/-- What `nghttp2` promises of its callbacks: a request opens a new stream, and anything
else comes for a stream that is open.  Calls may name any stream. -/
def Admitted (c : Connection) : TableEvent → Prop
  | beginHeaders request sid => if request then sid ∉ c.opened else sid ∈ c.opened
  | dataChunk sid _ => sid ∈ c.opened
  | streamClose sid => sid ∈ c.opened
  | _ => True

instance (c : Connection) : (e : TableEvent) → Decidable (e.Admitted c)
  | beginHeaders request sid =>
      inferInstanceAs (Decidable (if request then sid ∉ c.opened else sid ∈ c.opened))
  | dataChunk _ _ => inferInstanceAs (Decidable (_ ∈ _))
  | streamClose _ => inferInstanceAs (Decidable (_ ∈ _))
  | sendFrame _ _ _ => inferInstanceAs (Decidable True)
  | receiveFrame _ => inferInstanceAs (Decidable True)
  | closeStream _ _ _ => inferInstanceAs (Decidable True)

/-- A call that creates the entry of a stream that is not open. -/
def Late (c : Connection) : TableEvent → Prop
  | sendFrame sid _ payload =>
      sid ∉ c.opened ∧ c.session.closed_ = false ∧ payload.length < kMaxFrameSize.toNat
  | receiveFrame sid => sid ∉ c.opened
  | _ => False

/-- A request that is refused. -/
def Refused (max_concurrent_streams_ : UInt32) (c : Connection) : TableEvent → Prop
  | beginHeaders request sid =>
      (c.session.onBeginHeadersCallback max_concurrent_streams_ request sid).2.rst =
        some H2Session.refusedStream
  | _ => False

/-- What `send_frame` does to the table. -/
theorem sendFrame_cases (c : Connection) (max_concurrent_streams_ : UInt32) (sid : ℤ)
    (type_byte : UInt8) (payload : Bytes) :
    (c.session.closed_ = false ∧ payload.length < kMaxFrameSize.toNat ∧ ∃ envelope,
      (sendFrame sid type_byte payload).act max_concurrent_streams_ c =
        { c with session := (c.session.enqueueSend sid envelope).1 }) ∨
    (¬ (c.session.closed_ = false ∧ payload.length < kMaxFrameSize.toNat) ∧
      (sendFrame sid type_byte payload).act max_concurrent_streams_ c = c) := by
  unfold act H2Session.sendFrame
  dsimp only
  by_cases hclosed : c.session.closed_ = true
  · rw [if_pos hclosed]
    exact .inr ⟨fun h => Bool.false_ne_true (h.1.symm.trans hclosed), rfl⟩
  · by_cases hlarge : kMaxFrameSize.toNat ≤ payload.length
    · rw [if_neg hclosed, if_pos hlarge]
      exact .inr ⟨fun h => absurd hlarge (Nat.not_le.mpr h.2), rfl⟩
    · have hlength := Nat.lt_of_not_le hlarge
      rw [if_neg hclosed, if_neg hlarge, encodeH2Envelope_ok type_byte hlength]
      exact .inl ⟨Bool.eq_false_iff.mpr hclosed, hlength, _, rfl⟩

/-- **A step.**  A call that is not late keeps the table to open streams. -/
theorem tracked_act {max_concurrent_streams_ : UInt32} {c : Connection} (h : c.Tracked)
    {e : TableEvent} (hadmitted : e.Admitted c) (hlate : ¬ e.Late c) :
    (e.act max_concurrent_streams_ c).Tracked := by
  cases e with
  | beginHeaders request sid =>
      intro other hmem
      rcases H2Session.mem_onBeginHeadersCallback c.session other hmem with hold | ⟨rfl, rfl⟩
      · show other ∈ if request then insert sid c.opened else c.opened
        split
        · exact Finset.mem_insert_of_mem (h other hold)
        · exact h other hold
      · exact Finset.mem_insert_self _ _
  | dataChunk sid data =>
      intro other hmem
      rcases H2Session.mem_onDataChunkRecvCallback c.session other hmem with rfl | hold
      · exact hadmitted
      · exact h other hold
  | streamClose sid =>
      intro other hmem
      obtain ⟨hne, hold⟩ := (H2Session.mem_onStreamCloseCallback c.session other).mp hmem
      exact Finset.mem_erase.mpr ⟨hne, h other hold⟩
  | sendFrame sid type_byte payload =>
      rcases sendFrame_cases c max_concurrent_streams_ sid type_byte payload with
        ⟨hclosed, hlength, envelope, hact⟩ | ⟨-, hact⟩
      · rw [hact]
        intro other hmem
        rcases (H2Session.mem_enqueueSend c.session other sid envelope).mp hmem with rfl | hold
        -- A stream that is tracked and not open has had a late call.
        · by_contra hnot
          exact hlate ⟨hnot, hclosed, hlength⟩
        · exact h other hold
      · rwa [hact]
  | receiveFrame sid =>
      intro other hmem
      rcases (H2Session.mem_receiveFrame c.session other sid).mp hmem with rfl | hold
      · by_contra hnot
        exact hlate hnot
      · exact h other hold
  | closeStream sid error_code rv =>
      intro other hmem
      exact h other ((H2Session.mem_closeStream c.session other sid error_code rv).mp hmem)

/-- A late call leaves the entry of a stream that is not open. -/
theorem not_tracked_of_late {max_concurrent_streams_ : UInt32} {c : Connection} {e : TableEvent}
    (hlate : e.Late c) : ¬ (e.act max_concurrent_streams_ c).Tracked := by
  intro htracked
  cases e with
  | sendFrame sid type_byte payload =>
      obtain ⟨hnot, hclosed, hlength⟩ := hlate
      rcases sendFrame_cases c max_concurrent_streams_ sid type_byte payload with
        ⟨-, -, envelope, hact⟩ | ⟨hrefused, -⟩
      · rw [hact] at htracked
        exact hnot (htracked sid
          ((H2Session.mem_enqueueSend c.session sid sid envelope).mpr (.inl rfl)))
      · exact hrefused ⟨hclosed, hlength⟩
  | receiveFrame sid =>
      exact hlate (htracked sid ((H2Session.mem_receiveFrame c.session sid sid).mpr (.inl rfl)))
  | beginHeaders _ _ => exact hlate
  | dataChunk _ _ => exact hlate
  | streamClose _ => exact hlate
  | closeStream _ _ _ => exact hlate

/-- A request that is refused finds the limit reached by open streams. -/
theorem card_opened_of_refused {max_concurrent_streams_ : UInt32} {c : Connection} (h : c.Tracked)
    {e : TableEvent} (hrefused : e.Refused max_concurrent_streams_ c) :
    max_concurrent_streams_.toNat ≤ c.opened.card := by
  cases e with
  | beginHeaders request sid =>
      have hfull : max_concurrent_streams_.toNat ≤ c.session.streams_.keys.length := by
        unfold Refused H2Session.onBeginHeadersCallback at hrefused
        dsimp only at hrefused
        split at hrefused
        · split at hrefused
          · assumption
          · cases hrefused
        · cases hrefused
      calc max_concurrent_streams_.toNat
          ≤ c.session.streams_.keys.length := hfull
        _ = c.session.streams_.keys.toFinset.card :=
            (List.toFinset_card_of_nodup c.session.streams_.keys_nodup).symm
        _ ≤ c.opened.card := Finset.card_le_card fun sid hsid =>
            h sid (AList.mem_keys.mpr (List.mem_toFinset.mp hsid))
  | dataChunk _ _ => cases hrefused
  | streamClose _ => cases hrefused
  | sendFrame _ _ _ => cases hrefused
  | receiveFrame _ => cases hrefused
  | closeStream _ _ _ => cases hrefused

end TableEvent

/-- A run, event by event. -/
abbrev TableRecord := History.Record Connection TableEvent Connection

/-- What happens in a run of a new session. -/
def connected (max_concurrent_streams_ : UInt32) (events : List TableEvent) : List TableRecord :=
  History.history (TableEvent.act max_concurrent_streams_) id {} events

/-- A run without late calls. -/
theorem tracked_run (max_concurrent_streams_ : UInt32) (events : List TableEvent)
    {c : Connection} (h : c.Tracked)
    (hevents : ∀ r ∈ History.history (TableEvent.act max_concurrent_streams_) id c events,
      r.call.Admitted r.before ∧ ¬ r.call.Late r.before) :
    ∀ r ∈ History.history (TableEvent.act max_concurrent_streams_) id c events,
      r.before.Tracked ∧ r.result.Tracked := by
  refine @History.history_forall_rest _ _ _ _ _
    (fun c events => c.Tracked ∧
      ∀ r ∈ History.history (TableEvent.act max_concurrent_streams_) id c events,
        r.call.Admitted r.before ∧ ¬ r.call.Late r.before) _ ?_ ?_ events c ⟨h, hevents⟩
  · rintro c e events ⟨htracked, hrest⟩
    rw [History.history_cons] at hrest
    obtain ⟨hadmitted, hlate⟩ := hrest _ List.mem_cons_self
    exact ⟨TableEvent.tracked_act htracked hadmitted hlate,
      fun r hr => hrest r (List.mem_cons_of_mem _ hr)⟩
  · rintro c e events ⟨htracked, hrest⟩
    rw [History.history_cons] at hrest
    obtain ⟨hadmitted, hlate⟩ := hrest _ List.mem_cons_self
    exact ⟨htracked, TableEvent.tracked_act htracked hadmitted hlate⟩

/-- **The stream table.**  In every state of a run the table holds open streams only, and a
request is refused only when the limit is reached by open streams, exactly if no call
creates the entry of a stream that is not open. -/
theorem stream_table_open_iff (max_concurrent_streams_ : UInt32) (events : List TableEvent)
    (hadmitted : ∀ r ∈ connected max_concurrent_streams_ events, r.call.Admitted r.before) :
    (∀ r ∈ connected max_concurrent_streams_ events,
      r.result.Tracked ∧
        (r.call.Refused max_concurrent_streams_ r.before →
          max_concurrent_streams_.toNat ≤ r.before.opened.card)) ↔
      ∀ r ∈ connected max_concurrent_streams_ events, ¬ r.call.Late r.before := by
  have hresult : ∀ r ∈ connected max_concurrent_streams_ events,
      r.result = r.call.act max_concurrent_streams_ r.before :=
    @History.history_forall _ _ _ _ _ (fun _ => True) (fun _ => True) _ (fun _ _ _ _ => trivial)
      (fun _ _ _ _ => rfl) events _ trivial fun _ _ => trivial
  constructor
  · intro h r hr hlate
    have htracked := (h r hr).1
    rw [hresult r hr] at htracked
    exact TableEvent.not_tracked_of_late hlate htracked
  · intro hlate r hr
    obtain ⟨hbefore, hafter⟩ := tracked_run max_concurrent_streams_ events
      (fun sid hsid => absurd hsid (AList.notMem_empty sid))
      (fun r hr => ⟨hadmitted r hr, hlate r hr⟩) r hr
    exact ⟨hafter, TableEvent.card_opened_of_refused hbefore⟩

/-- A stream that is used while it is open, and another request after it has closed. -/
theorem stream_table_open_iff_sequential :
    (∀ r ∈ connected 1 [.beginHeaders true 1, .receiveFrame 1, .streamClose 1,
        .beginHeaders true 3],
      r.result.Tracked ∧ (r.call.Refused 1 r.before → 1 ≤ r.before.opened.card)) ↔
      ∀ r ∈ connected 1 [.beginHeaders true 1, .receiveFrame 1, .streamClose 1,
        .beginHeaders true 3], ¬ r.call.Late r.before :=
  stream_table_open_iff 1 [.beginHeaders true 1, .receiveFrame 1, .streamClose 1,
    .beginHeaders true 3] (by decide)

/-- A handler that still calls `receive_frame` when its stream has closed. -/
def lateHandler : List TableEvent :=
  [.beginHeaders true 1, .streamClose 1, .receiveFrame 1, .beginHeaders true 3]

/-- **A late call uses up the limit**: the next request is refused although no stream is
open. -/
theorem refused_with_none_open :
    (∀ r ∈ connected 1 lateHandler, r.call.Admitted r.before) ∧
      ∃ r ∈ connected 1 lateHandler, r.call.Refused 1 r.before ∧ r.before.opened = ∅ ∧
        ¬ r.before.Tracked := by
  refine ⟨by decide, _, .tail _ (.tail _ (.tail _ (.head _))), rfl, by decide, fun htracked => ?_⟩
  have hmem : (1 : ℤ) ∉ (∅ : Finset ℤ) := Finset.notMem_empty 1
  exact hmem (htracked 1 (by decide))

end CulpeoStream.Http2
