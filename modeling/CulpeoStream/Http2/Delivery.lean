import CulpeoStream.Http2.Reassembly
import CulpeoStream.Lib.History

/-!
# Delivery

The reader of a stream calls `receive_frame`, while `DATA` chunks arrive and the stream
closes.  The frames go through a channel that holds 256 of them; a frame that finds it
full is dropped, and so is what the channel still holds when the stream closes.

`delivery_run` is the positive side: as long as every chunk finds room for its frames, and
the channel is empty when the stream closes, `receive_frame` returns the frames that
arrived, in order, and fails only after the last of them.
-/

namespace CulpeoStream.Http2

open Framing
open Message (Bytes)

/-! ### Runs -/

/-- What happens on the strand. -/
inductive RecvEvent where
  | dataChunk (stream_id : ℤ) (data : Bytes)
  | streamClose (stream_id : ℤ)
  | receiveFrame (stream_id : ℤ)
deriving DecidableEq

namespace RecvEvent

def streamId : RecvEvent → ℤ
  | dataChunk stream_id _ => stream_id
  | streamClose stream_id => stream_id
  | receiveFrame stream_id => stream_id

def act : RecvEvent → H2Session → H2Session × H2Session.Arrival
  | dataChunk stream_id data, self => self.onDataChunkRecvCallback stream_id data
  | streamClose stream_id, self => self.onStreamCloseCallback stream_id
  | receiveFrame stream_id, self => self.receiveFrame stream_id

/-- The octets that arrive for a stream. -/
def octets (sid : ℤ) : RecvEvent → Bytes
  | dataChunk stream_id data => if stream_id = sid then data else []
  | _ => []

/-- A chunk arrives for the stream. -/
def chunkOf (sid : ℤ) : RecvEvent → Bool
  | dataChunk stream_id _ => stream_id = sid
  | _ => false

end RecvEvent

/-- A run, event by event. -/
abbrev RecvRecord := History.Record H2Session RecvEvent (H2Session × H2Session.Arrival)

namespace H2Session

/-- What happens in a run. -/
def received (s : H2Session) (events : List RecvEvent) : List RecvRecord :=
  History.history RecvEvent.act Prod.fst s events

end H2Session

/-- What the `receive_frame` calls on a stream returned. -/
def returned (sid : ℤ) (records : List RecvRecord) : List Received :=
  records.flatMap fun r => if r.call.streamId = sid then r.result.2.received else []

/-- The octets that arrived for a stream. -/
def arrivedOctets (sid : ℤ) (records : List RecvRecord) : Bytes :=
  records.flatMap fun r => r.call.octets sid

/-- The frames that arrived on a stream. -/
def arrivedFrames (sid : ℤ) (records : List RecvRecord) : List Frame :=
  precedingFrames (arrivedOctets sid records)

/-- Nothing is lost: a chunk finds room for the frames that it completes, and the stream
closes when every frame in the channel has been returned. -/
def KeepsUp (sid : ℤ) (r : RecvRecord) : Prop :=
  match r.call with
  | .dataChunk stream_id data => stream_id = sid →
      (precedingFrames ((r.before.stream sid).recv.buf ++ data)).length ≤
        (r.before.stream sid).channel.room
  | .streamClose stream_id => stream_id = sid → (r.before.stream sid).channel.buffer = []
  | .receiveFrame _ => True

instance (sid : ℤ) : (r : RecvRecord) → Decidable (KeepsUp sid r)
  | ⟨_, .dataChunk stream_id _, _⟩ => inferInstanceAs (Decidable (stream_id = sid → _))
  | ⟨_, .streamClose stream_id, _⟩ => inferInstanceAs (Decidable (stream_id = sid → _))
  | ⟨_, .receiveFrame _, _⟩ => inferInstanceAs (Decidable True)

/-! ### Other streams -/

namespace H2Session

variable {s : H2Session} {sid other : ℤ}

theorem stream_onDataChunkRecvCallback_ne (h : sid ≠ other) (data : Bytes) :
    (s.onDataChunkRecvCallback other data).1.stream sid = s.stream sid := by
  unfold onDataChunkRecvCallback dispatchRecvFrames
  split
  · rfl
  · simp only [lookup_setStream]
    rw [stream_setStream_ne h, stream_setStream_ne h]

theorem stream_onStreamCloseCallback_ne (h : sid ≠ other) :
    (s.onStreamCloseCallback other).1.stream sid = s.stream sid := by
  unfold onStreamCloseCallback
  dsimp only
  split
  · rfl
  · unfold stream
    dsimp only
    rw [AList.lookup_erase_ne h]

theorem mem_refused_onStreamCloseCallback
    (h : sid ∈ (s.onStreamCloseCallback other).1.refused_streams_) : sid ∈ s.refused_streams_ := by
  unfold onStreamCloseCallback at h
  dsimp only at h
  split at h <;> exact (List.mem_filter.mp h).1

/-- The channel of a stream that closes is gone, and a reader that waits gets `eof`. -/
theorem onStreamCloseCallback_eq (s : H2Session) (sid : ℤ) :
    (s.onStreamCloseCallback sid).1.stream sid = {} ∧
      ((s.stream sid).channel.buffer = [] →
        ∃ k, (s.onStreamCloseCallback sid).2.received = List.replicate k .eof) := by
  unfold onStreamCloseCallback stream
  dsimp only
  cases hlookup : s.streams_.lookup sid with
  | none => exact ⟨by rw [hlookup]; rfl, fun _ => ⟨0, rfl⟩⟩
  | some st =>
      refine ⟨by dsimp only; rw [AList.lookup_erase]; rfl, fun hbuffer => ?_⟩
      have hroom : ([.eof] : List Received).length ≤ st.channel.room := by
        simp only [Option.getD_some] at hbuffer
        unfold Channel.room kChannelCapacity
        rw [hbuffer, List.length_singleton, List.length_nil]
        omega
      have hsent := Channel.sendAll_fits hroom
      simp only [Option.getD_some] at hbuffer
      rw [hbuffer, List.nil_append] at hsent
      rcases List.append_eq_singleton_iff.mp hsent with ⟨hnone, -⟩ | ⟨hone, -⟩
      · exact ⟨0, hnone⟩
      · exact ⟨1, hone⟩

end H2Session

/-! ### The run -/

/-- What has come of the events so far on a stream whose reader keeps up. -/
structure Delivers (sid : ℤ) (past : List RecvRecord) (s : H2Session) : Prop where
  accepted : sid ∉ s.refused_streams_
  /-- Until the stream closes, what was not returned is in the channel or the buffer. -/
  running : (∀ r ∈ past, r.call ≠ .streamClose sid) →
    returned sid past ++ (s.stream sid).channel.buffer = (arrivedFrames sid past).map .frame ∧
      (s.stream sid).recv.buf = remainder (arrivedOctets sid past)
  ended : (∃ r ∈ past, r.call = .streamClose sid) →
    (s.stream sid).channel.buffer = [] ∧
      ∃ k, returned sid past = (arrivedFrames sid past).map .frame ++ List.replicate k .eof

variable {sid : ℤ} {past : List RecvRecord} {s : H2Session}

theorem returned_append (sid : ℤ) (past : List RecvRecord) (r : RecvRecord) :
    returned sid (past ++ [r]) =
      returned sid past ++ if r.call.streamId = sid then r.result.2.received else [] := by
  simp [returned]

theorem arrivedOctets_append (sid : ℤ) (past : List RecvRecord) (r : RecvRecord) :
    arrivedOctets sid (past ++ [r]) = arrivedOctets sid past ++ r.call.octets sid := by
  simp [arrivedOctets]

theorem precedingFrames_append (bytes more : Bytes) :
    precedingFrames (bytes ++ more) =
      precedingFrames bytes ++ precedingFrames (remainder bytes ++ more) := by
  unfold precedingFrames remainder
  rw [Format.split_append]

theorem remainder_append (bytes more : Bytes) :
    remainder (bytes ++ more) = remainder (remainder bytes ++ more) := by
  unfold remainder
  rw [Format.split_append]

/-- A chunk arrives on the stream. -/
theorem Delivers.dataChunk (h : Delivers sid past s) {data : Bytes}
    (hshort : envelopeFront (remainder (arrivedOctets sid past ++ data)) = .short)
    (hrunning : ∀ r ∈ past, r.call ≠ .streamClose sid)
    (hroom : (precedingFrames ((s.stream sid).recv.buf ++ data)).length ≤
      (s.stream sid).channel.room) :
    Delivers sid (past ++ [⟨s, .dataChunk sid data, s.onDataChunkRecvCallback sid data⟩])
      (s.onDataChunkRecvCallback sid data).1 := by
  obtain ⟨hstream, harrival⟩ := H2Session.onDataChunkRecvCallback_eq h.accepted data
  obtain ⟨hreturned, hbuf⟩ := h.running hrunning
  rw [hbuf] at hroom
  rw [remainder_append] at hshort
  have hdrain : envelopeFormat.drain (remainder (arrivedOctets sid past) ++ data) =
      envelopeFormat.split (remainder (arrivedOctets sid past) ++ data) :=
    Format.drain_short hshort
  -- The channel has room for every frame that the chunk completes.
  have hfits : ((precedingFrames (remainder (arrivedOctets sid past) ++ data)).map
      Received.frame).length ≤ (s.stream sid).channel.room := by rwa [List.length_map]
  have hsent := Channel.sendAll_fits hfits
  have hoctets : (RecvEvent.dataChunk sid data).octets sid = data := if_pos rfl
  refine ⟨?_, fun _ => ?_, ?_⟩
  · rw [H2Session.refused_onDataChunkRecvCallback]
    exact h.accepted
  · rw [returned_append, arrivedFrames, arrivedOctets_append, hstream]
    dsimp only
    rw [hoctets, harrival, hbuf,
      if_pos (show (RecvEvent.dataChunk sid data).streamId = sid from rfl),
      precedingFrames_append, remainder_append, List.map_append]
    unfold RecvState.drainFrames
    dsimp only
    rw [hdrain]
    refine ⟨?_, rfl⟩
    rw [List.append_assoc, ← arrivedFrames, ← hreturned, List.append_assoc]
    exact congrArg (returned sid past ++ ·) hsent
  · rintro ⟨r, hr, hclose⟩
    rcases List.mem_append.mp hr with hr | hr
    · exact absurd hclose (hrunning r hr)
    · cases List.mem_singleton.mp hr
      cases hclose

/-- The stream closes. -/
theorem Delivers.streamClose (h : Delivers sid past s)
    (hempty : (s.stream sid).channel.buffer = []) :
    Delivers sid (past ++ [⟨s, .streamClose sid, s.onStreamCloseCallback sid⟩])
      (s.onStreamCloseCallback sid).1 := by
  obtain ⟨hstream, hreceived⟩ := H2Session.onStreamCloseCallback_eq s sid
  obtain ⟨k, heof⟩ := hreceived hempty
  have hframes : ∃ n, returned sid past =
      (arrivedFrames sid past).map .frame ++ List.replicate n .eof := by
    by_cases hrunning : ∀ r ∈ past, r.call ≠ .streamClose sid
    · refine ⟨0, ?_⟩
      rw [← (h.running hrunning).1, hempty, List.append_nil]
      exact (List.append_nil _).symm
    · exact (h.ended (by simpa using hrunning)).2
  obtain ⟨n, hn⟩ := hframes
  refine ⟨fun hmem => h.accepted (H2Session.mem_refused_onStreamCloseCallback hmem),
    fun hrunning => absurd rfl (hrunning _ (List.mem_append_right _ (List.mem_singleton_self _))),
    fun _ => ⟨by rw [hstream], n + k, ?_⟩⟩
  rw [returned_append, arrivedFrames, arrivedOctets_append]
  dsimp only
  rw [if_pos (show (RecvEvent.streamClose sid).streamId = sid from rfl), heof, hn,
    List.append_assoc, ← List.replicate_add]
  simp only [RecvEvent.octets, List.append_nil, arrivedFrames]

/-- A reader asks for the next frame. -/
theorem Delivers.receiveFrame (h : Delivers sid past s) :
    Delivers sid (past ++ [⟨s, .receiveFrame sid, s.receiveFrame sid⟩])
      (s.receiveFrame sid).1 := by
  have hgot := (s.stream sid).channel.receive_append
  have hstream : (s.receiveFrame sid).1.stream sid =
      { s.stream sid with channel := (s.stream sid).channel.receive.1 } :=
    H2Session.stream_setStream ..
  have hoctets : arrivedOctets sid (past ++ [⟨s, .receiveFrame sid, s.receiveFrame sid⟩]) =
      arrivedOctets sid past := by
    rw [arrivedOctets_append]
    exact List.append_nil _
  have hreturned : returned sid (past ++ [⟨s, .receiveFrame sid, s.receiveFrame sid⟩]) =
      returned sid past ++ (s.stream sid).channel.receive.2.toList := by
    rw [returned_append]
    exact congrArg _ (if_pos rfl)
  refine ⟨h.accepted, fun hrunning => ?_, ?_⟩
  · obtain ⟨hconserved, hbuf⟩ := h.running fun r hr => hrunning r (List.mem_append_left _ hr)
    rw [hreturned, arrivedFrames, hoctets, hstream]
    refine ⟨?_, hbuf⟩
    dsimp only
    rw [List.append_assoc, hgot]
    exact hconserved
  · rintro ⟨r, hr, hclose⟩
    rcases List.mem_append.mp hr with hr | hr
    · obtain ⟨hempty, k, hk⟩ := h.ended ⟨r, hr, hclose⟩
      rw [hempty] at hgot
      obtain ⟨hnone, hrest⟩ := List.append_eq_nil_iff.mp hgot
      rw [hreturned, arrivedFrames, hoctets, hstream, hnone, List.append_nil]
      exact ⟨hrest, k, hk⟩
    · cases List.mem_singleton.mp hr
      cases hclose

/-- Something happens on another stream. -/
theorem Delivers.other (h : Delivers sid past s) {e : RecvEvent} (hother : e.streamId ≠ sid) :
    Delivers sid (past ++ [⟨s, e, e.act s⟩]) (e.act s).1 := by
  have hstream : (e.act s).1.stream sid = s.stream sid := by
    cases e with
    | dataChunk other data =>
        exact H2Session.stream_onDataChunkRecvCallback_ne (Ne.symm hother) data
    | streamClose other => exact H2Session.stream_onStreamCloseCallback_ne (Ne.symm hother)
    | receiveFrame other => exact H2Session.stream_setStream_ne (Ne.symm hother) ..
  have hrefused : sid ∉ (e.act s).1.refused_streams_ := by
    cases e with
    | dataChunk other data =>
        have := H2Session.refused_onDataChunkRecvCallback s other data
        exact fun hmem => h.accepted (this ▸ hmem)
    | streamClose other =>
        exact fun hmem => h.accepted (H2Session.mem_refused_onStreamCloseCallback hmem)
    | receiveFrame other => exact h.accepted
  have hoctets : arrivedOctets sid (past ++ [⟨s, e, e.act s⟩]) = arrivedOctets sid past := by
    rw [arrivedOctets_append]
    cases e with
    | dataChunk other data => exact (congrArg _ (if_neg hother)).trans (List.append_nil _)
    | streamClose other => exact List.append_nil _
    | receiveFrame other => exact List.append_nil _
  have hreturned : returned sid (past ++ [⟨s, e, e.act s⟩]) = returned sid past := by
    rw [returned_append]
    exact (congrArg _ (if_neg hother)).trans (List.append_nil _)
  have hcall : e ≠ .streamClose sid := fun he => hother (he ▸ rfl)
  refine ⟨hrefused, fun hrunning => ?_, ?_⟩
  · rw [hreturned, arrivedFrames, hoctets, hstream]
    exact h.running fun r hr => hrunning r (List.mem_append_left _ hr)
  · rintro ⟨r, hr, hclose⟩
    rw [hreturned, arrivedFrames, hoctets, hstream]
    rcases List.mem_append.mp hr with hr | hr
    · exact h.ended ⟨r, hr, hclose⟩
    · cases List.mem_singleton.mp hr
      exact absurd hclose hcall

/-- What is not malformed was not malformed before more octets arrived. -/
theorem front_remainder_of_append {bytes more : Bytes}
    (h : envelopeFront (remainder (bytes ++ more)) = .short) :
    envelopeFront (remainder bytes) = .short := by
  cases hfront : envelopeFront (remainder bytes) with
  | short => rfl
  | malformed =>
      have hrest : remainder (bytes ++ more) = remainder bytes ++ more :=
        congrArg Prod.snd (Format.split_append_malformed hfront more)
      have hmalformed : envelopeFront (remainder bytes ++ more) = .malformed :=
        envelopeFormat.malformed_append more hfront
      rw [hrest, hmalformed] at h
      cases h
  | frame f rest =>
      exact absurd hfront (Format.front_split_ne (F := envelopeFormat) bytes f rest)

/-- No chunk of a stream arrives after the stream has closed. -/
def ClosesLast (sid : ℤ) (e e' : RecvEvent) : Prop :=
  e = .streamClose sid → e'.chunkOf sid = false

instance (sid : ℤ) (e e' : RecvEvent) : Decidable (ClosesLast sid e e') :=
  inferInstanceAs (Decidable (_ → _))

theorem delivers_run {s : H2Session} (haccepted : sid ∉ s.refused_streams_)
    (hnew : s.stream sid = {}) (events : List RecvEvent)
    (hlast : events.Pairwise (ClosesLast sid))
    (hkeeps : ∀ r ∈ s.received events, KeepsUp sid r)
    (hshort : envelopeFront (remainder (arrivedOctets sid (s.received events))) = .short) :
    Delivers sid (s.received events) (History.final RecvEvent.act Prod.fst s events) := by
  refine History.history_induction (J := fun past s => (∀ r ∈ past, KeepsUp sid r) →
      envelopeFront (remainder (arrivedOctets sid past)) = .short → Delivers sid past s)
    (G := fun _ => True) (T := ClosesLast sid) ?_ ?_ events (fun _ _ => trivial) hlast hkeeps hshort
  · intro _ _
    exact ⟨haccepted, fun _ => ⟨by rw [hnew]; rfl, by rw [hnew]; rfl⟩,
      fun ⟨r, hr, _⟩ => by cases hr⟩
  · intro past s e ih _ hlast hkeeps hshort
    have hpast : Delivers sid past s := by
      refine ih (fun r hr => hkeeps r (List.mem_append_left _ hr)) ?_
      rw [arrivedOctets_append] at hshort
      exact front_remainder_of_append hshort
    have hkeep : KeepsUp sid ⟨s, e, e.act s⟩ :=
      hkeeps _ (List.mem_append_right _ (List.mem_singleton_self _))
    by_cases hother : e.streamId = sid
    · cases e with
      | dataChunk stream_id data =>
          obtain rfl : stream_id = sid := hother
          rw [arrivedOctets_append] at hshort
          refine hpast.dataChunk ?_ (fun r hr hclose => ?_) (hkeep rfl)
          · simpa [RecvEvent.octets] using hshort
          · simpa [RecvEvent.chunkOf] using hlast r hr hclose
      | streamClose stream_id =>
          obtain rfl : stream_id = sid := hother
          exact hpast.streamClose (hkeep rfl)
      | receiveFrame stream_id =>
          obtain rfl : stream_id = sid := hother
          exact hpast.receiveFrame
    · exact hpast.other hother

/-- The frame that a `receive_frame` call returned, if it did not fail. -/
def Received.frame? : Received → Option Frame
  | frame f => some f
  | eof => none

@[simp] theorem filterMap_map_frame (frames : List Frame) :
    (frames.map Received.frame).filterMap Received.frame? = frames := by
  rw [List.filterMap_map]
  exact List.filterMap_some

@[simp] theorem filterMap_replicate_eof (k : ℕ) :
    (List.replicate k Received.eof).filterMap Received.frame? = [] :=
  List.filterMap_replicate_of_none rfl

/-- **Delivery.**  Let the octets that arrive on a new stream be those of well-formed
frames, none of them after the stream has closed, and let the reader keep up.  Then the
frames that `receive_frame` returns are the first of those that arrived, and it fails only
after all of them. -/
theorem delivery_run {s : H2Session} {sid : ℤ} (haccepted : sid ∉ s.refused_streams_)
    (hnew : s.stream sid = {}) {frames : List Frame} {envelopes : List Bytes}
    (hencode : encodeFrames frames = .ok envelopes) (events : List RecvEvent)
    (hoctets : arrivedOctets sid (s.received events) <+: envelopes.flatten)
    (hlast : events.Pairwise (ClosesLast sid))
    (hkeeps : ∀ r ∈ s.received events, KeepsUp sid r) :
    (returned sid (s.received events)).filterMap Received.frame? <+:
        arrivedFrames sid (s.received events) ∧
      arrivedFrames sid (s.received events) <+: frames ∧
      (.eof ∈ returned sid (s.received events) →
        (returned sid (s.received events)).filterMap Received.frame? =
          arrivedFrames sid (s.received events)) := by
  obtain ⟨more, hmore⟩ := hoctets
  have hstream := split_envelopes hencode
  rw [← hmore] at hstream
  -- What has arrived is a prefix of whole envelopes, so nothing in it is malformed.
  have hshort : envelopeFront (remainder (arrivedOctets sid (s.received events))) = .short := by
    have hwhole : envelopeFront
        (remainder (arrivedOctets sid (s.received events) ++ more)) = .short := by
      rw [remainder, hstream]
      rfl
    exact front_remainder_of_append hwhole
  have harrived : arrivedFrames sid (s.received events) <+: frames := by
    have hfirst : precedingFrames (arrivedOctets sid (s.received events) ++ more) = frames :=
      congrArg Prod.fst hstream
    rw [← hfirst, precedingFrames_append]
    exact List.prefix_append _ _
  have hdelivers := delivers_run haccepted hnew events hlast hkeeps hshort
  -- The stream is open, or it was closed after the last octet.
  by_cases hrunning : ∀ r ∈ s.received events, r.call ≠ .streamClose sid
  · obtain ⟨hconserved, -⟩ := hdelivers.running hrunning
    have hfirst : returned sid (s.received events) <+:
        (arrivedFrames sid (s.received events)).map .frame := hconserved ▸ List.prefix_append _ _
    refine ⟨?_, harrived, fun heof => ?_⟩
    · rw [← filterMap_map_frame (arrivedFrames sid (s.received events))]
      exact hfirst.filterMap Received.frame?
    obtain ⟨f, -, hf⟩ := List.mem_map.mp (hfirst.mem heof)
    cases hf
  · obtain ⟨-, k, hall⟩ := hdelivers.ended (by simpa using hrunning)
    have hframes : (returned sid (s.received events)).filterMap Received.frame? =
        arrivedFrames sid (s.received events) := by
      rw [hall, List.filterMap_append, filterMap_map_frame, filterMap_replicate_eof,
        List.append_nil]
    exact ⟨hframes ▸ List.prefix_rfl, harrived, fun _ => hframes⟩

/-- Two frames arrive, cut within the first payload and within the second length, and are
returned; the stream closes on a reader that waits. -/
def twoFrames : List RecvEvent :=
  [.dataChunk 1 [0, 0, 0, 3, 1, 7], .receiveFrame 1, .dataChunk 1 [8, 0, 0, 0],
    .dataChunk 1 [2, 2, 9], .receiveFrame 1, .receiveFrame 1, .streamClose 1]

theorem delivery_run_twoFrames :
    (returned 1 (H2Session.received {} twoFrames)).filterMap Received.frame? <+:
        arrivedFrames 1 (H2Session.received {} twoFrames) ∧
      arrivedFrames 1 (H2Session.received {} twoFrames) <+: [(1, [7, 8]), (2, [9])] ∧
      (.eof ∈ returned 1 (H2Session.received {} twoFrames) →
        (returned 1 (H2Session.received {} twoFrames)).filterMap Received.frame? =
          arrivedFrames 1 (H2Session.received {} twoFrames)) := by
  have hencode : encodeFrames [(1, [7, 8]), (2, [9])] =
      .ok [[0, 0, 0, 3, 1, 7, 8], [0, 0, 0, 2, 2, 9]] := by rfl
  exact delivery_run (by decide) rfl hencode twoFrames (by decide) (by decide)
    (by decide)

/-- 257 frames arrive before the first of them is returned, and one more at the end. -/
def overflowing : List RecvEvent :=
  List.replicate 256 (.dataChunk 1 [0, 0, 0, 1, 1]) ++ .dataChunk 1 [0, 0, 0, 1, 2] ::
    List.replicate 256 (.receiveFrame 1) ++ [.dataChunk 1 [0, 0, 0, 1, 3], .receiveFrame 1]

/-- The frame that found the channel full is skipped. -/
theorem frame_skipped :
    (returned 1 (H2Session.received {} overflowing)).filterMap Received.frame? =
        List.replicate 256 (1, []) ++ [(3, [])] ∧
      arrivedFrames 1 (H2Session.received {} overflowing) =
        List.replicate 256 (1, []) ++ [(2, []), (3, [])] := by
  decide +kernel

end CulpeoStream.Http2
