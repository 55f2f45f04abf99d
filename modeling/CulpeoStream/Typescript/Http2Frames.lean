import CulpeoStream.Typescript.Http2

/-!
# What a consumer of `frames()` obtains

`data` and `end` events race with the calls of `next()`.  `Tracks` is the invariant: what
the calls obtained, followed by the queue, are the frames that have arrived so far, and a
call waits only while the queue is empty.

On a well-formed stream the consumer obtains exactly its frames, and then `done`
(`frames_delivered`).  On a malformed stream of a server it obtains the frames before the
malformed envelope and then a rejection, unless a chunk both completes a frame and runs into
the malformed envelope while a call waits: then the rejection overtakes the frame
(`timing_independent_iff`).
-/

namespace CulpeoStream.Typescript.H2

open Framing
open Message (Bytes)

/-! ### Streams that go on -/

section Streams

variable {limit : ℤ} {bytes : Bytes}

theorem precedingFrames_append (bytes x : Bytes) :
    precedingFrames limit (bytes ++ x) =
      precedingFrames limit bytes ++ precedingFrames limit (remainder limit bytes ++ x) := by
  rw [precedingFrames, Format.split_append]
  rfl

theorem remainder_append (bytes x : Bytes) :
    remainder limit (bytes ++ x) = remainder limit (remainder limit bytes ++ x) := by
  rw [remainder, Format.split_append]
  rfl

theorem malformed_append_iff (bytes x : Bytes) :
    Malformed limit (bytes ++ x) ↔ Malformed limit (remainder limit bytes ++ x) := by
  rw [Malformed, Malformed, remainder_append]

/-- Once malformed, a stream has no further frames. -/
theorem precedingFrames_malformed (h : Malformed limit bytes) (x : Bytes) :
    precedingFrames limit (bytes ++ x) = precedingFrames limit bytes := by
  rw [precedingFrames, Format.split_append_malformed h]
  rfl

theorem Malformed.append (h : Malformed limit bytes) (x : Bytes) :
    Malformed limit (bytes ++ x) := by
  have hsplit := congrArg Prod.snd (Format.split_append_malformed h x)
  unfold Malformed remainder
  rw [hsplit]
  exact (format limit).malformed_append x h

end Streams

/-! ### What a chunk does -/

section Chunk

variable (side : Side) (it : FrameIterator) (chunk : Bytes)

/-- The frames of a chunk go through the queue, and a waiting call takes the first. -/
theorem onData_well (h : ¬ Malformed side.limit (it.buf ++ chunk)) :
    (∃ item queue, it.pending = true ∧
      it.queue ++ precedingFrames side.limit (it.buf ++ chunk) = item :: queue ∧
      it.onData side chunk =
        ({ it with buf := remainder side.limit (it.buf ++ chunk), pending := false, queue },
          [.value item])) ∨
    (it.pending = true → it.queue ++ precedingFrames side.limit (it.buf ++ chunk) = []) ∧
      it.onData side chunk =
        ({ it with
            buf := remainder side.limit (it.buf ++ chunk)
            queue := it.queue ++ precedingFrames side.limit (it.buf ++ chunk) }, []) := by
  obtain ⟨hframes, hrest, hthrown⟩ :=
    @flush_split side.limit (it.buf ++ chunk)
  unfold FrameIterator.onData
  simp only [hframes, hrest, hthrown.mpr h]
  cases it.pending with
  | false => exact .inr ⟨nofun, rfl⟩
  | true =>
      cases it.queue ++ precedingFrames side.limit (it.buf ++ chunk) with
      | nil => exact .inr ⟨fun _ => rfl, rfl⟩
      | cons item queue => exact .inl ⟨item, queue, rfl, rfl, rfl⟩

/-- A malformed envelope is thrown after the frames before it have been queued. -/
theorem onData_malformed (h : Malformed side.limit (it.buf ++ chunk)) :
    ∃ err, it.onData side chunk =
      FrameIterator.catchThrown side
        { it with
          buf := remainder side.limit (it.buf ++ chunk)
          queue := it.queue ++ precedingFrames side.limit (it.buf ++ chunk) } err := by
  obtain ⟨hframes, hrest, hthrown⟩ :=
    @flush_split side.limit (it.buf ++ chunk)
  obtain ⟨err, herr⟩ := Option.ne_none_iff_exists'.mp fun hnone => hthrown.mp hnone h
  refine ⟨err, ?_⟩
  unfold FrameIterator.onData
  simp only [hframes, hrest, herr]

end Chunk

/-! ### What a call does -/

/-- A call takes the first frame of the queue, or waits, or fails at once. -/
theorem next_cases (it : FrameIterator) :
    (∃ item queue, it.queue = item :: queue ∧ it.next = ({ it with queue }, [.value item])) ∨
    (it.queue = [] ∧ it.done = false ∧ it.next = ({ it with pending := true }, [])) ∨
    it.queue = [] ∧ it.done = true ∧ ∃ s, it.next = (it, [s]) ∧
      (s = .done ∨ it.error ≠ none ∧ ∃ err, s = .rejected err) := by
  unfold FrameIterator.next
  cases it.queue with
  | cons item queue => exact .inl ⟨item, queue, rfl, rfl⟩
  | nil =>
      cases it.done with
      | false => exact .inr (.inl ⟨rfl, rfl, rfl⟩)
      | true =>
          cases it.error with
          | none => exact .inr (.inr ⟨rfl, rfl, .done, rfl, .inl rfl⟩)
          | some err => exact .inr (.inr ⟨rfl, rfl, .rejected err, rfl, .inr ⟨nofun, err, rfl⟩⟩)

/-! ### The records so far -/

section Records

variable (past : List FrameRecord) (r : FrameRecord)

@[simp] theorem arrived_append : arrived (past ++ [r]) = arrived past ++ r.call.octets := by
  rw [arrived, arrived, List.flatMap_append, List.flatMap_singleton]

@[simp] theorem settled_append : settled (past ++ [r]) = settled past ++ r.result.2 := by
  rw [settled, settled, List.flatMap_append, List.flatMap_singleton]

/-- The number of calls of `next()`. -/
def calls (records : List FrameRecord) : ℕ := (records.map fun r => r.call).count .next

theorem calls_append : calls (past ++ [r]) = calls past + if r.call = .next then 1 else 0 := by
  rw [calls, calls, List.map_append, List.count_append, List.map_singleton, List.count_singleton]
  congr 1
  simp only [beq_iff_eq]

end Records

/-! ### The invariant -/

/-- What holds of an iterator, of the frames `yielded` that calls have obtained and of the
other answers `last`. -/
structure Tracks (side : Side) (past : List FrameRecord) (it : FrameIterator)
    (yielded : List Tagged.Frame) (last : List Settled) : Prop where
  settled_eq : settled past = yielded.map .value ++ last
  frames_eq : yielded ++ it.queue = precedingFrames side.limit (arrived past)
  last_cases : ∀ s ∈ last,
    s = .done ∨ Malformed side.limit (arrived past) ∧ ∃ err, s = .rejected err
  last_queue : last ≠ [] → it.queue = [] ∧ it.done = true
  buf_eq : it.buf = remainder side.limit (arrived past)
  destroyed_eq : it.destroyed = none
  error_malformed : it.error ≠ none → Malformed side.limit (arrived past)
  done_only : it.done = true → it.ended = true ∨ Malformed side.limit (arrived past)
  ended_done : it.ended = true → it.done = true
  waiting : it.pending = true → it.queue = [] ∧ it.done = false
  calls_eq : (settled past).length + it.pending.toNat = calls past

/-- A chunk runs into a malformed envelope after a frame, while a call waits. -/
def Overtakes (maxPayloadBytes : ℤ) (r : FrameRecord) : Prop :=
  ∃ chunk, r.call = .data chunk ∧ r.before.pending = true ∧
    precedingFrames maxPayloadBytes (r.before.buf ++ chunk) ≠ [] ∧
    Malformed maxPayloadBytes (r.before.buf ++ chunk)

namespace Tracks

variable {side : Side} {past : List FrameRecord} {it : FrameIterator}
  {yielded : List Tagged.Frame} {last : List Settled}

theorem start (side : Side) : Tracks side [] {} [] [] where
  settled_eq := rfl
  frames_eq := rfl
  last_cases := nofun
  last_queue h := absurd rfl h
  buf_eq := rfl
  destroyed_eq := rfl
  error_malformed h := absurd rfl h
  done_only := nofun
  ended_done := nofun
  waiting := nofun
  calls_eq := rfl

variable (h : Tracks side past it yielded last)
include h

/-- Before the end of a stream that is not malformed, no call has failed. -/
theorem fresh (hended : it.ended = false) (hwell : ¬ Malformed side.limit (arrived past)) :
    it.done = false ∧ it.error = none ∧ last = [] := by
  have hdone : it.done = false := by
    cases hdone : it.done with
    | false => rfl
    | true =>
        rcases h.done_only hdone with hend | hmalformed
        · rw [hend] at hended
          cases hended
        · exact absurd hmalformed hwell
  refine ⟨hdone, not_not.mp fun herror => hwell (h.error_malformed herror), ?_⟩
  by_contra hlast
  have := (h.last_queue hlast).2
  rw [hdone] at this
  cases this

/-- A chunk that runs into no malformed envelope. -/
theorem data {chunk : Bytes} (hadmitted : (FrameEvent.data chunk).Admitted it)
    (hwell : ¬ Malformed side.limit (arrived past ++ chunk)) :
    ∃ yielded', Tracks side (past ++ [⟨it, .data chunk, it.onData side chunk⟩])
      (it.onData side chunk).1 yielded' [] := by
  have hbefore : ¬ Malformed side.limit (arrived past) := fun hm => hwell (hm.append chunk)
  obtain ⟨hdone, herror, rfl⟩ := h.fresh hadmitted.1 hbefore
  have hframes := @precedingFrames_append side.limit (arrived past) chunk
  have hrest := @remainder_append side.limit (arrived past) chunk
  rw [malformed_append_iff] at hwell
  rw [← h.buf_eq] at hframes hrest hwell
  have hcalls := h.calls_eq
  have hend : it.ended = false := hadmitted.1
  rcases onData_well side it chunk hwell with ⟨item, queue, hpending, hqueue, hact⟩ | ⟨hqueue, hact⟩
  · -- the waiting call takes the first frame of the queue
    refine ⟨yielded ++ [item], ?_⟩
    rw [hact]
    rw [hpending] at hcalls
    exact {
      settled_eq := by
        rw [settled_append, h.settled_eq, List.append_nil, List.append_nil, List.map_append]
        rfl
      frames_eq := by
        rw [arrived_append]
        show yielded ++ [item] ++ queue = _
        rw [List.append_assoc, List.singleton_append, ← hqueue, ← List.append_assoc, h.frames_eq]
        exact hframes.symm
      last_cases := nofun
      last_queue := fun hne => absurd rfl hne
      buf_eq := by rw [arrived_append]; exact hrest.symm
      destroyed_eq := h.destroyed_eq
      error_malformed := fun hne => absurd herror hne
      done_only := fun htrue => by rw [hdone] at htrue; cases htrue
      ended_done := fun htrue => by rw [hend] at htrue; cases htrue
      waiting := nofun
      calls_eq := by
        rw [settled_append, calls_append, List.length_append, ← hcalls]
        rfl }
  · refine ⟨yielded, ?_⟩
    rw [hact]
    exact {
      settled_eq := by rw [settled_append, h.settled_eq]; exact List.append_nil _
      frames_eq := by
        rw [arrived_append]
        show yielded ++ (it.queue ++ _) = _
        rw [← List.append_assoc, h.frames_eq]
        exact hframes.symm
      last_cases := nofun
      last_queue := fun hne => absurd rfl hne
      buf_eq := by rw [arrived_append]; exact hrest.symm
      destroyed_eq := h.destroyed_eq
      error_malformed := fun hne => absurd herror hne
      done_only := fun htrue => by rw [hdone] at htrue; cases htrue
      ended_done := fun htrue => by rw [hend] at htrue; cases htrue
      waiting := fun hpending => ⟨hqueue hpending, hdone⟩
      calls_eq := by
        rw [settled_append, calls_append, List.length_append, ← hcalls]
        rfl }

/-- A chunk that runs into a malformed envelope, on a server. -/
theorem dataMalformed {maxPayloadBytes : ℤ} (hside : side = .server maxPayloadBytes)
    {chunk : Bytes} (hadmitted : (FrameEvent.data chunk).Admitted it)
    (hmalformed : Malformed side.limit (arrived past ++ chunk))
    (hfirst : it.pending = true → precedingFrames side.limit (it.buf ++ chunk) = []) :
    ∃ last', Tracks side (past ++ [⟨it, .data chunk, it.onData side chunk⟩])
      (it.onData side chunk).1 yielded last' := by
  have hframes := @precedingFrames_append side.limit (arrived past) chunk
  have hrest := @remainder_append side.limit (arrived past) chunk
  have hbuffer := hmalformed
  rw [malformed_append_iff] at hbuffer
  rw [← h.buf_eq] at hframes hrest hbuffer
  have hcalls := h.calls_eq
  have hend : it.ended = false := hadmitted.1
  obtain ⟨err, hact⟩ := onData_malformed side it chunk hbuffer
  -- where calls have been answered otherwise, the stream was malformed before
  have hquiet : last ≠ [] → precedingFrames side.limit (it.buf ++ chunk) = [] := by
    intro hlast
    rcases h.done_only (h.last_queue hlast).2 with hended | hbefore
    · rw [hend] at hended
      cases hended
    · rw [precedingFrames_malformed hbefore] at hframes
      exact List.self_eq_append_right.mp hframes
  subst hside
  refine ⟨last ++ (if it.pending then [.rejected err] else []), ?_⟩
  rw [hact]
  exact {
    settled_eq := by
      rw [settled_append, h.settled_eq, List.append_assoc]
      rfl
    frames_eq := by
      rw [arrived_append]
      show yielded ++ (it.queue ++ _) = _
      rw [← List.append_assoc, h.frames_eq]
      exact hframes.symm
    last_cases := by
      rw [arrived_append]
      intro s hs
      rcases List.mem_append.mp hs with hs | hs
      · rcases h.last_cases s hs with hdone | ⟨-, hrejected⟩
        · exact .inl hdone
        · exact .inr ⟨hmalformed, hrejected⟩
      · refine .inr ⟨hmalformed, err, ?_⟩
        split at hs
        · exact List.mem_singleton.mp hs
        · cases hs
    last_queue := by
      intro hne
      refine ⟨?_, rfl⟩
      show it.queue ++ _ = []
      cases hpending : it.pending with
      | true => rw [(h.waiting hpending).1, hfirst hpending, List.append_nil]
      | false =>
          rw [hpending] at hne
          have hlast : last ≠ [] := by simpa using hne
          rw [(h.last_queue hlast).1, hquiet hlast, List.append_nil]
    buf_eq := by rw [arrived_append]; exact hrest.symm
    destroyed_eq := h.destroyed_eq
    error_malformed := fun _ => by rw [arrived_append]; exact hmalformed
    done_only := fun _ => .inr (by rw [arrived_append]; exact hmalformed)
    ended_done := fun _ => rfl
    waiting := nofun
    calls_eq := by
      rw [settled_append, calls_append, List.length_append, ← hcalls]
      show _ + (if it.pending then [Settled.rejected err] else []).length + 0 = _
      cases it.pending <;> rfl }

/-- The end of the stream. -/
theorem end_ :
    ∃ last', Tracks side (past ++ [⟨it, .end_, it.onEnd⟩]) it.onEnd.1 yielded last' := by
  have hcalls := h.calls_eq
  have harrived : arrived (past ++ [⟨it, .end_, it.onEnd⟩]) = arrived past := by
    rw [arrived_append]
    exact List.append_nil _
  refine ⟨last ++ (if it.pending then [.done] else []), ?_⟩
  exact {
    settled_eq := by
      rw [settled_append, h.settled_eq, List.append_assoc]
      rfl
    frames_eq := by rw [harrived]; exact h.frames_eq
    last_cases := by
      rw [harrived]
      intro s hs
      rcases List.mem_append.mp hs with hs | hs
      · exact h.last_cases s hs
      · refine .inl ?_
        split at hs
        · exact List.mem_singleton.mp hs
        · cases hs
    last_queue := by
      intro hne
      refine ⟨?_, rfl⟩
      show it.queue = []
      cases hpending : it.pending with
      | true => exact (h.waiting hpending).1
      | false =>
          rw [hpending] at hne
          exact (h.last_queue (by simpa using hne)).1
    buf_eq := by rw [harrived]; exact h.buf_eq
    destroyed_eq := h.destroyed_eq
    error_malformed := by rw [harrived]; exact h.error_malformed
    done_only := fun _ => .inl rfl
    ended_done := fun _ => rfl
    waiting := nofun
    calls_eq := by
      rw [settled_append, calls_append, List.length_append, ← hcalls]
      show _ + (if it.pending then [Settled.done] else []).length + 0 = _
      cases it.pending <;> rfl }

/-- A call of `next()`. -/
theorem next (hadmitted : FrameEvent.next.Admitted it) :
    ∃ yielded' last', Tracks side (past ++ [⟨it, .next, it.next⟩]) it.next.1 yielded' last' := by
  have hpending : it.pending = false := hadmitted
  have hcalls := h.calls_eq
  have harrived : ∀ result, arrived (past ++ [⟨it, .next, result⟩]) = arrived past := by
    intro result
    rw [arrived_append]
    exact List.append_nil _
  have hone : ∀ result, calls (past ++ [⟨it, .next, result⟩]) = calls past + 1 :=
    fun result => calls_append past _
  rw [hpending] at hcalls
  rcases next_cases it with ⟨item, queue, hqueue, hact⟩ | ⟨hqueue, hdone, hact⟩ |
    ⟨hqueue, hdone, s, hact, hs⟩
  · have hlast : last = [] := by
      by_contra hne
      have := (h.last_queue hne).1
      rw [hqueue] at this
      cases this
    subst hlast
    refine ⟨yielded ++ [item], [], ?_⟩
    rw [hact]
    exact {
      settled_eq := by
        rw [settled_append, h.settled_eq, List.append_nil, List.append_nil, List.map_append]
        rfl
      frames_eq := by
        rw [harrived, ← h.frames_eq, hqueue]
        exact List.append_assoc ..
      last_cases := nofun
      last_queue := fun hne => absurd rfl hne
      buf_eq := by rw [harrived]; exact h.buf_eq
      destroyed_eq := h.destroyed_eq
      error_malformed := by rw [harrived]; exact h.error_malformed
      done_only := by rw [harrived]; exact h.done_only
      ended_done := h.ended_done
      waiting := fun htrue => by
        have htrue : it.pending = true := htrue
        rw [hpending] at htrue
        cases htrue
      calls_eq := by
        rw [settled_append, hone, List.length_append, ← hcalls]
        show _ + 1 + it.pending.toNat = _
        rw [hpending]
        rfl }
  · refine ⟨yielded, last, ?_⟩
    rw [hact]
    exact {
      settled_eq := by
        rw [settled_append, h.settled_eq]
        exact List.append_nil _
      frames_eq := by rw [harrived]; exact h.frames_eq
      last_cases := by rw [harrived]; exact h.last_cases
      last_queue := h.last_queue
      buf_eq := by rw [harrived]; exact h.buf_eq
      destroyed_eq := h.destroyed_eq
      error_malformed := by rw [harrived]; exact h.error_malformed
      done_only := by rw [harrived]; exact h.done_only
      ended_done := h.ended_done
      waiting := fun _ => ⟨hqueue, hdone⟩
      calls_eq := by
        rw [settled_append, hone, List.length_append, ← hcalls]
        rfl }
  · refine ⟨yielded, last ++ [s], ?_⟩
    rw [hact]
    exact {
      settled_eq := by
        rw [settled_append, h.settled_eq]
        exact List.append_assoc ..
      frames_eq := by rw [harrived]; exact h.frames_eq
      last_cases := by
        rw [harrived]
        intro t ht
        rcases List.mem_append.mp ht with ht | ht
        · exact h.last_cases t ht
        · rw [List.mem_singleton.mp ht]
          exact hs.imp_right fun hrejected => ⟨h.error_malformed hrejected.1, hrejected.2⟩
      last_queue := fun _ => ⟨hqueue, hdone⟩
      buf_eq := by rw [harrived]; exact h.buf_eq
      destroyed_eq := h.destroyed_eq
      error_malformed := by rw [harrived]; exact h.error_malformed
      done_only := by rw [harrived]; exact h.done_only
      ended_done := h.ended_done
      waiting := h.waiting
      calls_eq := by
        rw [settled_append, hone, List.length_append, ← hcalls, hpending]
        rfl }

end Tracks

/-! ### Well-formed streams -/

section Runs

variable {side : Side}

/-- The invariant holds as long as no malformed envelope arrives. -/
theorem tracks_wellFormed (events : List FrameEvent) (hpossible : Possible (iterated side events))
    (hwell : ¬ Malformed side.limit (arrived (iterated side events))) :
    ∃ yielded last, Tracks side (iterated side events)
      (History.final (FrameEvent.act side) Prod.fst {} events) yielded last := by
  have hrun := @History.history_induction _ _ _ (FrameEvent.act side) Prod.fst
    (fun past it => Possible past → ¬ Malformed side.limit (arrived past) →
      ∃ yielded last, Tracks side past it yielded last)
    (fun _ => True) (fun _ _ => True) {} (fun _ _ => ⟨[], [], .start side⟩) ?_ events
    (fun _ _ => trivial) (List.pairwise_of_forall fun _ _ => trivial)
  · exact hrun hpossible hwell
  · intro past it e ih _ _ hpossible hwell
    have hadmitted : e.Admitted it := hpossible _ (List.mem_append_right _ List.mem_cons_self)
    rw [arrived_append] at hwell
    obtain ⟨yielded, last, h⟩ := ih (fun r hr => hpossible r (List.mem_append_left _ hr))
      fun hmalformed => hwell (hmalformed.append _)
    cases e with
    | data chunk =>
        obtain ⟨yielded', h'⟩ := h.data hadmitted hwell
        exact ⟨yielded', [], h'⟩
    | end_ =>
        obtain ⟨last', h'⟩ := h.end_
        exact ⟨yielded, last', h'⟩
    | error err =>
        have hdestroyed : it.destroyed = some err := hadmitted
        rw [h.destroyed_eq] at hdestroyed
        cases hdestroyed
    | next => exact h.next hadmitted

theorem ended_act (e : FrameEvent) {it : FrameIterator} (h : it.ended = true) :
    (e.act side it).1.ended = true := by
  cases e with
  | data chunk =>
      show (it.onData side chunk).1.ended = true
      unfold FrameIterator.onData
      dsimp only
      split
      · cases side <;> exact h
      · split <;> exact h
  | end_ => rfl
  | error err => exact h
  | next =>
      show it.next.1.ended = true
      rcases next_cases it with ⟨item, queue, -, hact⟩ | ⟨-, -, hact⟩ | ⟨-, -, s, hact, -⟩ <;>
        rw [hact] <;> exact h

/-- A run in which the stream ends. -/
theorem ended_final (events : List FrameEvent) : ∀ {it : FrameIterator},
    it.ended = true ∨ .end_ ∈ events →
      (History.final (FrameEvent.act side) Prod.fst it events).ended = true := by
  induction events with
  | nil =>
      intro it h
      exact h.resolve_right List.not_mem_nil
  | cons e events ih =>
      intro it h
      refine ih ?_
      rcases h with hended | hmem
      · exact .inl (ended_act e hended)
      · rcases List.mem_cons.mp hmem with rfl | hmem
        · exact .inl rfl
        · exact .inr hmem

/-- The octets of some frames, each encoded. -/
theorem encodeFrames_flatten {frames : List Tagged.Frame} : ∀ {envelopes : List Bytes},
    frames.mapM (fun f => encodeFrame f.1 f.2) = .ok envelopes →
      envelopes.flatten = frames.flatMap Tagged.encode ∧ ∀ f ∈ frames, f.2.length < 2 ^ 32 := by
  induction frames with
  | nil =>
      intro envelopes h
      cases h
      exact ⟨rfl, nofun⟩
  | cons f frames ih =>
      intro envelopes h
      rw [List.mapM_cons] at h
      cases hfirst : encodeFrame f.1 f.2 with
      | error err =>
          rw [hfirst] at h
          cases h
      | ok envelope =>
          rw [hfirst] at h
          cases hrest : frames.mapM fun f => encodeFrame f.1 f.2 with
          | error err =>
              simp only [hrest] at h
              cases h
          | ok rest =>
              simp only [hrest] at h
              cases h
              obtain ⟨hflatten, hbound⟩ := ih hrest
              unfold encodeFrame at hfirst
              split at hfirst
              · cases hfirst
              · rename_i hlength
                cases hfirst
                refine ⟨by rw [List.flatten_cons, hflatten]; rfl, fun g hg => ?_⟩
                rcases List.mem_cons.mp hg with rfl | hg
                · exact Nat.lt_of_not_le hlength
                · exact hbound g hg

/-- **A well-formed stream.**  The consumer obtains exactly its frames, in order, and then
`done`, however the stream is cut into chunks and whenever `next()` is called. -/
theorem frames_delivered (side : Side) (frames : List Tagged.Frame)
    (hframes : ∀ f ∈ frames,
      (f.1 = CONTROL_FRAME ∨ f.1 = MEDIA_FRAME) ∧ (f.2.length : ℤ) ≤ side.limit)
    (envelopes : List Bytes)
    (hencode : frames.mapM (fun f => encodeFrame f.1 f.2) = .ok envelopes)
    (events : List FrameEvent) (hpossible : Possible (iterated side events))
    (harrived : arrived (iterated side events) = envelopes.flatten) (hend : .end_ ∈ events) :
    settled (iterated side events) =
      (frames.map Settled.value ++
        List.replicate (events.count FrameEvent.next) Settled.done).take
          (events.count FrameEvent.next) := by
  obtain ⟨hflatten, hbound⟩ := encodeFrames_flatten hencode
  have hsplit : (format side.limit).split (arrived (iterated side events)) = (frames, []) := by
    rw [harrived, hflatten]
    refine Tagged.split_encode fun f hf => ⟨?_, (hframes f hf).2, hbound f hf⟩
    rcases (hframes f hf).1 with htype | htype <;> rw [htype] <;> rfl
  have hwell : ¬ Malformed side.limit (arrived (iterated side events)) := by
    unfold Malformed remainder
    rw [hsplit]
    nofun
  obtain ⟨yielded, last, h⟩ := tracks_wellFormed events hpossible hwell
  have hpending : (History.final (FrameEvent.act side) Prod.fst {} events).pending = false := by
    by_contra hne
    have hdone := h.ended_done (ended_final events (.inr hend))
    rw [(h.waiting (by simpa using hne)).2] at hdone
    cases hdone
  have hlast : last = List.replicate last.length Settled.done :=
    List.eq_replicate_length.mpr fun s hs =>
      (h.last_cases s hs).resolve_right fun hrejected => hwell hrejected.1
  have hcalls := h.calls_eq
  have hcount : calls (iterated side events) = events.count FrameEvent.next := by
    rw [calls, iterated, History.map_call_history]
  have hqueue : yielded ++ _ = frames := h.frames_eq.trans (congrArg Prod.fst hsplit)
  rw [hpending, Bool.toNat_false, Nat.add_zero, hcount, h.settled_eq, List.length_append,
    List.length_map] at hcalls
  rw [h.settled_eq, ← hcalls]
  by_cases hempty : last = []
  · subst hempty
    rw [← hqueue, List.append_nil, List.length_nil, Nat.add_zero, List.map_append,
      List.append_assoc, List.take_left' (List.length_map ..)]
  · rw [(h.last_queue hempty).1, List.append_nil] at hqueue
    rw [hqueue, List.take_append, List.length_map, Nat.add_sub_cancel_left,
      List.take_of_length_le (by rw [List.length_map]; omega), List.take_replicate,
      Nat.min_eq_left (Nat.le_add_left _ _), ← hlast]

/-- Two frames in two chunks, and three calls, the first and the last of which wait. -/
theorem frames_delivered_pair :
    settled (iterated (.server 16) [.next, .data [1, 0, 0, 0, 0, 2, 0, 0], .next,
        .data [0, 1, 0xAA], .next, .end_]) =
      [.value (1, []), .value (2, [0xAA]), .done] :=
  frames_delivered (.server 16) [(1, []), (2, [0xAA])] (by decide)
    [[1, 0, 0, 0, 0], [2, 0, 0, 0, 1, 0xAA]] rfl _ (by unfold Possible; decide) rfl (by decide)

end Runs

/-! ### Malformed streams -/

/-- What a consumer is to obtain of a stream: frames of the stream in order, and any other
answer only after all of them. -/
def Obtains (frames : List Tagged.Frame) (answers : List Settled) : Prop :=
  answers.takeWhile Settled.isValue <+: frames.map .value ∧
    (answers.dropWhile Settled.isValue ≠ [] →
      answers.takeWhile Settled.isValue = frames.map .value ∧
        ∀ s ∈ answers.dropWhile Settled.isValue, s.isValue = false)

section Timing

variable {maxPayloadBytes : ℤ}

theorem takeWhile_values (yielded : List Tagged.Frame) {last : List Settled}
    (h : ∀ s ∈ last.head?, s.isValue = false) :
    (yielded.map Settled.value ++ last).takeWhile Settled.isValue = yielded.map .value ∧
      (yielded.map Settled.value ++ last).dropWhile Settled.isValue = last := by
  have hvalues : ∀ s ∈ yielded.map Settled.value, s.isValue = true := by
    intro s hs
    obtain ⟨f, -, rfl⟩ := List.mem_map.mp hs
    rfl
  rw [List.takeWhile_append_of_pos hvalues, List.dropWhile_append_of_pos hvalues]
  cases last with
  | nil => exact ⟨List.append_nil _, rfl⟩
  | cons s last =>
      have hs : s.isValue = false := h s rfl
      simp [hs]

theorem map_value_inj {xs ys : List Tagged.Frame} (h : xs.map Settled.value = ys.map .value) :
    xs = ys :=
  List.map_injective_iff.mpr (fun _ _ hvalue => Settled.value.inj hvalue) h

/-- A consumer of an iterator that is on track. -/
theorem Tracks.obtains {side : Side} {past : List FrameRecord} {it : FrameIterator}
    {yielded : List Tagged.Frame} {last : List Settled} (h : Tracks side past it yielded last) :
    Obtains (precedingFrames side.limit (arrived past)) (settled past) := by
  have hlast : ∀ s ∈ last, s.isValue = false := by
    intro s hs
    rcases h.last_cases s hs with rfl | ⟨-, err, rfl⟩ <;> rfl
  obtain ⟨htake, hdrop⟩ := takeWhile_values yielded
    fun s hs => hlast s (List.mem_of_mem_head? hs)
  unfold Obtains
  rw [h.settled_eq, htake, hdrop, ← h.frames_eq, List.map_append]
  refine ⟨List.prefix_append _ _, fun hne => ⟨?_, hlast⟩⟩
  rw [(h.last_queue hne).1, List.map_nil, List.append_nil]

/-- A call has been rejected before all frames were obtained. -/
def Overtaken (maxPayloadBytes : ℤ) (past : List FrameRecord) : Prop :=
  Malformed maxPayloadBytes (arrived past) ∧
    ∃ yielded s later, settled past = yielded.map .value ++ s :: later ∧ s.isValue = false ∧
      yielded ≠ precedingFrames maxPayloadBytes (arrived past)

theorem Overtaken.append {past : List FrameRecord} (h : Overtaken maxPayloadBytes past)
    (r : FrameRecord) : Overtaken maxPayloadBytes (past ++ [r]) := by
  obtain ⟨hmalformed, yielded, s, later, hsettled, hs, hne⟩ := h
  refine ⟨?_, yielded, s, later ++ r.result.2, ?_, hs, ?_⟩
  · rw [arrived_append]
    exact hmalformed.append _
  · rw [settled_append, hsettled, List.append_assoc]
    rfl
  · rwa [arrived_append, precedingFrames_malformed hmalformed]

theorem Overtaken.not_obtains {past : List FrameRecord} (h : Overtaken maxPayloadBytes past) :
    ¬ Obtains (precedingFrames maxPayloadBytes (arrived past)) (settled past) := by
  obtain ⟨-, yielded, s, later, hsettled, hs, hne⟩ := h
  obtain ⟨htake, hdrop⟩ := @takeWhile_values yielded (s :: later) fun t ht => by
    cases ht
    exact hs
  rintro ⟨-, hall⟩
  rw [hsettled, htake, hdrop] at hall
  exact hne (map_value_inj (hall (List.cons_ne_nil _ _)).1)

/-- A chunk that overtakes: the waiting call is rejected before it obtained the frame. -/
theorem Tracks.overtaken {past : List FrameRecord} {it : FrameIterator}
    {yielded : List Tagged.Frame} {last : List Settled}
    (h : Tracks (.server maxPayloadBytes) past it yielded last) {chunk : Bytes}
    (hpending : it.pending = true)
    (hframes : precedingFrames maxPayloadBytes (it.buf ++ chunk) ≠ [])
    (hmalformed : Malformed maxPayloadBytes (it.buf ++ chunk)) :
    Overtaken maxPayloadBytes
      (past ++ [⟨it, .data chunk, it.onData (.server maxPayloadBytes) chunk⟩]) := by
  have hbuf : it.buf = remainder maxPayloadBytes (arrived past) := h.buf_eq
  obtain ⟨hqueue, hdone⟩ := h.waiting hpending
  have hlast : last = [] := by
    by_contra hne
    have := (h.last_queue hne).2
    rw [hdone] at this
    cases this
  obtain ⟨err, hact⟩ := onData_malformed (.server maxPayloadBytes) it chunk hmalformed
  refine ⟨?_, yielded, .rejected err, [], ?_, rfl, fun hall => ?_⟩
  · rw [arrived_append]
    exact (malformed_append_iff _ _).mpr (hbuf ▸ hmalformed)
  · rw [settled_append, h.settled_eq, hlast, List.append_nil, hact]
    show yielded.map Settled.value ++ (if it.pending then _ else _) = _
    rw [if_pos hpending]
  · have hyielded := h.frames_eq
    rw [hqueue, List.append_nil] at hyielded
    rw [arrived_append] at hall
    rw [hyielded] at hall
    have hsplit := @precedingFrames_append maxPayloadBytes (arrived past) chunk
    rw [← hbuf] at hsplit
    exact hframes (List.self_eq_append_right.mp (hall.trans hsplit))

/-- A run keeps on track exactly as long as no chunk overtakes. -/
theorem tracks_or_overtaken (events : List FrameEvent)
    (hpossible : Possible (iterated (.server maxPayloadBytes) events)) :
    ((∀ r ∈ iterated (.server maxPayloadBytes) events, ¬ Overtakes maxPayloadBytes r) ∧
      ∃ yielded last, Tracks (.server maxPayloadBytes) (iterated (.server maxPayloadBytes) events)
        (History.final (FrameEvent.act (.server maxPayloadBytes)) Prod.fst {} events)
        yielded last) ∨
    (∃ r ∈ iterated (.server maxPayloadBytes) events, Overtakes maxPayloadBytes r) ∧
      Overtaken maxPayloadBytes (iterated (.server maxPayloadBytes) events) := by
  have hrun := @History.history_induction _ _ _ (FrameEvent.act (.server maxPayloadBytes)) Prod.fst
    (fun past it => Possible past →
      ((∀ r ∈ past, ¬ Overtakes maxPayloadBytes r) ∧
        ∃ yielded last, Tracks (.server maxPayloadBytes) past it yielded last) ∨
      (∃ r ∈ past, Overtakes maxPayloadBytes r) ∧ Overtaken maxPayloadBytes past)
    (fun _ => True) (fun _ _ => True) {}
    (fun _ => .inl ⟨fun r hr => absurd hr List.not_mem_nil, [], [], .start _⟩) ?_ events
    (fun _ _ => trivial) (List.pairwise_of_forall fun _ _ => trivial)
  · exact hrun hpossible
  · intro past it e ih _ _ hpossible
    have hadmitted : e.Admitted it := hpossible _ (List.mem_append_right _ List.mem_cons_self)
    rcases ih fun r hr => hpossible r (List.mem_append_left _ hr) with
      ⟨hnone, yielded, last, h⟩ | ⟨⟨r, hr, hovertakes⟩, hovertaken⟩
    · by_cases hnow : Overtakes maxPayloadBytes ⟨it, e, e.act (.server maxPayloadBytes) it⟩
      · have hmem : (⟨it, e, e.act (.server maxPayloadBytes) it⟩ : FrameRecord) ∈
            past ++ [⟨it, e, e.act (.server maxPayloadBytes) it⟩] :=
          List.mem_append_right past (List.mem_singleton_self _)
        refine .inr ⟨⟨_, hmem, hnow⟩, ?_⟩
        obtain ⟨chunk, hcall, hpending, hframes, hmalformed⟩ := hnow
        subst hcall
        exact h.overtaken hpending hframes hmalformed
      · refine .inl ⟨fun r hr => ?_, ?_⟩
        · rcases List.mem_append.mp hr with hr | hr
          · exact hnone r hr
          · rwa [List.mem_singleton.mp hr]
        · cases e with
          | data chunk =>
              by_cases hwell : Malformed maxPayloadBytes (arrived past ++ chunk)
              · have hbuffer : Malformed maxPayloadBytes (it.buf ++ chunk) := by
                  rw [h.buf_eq]
                  exact (malformed_append_iff _ _).mp hwell
                obtain ⟨last', h'⟩ := h.dataMalformed rfl hadmitted hwell fun hpending => by
                  by_contra hframes
                  exact hnow ⟨chunk, rfl, hpending, hframes, hbuffer⟩
                exact ⟨yielded, last', h'⟩
              · obtain ⟨yielded', h'⟩ := h.data hadmitted hwell
                exact ⟨yielded', [], h'⟩
          | end_ =>
              obtain ⟨last', h'⟩ := h.end_
              exact ⟨yielded, last', h'⟩
          | error err =>
              have hdestroyed : it.destroyed = some err := hadmitted
              rw [h.destroyed_eq] at hdestroyed
              cases hdestroyed
          | next => exact h.next hadmitted
    · exact .inr ⟨⟨r, List.mem_append_left _ hr, hovertakes⟩, hovertaken.append _⟩

/-- **Malformed streams on a server.**  In every run, the consumer obtains the frames that
precede the first malformed envelope, and no frame after a rejection, exactly if no chunk
runs into a malformed envelope after a frame while a call waits. -/
theorem timing_independent_iff (maxPayloadBytes : ℤ) (events : List FrameEvent)
    (hpossible : Possible (iterated (.server maxPayloadBytes) events)) :
    Obtains
        (precedingFrames maxPayloadBytes (arrived (iterated (.server maxPayloadBytes) events)))
        (settled (iterated (.server maxPayloadBytes) events)) ↔
      ∀ r ∈ iterated (.server maxPayloadBytes) events, ¬ Overtakes maxPayloadBytes r := by
  rcases tracks_or_overtaken events hpossible with
    ⟨hnone, yielded, last, h⟩ | ⟨⟨r, hr, hovertakes⟩, hovertaken⟩
  · exact iff_of_true h.obtains hnone
  · exact iff_of_false hovertaken.not_obtains fun hnone => hnone r hr hovertakes

/-- A frame and a malformed envelope, in one chunk. -/
def frameThenUnknownType : Bytes := [1, 0, 0, 0, 1, 0xAA, 9, 0, 0, 0, 0]

/-- The consumer calls `next()` after the chunk. -/
theorem timing_independent_iff_late :
    Obtains [(1, [0xAA])]
        (settled (iterated (.server 16) [.data frameThenUnknownType, .next, .next])) ↔
      ∀ r ∈ iterated (.server 16) [.data frameThenUnknownType, .next, .next],
        ¬ Overtakes 16 r :=
  timing_independent_iff 16 [.data frameThenUnknownType, .next, .next]
    (by unfold Possible; decide)

/-- **The rejection overtakes the frame** when the consumer calls `next()` before the chunk,
and the frame is obtained after the rejection. -/
theorem rejection_overtakes :
    Possible (iterated (.server 16) [.next, .data frameThenUnknownType, .next]) ∧
      settled (iterated (.server 16) [.next, .data frameThenUnknownType, .next]) =
        [.rejected (.unknownTypeOctet 9), .value (1, [0xAA])] ∧
      settled (iterated (.server 16) [.data frameThenUnknownType, .next, .next]) =
        [.value (1, [0xAA]), .rejected (.unknownTypeOctet 9)] ∧
      ¬ Obtains
        (precedingFrames 16 (arrived (iterated (.server 16)
          [.next, .data frameThenUnknownType, .next])))
        (settled (iterated (.server 16) [.next, .data frameThenUnknownType, .next])) := by
  have hsettled : settled (iterated (.server 16) [.next, .data frameThenUnknownType, .next]) =
      [.rejected (.unknownTypeOctet 9), .value (1, [0xAA])] := by decide
  refine ⟨by unfold Possible; decide, hsettled, by decide, ?_⟩
  have hdrop : [Settled.rejected (.unknownTypeOctet 9), .value (1, [0xAA])].dropWhile
      Settled.isValue = [.rejected (.unknownTypeOctet 9), .value (1, [0xAA])] := rfl
  rw [hsettled]
  rintro ⟨-, hall⟩
  rw [hdrop] at hall
  have hlater := (hall (List.cons_ne_nil _ _)).2 (.value (1, [0xAA])) (by simp)
  cases hlater

end Timing

end CulpeoStream.Typescript.H2
