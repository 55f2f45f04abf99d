import CulpeoStream.Lib.WindowLog
import CulpeoStream.Lib.Checks
import CulpeoStream.Dotnet.MediaAtomicity
import CulpeoStream.Dotnet.ResumedStreams

/-!
# The earliest offset that can be resumed from

The checkpoints of a C# stream are a log over a sliding window: every accepted frame adds the
offset that it has, and `GetEarliestAvailableOffset` removes what is older than its window.  As
offsets only grow, the first checkpoint that is left has the least of the available offsets, and
what is confirmed to a client lies between the offset it asked for and the current one
(`resumeOffset_clamped`).
-/

namespace CulpeoStream.Dotnet

open Message Utf16

/-! ### Histories of a stream -/

/-- What happens to a stream. -/
inductive StreamEvent where
  /-- A frame is accepted, in either direction. -/
  | frame (payloadLength : ℕ) (time : Ticks)
  | getEarliestAvailableOffset (window now : Ticks)
  /-- `ConfirmedResumeOffset` is set. -/
  | confirm (offset : Int64)

namespace StreamState

def apply (stream : StreamState) : StreamEvent → Except Exn StreamState
  | .frame payloadLength time =>
      (stream.recordFrame stream.currentOffset time).advanceOffset payloadLength
  | .getEarliestAvailableOffset window now =>
      (stream.getEarliestAvailableOffset window now).map Prod.fst
  | .confirm offset => .ok { stream with confirmedResumeOffset := offset }

def run (stream : StreamState) (history : List StreamEvent) : Except Exn StreamState :=
  history.foldlM apply stream

/-- How far a payload moves the offset of the stream. -/
def reach (stream : StreamState) (payloadLength : ℕ) : ℕ :=
  (stream.getIncrement payloadLength).toOption.getD 0

end StreamState

namespace StreamEvent

/-- How far a history moves the offset, if a payload moves it as far as `reach` says. -/
def travelled (reach : ℕ → ℕ) : List StreamEvent → ℕ
  | [] => 0
  | .frame payloadLength _ :: rest => reach payloadLength + travelled reach rest
  | .getEarliestAvailableOffset _ _ :: rest => travelled reach rest
  | .confirm _ :: rest => travelled reach rest

/-- The history as one of a log of offsets, from an offset on. -/
def windowEvents (reach : ℕ → ℕ) : ℤ → List StreamEvent → List (WindowLog.Event ℤ Ticks)
  | _, [] => []
  | offset, .frame payloadLength time :: rest =>
      .record offset time :: windowEvents reach (offset + reach payloadLength) rest
  | offset, .getEarliestAvailableOffset window now :: rest =>
      .prune (now - window) :: windowEvents reach offset rest
  | offset, .confirm _ :: rest => windowEvents reach offset rest

end StreamEvent

namespace StreamState

/-- The offsets of the recorded frames that are not older than the cutoff, and that no earlier
call of `GetEarliestAvailableOffset` has removed. -/
def available (stream : StreamState) (history : List StreamEvent) (cutoff : Ticks) : Set ℤ :=
  {offset | ∃ time,
    WindowLog.Held (StreamEvent.windowEvents stream.reach stream.currentOffset.toInt history)
      offset time ∧ cutoff ≤ time}

/-- The checkpoints, as a log of offsets. -/
def log (stream : StreamState) : List (ℤ × Ticks) :=
  stream.checkpoints.map fun checkpoint => (checkpoint.offset.toInt, checkpoint.recordedAt)

end StreamState

/-! ### The calls that make up a history -/

/-- An incoming frame that is accepted is a frame of its stream, and of no other. -/
theorem handleIncomingMedia_apply {rt : Runtime} {e : Endpoint} {now : Ticks}
    {frame : CulpeoMessage} {result : CulpeoProcessResult}
    (accepted : (e.handleIncomingMedia rt now frame).2 = .ok result)
    (hopen : result.shouldClose = false) :
    ∃ stream advanced, e.InSequence rt frame stream ∧
      stream.apply (.frame frame.body.length now) = .ok advanced ∧
      ∀ id, (e.handleIncomingMedia rt now frame).1.openStream id =
        if id = stream.id then (e.openStream id).map fun _ => advanced else e.openStream id := by
  have closes : ∀ (e : Endpoint) (reason : Text) result,
      (e.closeOnViolation now (protocolError reason)).2 = .ok result →
        result.shouldClose = true := by
    intro e reason result hresult
    cases hresult
    rfl
  unfold Endpoint.handleIncomingMedia at accepted ⊢
  cases hcheck : e.checkMedia rt frame with
  | error ex =>
      rw [hcheck] at accepted
      cases ex with
      | protocolValidation code reason =>
          cases accepted
          cases hopen
      | _ => cases accepted
  | ok found =>
      obtain ⟨stream, offset⟩ := found
      obtain ⟨hsequence, rfl⟩ := checkMedia_eq_ok_iff.mp hcheck
      rw [hcheck] at accepted
      dsimp only at accepted ⊢
      rcases advanceOffset_cases (stream.recordFrame stream.currentOffset now)
        frame.body.length with ⟨-, advanced, hadvance⟩ | ⟨-, reason, hadvance⟩
      · rw [hadvance]
        refine ⟨stream, advanced, hsequence, hadvance, fun id => ?_⟩
        have hid : advanced.id = (stream.recordFrame stream.currentOffset now).id :=
          advanceOffset_id hadvance
        rw [openStream_putStream, hid]
        rfl
      · rw [hadvance] at accepted
        exact absurd (closes _ reason result accepted) (by rw [hopen]; exact Bool.false_ne_true)

/-- So is a frame that is sent. -/
theorem sendMedia_apply {e : Endpoint} {now : Ticks} {streamId : Text} {payload : Bytes}
    {timestamp : Int64} {message : CulpeoMessage}
    (sent : (e.sendMedia now streamId payload timestamp).2 = .ok message) :
    ∃ stream advanced, e.openStream streamId = some stream ∧
      stream.apply (.frame payload.length now) = .ok advanced ∧
      ∀ id, (e.sendMedia now streamId payload timestamp).1.openStream id =
        if id = stream.id then (e.openStream id).map fun _ => advanced else e.openStream id := by
  unfold Endpoint.sendMedia at sent ⊢
  cases hstream : e.getStreamOrThrow streamId with
  | error ex =>
      rw [hstream] at sent
      cases sent
  | ok stream =>
      rw [hstream] at sent
      dsimp only at sent ⊢
      split at sent
      · cases sent
      · rename_i htype
        rw [if_neg htype]
        split at sent
        · cases sent
        · rename_i advanced hadvance
          refine ⟨stream, advanced, openStream_of_getStreamOrThrow hstream, hadvance, fun id => ?_⟩
          have hid : advanced.id = (stream.recordFrame stream.currentOffset now).id :=
            advanceOffset_id hadvance
          rw [openStream_putStream, hid]
          rfl

/-- A resumption asks for the earliest offset, and confirms one. -/
theorem resumeStream_run {window now : Ticks} {declaration : StreamInitDeclaration}
    {existing resumed : StreamState}
    (h : resumeStream window now declaration existing = .ok resumed) :
    existing.run [.getEarliestAvailableOffset window now,
      .confirm resumed.confirmedResumeOffset] = .ok resumed := by
  obtain ⟨range, rfl⟩ := resumeStream_ok h
  rw [StreamState.run, List.foldlM_cons, StreamState.apply,
    StreamState.getEarliestAvailableOffset_of_inCalendar range]
  rfl

/-! ### A stream follows its log -/

theorem advanceOffset_recordFrame {stream advanced : StreamState} {offset : Int64} {now : Ticks}
    {n : ℕ} (h : (stream.recordFrame offset now).advanceOffset n = .ok advanced) :
    advanced = { stream with
      checkpoints := stream.checkpoints ++ [⟨offset, now⟩]
      currentOffset := stream.currentOffset + Int64.ofNat (stream.reach n) } := by
  have hinc : (stream.recordFrame offset now).getIncrement n = stream.getIncrement n := rfl
  rw [StreamState.advanceOffset, hinc] at h
  unfold StreamState.reach
  cases hcount : stream.getIncrement n with
  | error ex =>
      rw [hcount] at h
      cases h
  | ok count =>
      rw [hcount] at h
      cases h
      rfl

theorem log_earliestSince (stream : StreamState) (cutoff : Ticks) :
    (stream.earliestSince cutoff).1.log = WindowLog.prune stream.log cutoff := by
  unfold StreamState.log WindowLog.prune
  rw [List.filter_map]
  refine congrArg (List.map _) (List.filter_congr fun checkpoint _ => ?_)
  rw [Function.comp_apply, ← decide_not]
  exact decide_eq_decide.mpr not_lt

/-- **The checkpoints are the log** of the offsets of the history, as long as the offsets fit in
a `long`. -/
theorem run_follows {history : List StreamEvent} {stream stream' : StreamState}
    (hrun : stream.run history = .ok stream')
    (bounded : stream.currentOffset.toInt + StreamEvent.travelled stream.reach history < 2 ^ 63) :
    stream'.log = WindowLog.run stream.log
        (StreamEvent.windowEvents stream.reach stream.currentOffset.toInt history) ∧
      stream'.currentOffset.toInt =
        stream.currentOffset.toInt + StreamEvent.travelled stream.reach history := by
  induction history generalizing stream with
  | nil =>
      cases hrun
      exact ⟨rfl, (add_zero _).symm⟩
  | cons event rest ih =>
      obtain ⟨middle, happly, hrest⟩ := Checks.exists_of_bind_ok hrun
      cases event with
      | frame payloadLength time =>
          have hmiddle := advanceOffset_recordFrame happly
          have hreach : middle.reach = stream.reach := by rw [hmiddle]; rfl
          -- The bound keeps the sum within 64 bits.
          have hmove : middle.currentOffset.toInt =
              stream.currentOffset.toInt + stream.reach payloadLength := by
            rw [hmiddle]
            rw [StreamEvent.travelled] at bounded
            exact toInt_add_ofNat (by omega)
          have hlog : middle.log = stream.log ++ [(stream.currentOffset.toInt, time)] := by
            rw [hmiddle, StreamState.log, List.map_append]
            rfl
          rw [StreamEvent.travelled] at bounded ⊢
          obtain ⟨followed, moved⟩ := ih hrest (by rw [hreach, hmove]; omega)
          rw [hreach, hmove] at moved followed
          rw [hlog] at followed
          exact ⟨followed, by rw [moved]; push_cast; ring⟩
      | getEarliestAvailableOffset window now =>
          obtain ⟨looked, hlooked, rfl⟩ := Checks.map_ok_iff.mp happly
          obtain ⟨-, rfl⟩ := StreamState.getEarliestAvailableOffset_ok hlooked
          obtain ⟨followed, moved⟩ := ih hrest bounded
          rw [log_earliestSince] at followed
          exact ⟨followed, moved⟩
      | confirm offset =>
          cases happly
          exact @ih { stream with confirmedResumeOffset := offset } hrest bounded

/-! ### Offsets only grow -/

theorem recorded_windowEvents {reach : ℕ → ℕ} {offset : ℤ} {history : List StreamEvent}
    {entry : ℤ × Ticks}
    (h : entry ∈ WindowLog.recorded (StreamEvent.windowEvents reach offset history)) :
    offset ≤ entry.1 ∧ entry.1 ≤ offset + StreamEvent.travelled reach history ∧
      ∃ n, .frame n entry.2 ∈ history := by
  induction history generalizing offset with
  | nil => cases h
  | cons event rest ih =>
      cases event with
      | frame payloadLength time =>
          rw [StreamEvent.travelled]
          rcases List.mem_cons.mp h with rfl | hrest
          · exact ⟨le_refl _, by dsimp only; omega, payloadLength, List.mem_cons_self⟩
          · obtain ⟨hlow, hhigh, n, hn⟩ := ih hrest
            exact ⟨by omega, by push_cast; omega, n, List.mem_cons_of_mem _ hn⟩
      | getEarliestAvailableOffset window now =>
          obtain ⟨hlow, hhigh, n, hn⟩ := ih h
          exact ⟨hlow, hhigh, n, List.mem_cons_of_mem _ hn⟩
      | confirm offset =>
          obtain ⟨hlow, hhigh, n, hn⟩ := ih h
          exact ⟨hlow, hhigh, n, List.mem_cons_of_mem _ hn⟩

/-- The frames of a history come in ascending order of their offsets. -/
theorem recorded_ascending (reach : ℕ → ℕ) (offset : ℤ) (history : List StreamEvent) :
    (WindowLog.recorded (StreamEvent.windowEvents reach offset history)).Pairwise
      fun a b => a.1 ≤ b.1 := by
  induction history generalizing offset with
  | nil => exact List.Pairwise.nil
  | cons event rest ih =>
      cases event with
      | frame payloadLength time =>
          refine List.pairwise_cons.mpr ⟨fun later hlater => ?_, ih _⟩
          -- Frames that come later are recorded from the advanced offset on.
          exact le_trans (by dsimp only; omega) (recorded_windowEvents hlater).1
      | getEarliestAvailableOffset window now => exact ih offset
      | confirm _ => exact ih offset

section History

variable {stream stream' : StreamState} {history : List StreamEvent}

/-- The checkpoints of a stream that had none at first. -/
theorem log_sublist (fresh : stream.checkpoints = []) (hrun : stream.run history = .ok stream')
    (bounded : stream.currentOffset.toInt + StreamEvent.travelled stream.reach history < 2 ^ 63) :
    stream'.log.Sublist (WindowLog.recorded
      (StreamEvent.windowEvents stream.reach stream.currentOffset.toInt history)) := by
  have sublist := WindowLog.run_sublist stream.log
    (StreamEvent.windowEvents stream.reach stream.currentOffset.toInt history)
  rw [← (run_follows hrun bounded).1, show stream.log = [] by rw [StreamState.log, fresh]; rfl]
    at sublist
  exact sublist

theorem mem_log_iff (fresh : stream.checkpoints = []) (hrun : stream.run history = .ok stream')
    (bounded : stream.currentOffset.toInt + StreamEvent.travelled stream.reach history < 2 ^ 63)
    {offset : ℤ} {time : Ticks} :
    (offset, time) ∈ stream'.log ↔ WindowLog.Held
      (StreamEvent.windowEvents stream.reach stream.currentOffset.toInt history) offset time := by
  rw [(run_follows hrun bounded).1, WindowLog.mem_run,
    show stream.log = [] by rw [StreamState.log, fresh]; rfl]
  simp

/-- The available offsets are those of the checkpoints that are not too old. -/
theorem available_eq (fresh : stream.checkpoints = []) (hrun : stream.run history = .ok stream')
    (bounded : stream.currentOffset.toInt + StreamEvent.travelled stream.reach history < 2 ^ 63)
    (cutoff : Ticks) :
    stream.available history cutoff =
      {offset | ∃ time, (offset, time) ∈ stream'.log ∧ cutoff ≤ time} := by
  ext offset
  exact exists_congr fun time => and_congr_left' (mem_log_iff fresh hrun bounded).symm

theorem mem_log_of_mem {checkpoint : OffsetCheckpoint} (h : checkpoint ∈ stream.checkpoints) :
    (checkpoint.offset.toInt, checkpoint.recordedAt) ∈ stream.log :=
  List.mem_map_of_mem h

/-- What `GetEarliestAvailableOffset` reads is the head of the log after its cutoff. -/
theorem earliestSince_cases (stream : StreamState) (cutoff : Ticks) :
    (∃ first rest, WindowLog.prune stream.log cutoff = first :: rest ∧
        (stream.earliestSince cutoff).2.toInt = first.1) ∨
      (WindowLog.prune stream.log cutoff = [] ∧
        (stream.earliestSince cutoff).2 = stream.currentOffset) := by
  rw [← log_earliestSince]
  unfold StreamState.earliestSince StreamState.log
  dsimp only
  cases stream.checkpoints.filter fun checkpoint => !(checkpoint.recordedAt < cutoff) with
  | nil => exact .inr ⟨rfl, rfl⟩
  | cons checkpoint rest => exact .inl ⟨_, _, rfl, rfl⟩

end History

theorem le_mathMax_left (a b : Int64) : a ≤ mathMax a b := by
  unfold mathMax
  split
  · assumption
  · exact Int64.le_refl a

theorem mathMax_le {a b c : Int64} (ha : a ≤ c) (hb : b ≤ c) : mathMax a b ≤ c := by
  unfold mathMax
  split <;> assumption

/-- What is confirmed, if the earliest available offset is not in front of the current one. -/
theorem resumeStream_clamped {window now : Ticks} {declaration : StreamInitDeclaration}
    {existing : StreamState} (range : InCalendar (now - window))
    (hearliest : (existing.earliestSince (now - window)).2 ≤ existing.currentOffset)
    (hrequested : requestedOffset declaration existing ≤ existing.currentOffset) :
    ∃ resumed, resumeStream window now declaration existing = .ok resumed ∧
      resumed.confirmedResumeOffset = mathMax (requestedOffset declaration existing)
        (existing.earliestSince (now - window)).2 ∧
      requestedOffset declaration existing ≤ resumed.confirmedResumeOffset ∧
      resumed.confirmedResumeOffset ≤ existing.currentOffset ∧
      ((existing.earliestSince (now - window)).2 = existing.currentOffset →
        resumed.confirmedResumeOffset = existing.currentOffset) := by
  refine ⟨confirmStream window now declaration existing, ?_, rfl, le_mathMax_left _ _,
    mathMax_le hrequested hearliest, fun hcurrent => ?_⟩
  · rw [resumeStream_eq, if_neg (Int64.not_lt.mpr hrequested), if_pos range]
  · show mathMax (requestedOffset declaration existing) _ = _
    rw [hcurrent, mathMax, if_pos hrequested]

/-- **What a resumption confirms** lies between the offset that is asked for and the current
one: the checkpoints ascend up to the current offset, and the earliest available offset is the
least one of the recorded frames that are in the window and have not been removed before.  The
window begins at a point in time. -/
theorem resumeOffset_clamped {stream stream' : StreamState} {history : List StreamEvent}
    (fresh : stream.checkpoints = []) (hrun : stream.run history = .ok stream')
    (bounded : stream.currentOffset.toInt + StreamEvent.travelled stream.reach history < 2 ^ 63) :
    stream'.checkpoints.Pairwise (fun a b => a.offset ≤ b.offset) ∧
      (∀ checkpoint ∈ stream'.checkpoints, checkpoint.offset ≤ stream'.currentOffset) ∧
      ∀ window now, InCalendar (now - window) → ∃ looked earliest,
        stream'.getEarliestAvailableOffset window now = .ok (looked, earliest) ∧
        (IsLeast (stream.available history (now - window)) earliest.toInt ∨
          stream.available history (now - window) = ∅ ∧ earliest = stream'.currentOffset) ∧
        ∀ declaration, requestedOffset declaration stream' ≤ stream'.currentOffset →
          ∃ resumed, resumeStream window now declaration stream' = .ok resumed ∧
            resumed.confirmedResumeOffset =
              mathMax (requestedOffset declaration stream') earliest ∧
            requestedOffset declaration stream' ≤ resumed.confirmedResumeOffset ∧
            resumed.confirmedResumeOffset ≤ stream'.currentOffset ∧
            ((∀ n time, StreamEvent.frame n time ∈ history → time < now - window) →
              resumed.confirmedResumeOffset = stream'.currentOffset) := by
  have sublist := log_sublist fresh hrun bounded
  have moved := (run_follows hrun bounded).2
  have ascending : stream'.log.Pairwise fun a b => a.1 ≤ b.1 :=
    (recorded_ascending _ _ _).sublist sublist
  have below : ∀ entry ∈ stream'.log, entry.1 ≤ stream'.currentOffset.toInt :=
    fun entry hentry => moved ▸ (recorded_windowEvents (sublist.subset hentry)).2.1
  refine ⟨?_, ?_, fun window now range => ⟨(stream'.earliestSince (now - window)).1,
    (stream'.earliestSince (now - window)).2,
    StreamState.getEarliestAvailableOffset_of_inCalendar range, ?_⟩⟩
  · exact (List.pairwise_map.mp ascending).imp fun h => Int64.le_iff_toInt_le.mpr h
  · exact fun checkpoint h => Int64.le_iff_toInt_le.mpr (below _ (mem_log_of_mem h))
  rw [available_eq fresh hrun bounded]
  rcases earliestSince_cases stream' (now - window) with
    ⟨first, rest, hprune, hfirst⟩ | ⟨hprune, hcurrent⟩
  · have hmem : first ∈ stream'.log ∧ now - window ≤ first.2 :=
      WindowLog.mem_prune.mp (hprune ▸ List.mem_cons_self)
    have hearliest : (stream'.earliestSince (now - window)).2 ≤ stream'.currentOffset := by
      rw [Int64.le_iff_toInt_le, hfirst]
      exact below first hmem.1
    refine ⟨.inl (hfirst ▸ WindowLog.isLeast_head ascending hprune), fun declaration h => ?_⟩
    obtain ⟨resumed, hresumed, hmax, hlow, hhigh, -⟩ := resumeStream_clamped range hearliest h
    refine ⟨resumed, hresumed, hmax, hlow, hhigh, fun left => ?_⟩
    -- The first checkpoint is that of a frame in the window.
    obtain ⟨-, -, n, hframe⟩ := recorded_windowEvents (sublist.subset hmem.1)
    exact absurd (left n first.2 hframe) (not_lt.mpr hmem.2)
  · have none : {offset | ∃ time, (offset, time) ∈ stream'.log ∧ now - window ≤ time} = ∅ := by
      refine Set.eq_empty_iff_forall_notMem.mpr ?_
      rintro offset ⟨time, hmem⟩
      exact absurd (hprune ▸ WindowLog.mem_prune.mpr hmem) List.not_mem_nil
    refine ⟨.inr ⟨none, hcurrent⟩, fun declaration h => ?_⟩
    obtain ⟨resumed, hresumed, hmax, hlow, hhigh, heq⟩ :=
      resumeStream_clamped range (by rw [hcurrent]; exact Int64.le_refl _) h
    exact ⟨resumed, hresumed, hmax, hlow, hhigh, fun _ => heq hcurrent⟩

/-! ### Three messages -/

/-- The first message is removed before the third one comes. -/
def messageHistory : List StreamEvent :=
  [.frame 5 0, .frame 8 4, .getEarliestAvailableOffset 3 5, .frame 1 6]

def afterMessages : StreamState :=
  { messageStream (utf16 "in") .input 3 with checkpoints := [⟨1, 4⟩, ⟨2, 6⟩] }

theorem resumeOffset_clamped_messages :
    IsLeast ((messageStream (utf16 "in") .input 0).available messageHistory (9 - 4)) 2 := by
  have clamped := @resumeOffset_clamped (messageStream (utf16 "in") .input 0) afterMessages
    messageHistory rfl rfl (by decide)
  obtain ⟨looked, earliest, hlooked, hleast, -⟩ := clamped.2.2 4 9 (by decide)
  cases hlooked
  exact hleast.resolve_right fun none => absurd none.2 (by decide)

end CulpeoStream.Dotnet
