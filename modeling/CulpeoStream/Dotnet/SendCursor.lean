import CulpeoStream.Lib.Ledger
import CulpeoStream.Dotnet.StreamClientCalls

/-!
# The send cursor of a client on one connection

`SendMediaAsync` reads the `SendOffset` of its stream, sends, and moves the `SendOffset`, all of
it while it holds the send lock.  It sends only if the socket is open, and moves the cursor in
any case but an exception.

Any number of calls run together, and the other methods may take steps in between that leave
the socket, the streams and their cursors as they are.  Where every call finds the socket open,
the cursors are those that the frames on the socket account for (`sendOffset_honest`).  The
invariant (`Kept`) says where the one call is that holds the lock, and which frame it has handed
over without having moved the cursor.
-/

open Resumption

namespace CulpeoStream.Dotnet

open Message Utf16

namespace CulpeoStreamClient

/-- What happens to a client: a call of `SendMediaAsync`, or a step of another method, which is
what it does to the fields. -/
inductive SendStep where
  | sendMedia (streamId : Text) (data : Bytes)
  | other (f : CulpeoStreamClient → CulpeoStreamClient)

def SendStep.enter : SendStep → CulpeoStreamClient → CulpeoStreamClient × Rest
  | .sendMedia streamId data => sendMediaAsync streamId data
  | .other f => fun c => (f c, .ret (.ok ()))

/-! ### Where a call of `SendMediaAsync` can be -/

section SendIfOpen

variable (messageType : WebSocketMessageType) (data : Bytes) (next : Result → Rest)

/-- The socket was open. -/
def choosing : Rest := .locked id fun c =>
  match c.ws with
  | none => next (.error .other)
  | some socket => perform (.send socket messageType data) next

def asking (socket : ℕ) : Rest := .call (.socketState socket) fun a =>
  match a.asIsOpen with
  | .ok true => choosing messageType data next
  | .ok false => next (.ok ())
  | .error e => next (.error e)

theorem sendIfOpen_apply : sendIfOpen messageType data next = .locked id fun c =>
    match c.ws with
    | none => next (.ok ())
    | some socket => asking messageType data next socket := by
  refine congrArg (Prog.locked id) (funext fun c => ?_)
  dsimp only
  cases c.ws with
  | none => rfl
  | some socket =>
      refine congrArg (Prog.call (ClientAction.socketState socket)) (funext fun a => ?_)
      rcases a with _ | _ | _ | _ | (_ | _) | _
      all_goals try rfl
      refine congrArg (Prog.locked id) (funext fun c => ?_)
      dsimp only
      cases c.ws <;> rfl

end SendIfOpen

/-- A call that has found its stream. -/
structure Sending where
  streamId : Text
  ref : ℕ
  found : ConfirmedStream
  data : Bytes

namespace Sending

/-- The lock is released, and then the call ends. -/
def releasing (result : Result) : Rest :=
  perform .releaseSendLock fun
    | .ok _ => .ret result
    | .error e => .ret (.error e)

variable (s : Sending) (stream : ConfirmedStream)

def advancing : Rest :=
  .locked (modifyStream · s.ref (advanceSent stream.sendOffset s.data.length)) fun _ =>
    releasing (.ok ())

/-- What follows the attempt to send. -/
def sent : Result → Rest
  | .ok _ => s.advancing stream
  | .error e => releasing (.error e)

def bytes : Bytes := serializeAsync (mediaFrame stream s.streamId s.data)

def checking : Rest := sendIfOpen .binary (s.bytes stream) (s.sent stream)

def reading : Rest := .locked id fun c => s.checking ((c.streamObjects[s.ref]?).getD s.found)

def waiting : Rest :=
  perform .waitSendLock fun
    | .ok _ => s.reading
    | .error e => .ret (.error e)

theorem reading_eq (s : Sending) :
    ((do
      let stream ← .read fun c => (c.streamObjects[s.ref]?).getD s.found
      sendIfOpen .binary (serializeAsync (mediaFrame stream s.streamId s.data))
      .update (modifyStream · s.ref (advanceSent stream.sendOffset s.data.length)) :
      Method Unit).ensuring (perform .releaseSendLock) : Method Unit) .ret = s.reading := by
  refine congrArg (Prog.locked id) (funext fun c => ?_)
  refine congrArg (sendIfOpen .binary _) (funext fun r => ?_)
  cases r with
  | error e =>
      refine congrArg (Prog.call ClientAction.releaseSendLock) (funext fun a => ?_)
      cases a <;> rfl
  | ok _ =>
      refine congrArg (Prog.locked _) (funext fun _ => ?_)
      refine congrArg (Prog.call ClientAction.releaseSendLock) (funext fun a => ?_)
      cases a <;> rfl

end Sending

/-- A call that is about to look for its stream. -/
def looking (streamId : Text) (data : Bytes) : Rest :=
  .locked id fun c =>
    match c.tryGetStream streamId with
    | none => .ret (.error (.keyNotFound
        (utf16 "Stream '" ++ streamId ++ utf16 "' is not registered.")))
    | some (ref, stream) =>
        if stream.type = .output then
          .ret (.error (.invalidOperation (utf16 "Stream '" ++ streamId ++
            utf16 "' is an output stream; client cannot send media on it.")))
        else Sending.waiting ⟨streamId, ref, stream, data⟩

theorem sendMediaAsync_eq (streamId : Text) (data : Bytes) (c : CulpeoStreamClient) :
    sendMediaAsync streamId data c = (c, if c.state ≠ .established then
      .ret (.error (.invalidOperation (utf16 "Cannot send media in state " ++ c.state.name ++
        utf16 "."))) else looking streamId data) := by
  unfold sendMediaAsync
  congr 1
  split
  · rfl
  · refine congrArg (Prog.locked id) (funext fun c => ?_)
    dsimp only
    generalize c.tryGetStream streamId = found
    rcases found with _ | ⟨ref, stream⟩
    · rfl
    · dsimp only
      split
      · rfl
      · refine congrArg (Prog.call ClientAction.waitSendLock) (funext fun a => ?_)
        cases a.asUnit with
        | error e => rfl
        | ok _ => exact Sending.reading_eq ⟨streamId, ref, stream, data⟩

/-! ### One connection -/

/-- The call will release the lock, before it waits for it again. -/
def Holds : Rest → Prop
  | .ret _ => False
  | .locked _ next => ∀ c, Holds (next c)
  | .call action next => action = .releaseSendLock ∨ action ≠ .waitSendLock ∧ ∀ a, Holds (next a)

/-- A stream, as far as a call of `SendMediaAsync` looks at it. -/
def sendSide (stream : ConfirmedStream) : ConfirmedStream :=
  { stream with receiveOffset := 0 }

/-- What `SendMediaAsync` works with has not changed. -/
structure SameSending (c c' : CulpeoStreamClient) : Prop where
  ws : c'.ws = c.ws
  streamStates : c'.streamStates = c.streamStates
  streamObjects : c'.streamObjects.map sendSide = c.streamObjects.map sendSide

/-- The lock is given to a call only while no call holds it, and the steps of other methods
leave the connection as it is. -/
def WithinConnection (cfg : Calls) : Move SendStep ClientAnswer → Prop
  | .enter (.sendMedia _ _) => True
  | .enter (.other f) => SameSending cfg.shared (f cfg.shared)
  | .resume i a => ∀ next, cfg.pool[i]? = some (.call .waitSendLock next) → a.asUnit = .ok () →
      ∀ p ∈ cfg.pool, ¬ Holds p

/-- A call that is about to send finds a socket, and finds it open. -/
def FindsOpen (cfg : Calls) : Move SendStep ClientAnswer → Prop
  | .enter _ => True
  | .resume i a => ∀ p, cfg.pool[i]? = some p → (Holds p → cfg.shared.ws ≠ none) ∧
      ∀ socket next, p = .call (.socketState socket) next → a.asIsOpen = .ok true

/-! ### What has been handed over -/

/-- A binary message that a call has handed over to a socket. -/
structure HandedOver where
  call : ℕ
  socket : ℕ
  message : Bytes

/-- The send has returned. -/
def handedOver (call : ℕ) : ClientAction → ClientAnswer → Option HandedOver
  | .send socket .binary message, a =>
      match a.asUnit with
      | .ok _ => some ⟨call, socket, message⟩
      | .error _ => none
  | _, _ => none

/-- A frame of `SendMediaAsync`, with the call that has handed it over and the stream object. -/
structure Delivery where
  call : ℕ
  streamId : Text
  ref : ℕ
  offset : Int64
  data : Bytes

namespace Delivery

/-- The frames of one stream. -/
def onStream (ref : ℕ) (ds : List Delivery) : List Delivery := ds.filter fun d => d.ref = ref

def pos (d : Delivery) : Option Int64 := some d.offset

/-- How far the frame moves the cursor of its stream. -/
def increment (stream : ConfirmedStream) (d : Delivery) : Int64 :=
  Int64.ofNat (computeOffsetIncrement stream.toClientStreamState d.data.length)

/-- The delivery is what has been handed over, on the connection of a client. -/
structure Delivers (c : CulpeoStreamClient) (d : Delivery) (handed : HandedOver) : Prop where
  call : handed.call = d.call
  socket : c.ws = some handed.socket
  streamId : c.streamStates.get d.streamId = some d.ref
  message : ∃ stream, c.streamObjects[d.ref]? = some stream ∧
    handed.message =
      serializeAsync (mediaFrame { stream with sendOffset := d.offset } d.streamId d.data)

end Delivery

open Delivery

/-- The `SendOffset` of every stream is the one that it was at first, moved by the deliveries
that are `done`. -/
structure Honest (c₀ : CulpeoStreamClient) (cfg : Calls) (handed : List HandedOver)
    (done pending : List Delivery) : Prop where
  /-- Every message that was handed over is one of the deliveries, in their order. -/
  handed : List.Forall₂ (Delivers c₀) (done ++ pending) handed
  /-- No call hands over twice. -/
  calls : ((done ++ pending).map Delivery.call).Nodup
  /-- The frames of a stream are contiguous. -/
  contiguous : ∀ ref stream, c₀.streamObjects[ref]? = some stream →
    Ledger.Contiguous pos (Delivery.increment stream) stream.sendOffset
      (onStream ref (done ++ pending))
  cursor : ∀ ref stream, c₀.streamObjects[ref]? = some stream →
    ∃ now, cfg.shared.streamObjects[ref]? = some now ∧
      now.sendOffset =
        stream.sendOffset + Ledger.total (Delivery.increment stream) (onStream ref done)
  /-- A delivery that is not `done` is of the call that is about to move the cursor by it. -/
  pending : pending = [] ∨ ∃ d next, pending = [d] ∧ cfg.pool[d.call]? =
    some (.locked (modifyStream · d.ref (advanceSent d.offset d.data.length)) next)

/-! ### The invariant -/

/-- A stream object is the one that it was at first, apart from its offsets. -/
structure SameStream (stream now : ConfirmedStream) : Prop where
  contentType : now.contentType = stream.contentType
  offsets : now.toClientStreamState = stream.toClientStreamState

/-- The cursors are those that the deliveries have moved. -/
structure Books (c₀ c : CulpeoStreamClient) (handed : List HandedOver)
    (done pending : List Delivery) : Prop where
  ws : c.ws = c₀.ws
  streamStates : c.streamStates = c₀.streamStates
  handed : List.Forall₂ (Delivers c₀) (done ++ pending) handed
  contiguous : ∀ ref stream, c₀.streamObjects[ref]? = some stream →
    Ledger.Contiguous pos (Delivery.increment stream) stream.sendOffset
      (onStream ref (done ++ pending))
  cursor : ∀ ref stream, c₀.streamObjects[ref]? = some stream →
    ∃ now, c.streamObjects[ref]? = some now ∧ SameStream stream now ∧
      now.sendOffset =
        stream.sendOffset + Ledger.total (Delivery.increment stream) (onStream ref done)
  length : c.streamObjects.length = c₀.streamObjects.length

/-- A stream that a call has found. -/
def Found (c₀ : CulpeoStreamClient) (s : Sending) : Prop :=
  c₀.streamStates.get s.streamId = some s.ref ∧ ∃ stream, c₀.streamObjects[s.ref]? = some stream

/-- What a call has read of its stream object is still so. -/
def Current (c : CulpeoStreamClient) (ref : ℕ) (stream : ConfirmedStream) : Prop :=
  ∃ now, c.streamObjects[ref]? = some now ∧ sendSide now = sendSide stream

/-- A call that is not in the section of the lock. -/
inductive Outside (c₀ : CulpeoStreamClient) : Rest → Prop
  | looking (streamId : Text) (data : Bytes) : Outside c₀ (looking streamId data)
  | waiting {s : Sending} (h : Found c₀ s) : Outside c₀ s.waiting
  | ret (result : Result) : Outside c₀ (.ret result)

/-- The call with a number is in the section of the lock. -/
inductive InSection (c₀ c : CulpeoStreamClient) (call : ℕ) : List Delivery → Rest → Prop
  | reading {s : Sending} (h : Found c₀ s) : InSection c₀ c call [] s.reading
  | checking {s : Sending} {stream : ConfirmedStream} (h : Found c₀ s)
      (hcurrent : Current c s.ref stream) : InSection c₀ c call [] (s.checking stream)
  | asking {s : Sending} {stream : ConfirmedStream} (socket : ℕ) (h : Found c₀ s)
      (hcurrent : Current c s.ref stream) :
      InSection c₀ c call [] (asking .binary (s.bytes stream) (s.sent stream) socket)
  | choosing {s : Sending} {stream : ConfirmedStream} (h : Found c₀ s)
      (hcurrent : Current c s.ref stream) :
      InSection c₀ c call [] (choosing .binary (s.bytes stream) (s.sent stream))
  | sending {s : Sending} {stream : ConfirmedStream} {socket : ℕ} (h : Found c₀ s)
      (hcurrent : Current c s.ref stream) (hsocket : c.ws = some socket) :
      InSection c₀ c call [] (perform (.send socket .binary (s.bytes stream)) (s.sent stream))
  | advancing {s : Sending} {stream : ConfirmedStream} (hcurrent : Current c s.ref stream) :
      InSection c₀ c call [⟨call, s.streamId, s.ref, stream.sendOffset, s.data⟩]
        (s.advancing stream)
  | releasing (result : Result) : InSection c₀ c call [] (Sending.releasing result)

theorem holds_sent (s : Sending) (stream : ConfirmedStream) (r : Result) :
    Holds (s.sent stream r) := by
  cases r with
  | ok _ => exact fun _ => .inl rfl
  | error e => exact .inl rfl

theorem InSection.holds {c₀ c : CulpeoStreamClient} {call : ℕ} {pending : List Delivery}
    {p : Rest} (h : InSection c₀ c call pending p) : Holds p := by
  -- Backwards from the send, as every way on ends with the release of the lock.
  have hchoosing : ∀ (s : Sending) stream,
      Holds (CulpeoStreamClient.choosing .binary (s.bytes stream) (s.sent stream)) := by
    intro s stream c
    dsimp only
    cases c.ws with
    | none => exact holds_sent s stream _
    | some socket => exact .inr ⟨nofun, fun a => holds_sent s stream _⟩
  have hasking : ∀ (s : Sending) stream socket,
      Holds (CulpeoStreamClient.asking .binary (s.bytes stream) (s.sent stream) socket) := by
    intro s stream socket
    refine .inr ⟨nofun, fun a => ?_⟩
    dsimp only
    split
    · exact hchoosing s stream
    · exact holds_sent s stream _
    · exact holds_sent s stream _
  have hchecking : ∀ (s : Sending) stream, Holds (s.checking stream) := by
    intro s stream
    rw [Sending.checking, sendIfOpen_apply]
    intro c
    dsimp only
    cases c.ws with
    | none => exact holds_sent s stream _
    | some socket => exact hasking s stream socket
  cases h with
  | reading h => exact fun c => hchecking _ _
  | checking h hcurrent => exact hchecking _ _
  | asking socket h hcurrent => exact hasking _ _ socket
  | choosing h hcurrent => exact hchoosing _ _
  | sending h hcurrent hsocket => exact .inr ⟨nofun, fun a => holds_sent _ _ _⟩
  | advancing hcurrent => exact holds_sent _ _ (.ok ())
  | releasing result => exact .inl rfl

/-- Where the calls are. -/
def Sited (c₀ : CulpeoStreamClient) (cfg : Calls) (pending : List Delivery) : Prop :=
  (pending = [] ∧ ∀ p ∈ cfg.pool, Outside c₀ p) ∨
    ∃ i, OneAt i (InSection c₀ cfg.shared i pending) (Outside c₀) cfg.pool

/-- The invariant of a connection. -/
def Kept (c₀ : CulpeoStreamClient) (cfg : Calls) (handed : List HandedOver) : Prop :=
  ∃ done pending, Books c₀ cfg.shared handed done pending ∧ Sited c₀ cfg pending

/-! ### Steps of other methods -/

section Same

variable {c₀ c c' : CulpeoStreamClient} {handed : List HandedOver} {done pending : List Delivery}

theorem SameSending.stream (h : SameSending c c') {ref : ℕ} {now : ConfirmedStream}
    (hnow : c.streamObjects[ref]? = some now) :
    ∃ now', c'.streamObjects[ref]? = some now' ∧ sendSide now' = sendSide now := by
  have hget := congrArg (fun streams => streams[ref]?) h.streamObjects
  rw [List.getElem?_map, List.getElem?_map, hnow, Option.map_some] at hget
  exact Option.map_eq_some_iff.mp hget

theorem Current.same {ref : ℕ} {stream : ConfirmedStream} (h : Current c ref stream)
    (hsame : SameSending c c') : Current c' ref stream := by
  obtain ⟨now, hnow, hstream⟩ := h
  obtain ⟨now', hnow', hside⟩ := hsame.stream hnow
  exact ⟨now', hnow', hside.trans hstream⟩

theorem Books.same (h : Books c₀ c handed done pending) (hsame : SameSending c c') :
    Books c₀ c' handed done pending where
  ws := hsame.ws.trans h.ws
  streamStates := hsame.streamStates.trans h.streamStates
  handed := h.handed
  contiguous := h.contiguous
  cursor ref stream hstream := by
    obtain ⟨now, hnow, hsameStream, hoffset⟩ := h.cursor ref stream hstream
    obtain ⟨now', hnow', hside⟩ := hsame.stream hnow
    have hcontent := congrArg ConfirmedStream.contentType hside
    have hoffsets := congrArg ConfirmedStream.toClientStreamState hside
    have hsend := congrArg ConfirmedStream.sendOffset hside
    exact ⟨now', hnow', ⟨hcontent.trans hsameStream.contentType,
      hoffsets.trans hsameStream.offsets⟩, hsend.trans hoffset⟩
  length := by
    have hlength := congrArg List.length hsame.streamObjects
    rw [List.length_map, List.length_map] at hlength
    exact hlength.trans h.length

theorem InSection.same {call : ℕ} {p : Rest} (h : InSection c₀ c call pending p)
    (hsame : SameSending c c') : InSection c₀ c' call pending p := by
  cases h with
  | reading h => exact .reading h
  | checking h hcurrent => exact .checking h (hcurrent.same hsame)
  | asking socket h hcurrent => exact .asking socket h (hcurrent.same hsame)
  | choosing h hcurrent => exact .choosing h (hcurrent.same hsame)
  | sending h hcurrent hsocket =>
      exact .sending h (hcurrent.same hsame) (hsame.ws.trans hsocket)
  | advancing hcurrent => exact .advancing (hcurrent.same hsame)
  | releasing result => exact .releasing result

end Same

/-! ### Steps of `SendMediaAsync` -/

section Steps

variable {c₀ : CulpeoStreamClient} {cfg : Calls} {handed : List HandedOver}
  {done pending : List Delivery} {i : ℕ} {p : Rest} {a : ClientAnswer}

theorem Books.found (h : Books c₀ cfg.shared handed done pending) {streamId : Text} {ref : ℕ}
    {stream : ConfirmedStream} (hfound : cfg.shared.tryGetStream streamId = some (ref, stream))
    (data : Bytes) : Found c₀ ⟨streamId, ref, stream, data⟩ := by
  obtain ⟨ref', hget, hfound⟩ := Option.bind_eq_some_iff.mp hfound
  obtain ⟨stream', hstream, hpair⟩ := Option.bind_eq_some_iff.mp hfound
  cases hpair
  have hlt := (List.getElem?_eq_some_iff.mp hstream).1
  rw [h.length] at hlt
  exact ⟨h.streamStates ▸ hget, _, List.getElem?_eq_getElem hlt⟩

/-- The step of a call that is not in the section. -/
theorem Outside.resume (hp : Outside c₀ p) (hi : cfg.pool[i]? = some p)
    (hbooks : Books c₀ cfg.shared handed done pending) :
    ∃ q t, step SendStep.enter cfg (.resume i a) = ⟨cfg.shared, cfg.pool.set i q, t⟩ ∧
      answer handedOver cfg (.resume i a : Move SendStep ClientAnswer) = [] ∧
      (Outside c₀ q ∨ (∃ s : Sending, q = s.reading ∧ Found c₀ s) ∧
        (∃ next, p = .call .waitSendLock next) ∧ a.asUnit = .ok ()) := by
  cases hp with
  | looking streamId data =>
      refine ⟨_, _, step_locked hi, answer_locked hi, .inl ?_⟩
      cases hfound : cfg.shared.tryGetStream streamId with
      | none => exact .ret _
      | some found =>
          obtain ⟨ref, stream⟩ := found
          dsimp only
          split
          · exact .ret _
          · exact .waiting (hbooks.found hfound data)
  | waiting h =>
      refine ⟨_, _, step_call hi, answer_call hi, ?_⟩
      dsimp only
      cases ha : a.asUnit with
      | error e => exact .inl (.ret _)
      | ok _ => exact .inr ⟨⟨_, rfl, h⟩, ⟨_, rfl⟩, rfl⟩
  | ret result =>
      refine ⟨.ret result, cfg.trace, ?_, answer_ret hi, .inl (.ret result)⟩
      obtain ⟨hlt, hget⟩ := List.getElem?_eq_some_iff.mp hi
      rw [step_ret hi, ← hget, List.set_getElem_self]

theorem onStream_append (ref : ℕ) (ds es : List Delivery) :
    onStream ref (ds ++ es) = onStream ref ds ++ onStream ref es :=
  List.filter_append ..

theorem onStream_singleton (ref : ℕ) (d : Delivery) :
    onStream ref [d] = if d.ref = ref then [d] else [] := by
  unfold onStream
  rw [List.filter_cons, List.filter_nil]
  simp only [decide_eq_true_eq]

/-- A delivery is handed over. -/
theorem Books.deliver {c : CulpeoStreamClient} (h : Books c₀ c handed done []) {d : Delivery}
    {x : HandedOver} (hx : Delivers c₀ d x) {now : ConfirmedStream}
    (hnow : c.streamObjects[d.ref]? = some now)
    (hoffset : d.offset = now.sendOffset) : Books c₀ c (handed ++ [x]) done [d] where
  ws := h.ws
  streamStates := h.streamStates
  handed := by
    have hhanded := h.handed
    rw [List.append_nil] at hhanded
    exact List.rel_append hhanded (.cons hx .nil)
  contiguous ref stream' hstream' := by
    have hcontiguous := h.contiguous ref stream' hstream'
    rw [List.append_nil] at hcontiguous
    rw [onStream_append, Ledger.contiguous_append]
    refine ⟨hcontiguous, ?_⟩
    rw [onStream_singleton]
    split
    · rename_i href
      subst href
      obtain ⟨now', hnow', -, hcursor⟩ := h.cursor _ _ hstream'
      rw [Ledger.contiguous_cons]
      refine ⟨?_, Ledger.contiguous_nil⟩
      rw [pos, hoffset, ← hcursor, Option.some.inj (hnow.symm.trans hnow')]
    · exact Ledger.contiguous_nil
  cursor := h.cursor
  length := h.length

/-- The cursor is moved by the delivery. -/
theorem Books.advance {c : CulpeoStreamClient} {d : Delivery}
    (h : Books c₀ c handed done [d]) (hoffset : ∀ now, c.streamObjects[d.ref]? = some now →
      d.offset = now.sendOffset) :
    Books c₀ (c.modifyStream d.ref (advanceSent d.offset d.data.length)) handed (done ++ [d]) []
    where
  ws := h.ws
  streamStates := h.streamStates
  handed := by
    rw [List.append_nil]
    exact h.handed
  contiguous := by
    rw [List.append_nil]
    exact h.contiguous
  cursor ref stream hstream := by
    obtain ⟨now, hnow, hsame, hcursor⟩ := h.cursor ref stream hstream
    rw [onStream_append, onStream_singleton, Ledger.total_append, ← add_assoc, ← hcursor]
    simp only [modifyStream, List.getElem?_modify, hnow, Option.map_eq_map, Option.map_some]
    by_cases href : d.ref = ref
    · subst href
      rw [if_pos rfl, if_pos rfl]
      refine ⟨_, rfl, ⟨hsame.contentType, hsame.offsets⟩, ?_⟩
      rw [Ledger.total_cons, Ledger.total_nil, add_zero, Delivery.increment, ← hsame.offsets,
        ← hoffset _ hnow]
      rfl
    · rw [if_neg href, if_neg href]
      exact ⟨now, rfl, hsame, (add_zero _).symm⟩
  length := by
    rw [modifyStream, List.length_modify]
    exact h.length

/-- The step of the call that is in the section. -/
theorem InSection.resume (hp : InSection c₀ cfg.shared i pending p)
    (hi : cfg.pool[i]? = some p) (hbooks : Books c₀ cfg.shared handed done pending)
    (hopen : FindsOpen cfg (.resume i a)) :
    ∃ q t c done' pending',
      step SendStep.enter cfg (.resume i a) = ⟨c, cfg.pool.set i q, t⟩ ∧
      Books c₀ c (handed ++ answer handedOver cfg (.resume i a : Move SendStep ClientAnswer))
        done' pending' ∧
      (InSection c₀ c i pending' q ∨ pending' = [] ∧ Outside c₀ q) := by
  obtain ⟨hws, hisOpen⟩ := hopen p hi
  -- The case is the point that the call has come to; a frame is pending from the send until the
  -- cursor has moved.
  cases hp with
  | reading h =>
      obtain ⟨stream, hstream⟩ := h.2
      obtain ⟨now, hnow, -⟩ := hbooks.cursor _ stream hstream
      refine ⟨_, _, _, done, [], step_locked hi, ?_, .inl (.checking h ⟨now, hnow, ?_⟩)⟩
      · rwa [answer_locked hi, List.append_nil]
      · rw [hnow]
        rfl
  | checking h hcurrent =>
      obtain ⟨socket, hsocket⟩ := Option.ne_none_iff_exists'.mp
        (hws (@InSection.holds c₀ cfg.shared i [] _ (.checking h hcurrent)))
      rw [Sending.checking, sendIfOpen_apply] at hi
      refine ⟨_, _, _, done, [], step_locked hi, ?_, .inl ?_⟩
      · rwa [answer_locked hi, List.append_nil]
      · rw [hsocket]
        exact .asking socket h hcurrent
  | asking socket h hcurrent =>
      have hnone : handedOver i (.socketState socket) a = none := rfl
      refine ⟨_, _, _, done, [], step_call hi, ?_, .inl ?_⟩
      · rwa [answer_call hi, hnone, Option.toList_none, List.append_nil]
      · rw [hisOpen socket _ rfl]
        exact .choosing h hcurrent
  | choosing h hcurrent =>
      obtain ⟨socket, hsocket⟩ := Option.ne_none_iff_exists'.mp
        (hws (@InSection.holds c₀ cfg.shared i [] _ (.choosing h hcurrent)))
      refine ⟨_, _, _, done, [], step_locked hi, ?_, .inl ?_⟩
      · rwa [answer_locked hi, List.append_nil]
      · rw [hsocket]
        exact .sending h hcurrent hsocket
  | @sending s stream socket h hcurrent hsocket =>
      cases ha : a.asUnit with
      | error e =>
          have hnone : handedOver i (.send socket .binary (s.bytes stream)) a = none := by
            rw [handedOver, ha]
          refine ⟨_, _, _, done, [], step_call hi, ?_, .inl ?_⟩
          · rwa [answer_call hi, hnone, Option.toList_none, List.append_nil]
          · rw [ha]
            exact .releasing _
      -- The frame goes out: its offset is the one that was read, since nobody else is in the
      -- section.
      | ok _ =>
          have hsome : handedOver i (.send socket .binary (s.bytes stream)) a =
              some ⟨i, socket, s.bytes stream⟩ := by
            rw [handedOver, ha]
          obtain ⟨stream₀, hstream₀⟩ := h.2
          obtain ⟨now, hnow, hsame, -⟩ := hbooks.cursor _ stream₀ hstream₀
          obtain ⟨now', hnow', hside⟩ := hcurrent
          cases hnow.symm.trans hnow'
          have hoffset : stream.sendOffset = now.sendOffset :=
            (congrArg ConfirmedStream.sendOffset hside).symm
          have hcontent : stream.contentType = stream₀.contentType :=
            (congrArg ConfirmedStream.contentType hside).symm.trans hsame.contentType
          refine ⟨_, _, _, done, [⟨i, s.streamId, s.ref, stream.sendOffset, s.data⟩],
            step_call hi, ?_, .inl ?_⟩
          · have hdelivers : Delivers c₀ ⟨i, s.streamId, s.ref, stream.sendOffset, s.data⟩
                ⟨i, socket, s.bytes stream⟩ := by
              refine ⟨rfl, hbooks.ws ▸ hsocket, h.1, stream₀, hstream₀, ?_⟩
              rw [Sending.bytes, mediaFrame, mediaFrame, hcontent]
            rw [answer_call hi, hsome, Option.toList_some]
            exact hbooks.deliver hdelivers hnow hoffset
          · rw [ha]
            exact .advancing ⟨now, hnow, hside⟩
  | @advancing s stream hcurrent =>
      refine ⟨_, _, _, done ++ [⟨i, s.streamId, s.ref, stream.sendOffset, s.data⟩], [],
        step_locked hi, ?_, .inl (.releasing _)⟩
      rw [answer_locked hi, List.append_nil]
      refine hbooks.advance fun now hnow => ?_
      obtain ⟨now', hnow', hside⟩ := hcurrent
      cases hnow.symm.trans hnow'
      exact (congrArg ConfirmedStream.sendOffset hside).symm
  | releasing result =>
      have hnone : handedOver i .releaseSendLock a = none := rfl
      refine ⟨_, _, _, done, [], step_call hi, ?_, .inr ⟨rfl, ?_⟩⟩
      · rwa [answer_call hi, hnone, Option.toList_none, List.append_nil]
      · dsimp only
        cases a.asUnit with
        | error e => exact .ret _
        | ok _ => exact .ret _

/-- A step of the connection. -/
theorem Kept.step {m : Move SendStep ClientAnswer} (h : Kept c₀ cfg handed)
    (hm : WithinConnection cfg m) (hopen : FindsOpen cfg m) :
    Kept c₀ (step SendStep.enter cfg m) (handed ++ answer handedOver cfg m) := by
  obtain ⟨done, pending, hbooks, hsited⟩ := h
  cases m with
  | enter e =>
      rw [answer, List.append_nil]
      -- Nothing changes that the calls under way work with.
      have henter : SameSending cfg.shared (e.enter cfg.shared).1 ∧
          Outside c₀ (e.enter cfg.shared).2 := by
        cases e with
        | other f => exact ⟨hm, .ret _⟩
        | sendMedia streamId data =>
            rw [SendStep.enter, sendMediaAsync_eq]
            refine ⟨⟨rfl, rfl, rfl⟩, ?_⟩
            dsimp only
            split
            · exact .ret _
            · exact .looking streamId data
      refine ⟨done, pending, hbooks.same henter.1, ?_⟩
      obtain ⟨hnone, houtside⟩ | ⟨i, hone⟩ := hsited
      · exact .inl ⟨hnone, forall_mem_concat houtside henter.2⟩
      · exact .inr ⟨i, (hone.imp fun p hp => hp.same henter.1).concat henter.2⟩
  | resume i a =>
    cases hi : cfg.pool[i]? with
    | none =>
        simp only [Resumption.step, answer, hi, List.append_nil]
        exact ⟨done, pending, hbooks, hsited⟩
    | some p =>
        obtain ⟨hnone, houtside⟩ | ⟨k, hone⟩ := hsited
        · subst hnone
          obtain ⟨q, t, hstep, hanswer, hq⟩ :=
            (houtside p (List.mem_of_getElem? hi)).resume hi hbooks
          rw [hstep, hanswer, List.append_nil]
          refine ⟨done, [], hbooks, ?_⟩
          obtain hq | ⟨⟨s, rfl, hfound⟩, -⟩ := hq
          · exact .inl ⟨rfl, forall_mem_set houtside i hq⟩
          · exact .inr ⟨i, oneAt_set houtside (List.getElem?_eq_some_iff.mp hi).1
              (.reading hfound)⟩
        · obtain ⟨x, hk, hx, hothers⟩ := id hone
          by_cases hik : i = k
          · subst hik
            cases hi.symm.trans hk
            obtain ⟨q, t, c, done', pending', hstep, hbooks', hq⟩ := hx.resume hi hbooks hopen
            rw [hstep]
            refine ⟨done', pending', hbooks', ?_⟩
            obtain hq | ⟨hnone, hq⟩ := hq
            · exact .inr ⟨i, hone.set_self hq⟩
            · exact .inl ⟨hnone, hone.forall_set hq⟩
          · obtain ⟨q, t, hstep, hanswer, hq⟩ := (hothers i p hik hi).resume hi hbooks
            rw [hstep, hanswer, List.append_nil]
            refine ⟨done, pending, hbooks, ?_⟩
            obtain hq | ⟨-, ⟨next, rfl⟩, ha⟩ := hq
            · exact .inr ⟨k, hone.set_ne hik hq⟩
            -- The lock is not given away while another call holds it.
            · exact absurd hx.holds (hm next hi ha x (List.mem_of_getElem? hk))

end Steps

/-! ### Runs -/

/-- A call hands over one frame at most. -/
theorem once_enter (e : SendStep) (c : CulpeoStreamClient) (i : ℕ) :
    (e.enter c).2.Once (handedOver i) := by
  -- Backwards from the end of the call: nothing is handed over after the send, one frame at most
  -- from each point before it.
  have hreleasing : ∀ r, (Sending.releasing r).Never (handedOver i) := by
    refine fun r a => ⟨rfl, ?_⟩
    dsimp only
    cases a.asUnit with
    | error e => trivial
    | ok _ => trivial
  have hsent : ∀ (s : Sending) stream r, (s.sent stream r).Never (handedOver i) := by
    intro s stream r
    cases r with
    | error e => exact hreleasing _
    | ok _ => exact fun _ => hreleasing _
  have hchoosing : ∀ (s : Sending) stream,
      (choosing .binary (s.bytes stream) (s.sent stream)).Once (handedOver i) := by
    intro s stream c
    dsimp only
    cases c.ws with
    | none => exact (hsent s stream _).once
    | some socket =>
        intro a
        split
        · exact (hsent s stream _).once
        · exact hsent s stream _
  have hasking : ∀ (s : Sending) stream socket,
      (asking .binary (s.bytes stream) (s.sent stream) socket).Once (handedOver i) := by
    refine fun s stream socket => Prog.once_call_of_none (fun _ => rfl) fun a => ?_
    split
    · exact hchoosing s stream
    · exact (hsent s stream _).once
    · exact (hsent s stream _).once
  have hchecking : ∀ (s : Sending) stream, (s.checking stream).Once (handedOver i) := by
    intro s stream
    rw [Sending.checking, sendIfOpen_apply]
    intro c
    dsimp only
    cases c.ws with
    | none => exact (hsent s stream _).once
    | some socket => exact hasking s stream socket
  cases e with
  | other f => trivial
  | sendMedia streamId data =>
      rw [SendStep.enter, sendMediaAsync_eq]
      dsimp only
      split
      · trivial
      · intro c
        dsimp only
        cases c.tryGetStream streamId with
        | none => trivial
        | some found =>
            obtain ⟨ref, stream⟩ := found
            dsimp only
            split
            · trivial
            · refine Prog.once_call_of_none (fun _ => rfl) fun a => ?_
              dsimp only
              cases a.asUnit with
              | error e => trivial
              | ok _ => exact fun c => hchecking _ _

theorem call_of_handedOver (i : ℕ) (action : ClientAction) (a : ClientAnswer) (x : HandedOver)
    (h : handedOver i action a = some x) : x.call = i := by
  unfold handedOver at h
  split at h
  · split at h
    · cases h
      rfl
    · cases h
  · cases h

theorem map_call_eq {c₀ : CulpeoStreamClient} {ds : List Delivery} {handed : List HandedOver}
    (h : List.Forall₂ (Delivers c₀) ds handed) :
    ds.map Delivery.call = handed.map HandedOver.call := by
  induction h with
  | nil => rfl
  | cons hx _ ih => rw [List.map_cons, List.map_cons, hx.call, ih]

/-- **The send cursor is honest**, on one connection on which every call that is about to send
finds an open socket: each frame that is handed over to the socket moves the `SendOffset` of its
stream, and nothing else does. -/
theorem sendOffset_honest (c₀ : CulpeoStreamClient) (moves : List (Move SendStep ClientAnswer))
    (h : Along SendStep.enter (fun cfg m => WithinConnection cfg m ∧ FindsOpen cfg m)
      ⟨c₀, [], []⟩ moves) :
    ∃ done pending, Honest c₀ (run SendStep.enter ⟨c₀, [], []⟩ moves)
      (answered SendStep.enter handedOver ⟨c₀, [], []⟩ moves) done pending := by
  have hbegin : Kept c₀ ⟨c₀, [], []⟩ [] := by
    refine ⟨[], [], ⟨rfl, rfl, .nil, fun _ _ _ => Ledger.contiguous_nil, ?_, rfl⟩,
      .inl ⟨rfl, nofun⟩⟩
    exact fun ref stream hstream => ⟨stream, hstream, ⟨rfl, rfl⟩, (add_zero _).symm⟩
  have hend := answered_induction (fun cfg l m hl hm => hl.step hm.1 hm.2) moves hbegin h
  rw [List.nil_append] at hend
  obtain ⟨done, pending, hbooks, hsited⟩ := hend
  refine ⟨done, pending, hbooks.handed, ?_, hbooks.contiguous, ?_, ?_⟩
  · rw [map_call_eq hbooks.handed]
    exact answered_nodup call_of_handedOver once_enter c₀ moves
  · intro ref stream hstream
    obtain ⟨now, hnow, -, hcursor⟩ := hbooks.cursor ref stream hstream
    exact ⟨now, hnow, hcursor⟩
  · obtain ⟨hnone, -⟩ | ⟨i, p, hi, hp, -⟩ := hsited
    · exact .inl hnone
    · cases hp with
      | advancing hcurrent => exact .inr ⟨_, _, rfl, hi⟩
      | _ => exact .inl rfl

/-! ### A socket that is not open -/

/-- The lock is given to the only call that there is. -/
theorem within_of_single {cfg : Calls} {i : ℕ} {a : ClientAnswer} (h : cfg.pool.length = 1) :
    WithinConnection cfg (.resume i a) := by
  obtain ⟨q, hq⟩ := List.length_eq_one_iff.mp h
  intro next hnext _ p hp
  rw [hq, List.mem_singleton] at hp
  have hmem := List.mem_of_getElem? hnext
  rw [hq, List.mem_singleton, ← hp] at hmem
  rw [← hmem]
  rintro (hrelease | ⟨hwait, -⟩)
  · cases hrelease
  · exact hwait rfl

/-- A call that is not waiting for the lock is not given it. -/
theorem within_of_not_waiting {cfg : Calls} {i : ℕ} {a : ClientAnswer} {p : Rest}
    (hp : cfg.pool[i]? = some p) (h : ∀ next, p ≠ .call .waitSendLock next) :
    WithinConnection cfg (.resume i a) := by
  intro next hnext
  rw [hp] at hnext
  exact absurd (Option.some.inj hnext) (h next)

/-- A stream that the client sends. -/
def upstream : ConfirmedStream where
  offsetType := .message
  serverId := utf16 "s"
  contentType := utf16 "a/b"
  type := .input
  purpose := none

/-- An established client with this stream. -/
def established : CulpeoStreamClient where
  state := .established
  streamObjects := [upstream]
  streamStates := InsertionMap.empty.set (utf16 "s") 0
  ws := some 0
  sockets := 1

/-- A call of `SendMediaAsync` that finds the socket closed. -/
def closedSend : List (Move SendStep ClientAnswer) :=
  .enter (.sendMedia (utf16 "s") [1]) :: List.replicate 8 (.resume 0 (.isOpen false))

/-- The socket is not open, and the cursor moves all the same. -/
theorem not_sendOffset_honest : ¬ ∀ moves,
    Along SendStep.enter WithinConnection ⟨established, [], []⟩ moves →
      ∃ done pending, Honest established (run SendStep.enter ⟨established, [], []⟩ moves)
        (answered SendStep.enter handedOver ⟨established, [], []⟩ moves) done pending := by
  intro h
  have halong : Along SendStep.enter WithinConnection ⟨established, [], []⟩ closedSend :=
    ⟨trivial, within_of_single rfl, within_of_single rfl, within_of_single rfl,
      within_of_single rfl, within_of_single rfl, within_of_single rfl, within_of_single rfl,
      within_of_single rfl, trivial⟩
  obtain ⟨done, pending, honest⟩ := h closedSend halong
  have hhanded : List.Forall₂ (Delivers established) (done ++ pending) [] := honest.handed
  obtain ⟨rfl, -⟩ := List.append_eq_nil_iff.mp (List.forall₂_nil_right_iff.mp hhanded)
  obtain ⟨now, hnow, hcursor⟩ := honest.cursor 0 _ rfl
  have hsent : ((run SendStep.enter ⟨established, [], []⟩
      closedSend).shared.streamObjects[0]?).map ConfirmedStream.sendOffset = some 1 := by
    decide
  rw [hnow, Option.map_some, hcursor] at hsent
  exact absurd hsent (by decide)

/-- A step of a call that finds the socket open. -/
def proceed (call : ℕ) : Move SendStep ClientAnswer := .resume call (.isOpen true)

/-- Two calls on an open socket: the second one begins while the first one has the lock, and
waits for it until the first one has moved the cursor. -/
def interleavedSends : List (Move SendStep ClientAnswer) :=
  [.enter (.sendMedia (utf16 "s") [1]), proceed 0, proceed 0,
    .enter (.sendMedia (utf16 "s") [2, 3]), proceed 0, proceed 1] ++
  List.replicate 6 (proceed 0) ++ List.replicate 7 (proceed 1)

theorem sendOffset_honest_example :
    (answered SendStep.enter handedOver ⟨established, [], []⟩ interleavedSends).map
      HandedOver.call = [0, 1] ∧
    ∃ done pending, Honest established (run SendStep.enter ⟨established, [], []⟩ interleavedSends)
      (answered SendStep.enter handedOver ⟨established, [], []⟩ interleavedSends) done pending := by
  refine ⟨rfl, sendOffset_honest established interleavedSends ?_⟩
  have hopen : ∀ (cfg : Calls) i, cfg.shared.ws = some 0 → FindsOpen cfg (proceed i) :=
    fun cfg i hws p _ => ⟨fun _ => by rw [hws]; nofun, fun _ _ _ => rfl⟩
  have hstep : ∀ {cfg : Calls} {i : ℕ} {p : Rest}, cfg.shared.ws = some 0 →
      cfg.pool[i]? = some p → (∀ next, p ≠ .call .waitSendLock next) →
      WithinConnection cfg (proceed i) ∧ FindsOpen cfg (proceed i) :=
    fun hws hp h => ⟨within_of_not_waiting hp h, hopen _ _ hws⟩
  refine ⟨⟨trivial, trivial⟩, hstep rfl rfl nofun, ⟨within_of_single rfl, hopen _ _ rfl⟩,
    ⟨trivial, trivial⟩, hstep rfl rfl nofun, hstep rfl rfl nofun, hstep rfl rfl nofun,
    hstep rfl rfl nofun, hstep rfl rfl nofun, hstep rfl rfl nofun, hstep rfl rfl nofun,
    hstep rfl rfl nofun, ⟨?_, hopen _ _ rfl⟩, hstep rfl rfl nofun, hstep rfl rfl nofun,
    hstep rfl rfl nofun, hstep rfl rfl nofun, hstep rfl rfl nofun, hstep rfl rfl nofun, trivial⟩
  -- The second call is given the lock after the first one has ended.
  intro next _ _ p hp
  obtain rfl | hp := List.mem_cons.mp hp
  · exact id
  · rw [List.mem_singleton.mp hp]
    rintro (hrelease | ⟨hwait, -⟩)
    · cases hrelease
    · exact hwait rfl

end CulpeoStreamClient

end CulpeoStream.Dotnet
