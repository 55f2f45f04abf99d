import CulpeoStream.Lib.Ledger
import CulpeoStream.Lib.Watch
import CulpeoStream.Dotnet.ClientMethods

/-!
# The media frames that a client receives on one connection

`HandleIncomingMediaAsync` refuses a frame of an unknown stream, or with a `Content-Type` that
the stream does not have.  Every other frame is delivered, with its `Offset` or with zero, and
the `Offset` is not compared with the `ReceiveOffset` for more than to move it.

Where the server keeps to the sequence, what is delivered does as well (`receives_in_order`).
The receive loop is one call among the others of the client, which take their steps in between.
-/

open Resumption

namespace CulpeoStream.Dotnet

open Message Utf16

namespace CulpeoStreamClient

/-! ### Frames and events -/

/-- A message that is read as a media frame. -/
def readMedia (kind : CulpeoMessageKind) (data : Bytes) : Option CulpeoMessage :=
  match parseAsync {} data kind with
  | .ok frame => if frame.kind = .media then some frame else none
  | .error _ => none

/-- What the receive loop gets as a media frame. -/
def mediaReceived : ClientAction → ClientAnswer → Option CulpeoMessage
  | .receiveMessage _, .message .text data => readMedia .control data
  | .receiveMessage _, .message .binary data => readMedia .media data
  | _, _ => none

/-- The media frames that a list of actions, with their answers, has brought. -/
def framesIn (performed : List (ClientAction × ClientAnswer)) : List CulpeoMessage :=
  performed.filterMap fun action => mediaReceived action.1 action.2

/-- A `MediaReceived` event. -/
structure Delivered where
  streamId : Text
  data : Bytes
  offset : Int64

def asDelivered : CulpeoClientEvent → Option Delivered
  | .mediaReceived streamId data offset => some ⟨streamId, data, offset⟩
  | _ => none

/-- The media events of a client. -/
def deliveries (c : CulpeoStreamClient) : List Delivered :=
  c.written.filterMap asDelivered

/-- Those that a connection has brought, which began with the client `c₀`. -/
def deliveredSince (c₀ c : CulpeoStreamClient) : List Delivered :=
  (deliveries c).drop (deliveries c₀).length

/-- The events of one stream. -/
def eventsOf (streamId : Text) (events : List Delivered) : List Delivered :=
  events.filter fun event => event.streamId = streamId

namespace Delivered

def pos (event : Delivered) : Option ℤ := some event.offset.toInt

def increment (stream : ConfirmedStream) (event : Delivered) : ℤ :=
  computeOffsetIncrement stream.toClientStreamState event.data.length

end Delivered

/-- The id that the client looks up. -/
def idOf (frame : CulpeoMessage) : Text := frame.streamId.getD []

/-- The stream of a frame. -/
def findStream (c : CulpeoStreamClient) (frame : CulpeoMessage) : Option (ℕ × ConfirmedStream) :=
  if (idOf frame).isEmpty then none else c.tryGetStream (idOf frame)

/-- The `Content-Type` of the frame is not another one than that of the stream. -/
def ContentTypeFits (env : Environment) (stream : ConfirmedStream) (frame : CulpeoMessage) :
    Prop :=
  isNullOrWhiteSpace frame.contentType = true ∨
    contentTypesMatch env.toRuntime stream.contentType (frame.contentType.getD []) = true

/-- The frames of one stream. -/
def framesOf (streamId : Text) (frames : List CulpeoMessage) : List CulpeoMessage :=
  frames.filter fun frame => idOf frame = streamId

def framePos (frame : CulpeoMessage) : Option ℤ := frame.offset.map Int64.toInt

/-- How far the frame moves the offset of its stream. -/
def frameIncrement (stream : ConfirmedStream) (frame : CulpeoMessage) : ℤ :=
  computeOffsetIncrement stream.toClientStreamState frame.body.length

/-- The frame is one of a stream on which the server sends, and begins where the frames before
it end, the first one at the `ReceiveOffset` that the stream has at first. -/
def Continues (c₀ : CulpeoStreamClient) (before : List CulpeoMessage) (frame : CulpeoMessage) :
    Prop :=
  ∃ ref stream, findStream c₀ frame = some (ref, stream) ∧ stream.type ≠ .input ∧
    framePos frame = some (stream.receiveOffset.toInt +
      Ledger.total (frameIncrement stream) (framesOf (idOf frame) before))

/-- The frame is one of a stream and breaks the sequence, has no `Offset`, or comes on an input
stream. -/
def Breaks (c₀ : CulpeoStreamClient) (before : List CulpeoMessage) (frame : CulpeoMessage) :
    Prop :=
  (findStream c₀ frame).isSome = true ∧ ¬ Continues c₀ before frame

/-- The server keeps to the sequence, with every frame whose `Content-Type` fits. -/
def ServedInOrder (env : Environment) (c₀ : CulpeoStreamClient) (frames : List CulpeoMessage) :
    Prop :=
  ∀ before frame after, frames = before ++ frame :: after → ∀ ref stream,
    findStream c₀ frame = some (ref, stream) → ContentTypeFits env stream frame →
      Continues c₀ before frame

/-! ### What the client does with the frames -/

/-- What the receive loop goes on to do after a message, with a number of rounds left. -/
def afterFrame (env : Environment) (o : CulpeoStreamClientOptions) (rounds : ℕ) :
    Except ClientExn Bool → Rest
  | .ok true => .ret (.ok ())
  | .ok false => receiveFramesAsync env o rounds .ret
  | .error e => .ret (.error e)

/-- The last frame that the actions of the receive loop have brought has not been looked at, and
the loop has done nothing since.  Or what the loop has done since is to send a culpeo.close with
`protocol-error`, as far as it has come with that; after it the loop ends. -/
def Refusing (env : Environment) (o : CulpeoStreamClientOptions) (frame : CulpeoMessage)
    (performed : List (ClientAction × ClientAnswer)) (point : Rest) : Prop :=
  ∃ earlier action answer since rounds,
    performed = earlier ++ (action, answer) :: since ∧ mediaReceived action answer = some frame ∧
      (since = [] ∧ point = handleIncomingMediaAsync env frame (afterFrame env o rounds) ∨
        ∃ reason, (refuse (utf16 "protocol-error") reason (afterFrame env o rounds)).Leads
          since point)

/-- The event of a frame that is delivered. -/
def eventOf (frame : CulpeoMessage) : Delivered := ⟨idOf frame, frame.body, frame.offset.getD 0⟩

/-- What a connection that began with the client `c₀` has delivered is in order, after a number
of actions of the receive loop and at a point of it. -/
structure ReceivedInOrder (env : Environment) (o : CulpeoStreamClientOptions)
    (c₀ c : CulpeoStreamClient) (performed : List (ClientAction × ClientAnswer)) (point : Rest) :
    Prop where
  /-- The offsets of each stream begin with its `ReceiveOffset` and advance by the increments. -/
  contiguous : ∀ streamId ref stream, c₀.tryGetStream streamId = some (ref, stream) →
    Ledger.Contiguous Delivered.pos (Delivered.increment stream) stream.receiveOffset.toInt
      (eventsOf streamId (deliveredSince c₀ c))
  direction : ∀ event ∈ deliveredSince c₀ c, ∃ ref stream,
    c₀.tryGetStream event.streamId = some (ref, stream) ∧ stream.type ≠ .input
  /-- A frame that breaks the sequence is the last one, it is not delivered, and is refused. -/
  refused : ∀ before frame after, framesIn performed = before ++ frame :: after →
    Breaks c₀ before frame →
      after = [] ∧ (deliveredSince c₀ c).Sublist (before.map eventOf) ∧
        Refusing env o frame performed point

/-! ### Streams and what is told of them -/

/-- A stream, apart from its offsets. -/
def still (stream : ConfirmedStream) : ConfirmedStream :=
  { stream with sendOffset := 0, receiveOffset := 0 }

/-- The streams are the same, apart from their offsets. -/
structure SameStreams (c c' : CulpeoStreamClient) : Prop where
  streamStates : c'.streamStates = c.streamStates
  streamObjects : c'.streamObjects.map still = c.streamObjects.map still

section Streams

variable {c c' c'' : CulpeoStreamClient} {frame : CulpeoMessage} {streamId : Text}

theorem SameStreams.trans (h : SameStreams c c') (h' : SameStreams c' c'') :
    SameStreams c c'' where
  streamStates := h'.streamStates.trans h.streamStates
  streamObjects := h'.streamObjects.trans h.streamObjects

theorem StandsBy.sameStreams (h : StandsBy c c') : SameStreams c c' where
  streamStates := h.streamStates
  streamObjects := by
    have hside := congrArg (List.map still) h.streamObjects
    rwa [List.map_map, List.map_map] at hside

theorem sameStreams_modifyStream (c : CulpeoStreamClient) (ref : ℕ) (offset : Int64)
    (length : ℕ) : SameStreams c (c.modifyStream ref (trackReceived · offset length)) where
  streamStates := rfl
  streamObjects := map_modify_of_same (fun stream => by unfold trackReceived; split <;> rfl) _ _

theorem SameStreams.tryGetStream (h : SameStreams c c') :
    (c'.tryGetStream streamId).map (Prod.map id still) =
      (c.tryGetStream streamId).map (Prod.map id still) := by
  have hget : ∀ ref : ℕ, c'.streamObjects[ref]?.map still = c.streamObjects[ref]?.map still := by
    intro ref
    rw [← List.getElem?_map, ← List.getElem?_map, h.streamObjects]
  unfold CulpeoStreamClient.tryGetStream
  rw [h.streamStates]
  cases c.streamStates.get streamId with
  | none => rfl
  | some ref =>
      have href := hget ref
      dsimp only [Option.bind_eq_bind, Option.bind_some]
      cases hc : c.streamObjects[ref]? with
      | none =>
          rw [hc, Option.map_none, Option.map_eq_none_iff] at href
          rw [href]
      | some stream =>
          rw [hc] at href
          obtain ⟨stream', hc', hstream⟩ := Option.map_eq_some_iff.mp href
          rw [hc']
          exact congrArg (fun stream => some (ref, stream)) hstream

theorem SameStreams.findStream (h : SameStreams c c') :
    (c'.findStream frame).map (Prod.map id still) =
      (c.findStream frame).map (Prod.map id still) := by
  unfold CulpeoStreamClient.findStream
  split
  · rfl
  · exact h.tryGetStream

/-- The stream that the client finds is the one that it had at first, apart from its offsets. -/
theorem SameStreams.found (h : SameStreams c c') {ref : ℕ} {stream : ConfirmedStream}
    (hfound : c'.findStream frame = some (ref, stream)) :
    ∃ stream₀, c.findStream frame = some (ref, stream₀) ∧
      stream.contentType = stream₀.contentType := by
  have hsame : (c'.findStream frame).map (Prod.map id still) =
      (c.findStream frame).map (Prod.map id still) := h.findStream
  rw [hfound] at hsame
  obtain ⟨⟨ref₀, stream₀⟩, hfound₀, hpair⟩ := Option.map_eq_some_iff.mp hsame.symm
  obtain ⟨href, hstill⟩ := Prod.mk.inj hpair
  cases (href : ref₀ = ref)
  exact ⟨stream₀, hfound₀, (congrArg ConfirmedStream.contentType hstill).symm⟩

end Streams

/-! ### Frames that are in order -/

section Order

variable {env : Environment} {c₀ c : CulpeoStreamClient} {before frames : List CulpeoMessage}
  {frame : CulpeoMessage}

/-- The stream of the frame is known. -/
def isKnown (c₀ : CulpeoStreamClient) (frame : CulpeoMessage) : Bool :=
  (findStream c₀ frame).isSome

/-- No frame breaks the sequence. -/
def InOrder (c₀ : CulpeoStreamClient) (frames : List CulpeoMessage) : Prop :=
  ∀ before frame after, frames = before ++ frame :: after → ¬ Breaks c₀ before frame

theorem inOrder_nil : InOrder c₀ [] := by
  intro before frame after hsplit
  simp at hsplit

/-- A property of the places in a list with one more member at its end. -/
theorem forall_split_concat {α : Type} {P : List α → α → Prop} {l : List α} {x : α} :
    (∀ before y after, l ++ [x] = before ++ y :: after → P before y) ↔
      (∀ before y after, l = before ++ y :: after → P before y) ∧ P l x := by
  constructor
  · refine fun h => ⟨fun before y after hsplit => ?_, h l x [] rfl⟩
    exact h before y (after ++ [x]) (by rw [hsplit, List.append_assoc]; rfl)
  · rintro ⟨hbefore, hx⟩ before y after hsplit
    rcases List.eq_nil_or_concat after with rfl | ⟨after', last, rfl⟩
    · obtain ⟨rfl, hlast⟩ := List.append_inj' hsplit rfl
      cases hlast
      exact hx
    · rw [List.concat_eq_append, ← List.cons_append, ← List.append_assoc] at hsplit
      exact hbefore before y after' (List.append_inj' hsplit rfl).1

theorem inOrder_concat :
    InOrder c₀ (before ++ [frame]) ↔ InOrder c₀ before ∧ ¬ Breaks c₀ before frame :=
  forall_split_concat (P := fun before frame => ¬ Breaks c₀ before frame)

theorem servedInOrder_nil : ServedInOrder env c₀ [] := by
  intro before frame after hsplit
  simp at hsplit

theorem servedInOrder_concat : ServedInOrder env c₀ (before ++ [frame]) ↔
    ServedInOrder env c₀ before ∧ ∀ ref stream, findStream c₀ frame = some (ref, stream) →
      ContentTypeFits env stream frame → Continues c₀ before frame :=
  forall_split_concat (P := fun before frame => ∀ ref stream,
    findStream c₀ frame = some (ref, stream) → ContentTypeFits env stream frame →
      Continues c₀ before frame)

theorem findStream_of_isKnown (hknown : isKnown c₀ frame = true) :
    findStream c₀ frame = c₀.tryGetStream (idOf frame) := by
  unfold isKnown findStream at hknown
  unfold findStream
  split at hknown
  · cases hknown
  · rename_i hid
    exact if_neg hid

/-- Whether a frame has a known stream is a matter of its id. -/
theorem isKnown_of_idOf {frame' : CulpeoMessage} (hid : idOf frame' = idOf frame) :
    isKnown c₀ frame' = isKnown c₀ frame := by
  unfold isKnown findStream
  rw [hid]

theorem framesOf_filter_isKnown (hknown : isKnown c₀ frame = true) :
    framesOf (idOf frame) (before.filter (isKnown c₀)) = framesOf (idOf frame) before := by
  unfold framesOf
  rw [List.filter_filter]
  refine List.filter_congr fun frame' _ => ?_
  rw [Bool.and_eq_left_iff_imp]
  intro hid
  rw [isKnown_of_idOf (of_decide_eq_true hid)]
  exact hknown

theorem eventsOf_map_eventOf (streamId : Text) (frames : List CulpeoMessage) :
    eventsOf streamId (frames.map eventOf) = (framesOf streamId frames).map eventOf := by
  unfold eventsOf framesOf
  rw [List.filter_map]
  rfl

theorem framesOf_append (streamId : Text) (frames frames' : List CulpeoMessage) :
    framesOf streamId (frames ++ frames') =
      framesOf streamId frames ++ framesOf streamId frames' :=
  List.filter_append ..

theorem framesOf_singleton (streamId : Text) (frame : CulpeoMessage) :
    framesOf streamId [frame] = if idOf frame = streamId then [frame] else [] := by
  unfold framesOf
  rw [List.filter_cons, List.filter_nil]
  simp only [decide_eq_true_eq]

/-- **Frames in order are contiguous**, on each stream of the client. -/
theorem contiguous_of_inOrder {streamId : Text} {ref : ℕ} {stream : ConfirmedStream}
    (hstream : c₀.tryGetStream streamId = some (ref, stream)) (frames : List CulpeoMessage)
    (h : InOrder c₀ frames) :
    Ledger.Contiguous (fun frame => (eventOf frame).pos)
      (fun frame => (eventOf frame).increment stream) stream.receiveOffset.toInt
      (framesOf streamId (frames.filter (isKnown c₀))) := by
  induction frames using List.reverseRecOn with
  | nil => exact Ledger.contiguous_nil
  | append_singleton before frame ih =>
      obtain ⟨hbefore, hframe⟩ := inOrder_concat.mp h
      rw [List.filter_append, framesOf_append, Ledger.contiguous_append]
      refine ⟨ih hbefore, ?_⟩
      by_cases hknown : isKnown c₀ frame = true
      · rw [List.filter_cons_of_pos hknown, List.filter_nil]
        by_cases hid : idOf frame = streamId
        · cases hid
          obtain ⟨ref', stream', hfound, -, hpos⟩ := not_not.mp fun hnot => hframe ⟨hknown, hnot⟩
          rw [findStream_of_isKnown hknown, hstream] at hfound
          cases hfound
          obtain ⟨offset, hoffset, hvalue⟩ := Option.map_eq_some_iff.mp hpos
          rw [framesOf_filter_isKnown hknown, framesOf_singleton, if_pos rfl,
            Ledger.contiguous_cons]
          refine ⟨?_, Ledger.contiguous_nil⟩
          rw [Delivered.pos, eventOf, hoffset, Option.getD_some, hvalue]
          rfl
        · rw [framesOf_singleton, if_neg hid]
          exact Ledger.contiguous_nil
      · rw [List.filter_cons_of_neg hknown, List.filter_nil]
        exact Ledger.contiguous_nil

end Order

/-! ### The invariant of the receive loop -/

/-- The client has delivered the frames, and its streams are those that it had at first. -/
structure Abreast (c₀ : CulpeoStreamClient) (frames : List CulpeoMessage)
    (c : CulpeoStreamClient) : Prop where
  connected : c.connectState = true
  streams : SameStreams c₀ c
  inOrder : InOrder c₀ frames
  deliveries : deliveries c = deliveries c₀ ++ (frames.filter (isKnown c₀)).map eventOf

section Abreast

variable {env : Environment} {o : CulpeoStreamClientOptions} {c₀ c c' : CulpeoStreamClient}
  {before frames : List CulpeoMessage} {frame : CulpeoMessage}
  {performed : List (ClientAction × ClientAnswer)} {point : Rest}

theorem Abreast.standsBy (h : Abreast c₀ frames c) (hother : StandsBy c c') :
    Abreast c₀ frames c' where
  connected := hother.connectState.trans h.connected
  streams := h.streams.trans hother.sameStreams
  inOrder := h.inOrder
  deliveries := by
    rw [← h.deliveries, CulpeoStreamClient.deliveries, hother.written]
    rfl

theorem Abreast.deliveredSince (h : Abreast c₀ frames c) :
    deliveredSince c₀ c = (frames.filter (isKnown c₀)).map eventOf := by
  rw [CulpeoStreamClient.deliveredSince, h.deliveries, List.drop_left]

/-- What has been delivered is in order, also while one more frame is looked at. -/
theorem Abreast.received (h : Abreast c₀ before c)
    (hframes : framesIn performed = before ∨ ∃ frame, framesIn performed = before ++ [frame] ∧
      (Breaks c₀ before frame → Refusing env o frame performed point)) :
    ReceivedInOrder env o c₀ c performed point where
  contiguous streamId ref stream hstream := by
    rw [h.deliveredSince, eventsOf_map_eventOf, Ledger.contiguous_map]
    exact contiguous_of_inOrder hstream before h.inOrder
  direction event hevent := by
    rw [h.deliveredSince] at hevent
    obtain ⟨frame, hframe, rfl⟩ := List.mem_map.mp hevent
    obtain ⟨hmem, hknown⟩ := List.mem_filter.mp hframe
    obtain ⟨earlier, later, hsplit⟩ := List.append_of_mem hmem
    obtain ⟨ref, stream, hfound, htype, -⟩ :=
      not_not.mp fun hnot => h.inOrder earlier frame later hsplit ⟨hknown, hnot⟩
    rw [findStream_of_isKnown hknown] at hfound
    exact ⟨ref, stream, hfound, htype⟩
  refused earlier frame' later hsplit hbreaks := by
    obtain hframes | ⟨frame, hframes, hrefusing⟩ := hframes
    · exact absurd hbreaks (h.inOrder _ _ _ (hframes.symm.trans hsplit))
    · rw [hframes] at hsplit
      rcases List.eq_nil_or_concat later with rfl | ⟨later', last, rfl⟩
      · obtain ⟨rfl, hlast⟩ := List.append_inj' hsplit rfl
        cases hlast
        refine ⟨rfl, ?_, hrefusing hbreaks⟩
        rw [h.deliveredSince]
        exact List.filter_sublist.map eventOf
      · rw [List.concat_eq_append, ← List.cons_append, ← List.append_assoc] at hsplit
        exact absurd hbreaks (h.inOrder _ _ _ (List.append_inj' hsplit rfl).1)

theorem Abreast.isKnown_of_none (h : Abreast c₀ frames c)
    (hunknown : findStream c frame = none) : isKnown c₀ frame = false := by
  have hsame : (findStream c frame).map _ = (findStream c₀ frame).map _ := h.streams.findStream
  rw [hunknown, Option.map_none, eq_comm, Option.map_eq_none_iff] at hsame
  rw [isKnown, hsame]
  rfl

/-- The offset to resume from has moved. -/
theorem Abreast.track (h : Abreast c₀ frames c) (ref : ℕ) (offset : Int64) (length : ℕ) :
    Abreast c₀ frames (c.modifyStream ref (trackReceived · offset length)) where
  connected := h.connected
  streams := h.streams.trans (sameStreams_modifyStream c ref offset length)
  inOrder := h.inOrder
  deliveries := h.deliveries

/-- A frame of an unknown stream is not delivered. -/
theorem Abreast.unknown (h : Abreast c₀ before c) (hunknown : isKnown c₀ frame = false) :
    Abreast c₀ (before ++ [frame]) c where
  connected := h.connected
  streams := h.streams
  inOrder := by
    refine inOrder_concat.mpr ⟨h.inOrder, fun hbreaks => ?_⟩
    exact Bool.false_ne_true (hunknown.symm.trans hbreaks.1)
  deliveries := by
    rw [List.filter_append, List.filter_cons_of_neg (by rw [hunknown]; exact Bool.false_ne_true),
      List.filter_nil, List.append_nil]
    exact h.deliveries

/-- A frame is delivered. -/
theorem Abreast.deliver (h : Abreast c₀ before c) (hknown : isKnown c₀ frame = true)
    (hframe : ¬ Breaks c₀ before frame) :
    Abreast c₀ (before ++ [frame])
      { c with written := c.written ++
          [.mediaReceived (idOf frame) frame.body (frame.offset.getD 0)] } where
  connected := h.connected
  streams := ⟨h.streams.streamStates, h.streams.streamObjects⟩
  inOrder := inOrder_concat.mpr ⟨h.inOrder, hframe⟩
  deliveries := by
    rw [List.filter_append, List.filter_cons_of_pos hknown, List.filter_nil, List.map_append,
      ← List.append_assoc, ← h.deliveries]
    exact List.filterMap_append

end Abreast

/-! ### The receive loop -/

theorem StandsBy.trans {c c' c'' : CulpeoStreamClient} (h : StandsBy c c')
    (h' : StandsBy c' c'') : StandsBy c c'' where
  connectState := h'.connectState.trans h.connectState
  closeProcessed := h'.closeProcessed.trans h.closeProcessed
  written := h'.written.trans h.written
  state hstate := h'.state (h.state hstate)
  streamStates := h'.streamStates.trans h.streamStates
  streamObjects := h'.streamObjects.trans h.streamObjects

/-- The calls besides the one that has connected. -/
def aside : Contract CulpeoStreamClient ClientAction ClientAnswer where
  inv c := c.connectState = true
  rel := StandsBy
  out _ := True
  ans _ _ := True

/-- What the receive loop is watched for. -/
def receiving (env : Environment) (o : CulpeoStreamClientOptions) (c₀ : CulpeoStreamClient) :
    Watch CulpeoStreamClient ClientAction ClientAnswer Result (ClientAction × ClientAnswer) where
  rely := StandsBy
  note action a := some (action, a)
  assume performed := ServedInOrder env c₀ (framesIn performed)
  holds performed c point := c.connectState = true ∧ ReceivedInOrder env o c₀ c performed point

/-- The rest of a call is safe wherever the client is abreast. -/
def SafeAbreast (env : Environment) (o : CulpeoStreamClientOptions) (c₀ : CulpeoStreamClient)
    (p : Rest) : Prop :=
  ∀ performed c, Abreast c₀ (framesIn performed) c → p.Safe (receiving env o c₀) performed c

section Loop

variable {env : Environment} {o : CulpeoStreamClientOptions} {c₀ c : CulpeoStreamClient}
  {before : List CulpeoMessage} {frame : CulpeoMessage} {rounds : ℕ}
  {performed earlier : List (ClientAction × ClientAnswer)} {action : ClientAction}
  {answer : ClientAnswer}

theorem framesIn_concat (performed : List (ClientAction × ClientAnswer)) (action : ClientAction)
    (answer : ClientAnswer) : framesIn (performed ++ [(action, answer)]) =
      framesIn performed ++ (mediaReceived action answer).toList := by
  unfold framesIn
  rw [List.filterMap_append, List.filterMap_cons, List.filterMap_nil]
  cases mediaReceived action answer <;> rfl

/-- An action that brings no frame. -/
theorem framesIn_concat_of_none (hnone : mediaReceived action answer = none) :
    framesIn (performed ++ [(action, answer)]) = framesIn performed := by
  rw [framesIn_concat, hnone, Option.toList_none, List.append_nil]

theorem framesIn_concat_of_some (hframe : mediaReceived action answer = some frame) :
    framesIn (performed ++ [(action, answer)]) = framesIn performed ++ [frame] := by
  rw [framesIn_concat, hframe, Option.toList_some]

theorem Abreast.holds (h : Abreast c₀ (framesIn performed) c) (point : Rest) :
    (receiving env o c₀).holds performed c point :=
  ⟨h.connected, h.received (.inl rfl)⟩

/-- Sending brings no frame. -/
theorem mediaReceived_of_sends (action : ClientAction) (haction : action.sends = true)
    (a : ClientAnswer) : mediaReceived action a = none := by
  cases action with
  | receiveMessage _ => cases haction
  | _ => rfl

theorem harmless_abreast (hquiet : ∀ a, mediaReceived action a = none) :
    (receiving env o c₀).Harmless (fun performed => Abreast c₀ (framesIn performed)) action := by
  intro a performed c h
  rw [show (receiving env o c₀).note action a = some (action, a) from rfl, Option.toList_some,
    framesIn_concat_of_none (hquiet a)]
  exact h

theorem sends_abreast :
    Sends (fun c c' => ∀ performed, Abreast c₀ (framesIn performed) c →
        Abreast c₀ (framesIn performed) c')
      ((receiving env o c₀).Harmless fun performed => Abreast c₀ (framesIn performed))
      (SafeAbreast env o c₀) where
  closed := closed_safe_everywhere (fun _ _ _ h hother => h.standsBy hother)
    fun _ _ point h => h.holds point
  refl _ _ h := h
  sends action haction := harmless_abreast (mediaReceived_of_sends action haction)

theorem safeAbreast_ret (result : Result) : SafeAbreast env o c₀ (.ret result) :=
  Prog.safe_ret (W := receiving env o c₀) (I := fun performed => Abreast c₀ (framesIn performed))
    (fun _ _ _ h hother => h.standsBy hother) (fun _ _ point h => h.holds point) result

/-- What follows a message, where the rest of the loop is safe. -/
theorem safe_afterFrame (hloop : SafeAbreast env o c₀ (receiveFramesAsync env o rounds .ret))
    (r : Except ClientExn Bool) : SafeAbreast env o c₀ (afterFrame env o rounds r) := by
  rcases r with e | _ | _
  · exact safeAbreast_ret _
  · exact hloop
  · exact safeAbreast_ret _

/-- **A frame that is refused** is the last one. -/
theorem safe_refuse (h : Abreast c₀ (framesIn earlier) c)
    (hframe : mediaReceived action answer = some frame) (reason : Text) :
    (refuse (utf16 "protocol-error") reason (afterFrame env o rounds) : Rest).Safe
      (receiving env o c₀) (earlier ++ [(action, answer)]) c := by
  -- The log goes on from the frame with what leads to the point.
  let At : List (ClientAction × ClientAnswer) → Rest → Prop := fun performed point =>
    ∃ since, performed = earlier ++ (action, answer) :: since ∧
      (refuse (utf16 "protocol-error") reason (afterFrame env o rounds)).Leads since point
  let I : List (ClientAction × ClientAnswer) → CulpeoStreamClient → Prop := fun performed c =>
    framesIn performed = framesIn earlier ++ [frame] ∧ Abreast c₀ (framesIn earlier) c
  have hholds : ∀ performed c point, I performed c → At performed point →
      (receiving env o c₀).holds performed c point := by
    rintro performed c point ⟨hframes, h⟩ ⟨since, hperformed, hleads⟩
    refine ⟨h.connected, h.received (.inr ⟨frame, hframes, fun _ => ?_⟩)⟩
    exact ⟨earlier, action, answer, since, rounds, hperformed, hframe, .inr ⟨reason, hleads⟩⟩
  have hsends : Sends (fun c c' => ∀ performed, I performed c → I performed c')
      ((receiving env o c₀).Harmless I)
      (fun p => ∀ performed c, At performed p → I performed c →
        p.Safe (receiving env o c₀) performed c) :=
    { closed := closed_safe At (fun _ _ _ h hother => ⟨h.1, h.2.standsBy hother⟩)
        (fun _ _ _ c ⟨since, hperformed, hleads⟩ => ⟨since, hperformed, hleads.locked c⟩)
        (fun _ _ _ a ⟨since, hperformed, hleads⟩ =>
          ⟨since ++ [(_, a)], by rw [hperformed, List.append_assoc]; rfl, hleads.call a⟩)
        hholds
      refl := fun _ _ h => h
      sends := fun action' haction a performed c h => by
        refine ⟨?_, h.2⟩
        rw [← h.1]
        exact framesIn_concat_of_none (mediaReceived_of_sends action' haction a) }
  have hend : ∀ performed c, At performed (.ret (.ok ())) → I performed c →
      (Prog.ret (.ok ()) : Rest).Safe (receiving env o c₀) performed c :=
    fun performed c hat h d hother => hholds _ _ _ ⟨h.1, h.2.standsBy hother⟩ hat
  exact hsends.sendFrameAsync (buildCloseFrame _ reason) (fun _ => .ret (.ok ())) (fun _ => hend)
    _ _ ⟨[], rfl, .refl⟩ ⟨framesIn_concat_of_some hframe, h⟩

/-- The event of a frame that is delivered is written, or the loop ends. -/
theorem safe_writeAsync (h : Abreast c₀ before c) (hperformed : framesIn performed = before ++ [frame])
    (hknown : isKnown c₀ frame = true) (hframe : ¬ Breaks c₀ before frame)
    {next : Result → Rest} (hok : SafeAbreast env o c₀ (next (.ok ())))
    (herror : ∀ e, ∃ result, next (.error e) = .ret result) :
    (writeAsync (.mediaReceived (idOf frame) frame.body (frame.offset.getD 0)) next).Safe
      (receiving env o c₀) performed c := by
  have hholds : ∀ {performed c} point, framesIn performed = before ++ [frame] →
      Abreast c₀ before c → (receiving env o c₀).holds performed c point := fun point hperformed h =>
    ⟨h.connected, h.received (.inr ⟨frame, hperformed, fun hbreaks => absurd hbreaks hframe⟩)⟩
  have hthrow : ∀ {performed c} e, framesIn performed = before ++ [frame] → Abreast c₀ before c →
      (next (.error e)).Safe (receiving env o c₀) performed c := by
    intro performed c e hperformed h
    obtain ⟨result, hresult⟩ := herror e
    rw [hresult]
    exact fun d hd => hholds _ hperformed (h.standsBy hd)
  refine fun c hc => ⟨hholds _ hperformed (h.standsBy hc), fun a _ => ?_⟩
  have hafter : framesIn (performed ++ [(.waitToWrite
      (.mediaReceived (idOf frame) frame.body (frame.offset.getD 0)), a)]) = before ++ [frame] :=
    (framesIn_concat_of_none rfl).trans hperformed
  rw [show (receiving env o c₀).note _ a = some (_, a) from rfl, Option.toList_some]
  replace h := h.standsBy hc
  dsimp only
  cases a.asUnit with
  | error e => exact hthrow e hafter h
  | ok _ =>
      refine fun d hd => ⟨hholds _ hafter (h.standsBy hd), ?_⟩
      replace h := h.standsBy hd
      dsimp only
      split
      · exact hthrow _ hafter h
      · refine hok _ _ ?_
        rw [hafter]
        exact h.deliver hknown hframe

/-- **`HandleIncomingMediaAsync`**, where the server keeps to the sequence. -/
theorem safe_handleIncomingMediaAsync
    (hloop : SafeAbreast env o c₀ (receiveFramesAsync env o rounds .ret))
    (h : Abreast c₀ (framesIn earlier) c) (hframe : mediaReceived action answer = some frame)
    (hserver : ServedInOrder env c₀ (framesIn earlier ++ [frame])) :
    (handleIncomingMediaAsync env frame (afterFrame env o rounds)).Safe (receiving env o c₀)
      (earlier ++ [(action, answer)]) c := by
  have hnext := safe_afterFrame hloop
  have hperformed : framesIn (earlier ++ [(action, answer)]) = framesIn earlier ++ [frame] :=
    framesIn_concat_of_some hframe
  refine fun d hd => ⟨?_, ?_⟩
  · refine ⟨(h.standsBy hd).connected, (h.standsBy hd).received (.inr ⟨frame, hperformed, ?_⟩)⟩
    exact fun _ => ⟨earlier, action, answer, [], rounds, rfl, hframe, .inl ⟨rfl, rfl⟩⟩
  replace h := h.standsBy hd
  dsimp only
  have hfind : (if (frame.streamId.getD []).isEmpty then none
      else d.tryGetStream (frame.streamId.getD [])) = findStream d frame := rfl
  rw [hfind]
  cases hfound : findStream d frame with
  | none =>
      refine sends_abreast.refuse _ _ _ hnext _ _ ?_
      rw [hperformed]
      exact h.unknown (h.isKnown_of_none hfound)
  | some found =>
      obtain ⟨ref, stream⟩ := found
      obtain ⟨stream₀, hfound₀, hcontent⟩ := h.streams.found hfound
      dsimp only
      split
      · exact safe_refuse h hframe _
      · rename_i hmismatch
        have hfits : ContentTypeFits env stream₀ frame := by
          rw [Bool.and_eq_true, Bool.not_eq_true', Bool.not_eq_true', not_and_or,
            Bool.not_eq_false, Bool.not_eq_false, hcontent] at hmismatch
          exact hmismatch
        have hknown : isKnown c₀ frame = true := by rw [isKnown, hfound₀]; rfl
        have hcontinues : ¬ Breaks c₀ (framesIn earlier) frame := fun hbreaks =>
          hbreaks.2 (hserver _ frame [] rfl ref stream₀ hfound₀ hfits)
        -- The offset to resume from moves, which no event shows.
        refine fun e he => ⟨⟨(h.standsBy he).connected, (h.standsBy he).received
          (.inr ⟨frame, hperformed, fun hbreaks => absurd hbreaks hcontinues⟩)⟩, ?_⟩
        refine safe_writeAsync ((h.standsBy he).track ref _ _) hperformed hknown hcontinues ?_ ?_
        · exact hnext _
        · exact fun _ => ⟨_, rfl⟩

/-- An event that is not a media event. -/
theorem Abreast.write {frames : List CulpeoMessage} (h : Abreast c₀ frames c)
    {event : CulpeoClientEvent} (hevent : asDelivered event = none) :
    Abreast c₀ frames { c with written := c.written ++ [event] } where
  connected := h.connected
  streams := ⟨h.streams.streamStates, h.streams.streamObjects⟩
  inOrder := h.inOrder
  deliveries := by
    rw [← h.deliveries, CulpeoStreamClient.deliveries, List.filterMap_append,
      List.filterMap_cons_none hevent, List.filterMap_nil, List.append_nil]
    rfl

theorem abreast_handleCloseAsync (frame : CulpeoMessage) :
    Async.Keeps (SafeAbreast env o c₀) (handleCloseAsync frame) := by
  refine (sends_abreast.trySendFrameAsync _).bind fun _ => Async.Keeps.bind ?_ fun _ =>
    (sends_abreast.writeAsync (harmless_abreast fun _ => rfl) fun _ _ h => h.write rfl).bind
      fun _ => Async.Keeps.bind ?_ fun _ => Async.keeps_pure _
  · exact sends_abreast.closed.update fun _ _ h => ⟨h.connected, ⟨h.streams.streamStates,
      h.streams.streamObjects⟩, h.inOrder, h.deliveries⟩
  · exact sends_abreast.closed.update fun _ _ h => ⟨h.connected, ⟨h.streams.streamStates,
      h.streams.streamObjects⟩, h.inOrder, h.deliveries⟩

theorem abreast_dispatchFrameAsync (hcontrol : frame.kind = .control) :
    Async.Keeps (SafeAbreast env o c₀) (dispatchFrameAsync env o frame) := by
  unfold dispatchFrameAsync
  rw [hcontrol]
  dsimp only
  split
  · exact abreast_handleCloseAsync frame
  · split
    · exact sends_abreast.handleAuthRefreshAsync env o (harmless_abreast fun _ => rfl) frame
    · split
      · exact sends_abreast.handlePingAsync env (harmless_abreast fun _ => rfl) frame
      · split
        · exact Async.keeps_pure _
        · exact sends_abreast.handleApplicationEventAsync env
            (fun _ _ => harmless_abreast fun _ => rfl) (fun _ _ _ _ h => h.write rfl) frame

/-- What the loop does with a message that has been received. -/
def handleMessage (env : Environment) (o : CulpeoStreamClientOptions) (kind : CulpeoMessageKind)
    (data : Bytes) : Method Bool :=
  match parseAsync {} data kind with
  | .error (.format _) => refuse (utf16 "protocol-error") (utf16 "Malformed frame.")
  | .error e => throw (.parse e)
  | .ok frame => dispatchFrameAsync env o frame

theorem safe_handleMessage (hloop : SafeAbreast env o c₀ (receiveFramesAsync env o rounds .ret))
    (h : Abreast c₀ (framesIn earlier) c) (kind : CulpeoMessageKind) (data : Bytes)
    (hmessage : mediaReceived action answer = readMedia kind data)
    (hserver : ServedInOrder env c₀ (framesIn (earlier ++ [(action, answer)]))) :
    (handleMessage env o kind data (afterFrame env o rounds)).Safe (receiving env o c₀)
      (earlier ++ [(action, answer)]) c := by
  have hnext := safe_afterFrame hloop
  -- A message that is no media frame leaves the loop where it was.
  have hquiet : mediaReceived action answer = none →
      Abreast c₀ (framesIn (earlier ++ [(action, answer)])) c := by
    intro hnone
    rw [framesIn_concat_of_none hnone]
    exact h
  unfold readMedia at hmessage
  unfold handleMessage
  revert hmessage
  cases parseAsync {} data kind with
  | error e =>
      intro hnone
      cases e with
      | format message => exact sends_abreast.refuse _ _ _ hnext _ _ (hquiet hnone)
      | _ => exact hnext _ _ _ (hquiet hnone)
  | ok frame =>
      dsimp only
      intro hmessage
      cases hkind : frame.kind with
      | media =>
          rw [if_pos hkind] at hmessage
          rw [framesIn_concat_of_some hmessage] at hserver
          unfold dispatchFrameAsync
          rw [hkind]
          exact safe_handleIncomingMediaAsync hloop h hmessage hserver
      | control =>
          rw [if_neg (by rw [hkind]; exact nofun)] at hmessage
          exact abreast_dispatchFrameAsync hkind _ hnext _ _ (hquiet hmessage)

theorem safe_receiveFrameAsync
    (hloop : SafeAbreast env o c₀ (receiveFramesAsync env o rounds .ret)) (socket : ℕ) :
    SafeAbreast env o c₀ (receiveFrameAsync env o socket (afterFrame env o rounds)) := by
  refine fun performed c h d hd => ⟨(h.standsBy hd).holds _, fun a hserver => ?_⟩
  replace h := h.standsBy hd
  have hnext := safe_afterFrame hloop
  -- An answer that brings no frame leaves the loop where it was.
  have hquiet : ∀ {p : Rest}, mediaReceived (.receiveMessage socket) a = none →
      SafeAbreast env o c₀ p →
        p.Safe (receiving env o c₀) (performed ++ [(.receiveMessage socket, a)]) d := by
    intro p hnone hp
    refine hp _ _ ?_
    rw [framesIn_concat_of_none hnone]
    exact h
  cases a with
  | message messageType data =>
      cases messageType with
      | close => exact hquiet rfl (hnext _)
      | text => exact safe_handleMessage hloop h .control data rfl hserver
      | binary => exact safe_handleMessage hloop h .media data rfl hserver
  | raises e =>
      refine hquiet rfl ?_
      cases e <;> exact hnext _
  | done | token _ | isOpen _ | time _ => exact hquiet rfl (hnext _)

/-- **`ReceiveFramesAsync`**, by induction on the messages. -/
theorem safe_receiveFramesAsync (rounds : ℕ) :
    SafeAbreast env o c₀ (receiveFramesAsync env o rounds .ret) := by
  induction rounds with
  | zero => exact safeAbreast_ret _
  | succ rounds ih =>
      unfold receiveFramesAsync
      refine sends_abreast.read cancelled _ fun r => ?_
      cases r with
      | error e => exact safeAbreast_ret _
      | ok cancelled =>
          cases cancelled with
          | true => exact safeAbreast_ret _
          | false =>
              dsimp only
              rw [if_neg Bool.false_ne_true]
              refine sends_abreast.read ws _ fun r => ?_
              rcases r with e | _ | socket
              · exact safeAbreast_ret _
              · exact safeAbreast_ret _
              · refine (congrArg (fun next => SafeAbreast env o c₀
                  (receiveFrameAsync env o socket next)) (funext fun r => ?_)).mpr
                  (safe_receiveFrameAsync ih socket)
                rcases r with e | _ | _ <;> rfl

end Loop

/-! ### Runs -/

section Runs

variable (env : Environment) (o : CulpeoStreamClientOptions) (rounds : ℕ)
  (c₀ : CulpeoStreamClient) (others : List Rest)

/-- The receive loop of a connection, which a handshake has left in a state, and other calls. -/
def connection : Calls := ⟨c₀, receiveFramesAsync env o rounds .ret :: others, []⟩

/-- The actions of the receive loop, with their answers. -/
def loopActions (moves : List (Move ClientCall ClientAnswer)) : List (ClientAction × ClientAnswer) :=
  answered (enter env o rounds) (fun i action a => if i = 0 then some (action, a) else none)
    (connection env o rounds c₀ others) moves

/-- The media frames that the receive loop gets. -/
def framesReceived (moves : List (Move ClientCall ClientAnswer)) : List CulpeoMessage :=
  framesIn (loopActions env o rounds c₀ others moves)

theorem closed_aside :
    Async.Closed StandsBy (fun _ => True) fun p : Rest => p.Meets aside :=
  (Async.closed_meets aside).narrow
    (fun _ _ h hconnected => ⟨h.connectState.trans hconnected, h⟩) fun _ => id

theorem fits_receiving : Fits (enter env o rounds) (receiving env o c₀) aside where
  refl := StandsBy.refl
  trans _ _ _ h h' := h.trans h'
  rely _ _ h := h
  inv _ _ _ h := h.1
  enter call c hconnected := by
    obtain ⟨hsame, hmeets⟩ := enter_good closed_aside (fun _ _ => trivial) (fun _ => trivial)
      env o rounds call (.inl hconnected)
    refine ⟨?_, ?_, hmeets⟩
    · rw [hsame]
      exact hconnected
    · rw [hsame]
      exact .refl c
  answers _ _ := trivial
  assume performed performed' h before frame after hsplit := by
    refine h before frame (after ++ framesIn performed') ?_
    rw [← List.cons_append, ← List.append_assoc, ← hsplit]
    exact List.filterMap_append

variable {env o rounds c₀ others}

/-- **What a client delivers is in order** in every run on a connection, with any calls besides
the receive loop, in which the server keeps to the sequence. -/
theorem receives_in_order (hconnected : c₀.connectState = true)
    (hothers : ∀ p ∈ others, p.Meets aside) (moves : List (Move ClientCall ClientAnswer))
    (hserver : ServedInOrder env c₀ (framesReceived env o rounds c₀ others moves)) :
    ∃ point, (run (enter env o rounds) (connection env o rounds c₀ others) moves).pool[0]? =
        some point ∧
      ReceivedInOrder env o c₀
        (run (enter env o rounds) (connection env o rounds c₀ others) moves).shared
        (loopActions env o rounds c₀ others moves) point := by
  have hbegin : Abreast c₀ [] c₀ := by
    refine ⟨hconnected, ⟨rfl, rfl⟩, inOrder_nil, ?_⟩
    exact (List.append_nil _).symm
  have hwatched : Watched (receiving env o c₀) aside [] (connection env o rounds c₀ others) := by
    refine ⟨_, rfl, safe_receiveFramesAsync rounds _ _ hbegin, fun j p hj hp => ?_⟩
    cases j with
    | zero => exact absurd rfl hj
    | succ j => exact hothers p (List.mem_of_getElem? hp)
  obtain ⟨point, hpoint, -, hreceived⟩ :=
    (watched_run (fits_receiving env o rounds c₀) moves hwatched hserver).holds StandsBy.refl
  exact ⟨point, hpoint, hreceived⟩

end Runs

/-! ### A gap -/

/-- A stream on which the server sends. -/
def news : ConfirmedStream where
  offsetType := .message
  serverId := utf16 "s"
  contentType := utf16 "a/b"
  type := .output
  purpose := none

/-- A client that has connected, and has the one stream. -/
def newsClient : CulpeoStreamClient :=
  ({ state := .established, connectState := true, ws := some 0, sockets := 1 } :
    CulpeoStreamClient).addStream news

/-- A frame on the stream, with a `Content-Type` or without one. -/
def newsFrame (offset : Int64) (contentType : Option Text := none) : CulpeoMessage where
  kind := .media
  body := [1]
  contentType := contentType
  streamId := some (utf16 "s")
  offset := some offset

/-- The receive loop gets a message and looks for its stream. -/
def receiveMoves (frame : CulpeoMessage) : List (Move ClientCall ClientAnswer) :=
  [.resume 0 .done, .resume 0 .done, .resume 0 (.message .binary (serializeAsync frame)),
    .resume 0 .done]

/-- The loop gets a frame, and writes an event. -/
def deliverMoves (frame : CulpeoMessage) : List (Move ClientCall ClientAnswer) :=
  receiveMoves frame ++ [.resume 0 .done, .resume 0 .done, .resume 0 .done]

/-- The loop gets a frame, and sends on the open socket. -/
def refuseMoves (frame : CulpeoMessage) : List (Move ClientCall ClientAnswer) :=
  receiveMoves frame ++ [.resume 0 .done, .resume 0 .done, .resume 0 (.isOpen true),
    .resume 0 .done, .resume 0 .done, .resume 0 .done]

theorem news_streams : [(⟨utf16 "a/b", .output, .message, none⟩ : StreamDeclaration)] ≠ [] :=
  List.cons_ne_nil _ _

theorem news_token : (some (utf16 "t")).isSome = true ∨ false = true := .inl rfl

def newsOptions : CulpeoStreamClientOptions where
  authorization := some (utf16 "t")
  streams := [⟨utf16 "a/b", .output, .message, none⟩]
  streams_ne_nil := news_streams
  has_token := news_token

/-- The first frame has the offset 5, and is delivered. -/
theorem not_receives_in_order :
    ¬ ∀ (env : Environment) (o : CulpeoStreamClientOptions) (rounds : ℕ)
      (c₀ : CulpeoStreamClient) (moves : List (Move ClientCall ClientAnswer)),
      c₀.connectState = true →
      ∃ point, (run (enter env o rounds) (connection env o rounds c₀ []) moves).pool[0]? =
          some point ∧
        ReceivedInOrder env o c₀
          (run (enter env o rounds) (connection env o rounds c₀ []) moves).shared
          (loopActions env o rounds c₀ [] moves) point := by
  intro hinOrder
  obtain ⟨point, -, hreceived⟩ :=
    hinOrder (.reading []) newsOptions 1 newsClient (deliverMoves (newsFrame 5)) rfl
  have hcontiguous := hreceived.contiguous (utf16 "s") 0 news rfl
  have hoffset := hcontiguous 0 ⟨utf16 "s", [1], 5⟩ (by rfl)
  exact absurd hoffset (by decide)

/-- Two frames in order, and one with a gap and another `Content-Type`. -/
def newsFrames : List CulpeoMessage :=
  [newsFrame 0, newsFrame 1, newsFrame 7 (some (utf16 "c/d"))]

def newsMoves : List (Move ClientCall ClientAnswer) :=
  deliverMoves (newsFrame 0) ++ deliverMoves (newsFrame 1) ++
    refuseMoves (newsFrame 7 (some (utf16 "c/d")))

theorem servedInOrder_newsFrames : ServedInOrder (.reading []) newsClient newsFrames := by
  refine servedInOrder_concat.mpr ⟨servedInOrder_concat.mpr ⟨servedInOrder_concat.mpr
    ⟨servedInOrder_nil, ?_⟩, ?_⟩, ?_⟩
  · intro _ _ hfound _
    exact ⟨0, news, rfl, nofun, rfl⟩
  · intro _ _ hfound _
    exact ⟨0, news, rfl, nofun, rfl⟩
  · intro ref stream hfound hfits
    cases hfound
    rcases hfits with hblank | hmatch
    · exact absurd hblank (by decide)
    · exact absurd hmatch (by decide)

theorem receives_in_order_news :
    ∃ point, (run (enter (.reading []) newsOptions 3)
        (connection (.reading []) newsOptions 3 newsClient []) newsMoves).pool[0]? =
        some point ∧
      ReceivedInOrder (.reading []) newsOptions newsClient
        (run (enter (.reading []) newsOptions 3)
          (connection (.reading []) newsOptions 3 newsClient []) newsMoves).shared
        (loopActions (.reading []) newsOptions 3 newsClient [] newsMoves) point := by
  refine receives_in_order rfl (List.forall_mem_nil _) newsMoves ?_
  have hframes : framesReceived (.reading []) newsOptions 3 newsClient [] newsMoves =
      newsFrames := by rfl
  rw [hframes]
  exact servedInOrder_newsFrames

end CulpeoStreamClient

end CulpeoStream.Dotnet
