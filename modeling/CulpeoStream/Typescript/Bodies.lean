import CulpeoStream.Typescript.Headers

/-!
# Which headers a message carries

`parseBody` makes a message of headers that are complete (`parseBody_ok_iff`).  Some of their
values go into the message as they stand (`carried_of_parseBody`); of the others only the
numbers count (`parseBody_congr`).
-/

namespace CulpeoStream.Typescript

open Message Search Utf16

variable {J : Type}

/-! ### Numbers -/

/-- A header that is missing, or has a number in the range of a double. -/
def Numeric (headers : Headers) (name : Text) : Prop :=
  ∀ value ∈ headers name, ∃ n, parseInt value = some n ∧ n.natAbs < Binary64.overflow

def Present (headers : Headers) (name : Text) : Prop := (headers name).isSome = true

theorem parseNumber_ok_iff {headers : Headers} {name : Text} :
    (∃ n, parseNumber headers name = .ok n) ↔ Numeric headers name := by
  unfold parseNumber Numeric
  cases headers name with
  | none => simp
  | some value =>
      cases hparse : parseInt value with
      | none => simp [hparse]
      | some n =>
          by_cases hlarge : Binary64.overflow ≤ n.natAbs
          · simp [hparse, hlarge]
          · simp [hparse, hlarge, not_le.mp hlarge]

/-- A number is read where there is a header. -/
theorem isSome_of_parseNumber {headers : Headers} {name : Text} {n : Option ℤ}
    (h : parseNumber headers name = .ok n) : n.isSome = true ↔ Present headers name := by
  unfold parseNumber at h
  unfold Present
  split at h
  · rename_i hnone
    rw [hnone]
    cases h
    exact iff_of_false Bool.false_ne_true Bool.false_ne_true
  · rename_i value hvalue
    rw [hvalue]
    split at h
    · cases h
    · split at h
      · cases h
      · cases h
        exact iff_of_true rfl rfl

theorem isDigit_of_isSpace {u : UInt16} (h : isSpace u = true) : isDigit u = false := by
  have hdigit : isDigit u = true → isSpace u = false := by
    intro hdigit
    have hrange : unit '0' ≤ u ∧ u ≤ unit '9' := by simpa [isDigit] using hdigit
    have hlow : 48 ≤ u.toNat := UInt16.le_iff_toNat_le.mp hrange.1
    have hhigh : u.toNat ≤ 57 := UInt16.le_iff_toNat_le.mp hrange.2
    have hall : ∀ n < 58, 48 ≤ n → isSpace (UInt16.ofNat n) = false := by decide
    have hu := hall u.toNat (by omega) hlow
    rwa [UInt16.ofNat_toNat] at hu
  cases hu : isDigit u with
  | false => rfl
  | true =>
      rw [hdigit hu] at h
      cases h

/-- White space behind a number does not matter. -/
theorem parseInt_append {blank : Text} (h : ∀ u ∈ blank, isSpace u = true) (value : Text) :
    parseInt (value ++ blank) = parseInt value := by
  have hdrop : blank.dropWhile isSpace = [] := List.dropWhile_eq_nil_iff.mpr h
  have hdigits : ∀ s : Text, (s ++ blank).takeWhile isDigit = s.takeWhile isDigit := by
    have htake : blank.takeWhile isDigit = [] := by
      cases blank with
      | nil => rfl
      | cons u rest =>
          rw [List.takeWhile_cons_of_neg]
          rw [isDigit_of_isSpace (h u List.mem_cons_self)]
          exact Bool.false_ne_true
    intro s
    induction s with
    | nil => exact htake
    | cons u rest ih => rw [List.cons_append, List.takeWhile_cons, List.takeWhile_cons, ih]
  unfold parseInt
  rw [List.dropWhile_append, hdrop]
  cases value.dropWhile isSpace with
  | nil => rfl
  | cons c rest =>
      rw [List.isEmpty_cons, if_neg Bool.false_ne_true, List.cons_append]
      dsimp only
      rw [← List.cons_append, ← apply_ite (· ++ blank) (c = unit '+' ∨ c = unit '-'), hdigits]

theorem parseInt_trim (value : Text) : parseInt (trim value) = parseInt value := by
  obtain ⟨front, back, hfront, hback, hvalue⟩ := Strip.exists_strip isSpace value
  have hskip : parseInt (front ++ (trim value ++ back)) = parseInt (trim value ++ back) := by
    unfold parseInt
    rw [List.dropWhile_append_of_pos hfront]
  calc parseInt (trim value) = parseInt (trim value ++ back) := (parseInt_append hback _).symm
    _ = parseInt (front ++ (trim value ++ back)) := hskip.symm
    _ = parseInt value := congrArg parseInt hvalue.symm

theorem text_of_ofText {event : Text} {known : KnownProtocolEvent}
    (h : KnownProtocolEvent.ofText event = some known) : event = known.text :=
  (of_decide_eq_true (List.find?_some h :)).symm

/-! ### Control frames -/

namespace KnownProtocolEvent

/-- What a known event needs beside its name. -/
def Complete (headers : Headers) : KnownProtocolEvent → Prop
  | init => Numeric headers (utf16 "buffer-window")
  | initAck => Present headers (utf16 "session-id") ∧ Numeric headers (utf16 "buffer-window")
  | initError | close => Present headers (utf16 "code") ∧ Present headers (utf16 "reason")
  | ping | pong | authRefresh | authResponse => True

/-- The headers that a known event takes over as they stand. -/
def carries : KnownProtocolEvent → List Text
  | init => [utf16 "authorization", utf16 "session-id"]
  | initAck => [utf16 "session-id"]
  | initError | close => [utf16 "code", utf16 "reason"]
  | authResponse => [utf16 "authorization"]
  | ping | pong | authRefresh => []

/-- A frame with a code and a reason. -/
def ending (headers : Headers) (make : Text → Text → Frame J) (message : String) :
    Except Thrown (Frame J) :=
  match headers (utf16 "code"), headers (utf16 "reason") with
  | some code, some reason => .ok (make code reason)
  | _, _ => throwProtocolError message

/-- The branch of a known event. -/
def frame (headers : Headers) (body : J) : KnownProtocolEvent → Except Thrown (Frame J)
  | init => do
      let authorization := (headers (utf16 "authorization")).getD []
      let bufferWindow ← parseNumber headers (utf16 "buffer-window")
      let sessionId := headers (utf16 "session-id")
      return .init { authorization, bufferWindow, sessionId } body
  | initAck =>
      match headers (utf16 "session-id") with
      | none => throwProtocolError "culpeo.init-ack requires Session-Id."
      | some sessionId => do
          let bufferWindow ← parseNumber headers (utf16 "buffer-window")
          return .initAck { sessionId, bufferWindow } body
  | initError =>
      ending headers (fun code reason => .initError code reason body)
        "culpeo.init-error requires Code and Reason."
  | ping => .ok (.ping body)
  | pong => .ok (.pong body)
  | authRefresh => .ok (.authRefresh body)
  | authResponse => .ok (.authResponse ((headers (utf16 "authorization")).getD []) body)
  | close =>
      ending headers (fun code reason => .close code reason body)
        "culpeo.close requires Code and Reason."

end KnownProtocolEvent

theorem parseControlFrame_known {headers : Headers} {known : KnownProtocolEvent} (body : J)
    (h : headers (utf16 "event") = some known.text) :
    parseControlFrame headers body = known.frame headers body := by
  unfold parseControlFrame
  rw [h]
  cases known <;> rfl

theorem parseControlFrame_unknown {headers : Headers} {event : Text} (body : J)
    (h : headers (utf16 "event") = some event)
    (hunknown : KnownProtocolEvent.ofText event = none) :
    parseControlFrame headers body = .ok (.application
      { event
        headers :=
          { event
            contentType := headers (utf16 "content-type")
            streamId := headers (utf16 "stream-id") }
        body
        unknown := hunknown }) := by
  unfold parseControlFrame
  rw [h]
  dsimp only
  split
  case h_9 => rfl
  all_goals
    rename_i hknown
    rw [hunknown] at hknown
    cases hknown

theorem parseControlFrame_missing {headers : Headers} (body : J)
    (h : headers (utf16 "event") = none) :
    ∀ frame, parseControlFrame headers body ≠ .ok frame := by
  intro frame
  unfold parseControlFrame
  rw [h]
  exact Checks.error_ne_ok frame

namespace KnownProtocolEvent

theorem ending_ok_iff {headers : Headers} {make : Text → Text → Frame J} {message : String}
    {made : Frame J} :
    ending headers make message = .ok made ↔
      ∃ code reason, headers (utf16 "code") = some code ∧
        headers (utf16 "reason") = some reason ∧ make code reason = made := by
  unfold ending
  cases headers (utf16 "code") <;> cases headers (utf16 "reason") <;> simp [throwProtocolError]

theorem ending_complete_iff {headers : Headers} {make : Text → Text → Frame J}
    {message : String} :
    (∃ made, ending headers make message = .ok made) ↔
      Present headers (utf16 "code") ∧ Present headers (utf16 "reason") := by
  simp only [ending_ok_iff, Present, Option.isSome_iff_exists]
  constructor
  · rintro ⟨_, code, reason, hcode, hreason, rfl⟩
    exact ⟨⟨code, hcode⟩, reason, hreason⟩
  · rintro ⟨⟨code, hcode⟩, reason, hreason⟩
    exact ⟨_, code, reason, hcode, hreason, rfl⟩

theorem frame_ok_iff {headers : Headers} {body : J} {known : KnownProtocolEvent} :
    (∃ made, known.frame headers body = .ok made) ↔ known.Complete headers := by
  cases known with
  | init =>
      show _ ↔ Numeric headers (utf16 "buffer-window")
      rw [← parseNumber_ok_iff]
      exact Checks.exists_bind_ok_iff.trans (by simp [pure, Except.pure])
  | initAck =>
      unfold frame Complete Present
      rw [← parseNumber_ok_iff]
      cases headers (utf16 "session-id") with
      | none => simp [throwProtocolError]
      | some sessionId =>
          exact Checks.exists_bind_ok_iff.trans (by simp [pure, Except.pure])
  | initError | close => exact ending_complete_iff
  | ping | pong | authRefresh | authResponse => exact iff_of_true ⟨_, rfl⟩ trivial

/-- Only the headers that are carried count, and the numbers. -/
theorem frame_congr {headers headers' : Headers} (body : J) {known : KnownProtocolEvent}
    (hcarries : ∀ name ∈ known.carries, headers' name = headers name)
    (hnumber : parseNumber headers' (utf16 "buffer-window") =
      parseNumber headers (utf16 "buffer-window")) :
    known.frame headers' body = known.frame headers body := by
  cases known with
  | init | initAck | initError | close | authResponse =>
      simp only [carries, List.forall_mem_cons, List.not_mem_nil, IsEmpty.forall_iff,
        implies_true, and_true] at hcarries
      simp only [frame, ending, hcarries, hnumber]
  | ping | pong | authRefresh => rfl

end KnownProtocolEvent

/-! ### Messages -/

/-- The values that a message has taken over, with its event first when it has one. -/
def Frame.carried : Frame J → List Text
  | .media headers _ => [headers.streamId, headers.contentType]
  | .init headers _ => [KnownProtocolEvent.init.text, headers.authorization,
      headers.sessionId.getD []]
  | .initAck headers _ => [KnownProtocolEvent.initAck.text, headers.sessionId]
  | .initError code reason _ => [KnownProtocolEvent.initError.text, code, reason]
  | .ping _ => [KnownProtocolEvent.ping.text]
  | .pong _ => [KnownProtocolEvent.pong.text]
  | .authRefresh _ => [KnownProtocolEvent.authRefresh.text]
  | .authResponse authorization _ => [KnownProtocolEvent.authResponse.text, authorization]
  | .close code reason _ => [KnownProtocolEvent.close.text, code, reason]
  | .application message => [message.event, message.headers.contentType.getD [],
      message.headers.streamId.getD []]

/-- The headers that a control frame takes over beside its event. -/
def eventCarries (event : Text) : List Text :=
  match KnownProtocolEvent.ofText event with
  | some known => known.carries
  | none => [utf16 "content-type", utf16 "stream-id"]

/-- The headers that a message takes over as they stand. -/
def carriedNames (headers : Headers) : TransportMessageType → List Text
  | .binary => [utf16 "stream-id", utf16 "content-type"]
  | .text => utf16 "event" :: ((headers (utf16 "event")).map eventCarries).getD []

/-- The headers and the body make a message. -/
inductive Complete (platform : Platform J) (headers : Headers) (body : Bytes) :
    TransportMessageType → Prop where
  | binary (streamId : Present headers (utf16 "stream-id"))
      (contentType : Present headers (utf16 "content-type"))
      (offset : Present headers (utf16 "offset")) (integer : Numeric headers (utf16 "offset"))
      (timestamp : Numeric headers (utf16 "timestamp")) : Complete platform headers body .binary
  | text (json : J) (object : parseJsonObject platform body = .ok json) (event : Text)
      (named : headers (utf16 "event") = some event)
      (known : ∀ known, KnownProtocolEvent.ofText event = some known → known.Complete headers) :
      Complete platform headers body .text

theorem parseMediaFrame_ok_iff {headers : Headers} {body : Bytes} {frame : Frame J} :
    parseMediaFrame headers body = .ok frame ↔
      ∃ media : MediaHeaders, frame = .media media body ∧
        headers (utf16 "stream-id") = some media.streamId ∧
        headers (utf16 "content-type") = some media.contentType ∧
        parseNumber headers (utf16 "offset") = .ok (some media.offset) ∧
        parseNumber headers (utf16 "timestamp") = .ok media.timestamp := by
  constructor
  · intro h
    obtain ⟨offset, hoffset, h⟩ := Checks.exists_of_bind_ok h
    dsimp only at h
    split at h
    · rename_i streamId offset contentType hstream hcontent
      obtain ⟨timestamp, htimestamp, h⟩ := Checks.exists_of_bind_ok h
      cases h
      exact ⟨⟨streamId, offset, contentType, timestamp⟩, rfl, hstream, hcontent, hoffset,
        htimestamp⟩
    · cases h
  · rintro ⟨media, rfl, hstream, hcontent, hoffset, htimestamp⟩
    unfold parseMediaFrame
    rw [hoffset, hstream, hcontent]
    show (parseNumber headers (utf16 "timestamp") >>= _) = _
    rw [htimestamp]
    rfl

/-- What is read from the headers of a control frame. -/
theorem parseControlFrame_ok_iff {headers : Headers} {json : J} :
    (∃ frame, parseControlFrame headers json = .ok frame) ↔
      ∃ event, headers (utf16 "event") = some event ∧
        ∀ known, KnownProtocolEvent.ofText event = some known → known.Complete headers := by
  cases hevent : headers (utf16 "event") with
  | none =>
      refine iff_of_false ?_ ?_
      · rintro ⟨frame, hframe⟩
        exact parseControlFrame_missing json hevent frame hframe
      · rintro ⟨event, ⟨⟩, -⟩
  | some event =>
      cases hknown : KnownProtocolEvent.ofText event with
      | none =>
          rw [parseControlFrame_unknown json hevent hknown]
          refine iff_of_true ⟨_, rfl⟩ ⟨event, rfl, fun known h => ?_⟩
          rw [hknown] at h
          cases h
      | some known =>
          obtain rfl := text_of_ofText hknown
          rw [parseControlFrame_known json hevent, KnownProtocolEvent.frame_ok_iff]
          constructor
          · intro hcomplete
            refine ⟨_, rfl, fun known' h => ?_⟩
            obtain rfl : known = known' := Option.some.inj (hknown.symm.trans h)
            exact hcomplete
          · rintro ⟨event, ⟨⟩, hcomplete⟩
            exact hcomplete known hknown

/-- **What makes a message.** -/
theorem parseBody_ok_iff {platform : Platform J} {headers : Headers} {body : Bytes}
    {frameType : TransportMessageType} :
    (∃ frame, parseBody platform headers body frameType = .ok frame) ↔
      Complete platform headers body frameType := by
  cases frameType with
  | binary =>
      show (∃ frame, parseMediaFrame headers body = .ok frame) ↔ _
      simp only [parseMediaFrame_ok_iff]
      constructor
      · rintro ⟨_, media, rfl, hstream, hcontent, hoffset, htimestamp⟩
        exact .binary (by rw [Present, hstream]; rfl) (by rw [Present, hcontent]; rfl)
          ((isSome_of_parseNumber hoffset).mp rfl) (parseNumber_ok_iff.mp ⟨_, hoffset⟩)
          (parseNumber_ok_iff.mp ⟨_, htimestamp⟩)
      · rintro ⟨⟩
        rename_i hstream hcontent hpresent hoffset htimestamp
        obtain ⟨streamId, hstream⟩ := Option.isSome_iff_exists.mp hstream
        obtain ⟨contentType, hcontent⟩ := Option.isSome_iff_exists.mp hcontent
        obtain ⟨offset, hoffset⟩ := parseNumber_ok_iff.mpr hoffset
        obtain ⟨timestamp, htimestamp⟩ := parseNumber_ok_iff.mpr htimestamp
        obtain ⟨offset, rfl⟩ :=
          Option.isSome_iff_exists.mp ((isSome_of_parseNumber hoffset).mpr hpresent)
        exact ⟨_, ⟨streamId, offset, contentType, timestamp⟩, rfl, hstream, hcontent, hoffset,
          htimestamp⟩
  | text =>
      refine (Checks.exists_bind_ok_iff (x := parseJsonObject platform body)).trans ?_
      simp only [parseControlFrame_ok_iff]
      constructor
      · rintro ⟨json, hjson, event, hevent, hknown⟩
        exact .text json hjson event hevent hknown
      · rintro ⟨⟩
        rename_i json hjson event hevent hknown
        exact ⟨json, hjson, event, hevent, hknown⟩

theorem KnownProtocolEvent.carried_of_frame {headers : Headers} {body : J}
    {known : KnownProtocolEvent} {made : Frame J} (h : known.frame headers body = .ok made) :
    made.carried = known.text :: known.carries.map fun name => (headers name).getD [] := by
  cases known with
  | init =>
      obtain ⟨bufferWindow, hwindow, hmade⟩ :=
        Checks.exists_of_bind_ok (x := parseNumber headers (utf16 "buffer-window")) h
      cases hmade
      rfl
  | initAck =>
      rw [frame] at h
      cases hsession : headers (utf16 "session-id") with
      | none =>
          rw [hsession] at h
          cases h
      | some sessionId =>
          rw [hsession] at h
          obtain ⟨bufferWindow, hwindow, hmade⟩ :=
            Checks.exists_of_bind_ok (x := parseNumber headers (utf16 "buffer-window")) h
          cases hmade
          rw [carries, List.map_singleton, hsession]
          rfl
  | initError | close =>
      obtain ⟨code, reason, hcode, hreason, rfl⟩ := ending_ok_iff.mp h
      simp only [carries, List.map_cons, List.map_nil, hcode, hreason, Option.getD_some]
      rfl
  | ping | pong | authRefresh | authResponse =>
      cases h
      rfl

/-- **What a message has of its headers.** -/
theorem carried_of_parseBody {platform : Platform J} {headers : Headers} {body : Bytes}
    {frameType : TransportMessageType} {frame : Frame J}
    (h : parseBody platform headers body frameType = .ok frame) :
    frame.carried = (carriedNames headers frameType).map fun name => (headers name).getD [] := by
  cases frameType with
  | binary =>
      obtain ⟨media, rfl, hstream, hcontent, -⟩ := parseMediaFrame_ok_iff.mp h
      simp only [Frame.carried, carriedNames, List.map_cons, List.map_nil, hstream, hcontent,
        Option.getD_some]
  | text =>
      obtain ⟨json, -, h⟩ := Checks.exists_of_bind_ok (x := parseJsonObject platform body) h
      cases hevent : headers (utf16 "event") with
      | none => exact absurd h (parseControlFrame_missing json hevent frame)
      | some event =>
          rw [carriedNames, hevent, List.map_cons, hevent]
          show _ = event :: (eventCarries event).map _
          unfold eventCarries
          cases hknown : KnownProtocolEvent.ofText event with
          | none =>
              rw [parseControlFrame_unknown json hevent hknown] at h
              cases h
              rfl
          | some known =>
              obtain rfl := text_of_ofText hknown
              rw [parseControlFrame_known json hevent] at h
              exact KnownProtocolEvent.carried_of_frame h

/-- Headers that agree on what is taken over, and on the numbers, make the same message. -/
theorem parseBody_congr {platform : Platform J} {headers headers' : Headers} {body : Bytes}
    {frameType : TransportMessageType}
    (hcarried : ∀ name ∈ carriedNames headers frameType, headers' name = headers name)
    (hnumbers : ∀ name, parseNumber headers' name = parseNumber headers name) :
    parseBody platform headers' body frameType = parseBody platform headers body frameType := by
  cases frameType with
  | binary =>
      simp only [carriedNames, List.forall_mem_cons, List.not_mem_nil, IsEmpty.forall_iff,
        implies_true, and_true] at hcarried
      simp only [parseBody, parseMediaFrame, hcarried, hnumbers]
  | text =>
      obtain ⟨hevent', hcarries⟩ := List.forall_mem_cons.mp hcarried
      have hframe : ∀ json : J,
          parseControlFrame headers' json = parseControlFrame headers json := by
        intro json
        cases hevent : headers (utf16 "event") with
        | none =>
            rw [hevent] at hevent'
            unfold parseControlFrame
            rw [hevent, hevent']
        | some event =>
            rw [hevent] at hevent' hcarries
            replace hcarries : ∀ name ∈ eventCarries event, headers' name = headers name := hcarries
            unfold eventCarries at hcarries
            cases hknown : KnownProtocolEvent.ofText event with
            | none =>
                rw [hknown] at hcarries
                obtain ⟨hcontent, hstream⟩ := List.forall_mem_cons.mp hcarries
                rw [List.forall_mem_singleton] at hstream
                rw [parseControlFrame_unknown json hevent hknown,
                  parseControlFrame_unknown json hevent' hknown]
                simp only [hcontent, hstream]
            | some known =>
                rw [hknown] at hcarries
                obtain rfl := text_of_ofText hknown
                rw [parseControlFrame_known json hevent, parseControlFrame_known json hevent',
                  KnownProtocolEvent.frame_congr json hcarries (hnumbers _)]
      simp only [parseBody, hframe]

end CulpeoStream.Typescript
