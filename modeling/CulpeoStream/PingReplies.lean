import CulpeoStream.Dotnet.Connection
import CulpeoStream.Session.Pings
import CulpeoStream.Typescript.Message

/-!
# Pings of a C++ server

`Session::send_ping` writes a nonce into the body of its ping and expects it back.  The
clients, on the other hand, give back the `ts` of a ping and nothing else: this module has
the bodies of their pongs, as `handlePing` of `session.ts` and `HandlePingAsync` of
`CulpeoStreamClient.cs` build them, and shows that such a pong is never measured.

The JSON libraries are parameters.  What is assumed of them is that the one of the server
finds in a pong the members that the client has written (`Peer.ReadBy`).
-/

namespace CulpeoStream

open Message Utf16 Resumption

/-! ### TypeScript -/

namespace Typescript

/-- Access to the values that `JSON.parse` returns, and literals for `JSON.stringify`. -/
structure Scripting (J : Type) extends Platform J where
  /-- A property of an object; none where it is `undefined`. -/
  property : J → Text → Option J
  number : ℤ → J
  /-- An object literal, whose members may be `undefined`. -/
  literal : List (Text × Option J) → J

variable {J : Type} (js : Scripting J)

/-- The body that `handlePing` sends. -/
def pongBody (nowMicros : ℤ) (body : J) : J :=
  js.literal [(utf16 "ts", js.property body (utf16 "ts")),
    (utf16 "server_ts", some (js.number nowMicros))]

/-- The text of a body on the wire. -/
def bodyBytes (body : J) : Bytes := Utf8.encode (js.jsonStringify body)

/-- The body of the pong for a ping, unless the ping is refused by the codec. -/
def answerPing (nowMicros : ℤ) (ping : Bytes) : Option Bytes :=
  (parseJsonObject js.toPlatform ping).toOption.map fun body =>
    bodyBytes js (pongBody js nowMicros body)

end Typescript

/-! ### C# -/

namespace Dotnet

/-- The `ts` that the client gives back: zero where the body has none, or is no JSON. -/
def echoedTimestamp (env : Environment) (body : Bytes) : Except Exn Int64 :=
  match env.parse (if body.isEmpty then ascii "\x7b\x7d" else body) with
  | none => .ok 0
  | some root => (root.int64Property (utf16 "ts")).map fun ts => ts.getD 0

/-- `PongBody`. -/
def pongBody (ts serverTs : Int64) : JsonElement :=
  .named [(utf16 "ts", jsonNumber ts), (utf16 "server_ts", jsonNumber serverTs)]

/-- The body of the pong for a ping, unless reading the ping throws. -/
def answerPing (env : Environment) (now : Ticks) (ping : Bytes) : Option Bytes :=
  (echoedTimestamp env ping).toOption.map fun ts =>
    env.serialize (pongBody ts (unixMicroseconds now))

end Dotnet

/-! ### The exchange -/

/-- A client, with its clock when it answers. -/
inductive Peer (J : Type) where
  | typescript (js : Typescript.Scripting J) (nowMicros : ℤ)
  | dotnet (env : Dotnet.Environment) (now : Dotnet.Ticks)

namespace Peer

variable {J : Type}

def answer : Peer J → Bytes → Option Bytes
  | typescript js nowMicros, ping => Typescript.answerPing js nowMicros ping
  | dotnet env now, ping => Dotnet.answerPing env now ping

end Peer

namespace Session

/-- The library reads a document as an object with these members. -/
def JsonLib.Finds (json : JsonLib) (document : Bytes) (names : List Bytes) : Prop :=
  ∃ j, json.parse document = some j ∧ ∀ name, (j.at? name).isSome ↔ name ∈ names

end Session

/-- The library of the server finds the members that a client writes; `JSON.stringify`
leaves out those that are `undefined`. -/
def Peer.ReadBy {J : Type} (json : Session.JsonLib) : Peer J → Prop
  | .typescript js _ => ∀ (ts : Option J) (serverTs : ℤ),
      json.Finds (Typescript.bodyBytes js (js.literal [(utf16 "ts", ts),
          (utf16 "server_ts", some (js.number serverTs))]))
        (if ts.isSome then [ascii "ts", ascii "server_ts"] else [ascii "server_ts"])
  | .dotnet env _ => ∀ ts serverTs : Int64,
      json.Finds (env.serialize (Dotnet.pongBody ts serverTs)) [ascii "ts", ascii "server_ts"]

/-- A pong has no nonce. -/
theorem Peer.ReadBy.no_nonce {J : Type} {json : Session.JsonLib} {peer : Peer J}
    (h : peer.ReadBy json) {ping pong : Bytes} (hanswer : peer.answer ping = some pong) :
    (json.parse pong).bind (·.at? (ascii "nonce")) = none := by
  have hfinds : ∃ names, json.Finds pong names ∧ ascii "nonce" ∉ names := by
    cases peer with
    | typescript js nowMicros =>
        obtain ⟨body, -, rfl⟩ := Option.map_eq_some_iff.mp hanswer
        refine ⟨_, h (js.property body (utf16 "ts")) nowMicros, ?_⟩
        split <;> decide
    | dotnet env now =>
        obtain ⟨ts, -, rfl⟩ := Option.map_eq_some_iff.mp hanswer
        exact ⟨_, h ts (Dotnet.unixMicroseconds now), by decide⟩
  obtain ⟨names, ⟨j, hparse, hnames⟩, hmem⟩ := hfinds
  rw [hparse, Option.bind_some]
  by_contra hsome
  exact hmem ((hnames (ascii "nonce")).mp (Option.isSome_iff_ne_none.mpr hsome))

namespace Session

def Output.isOnRtt : Output → Bool
  | .onRtt _ => true
  | _ => false

/-- A ping of an established session, the pong that a client answers it with, and the
delivery of the pong. -/
structure PingExchange (setup : Setup) {J : Type} (peer : Peer J) where
  before : Established
  ambient : Ambient
  answers : ℕ → Bool
  ping : WireFrame
  sent : Output.sendText ping ∈
    (perform setup { call := .sendPing, ambient } answers before.1).outputs
  pong : Bytes
  answered : peer.answer ping.body = some pong
  /-- The state in which the pong arrives. -/
  after : Impl
  delivered : ParsedHeadersView
  control : delivered.frameType = .control
  event : delivered.event = some (ascii "culpeo.pong")
  body : delivered.body = pong
  received : Ambient

/-- How often `on_rtt` is called for the pong. -/
def PingExchange.rttCalls {setup : Setup} {J : Type} {peer : Peer J}
    (x : PingExchange setup peer) : ℕ :=
  (perform setup { call := .processControlFrame x.delivered, ambient := x.received } x.answers
    x.after).outputs.countP Output.isOnRtt

/-- A pong whose body has no nonce is not measured, whatever the state. -/
theorem handlePong_silent {setup : Setup} {f : ParsedHeadersView}
    (hnonce : (setup.json.parse f.body).bind (·.at? (ascii "nonce")) = none) (amb : Ambient)
    (answers : ℕ → Bool) (s : Impl) :
    ((handlePong setup amb f s).2.exec answers (handlePong setup amb f s).1).outputs = [] := by
  rw [handlePong, hnonce, Option.bind_none]
  split
  · rfl
  · split <;> rfl

theorem countP_isOnRtt_texts (headers : List HeaderField) (body : Bytes) :
    (texts headers body).countP Output.isOnRtt = 0 := by
  refine List.countP_eq_zero.mpr fun o ho => ?_
  obtain ⟨frame, -, rfl⟩ := List.mem_map.mp ho
  exact Bool.false_ne_true

/-- **The pong of a client is never measured**: neither client gives the nonce back. -/
theorem pong_never_measured (setup : Setup) {J : Type} (peer : Peer J)
    (hread : peer.ReadBy setup.json) (x : PingExchange setup peer) : x.rttCalls = 0 := by
  have hnonce := hread.no_nonce x.answered
  rw [← x.body] at hnonce
  have henter : enter setup { call := .processControlFrame x.delivered, ambient := x.received }
      x.after = dispatch setup x.received x.delivered (ascii "culpeo.pong") x.after := by
    change processControlFrame setup x.received x.delivered x.after = _
    rw [processControlFrame, if_neg (not_not.mpr x.control), x.event]
    change (if !isValidEventName (ascii "culpeo.pong") then _ else _) = _
    rw [if_neg (by decide)]
  rw [PingExchange.rttCalls, perform, henter, dispatch]
  split
  · rw [exec_rejectInit]
    simp [countP_isOnRtt_texts, Output.isOnRtt]
  · rw [if_neg (by decide), if_neg (by decide), if_pos rfl, handlePong_silent hnonce]
    rfl

/-! ### An exchange -/

/-- A reader that tells the two kinds of pongs apart by their first member. -/
def readPong (document : Bytes) : Option Json :=
  if (ascii "\x7b\"ts\":").isPrefixOf document then
    some (.object [(ascii "server_ts", .unsigned 0), (ascii "ts", .unsigned 0)])
  else if (ascii "\x7b\"server_ts\":").isPrefixOf document then
    some (.object [(ascii "server_ts", .unsigned 0)])
  else none

def pongLib : JsonLib where
  parse := readPong
  dump _ := []

theorem at?_isSome_iff (members : List (Bytes × Json)) (name : Bytes) :
    ((Json.object members).at? name).isSome ↔ name ∈ members.map Prod.fst := by
  rw [Json.at?]
  induction members with
  | nil => simp
  | cons member rest ih =>
      rw [List.lookup_cons, List.map_cons, List.mem_cons]
      by_cases h : name = member.1
      · simp [h]
      · rw [beq_false_of_ne h]
        simp [h, ih]

theorem finds_ts (rest : Bytes) :
    pongLib.Finds (ascii "\x7b\"ts\":" ++ rest) [ascii "ts", ascii "server_ts"] := by
  refine ⟨.object [(ascii "server_ts", .unsigned 0), (ascii "ts", .unsigned 0)], ?_,
    fun name => ?_⟩
  · change readPong (ascii "\x7b\"ts\":" ++ rest) = _
    rw [readPong, if_pos (List.isPrefixOf_iff_prefix.mpr (List.prefix_append _ rest))]
  · exact (at?_isSome_iff _ name).trans (List.Perm.swap _ _ []).mem_iff

theorem finds_serverTs (rest : Bytes) :
    pongLib.Finds (ascii "\x7b\"server_ts\":" ++ rest) [ascii "server_ts"] := by
  have hts : ¬ (ascii "\x7b\"ts\":").isPrefixOf (ascii "\x7b\"server_ts\":" ++ rest) = true :=
    fun h => Bool.false_ne_true h
  refine ⟨.object [(ascii "server_ts", .unsigned 0)], ?_, at?_isSome_iff _⟩
  change readPong (ascii "\x7b\"server_ts\":" ++ rest) = _
  rw [readPong, if_neg hts, if_pos (List.isPrefixOf_iff_prefix.mpr (List.prefix_append _ rest))]

/-- A session that measures its pings. -/
def measuringSetup : Setup :=
  { exampleSetup (ascii "input") (ascii "message") with json := pongLib }

end Session

/-- Values that are their own texts, of which no property is ever read. -/
def Typescript.texts : Typescript.Scripting Text where
  toLowerCase := fun s => s.map lowerAscii
  jsonStringify := id
  jsonParse := some
  isJsonObject := fun value => value.head? = some (unit '\x7b')
  property := fun _ _ => none
  number := Numeral.decimalInt
  literal := fun members =>
    let written := members.filterMap fun m => m.2.map fun value =>
      Dotnet.quoted m.1 ++ unit ':' :: value
    unit '\x7b' :: List.intercalate [unit ','] written ++ [unit '\x7d']

/-- A text that starts with ASCII characters starts with the same bytes in UTF-8. -/
theorem encode_take {head : Text} {bytes : Bytes}
    (hascii : (head.all fun u => decide (u.toNat < 0x80)) = true)
    (hsame : Utf8.encode head = bytes) (t : Text) :
    Utf8.encode (head ++ t) = bytes ++ Utf8.encode t := by
  rw [Utf8.encode_ascii_append (by simpa using hascii), hsame]

theorem readBy_texts (nowMicros : ℤ) :
    (Peer.typescript Typescript.texts nowMicros).ReadBy Session.pongLib := by
  intro ts serverTs
  cases ts with
  | none =>
      have htext : Typescript.texts.literal [(utf16 "ts", none),
            (utf16 "server_ts", some (Typescript.texts.number serverTs))] =
          (unit '\x7b' :: Dotnet.quoted (utf16 "server_ts") ++ [unit ':']) ++
            (Typescript.texts.number serverTs ++ [unit '\x7d']) := by
        simp [Typescript.texts, List.intercalate]
      rw [htext, Typescript.bodyBytes]
      change Session.pongLib.Finds (Utf8.encode (_ ++ _)) _
      rw [encode_take (by decide) (by decide : _ = ascii "\x7b\"server_ts\":")]
      exact Session.finds_serverTs _
  | some value =>
      have htext : Typescript.texts.literal [(utf16 "ts", some value),
            (utf16 "server_ts", some (Typescript.texts.number serverTs))] =
          (unit '\x7b' :: Dotnet.quoted (utf16 "ts") ++ [unit ':']) ++
            (value ++ unit ',' :: Dotnet.quoted (utf16 "server_ts") ++
              unit ':' :: Typescript.texts.number serverTs ++ [unit '\x7d']) := by
        simp [Typescript.texts, List.intercalate]
      rw [htext, Typescript.bodyBytes]
      change Session.pongLib.Finds (Utf8.encode (_ ++ _)) _
      rw [encode_take (by decide) (by decide : _ = ascii "\x7b\"ts\":")]
      exact Session.finds_ts _

theorem readBy_reading (documents : List Dotnet.JsonElement) (now : Dotnet.Ticks) :
    (Peer.dotnet (J := Text) (.reading documents) now).ReadBy Session.pongLib := by
  intro ts serverTs
  have hhead : (utf16 "\x7b" ++ Dotnet.quoted (utf16 "ts") ++ [unit ':']).map UInt16.toUInt8 =
      ascii "\x7b\"ts\":" := by decide
  have htext : (Dotnet.pongBody ts serverTs).write.map UInt16.toUInt8 =
      ascii "\x7b\"ts\":" ++ ((Dotnet.jsonNumber ts).write ++ unit ',' ::
        Dotnet.writeProperties [({ start := utf16 "server_ts" }, Dotnet.jsonNumber serverTs)] ++
          utf16 "\x7d").map UInt16.toUInt8 := by
    rw [← hhead, Dotnet.pongBody, Dotnet.JsonElement.named, Dotnet.JsonElement.write]
    simp only [Dotnet.writeProperties, List.map_append, List.append_assoc, List.map_cons,
      List.cons_append, List.map_nil, List.nil_append]
  change Session.pongLib.Finds ((Dotnet.pongBody ts serverTs).write.map UInt16.toUInt8) _
  rw [htext]
  exact Session.finds_ts _

namespace Session

/-- The surroundings of the ping, and of its pong a millisecond later. -/
def pingAmbient : Ambient where
  nowUs := 1716393600000000
  draw := fun _ => some fun _ => 0x2a

def pongAmbient : Ambient where
  nowUs := 1716393600001000

/-- The ping that goes out, with the nonce that was drawn. -/
def examplePingBody : Bytes := buildPingBody (generateU64Nonce pingAmbient) pingAmbient.nowUs

def pingHeaders : List HeaderField :=
  [field .event (ascii "culpeo.ping"), field .contentType (ascii "application/json")]

theorem validHeaders_ping : ValidHeaders pingHeaders := by
  simp only [ValidHeaders, pingHeaders, List.forall_mem_cons, field]
  exact ⟨⟨by decide, by decide⟩, ⟨by decide, by decide⟩, by simp⟩

def examplePing : WireFrame where
  frameType := .control
  headers := pingHeaders
  body := examplePingBody
  bytes := encode pingHeaders examplePingBody
  serialized := serializeFrame_ok_iff.mpr ⟨validHeaders_ping, rfl⟩

/-- The example session pings, and the client's pong is the next frame. -/
def examplePingExchange {J : Type} (peer : Peer J) (pong : Bytes)
    (answered : peer.answer examplePingBody = some pong) : PingExchange measuringSetup peer where
  before := examplePinged
  ambient := pingAmbient
  answers := fun _ => true
  ping := examplePing
  sent := by decide +kernel
  pong := pong
  answered := answered
  after := (perform measuringSetup { call := .sendPing, ambient := pingAmbient } (fun _ => true)
    examplePinged.1).state
  delivered := controlFrame (ascii "culpeo.pong") pong
  control := rfl
  event := rfl
  body := rfl
  received := pongAmbient

theorem after_examplePingExchange {J : Type} {peer : Peer J} {pong : Bytes}
    (answered : peer.answer examplePingBody = some pong) :
    (examplePingExchange peer pong answered).after =
      (perform measuringSetup
        { call := .sendPing, ambient := (examplePingExchange peer pong answered).ambient }
        (examplePingExchange peer pong answered).answers
        (examplePingExchange peer pong answered).before.1).state := by
  unfold examplePingExchange
  dsimp only

end Session

/-- The document of the ping, for a C# client. -/
def examplePingDocument : Dotnet.JsonElement :=
  .named [(utf16 "nonce", Dotnet.jsonNumber 3038287259199220266),
    (utf16 "server_ts", Dotnet.jsonNumber 1716393600000000)]

/-- A C# client at the moment of the ping. -/
def exampleDotnetPeer : Peer Text :=
  .dotnet (.reading [examplePingDocument]) 638519904000000000

def exampleTypescriptPeer : Peer Text := .typescript Typescript.texts 1716393600000500

theorem answer_exampleDotnetPeer : exampleDotnetPeer.answer Session.examplePingBody =
    some (ascii "\x7b\"ts\":0,\"server_ts\":1716393600000000\x7d") := by
  change Dotnet.answerPing _ _ _ = _
  decide

theorem answer_exampleTypescriptPeer : exampleTypescriptPeer.answer Session.examplePingBody =
    some (ascii "\x7b\"server_ts\":1716393600000500\x7d") := by
  change Typescript.answerPing _ _ _ = _
  decide

theorem pong_never_measured_example :
    (Session.examplePingExchange exampleDotnetPeer _ answer_exampleDotnetPeer).rttCalls = 0 ∧
      (Session.examplePingExchange exampleTypescriptPeer _ answer_exampleTypescriptPeer).rttCalls =
        0 :=
  ⟨Session.pong_never_measured Session.measuringSetup exampleDotnetPeer (readBy_reading _ _) _,
    Session.pong_never_measured Session.measuringSetup exampleTypescriptPeer (readBy_texts _) _⟩

/-- The C# client answers a ping of the C++ server, and the round trip is not measured. -/
theorem ping_goes_unmeasured :
    ¬ ∀ (setup : Session.Setup) (peer : Peer Text), peer.ReadBy setup.json →
      setup.callbacks.onRtt = true → ∀ x : Session.PingExchange setup peer,
        x.after = (Session.perform setup { call := .sendPing, ambient := x.ambient } x.answers
          x.before.1).state → x.rttCalls = 1 := by
  intro h
  have hcalls := h Session.measuringSetup exampleDotnetPeer (readBy_reading _ _) rfl
    (Session.examplePingExchange exampleDotnetPeer _ answer_exampleDotnetPeer)
    (Session.after_examplePingExchange _)
  exact absurd hcalls (by decide +kernel)

end CulpeoStream
