import CulpeoStream.Dotnet.Connections

/-!
# Who holds a session, and when its clock runs

Two properties of a server over every run of its connections.

* A session id is referred to by one established connection at most
  (`referred_unique`), as long as no init resumes a session that an established
  connection still holds: `ResumeSession` asks for the expiry of a session only.
* A session has a `DisconnectedAt` exactly while no established connection holds it
  (`clocked_run`), as long as moreover no authentication challenge times out, which closes
  a connection without a stamp, and `DisconnectAsync` is not called on a connection that
  is not established while another one holds its session.
-/

namespace CulpeoStream.Dotnet

open Message Utf16 Tenancy

namespace System

/-! ### One established connection -/

/-- The id of the session that a connection refers to while it is established. -/
def referred (sys : System) (i : ℕ) : Option Text :=
  (sys.connections[i]?).bind fun connection =>
    if connection.state = .established then
      (Endpoint.snapshot ⟨sys.server, connection⟩).map SessionSnapshot.sessionId
    else none

/-- What a connection refers to is the name of what it holds. -/
theorem holds_of_referred {sys : System} {i : ℕ} {id : Text} (h : sys.referred i = some id) :
    ∃ ref, sys.view.holds i = some ref ∧
      (sys.view.things.map Thing.name)[ref]? = some id := by
  unfold referred at h
  obtain ⟨connection, hconnection, h⟩ := Option.bind_eq_some_iff.mp h
  obtain ⟨hstate, h⟩ := Option.ite_none_right_eq_some.mp h
  obtain ⟨snapshot, hsnapshot, rfl⟩ := Option.map_eq_some_iff.mp h
  obtain ⟨ref, href, hget⟩ := Option.bind_eq_some_iff.mp hsnapshot
  refine ⟨ref, ?_, ?_⟩
  · show (sys.connections[i]?).bind CulpeoConnection.held = some ref
    rw [hconnection, Option.bind_some, CulpeoConnection.held, if_pos hstate]
    exact href
  · show ((sys.server.snapshots.map SessionSnapshot.thing).map Thing.name)[ref]? = _
    rw [List.getElem?_map, List.getElem?_map, hget]
    rfl

/-- What holds at every point of a run. -/
structure Tenanted (sys : System) : Prop where
  sound : sys.Sound
  exclusive : sys.view.Exclusive

theorem tenanted_start (options : CulpeoSessionOptions) : (start options).Tenanted :=
  ⟨sound_start options, ⟨nofun, nofun⟩⟩

/-- **One action keeps the sessions exclusive.** -/
theorem Tenanted.step {sys : System} (h : sys.Tenanted) {env : Environment} {a : Action}
    (hconsiderate : sys.Considerate env a) : (sys.step env a).Tenanted := by
  obtain ⟨m, hm⟩ := step_simulates h.sound env a
  refine ⟨sound_step h.sound env a, ?_⟩
  rw [hm.view]
  exact h.exclusive.apply hm.allows (hm.considerate hconsiderate)

theorem distinct_step {sys : System} (h : sys.Sound) (hdistinct : sys.view.Distinct)
    {env : Environment} {a : Action} (hfresh : sys.Fresh env a) :
    (sys.step env a).view.Distinct := by
  obtain ⟨m, hm⟩ := step_simulates h env a
  rw [hm.view]
  exact hdistinct.apply (hm.fresh hfresh)

/-- **A session id is referred to by one established connection at most**, in every run in
which no init resumes a session that an established connection holds, and no new session
gets an id that is there already. -/
theorem referred_unique (env : Environment) (options : CulpeoSessionOptions)
    (actions : List Action)
    (h : Along env (fun sys a => sys.Considerate env a ∧ sys.Fresh env a) (start options) actions)
    (i j : ℕ) (id : Text) (hi : ((start options).run env actions).referred i = some id)
    (hj : ((start options).run env actions).referred j = some id) : i = j := by
  have hrun : ((start options).run env actions).Tenanted ∧
      ((start options).run env actions).view.Distinct :=
    run_induction (I := fun sys => sys.Tenanted ∧ sys.view.Distinct)
      (fun sys a h ha => ⟨h.1.step ha.1, distinct_step h.1.sound h.2 ha.2⟩) actions
      ⟨tenanted_start options, List.nodup_nil⟩ h
  obtain ⟨ref, hholds, hname⟩ := holds_of_referred hi
  obtain ⟨ref', hholds', hname'⟩ := holds_of_referred hj
  exact hrun.1.exclusive.holder_of_name hrun.2 hholds hholds' hname hname'

/-! ### Two connections and a session -/

/-- An init body with one stream. -/
def chatInit : JsonElement :=
  .named [(utf16 "version", .string (some (utf16 "0.3"))),
    (utf16 "streams", .array [.named [
      (utf16 "content_type", .string (some (utf16 "text/plain"))),
      (utf16 "type", .string (some (utf16 "duplex"))),
      (utf16 "offset_type", .string (some (utf16 "message")))]])]

def chatEnvironment : Environment := .reading [chatInit]

/-- The surroundings of a call so many ticks into the year 2024. -/
def moment (later : Ticks) : Surroundings :=
  ⟨fun _ => 638396640000000000 + later, fun k _ => UInt8.ofNat (k + 1)⟩

/-- The id of the session that is made there. -/
def chatId : Text := generateOpaqueId ((moment 0).random 0) 16

def chatFrame (sessionId : Option Text) : CulpeoMessage where
  kind := .control
  event := some (utf16 "culpeo.init")
  authorization := some (utf16 "Bearer token")
  sessionId := sessionId
  body := chatEnvironment.serialize chatInit

/-- A second connection resumes a session while the first one is still established. -/
theorem referred_twice :
    ¬ ∀ (env : Environment) (options : CulpeoSessionOptions) (actions : List Action) (i j : ℕ)
      (id : Text), ((start options).run env actions).referred i = some id →
      ((start options).run env actions).referred j = some id → i = j := by
  intro h
  have hsame := h chatEnvironment {}
    [.createConnection, .createConnection, .call 0 (moment 0) (.receive (chatFrame none)),
      .call 1 (moment 0) (.receive (chatFrame (some chatId)))] 0 1 chatId
    (by decide) (by decide)
  cases hsame

/-- The first connection is disconnected before the second one resumes the session. -/
def chatRun : List Action :=
  [.createConnection, .createConnection, .call 0 (moment 0) (.receive (chatFrame none)),
    .call 0 (moment 0) .disconnect, .call 1 (moment 0) (.receive (chatFrame (some chatId)))]

theorem referred_unique_chat :
    ((start {}).run chatEnvironment chatRun).referred 1 = some chatId ∧
      ∀ i, ((start {}).run chatEnvironment chatRun).referred i = some chatId → i = 1 := by
  have hreferred : ((start {}).run chatEnvironment chatRun).referred 1 = some chatId := by
    decide
  exact ⟨hreferred, fun i hi =>
    referred_unique chatEnvironment {} chatRun (by decide) i 1 chatId hi hreferred⟩

/-! ### Clocks -/

/-- A session that was saved has no `DisconnectedAt` exactly when an established connection
holds it. -/
def Clocked (sys : System) : Prop :=
  ∀ entry ∈ sys.server.sessions, ∃ snapshot, sys.server.snapshots[entry.2]? = some snapshot ∧
    (snapshot.disconnectedAt = none ↔ ∃ connection ∈ sys.connections,
      connection.state = .established ∧ connection.snapshot = some entry.2)

theorem held_eq_some {connection : CulpeoConnection} {ref : ℕ} :
    connection.held = some ref ↔
      connection.state = .established ∧ connection.snapshot = some ref :=
  Option.ite_none_right_eq_some

/-- Clocks are marks. -/
theorem clocked_of_marked {sys : System} (h : sys.Sound) (hmarked : sys.view.Marked) :
    sys.Clocked := by
  intro entry hentry
  have hlt := h.sessions entry hentry
  have hget := List.getElem?_eq_getElem hlt
  refine ⟨_, hget, ?_⟩
  have hiff := hmarked entry.2 _ (getElem?_things hget)
  rw [show (SessionSnapshot.thing sys.server.snapshots[entry.2]).idle = false ↔
    sys.server.snapshots[entry.2].disconnectedAt = none from Option.isSome_eq_false_iff.trans
      Option.isNone_iff_eq_none] at hiff
  rw [hiff]
  constructor
  · rintro ⟨i, hi⟩
    obtain ⟨connection, hconnection, hheld⟩ := Option.bind_eq_some_iff.mp hi
    exact ⟨connection, List.mem_of_getElem? hconnection, held_eq_some.mp hheld⟩
  · rintro ⟨connection, hmem, hheld⟩
    obtain ⟨i, hi⟩ := List.mem_iff_getElem?.mp hmem
    refine ⟨i, ?_⟩
    show (sys.connections[i]?).bind _ = _
    rw [hi, Option.bind_some]
    exact held_eq_some.mpr hheld

/-- The actions after which all clocks are right. -/
structure Orderly (env : Environment) (sys : System) (a : Action) : Prop where
  considerate : sys.Considerate env a
  punctual : sys.Punctual a
  settled : sys.Settled env a

instance (env : Environment) (sys : System) (a : Action) : Decidable (sys.Orderly env a) :=
  decidable_of_iff (sys.Considerate env a ∧ sys.Punctual a ∧ sys.Settled env a)
    ⟨fun h => ⟨h.1, h.2.1, h.2.2⟩, fun h => ⟨h.considerate, h.punctual, h.settled⟩⟩

theorem marked_step {sys : System} (h : sys.Tenanted) (hmarked : sys.view.Marked)
    {env : Environment} {a : Action} (ha : sys.Orderly env a) :
    (sys.step env a).view.Marked := by
  obtain ⟨m, hm⟩ := step_simulates h.sound env a
  rw [hm.view]
  exact hmarked.apply h.exclusive hm.allows (hm.orderly ha.punctual ha.settled)

/-- **A session has a `DisconnectedAt` exactly while no established connection holds it**, in
every run of orderly actions. -/
theorem clocked_run (env : Environment) (options : CulpeoSessionOptions) (actions : List Action)
    (h : Along env (Orderly env) (start options) actions) :
    ((start options).run env actions).Clocked := by
  have hrun : ((start options).run env actions).Tenanted ∧
      ((start options).run env actions).view.Marked :=
    run_induction (I := fun sys => sys.Tenanted ∧ sys.view.Marked)
      (fun sys a h ha => ⟨h.1.step ha.considerate, marked_step h.1 h.2 ha⟩) actions
      ⟨tenanted_start options, nofun⟩ h
  exact clocked_of_marked hrun.1.sound hrun.2

/-- An authentication challenge times out: the connection is closed, and its session has no
`DisconnectedAt`. -/
theorem unclocked_after_timeout :
    ¬ ∀ (env : Environment) (options : CulpeoSessionOptions) (actions : List Action),
      ((start options).run env actions).Clocked := by
  intro h
  let sys := (start {}).run chatEnvironment
    [.createConnection, .call 0 (moment 0) (.receive (chatFrame none)),
      .call 0 (moment 0) .issueAuthRefresh, .call 0 (moment 300000001) .checkTimeouts]
  have hsaved : (chatId, 0) ∈ sys.server.sessions := by decide
  have hunstamped : (sys.server.snapshots[0]?).map SessionSnapshot.disconnectedAt =
      some none := by decide
  have hclosed : ∀ connection ∈ sys.connections, connection.state ≠ .established := by
    decide
  obtain ⟨snapshot, hget, hiff⟩ := h chatEnvironment {} _ (chatId, 0) hsaved
  rw [hget, Option.map_some, Option.some.injEq] at hunstamped
  obtain ⟨connection, hmem, hstate, -⟩ := hiff.mp hunstamped
  exact hclosed connection hmem hstate

theorem clocked_run_chat : Along chatEnvironment (Orderly chatEnvironment) (start {}) chatRun ∧
    ((start {}).run chatEnvironment chatRun).Clocked :=
  ⟨by decide, clocked_run chatEnvironment {} chatRun (by decide)⟩

end System

end CulpeoStream.Dotnet
