import CulpeoStream.Dotnet.Init

/-!
# `CulpeoConnection`

The public methods of a connection: `ReceiveAsync` with the handlers of an established
session, `IssueAuthRefreshAsync`, `CheckTimeoutsAsync` and `DisconnectAsync`.
`SendMediaAsync` and the handling of media are with the sessions.
-/

namespace CulpeoStream.Dotnet

open Message Utf16

/-- A number in a JSON body. -/
def jsonNumber (n : Int64) : JsonElement := .number (some n)

/-- The microseconds since 1970 that a ping is answered with, in whole milliseconds. -/
def unixMicroseconds (now : Ticks) : Int64 :=
  Int64.ofInt ((now.fdiv 10000 - 62135596800000) * 1000)

/-- `Encoding.ASCII.GetBytes`. -/
def asciiBytes (s : Text) : Bytes :=
  s.map fun c => if c < 0x80 then c.toUInt8 else Char.toUInt8 '?'

namespace Endpoint

/-! ### Frames of an established session -/

/-- `TryTrackPing`: pings beyond five within a second are dropped. -/
def tryTrackPing (e : Endpoint) (now : Ticks) : Endpoint × Except Exn Bool :=
  match minusSpan now 10000000 with
  | .error ex => (e, .error ex)
  | .ok cutoff =>
      let recent := e.connection.pingTimestamps.dropWhile fun t => t ≤ cutoff
      if 5 ≤ recent.length then ({ e with connection.pingTimestamps := recent }, .ok false)
      else ({ e with connection.pingTimestamps := recent ++ [now] }, .ok true)

/-- The `ts` of a ping. -/
def pingTimestamp (env : Environment) (frame : CulpeoMessage) : Except Exn Int64 := do
  let root ← env.parseBody frame.body
  match ← root.tryGetProperty (utf16 "ts") with
  | none => .error (protocolError (utf16 "culpeo.ping must include ts."))
  | some property =>
      match ← property.tryGetInt64 with
      | none => .error (protocolError (utf16 "culpeo.ping must include ts."))
      | some ts => return ts

def pongFrame (env : Environment) (now : Ticks) (ts : Int64) : CulpeoMessage where
  kind := .control
  body := env.serialize (.named [(utf16 "ts", jsonNumber ts),
    (utf16 "server_ts", jsonNumber (unixMicroseconds now))])
  event := some (utf16 "culpeo.pong")
  contentType := some (utf16 "application/json")

def handlePing (env : Environment) (e : Endpoint) (now : Ticks) (frame : CulpeoMessage) :
    Endpoint × Except Exn CulpeoProcessResult :=
  match pingTimestamp env frame with
  | .error ex => (e, .error ex)
  | .ok ts =>
      let tracked := e.tryTrackPing now
      match tracked.2 with
      | .error ex => (tracked.1, .error ex)
      | .ok false => (tracked.1, .ok (.empty e.connection.state))
      | .ok true => (tracked.1, .ok ⟨[pongFrame env now ts], false, none, e.connection.state⟩)

/-- A refusal of a credential. -/
def unauthorized (reason : Text) : Exn :=
  .protocolValidation (utf16 "unauthorized") reason

/-- The nonce of an auth-response; null when it is a JSON null. -/
def responseNonce (env : Environment) (frame : CulpeoMessage) : Except Exn (Option Text) := do
  let root ← env.parseBody frame.body
  match ← root.tryGetProperty (utf16 "nonce") with
  | none => .error (unauthorized (utf16 "Nonce is required for auth-response."))
  | some property => property.getString

def handleAuthResponse (env : Environment) (e : Endpoint) (frame : CulpeoMessage) :
    Endpoint × Except Exn CulpeoProcessResult :=
  if isNullOrWhiteSpace frame.authorization then
    (e, .error (unauthorized (utf16 "Authorization is required for auth-response.")))
  else
    match responseNonce env frame with
    | .error ex => (e, .error ex)
    | .ok nonce =>
        match e.connection.pendingNonce with
        | none => (e, .error (unauthorized (utf16 "Invalid auth refresh nonce.")))
        | some pendingNonce =>
            if isNullOrWhiteSpace nonce ∨ asciiBytes (nonce.getD []) ≠ asciiBytes pendingNonce then
              (e, .error (unauthorized (utf16 "Invalid auth refresh nonce.")))
            else
              ({ e with
                  connection.pendingNonce := none
                  connection.authChallengeIssuedAt := none },
                .ok (.empty e.connection.state))

def handleClose (e : Endpoint) (now : Ticks) (frame : CulpeoMessage) :
    Endpoint × Except Exn CulpeoProcessResult :=
  let code := frame.code.getD (utf16 "normal-closure")
  ((e.setState .closed).stampDisconnected now,
    .ok ⟨[closeFrame code (frame.reason.getD (utf16 "Session closed"))], true, some code,
      .closed⟩)

/-- `HandleEstablishedFrame` up to its `catch`. -/
def controlFrame (env : Environment) (e : Endpoint) (now : Ticks) (frame : CulpeoMessage) :
    Endpoint × Except Exn CulpeoProcessResult :=
  if frame.event = some (utf16 "culpeo.ping") then handlePing env e now frame
  else if frame.event = some (utf16 "culpeo.auth-response") then handleAuthResponse env e frame
  else if frame.event = some (utf16 "culpeo.init") then
    let closed := e.closeWithCloseFrame now (utf16 "protocol-error")
      (utf16 "culpeo.init is not valid after session establishment.")
    (closed.1, .ok closed.2)
  else if frame.event = some (utf16 "culpeo.close") then handleClose e now frame
  else (e, .ok (.empty e.connection.state))

def handleEstablishedFrame (env : Environment) (e : Endpoint) (now : Ticks)
    (frame : CulpeoMessage) : Endpoint × Except Exn CulpeoProcessResult :=
  match frame.kind with
  | .media => handleIncomingMedia env.toRuntime e now frame
  | .control =>
      let handled := controlFrame env e now frame
      match handled.2 with
      | .ok result => (handled.1, .ok result)
      | .error .json =>
          handled.1.closeOnViolation now
            (protocolError (utf16 "Control frame body must be valid JSON."))
      | .error ex => handled.1.closeOnViolation now ex

/-! ### Public methods -/

/-- `ReceiveAsync`.  The first reading of the clock is the one for the timeout. -/
def receive (env : Environment) (s : Surroundings) (e : Endpoint) (frame : CulpeoMessage) :
    Endpoint × Except Exn CulpeoProcessResult :=
  match e.checkPendingAuthTimeout (s.clock 0) with
  | some (timedOut, result) => (timedOut, .ok result)
  | none =>
      match e.connection.state with
      | .uninitialized => handleInitialFrame env s e frame
      | .initializing =>
          e.closeOnViolation (s.clock 1)
            (protocolError (utf16 "Session initialization is already in progress."))
      | .established => handleEstablishedFrame env e (s.clock 1) frame
      | .closed => (e, .ok ⟨[], true, some (utf16 "closed"), .closed⟩)

def authRefreshFrame (env : Environment) (nonce : Text) : CulpeoMessage where
  kind := .control
  body := env.serialize (.named [(utf16 "nonce", .string (some nonce))])
  event := some (utf16 "culpeo.auth-refresh")
  contentType := some (utf16 "application/json")

def issueAuthRefresh (env : Environment) (s : Surroundings) (e : Endpoint) :
    Endpoint × Except Exn CulpeoMessage :=
  match e.ensureEstablished with
  | .error ex => (e, .error ex)
  | .ok _ =>
      if e.connection.pendingNonce.isSome then
        (e, .error (.invalidOperation (utf16 "Auth refresh already pending.")))
      else if e.connection.lastAuthRefreshIssuedAt.any fun last =>
          s.clock 0 - last < e.server.options.minAuthRefreshIntervalSeconds.toInt * 10000000 then
        (e, .error (.invalidOperation (utf16 "Auth refresh issued too recently.")))
      else
        match generateIdOfLength (s.random 0) e.server.options.nonceByteLength with
        | .error ex => (e, .error ex)
        | .ok nonce =>
            ({ e with
                connection.pendingNonce := some nonce
                connection.authChallengeIssuedAt := some (s.clock 0)
                connection.lastAuthRefreshIssuedAt := some (s.clock 0) },
              .ok (authRefreshFrame env nonce))

def checkTimeouts (s : Surroundings) (e : Endpoint) : Endpoint × CulpeoProcessResult :=
  (e.checkPendingAuthTimeout (s.clock 0)).getD (e, .empty e.connection.state)

def disconnect (s : Surroundings) (e : Endpoint) : Endpoint :=
  (e.stampDisconnected (s.clock 0)).setState .closed

end Endpoint

/-! ### What the handlers change -/

/-- A ping changes the times of the pings, unless the clock has no second to look back. -/
theorem tryTrackPing_cases (e : Endpoint) (now : Ticks) :
    (∃ ex, e.tryTrackPing now = (e, .error ex)) ∨
      ∃ pingTimestamps answered, e.tryTrackPing now =
        ({ e with connection.pingTimestamps := pingTimestamps }, .ok answered) := by
  unfold Endpoint.tryTrackPing
  split
  · exact .inl ⟨_, rfl⟩
  · dsimp only
    split
    · exact .inr ⟨_, _, rfl⟩
    · exact .inr ⟨_, _, rfl⟩

/-- A ping that is read and counted is answered or dropped. -/
theorem handlePing_cases (env : Environment) (e : Endpoint) (now : Ticks)
    (frame : CulpeoMessage) :
    (∃ ex, e.handlePing env now frame = (e, .error ex)) ∨
      ∃ pingTimestamps pongs, (∀ pong ∈ pongs, ∃ ts, pong = Endpoint.pongFrame env now ts) ∧
        e.handlePing env now frame =
          ({ e with connection.pingTimestamps := pingTimestamps },
            .ok ⟨pongs, false, none, e.connection.state⟩) := by
  unfold Endpoint.handlePing
  split
  · exact .inl ⟨_, rfl⟩
  · rename_i ts _
    rcases tryTrackPing_cases e now with ⟨ex, hfailed⟩ | ⟨pingTimestamps, answered, hcounted⟩
    · rw [hfailed]
      exact .inl ⟨ex, rfl⟩
    · rw [hcounted]
      cases answered with
      | false => exact .inr ⟨pingTimestamps, [], nofun, rfl⟩
      | true =>
          exact .inr ⟨pingTimestamps, [Endpoint.pongFrame env now ts],
            fun pong hpong => ⟨ts, List.mem_singleton.mp hpong⟩, rfl⟩

/-- **When `IssueAuthRefreshAsync` issues a challenge**: on an established session without a
pending one. -/
theorem issueAuthRefresh_cases (env : Environment) (s : Surroundings) (e : Endpoint) :
    (∃ ex, e.issueAuthRefresh env s = (e, .error ex)) ∨
    ∃ nonce, e.connection.state = .established ∧ e.connection.pendingNonce = none ∧
      e.issueAuthRefresh env s =
        ({ e with
            connection.pendingNonce := some nonce
            connection.authChallengeIssuedAt := some (s.clock 0)
            connection.lastAuthRefreshIssuedAt := some (s.clock 0) },
          .ok (Endpoint.authRefreshFrame env nonce)) := by
  unfold Endpoint.issueAuthRefresh
  cases hestablished : e.ensureEstablished with
  | error ex => exact .inl ⟨ex, rfl⟩
  | ok snapshot =>
      have hstate : e.connection.state = .established := by
        unfold Endpoint.ensureEstablished at hestablished
        split at hestablished
        · assumption
        · cases hestablished
      dsimp only
      split
      · exact .inl ⟨_, rfl⟩
      · rename_i hnone
        split
        · exact .inl ⟨_, rfl⟩
        · split
          · exact .inl ⟨_, rfl⟩
          · exact .inr ⟨_, hstate, by simpa using hnone, rfl⟩

end CulpeoStream.Dotnet
