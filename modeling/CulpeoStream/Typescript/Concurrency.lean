import CulpeoStream.Lib.EventLoop
import CulpeoStream.Typescript.Cut

/-!
# Sessions on the event loop

The public calls of the two sessions as the calls of an `EventLoop`.  A session awaits the
promises of `sendFrame` and of `refreshAuthToken`, which settle at any later time; the
callbacks of the application return at once.
-/

namespace CulpeoStream.Typescript

open Message Utf16 Resumption

/-- What a callback returns is not looked at. -/
def instant : Output → Option (Option Text)
  | .notify _ | .onRtt _ _ _ => some none
  | .send _ | .refreshAuthToken | .turn => none

/-- A public call on a client. -/
inductive ClientEntry where
  | receive (now : ℤ) (frame : CulpeoMessage)
  | call (c : ClientCall)

/-- A public call on a server. -/
inductive ServerEntry where
  | receive (now : ℤ) (frame : CulpeoMessage)
  | call (c : ServerCall)

def ClientEntry.program (o : LinkOptions) : ClientEntry → Rest
  | receive now frame => clientReceive o.runtime o.client now frame
  | call c => c.prog o

def ServerEntry.program (o : LinkOptions) : ServerEntry → Rest
  | receive now frame => serverReceive o.runtime o.options o.server now frame
  | call c => c.prog o

/-- A session, the suspended calls on it, and what it has done to the outside. -/
abbrev SessionLoop (C : Type) := EventLoop.Loop Session Output (Option Text) Result C

abbrev SessionMove (C : Type) := EventLoop.Move C (Option Text)

def runClient (o : LinkOptions) (l : SessionLoop ClientEntry)
    (moves : List (SessionMove ClientEntry)) : SessionLoop ClientEntry :=
  EventLoop.run instant (ClientEntry.program o) l moves

def runServer (o : LinkOptions) (l : SessionLoop ServerEntry)
    (moves : List (SessionMove ServerEntry)) : SessionLoop ServerEntry :=
  EventLoop.run instant (ServerEntry.program o) l moves

end CulpeoStream.Typescript
