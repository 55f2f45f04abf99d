import CulpeoStream.Dotnet.Session
import CulpeoStream.Lib.History

/-!
# `IpRateLimiter.cs`

Each IP address has a record of the times of its accepted attempts.  A record that is not
there yet is empty, so the dictionary is a function of the address.
-/

namespace CulpeoStream.Dotnet

open Utf16 History

structure IpRecord where
  timestamps : List Ticks := []

/-- `IpRecord.TryAcquire`, under the lock. -/
def IpRecord.tryAcquire (record : IpRecord) (max : ℤ) (nowTicks : Ticks) : IpRecord × Bool :=
  let cutoffTicks := nowTicks - 600000000
  let recent := record.timestamps.dropWhile fun t => t < cutoffTicks
  if max ≤ recent.length then ({ timestamps := recent }, false)
  else ({ timestamps := recent ++ [nowTicks] }, true)

structure IpRateLimiter where
  records : Text → IpRecord := fun _ => {}

namespace IpRateLimiter

def tryAcquire (limiter : IpRateLimiter) (ip : Text) (maxPerMinute : ℤ) (nowTicks : Ticks) :
    IpRateLimiter × Bool :=
  if maxPerMinute ≤ 0 then (limiter, true)
  else
    let acquired := (limiter.records ip).tryAcquire maxPerMinute nowTicks
    ({ records := Function.update limiter.records ip acquired.1 }, acquired.2)

/-- An attempt to connect. -/
structure Attempt where
  ip : Text
  nowTicks : Ticks

/-- The attempts of all addresses, one after the other. -/
def attempts (maxPerMinute : ℤ) (limiter : IpRateLimiter) (events : List Attempt) :
    List (Record IpRateLimiter Attempt (IpRateLimiter × Bool)) :=
  history (fun event limiter => tryAcquire limiter event.ip maxPerMinute event.nowTicks) Prod.fst
    limiter events

end IpRateLimiter

end CulpeoStream.Dotnet
