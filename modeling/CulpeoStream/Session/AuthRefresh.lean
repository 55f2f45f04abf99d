import CulpeoStream.Session.Registry

/-!
# Auth-refresh challenges

`auth_refresh.cpp`: the single outstanding nonce of a session, its rate limit and
its expiry.  `clear` keeps `lastIssued`, so that clearing a challenge does not lift
the rate limit.
-/

namespace CulpeoStream.Session

open Message

/-- `kNonceBytes`. -/
def kNonceBytes : ℕ := 32

/-- The value of a hexadecimal digit of either case. -/
def fromHex (c : UInt8) : Option UInt8 :=
  if ch '0' ≤ c ∧ c ≤ ch '9' then some (c - ch '0')
  else if ch 'a' ≤ c ∧ c ≤ ch 'f' then some (c - ch 'a' + 10)
  else if ch 'A' ≤ c ∧ c ≤ ch 'F' then some (c - ch 'A' + 10)
  else none

/-- Two hexadecimal digits at a time. -/
def hexPairs : Bytes → Option Bytes
  | h :: l :: rest =>
      match fromHex h, fromHex l, hexPairs rest with
      | some hv, some lv, some bytes => some (((hv <<< 4) ||| lv) :: bytes)
      | _, _, _ => none
  | _ => some []

def hexToBytes (hex : Bytes) : Option Bytes :=
  if hex.length ≠ kNonceBytes * 2 then none else hexPairs hex

/-- The XOR accumulator over two buffers of equal size. -/
def constantTimeEqual (a b : Bytes) : Bool :=
  if a.length ≠ b.length then false
  else (a.zip b).foldl (fun diff p => diff ||| (p.1 ^^^ p.2)) 0 == 0

structure AuthRefreshManager where
  nonce : Bytes := List.replicate kNonceBytes 0
  pending : Bool := false
  issuedAt : ℤ := 0
  lastIssued : ℤ := 0
  deriving DecidableEq, Repr

namespace AuthRefreshManager

/-- Seconds between two time points, truncated. -/
def elapsedSeconds (now since : ℤ) : ℤ := (now - since).tdiv 1000000000

def clear (mgr : AuthRefreshManager) : AuthRefreshManager :=
  { mgr with nonce := List.replicate kNonceBytes 0, pending := false }

def generate (mgr : AuthRefreshManager) (amb : Ambient) (minIntervalS : UInt32) :
    Except Error Bytes × AuthRefreshManager :=
  if mgr.pending then (.error .nonceAlreadyPending, mgr)
  else if mgr.lastIssued ≠ 0 ∧ elapsedSeconds amb.steadyNow mgr.lastIssued < minIntervalS.toNat then
    (.error .nonceAlreadyPending, mgr)
  else
    match amb.secureRandom 0 kNonceBytes with
    | none => (.error .transportError, mgr)
    | some nonce =>
        (.ok (bytesToHex nonce),
          { nonce, pending := true, issuedAt := amb.steadyNow, lastIssued := amb.steadyNow })

def isExpired (mgr : AuthRefreshManager) (now : ℤ) (timeoutS : UInt32) : Bool :=
  mgr.pending && decide ((timeoutS.toNat : ℤ) ≤ elapsedSeconds now mgr.issuedAt)

def validateAndConsume (mgr : AuthRefreshManager) (now : ℤ) (echoedHex : Bytes)
    (timeoutS : UInt32) : Except Error Unit × AuthRefreshManager :=
  if !mgr.pending then (.error .nonceMismatch, mgr)
  else if mgr.isExpired now timeoutS then (.error .nonceExpired, mgr.clear)
  else
    match hexToBytes echoedHex with
    | none => (.error .nonceMismatch, mgr.clear)
    | some echoed =>
        if constantTimeEqual echoed mgr.nonce then (.ok (), mgr.clear)
        else (.error .nonceMismatch, mgr.clear)

end AuthRefreshManager

end CulpeoStream.Session
