/-
MMOServers.Common.PacketDispatcher — the two per-session guards of
`PacketDispatcher.h`.

The clock of the rate limiter is in nanoseconds, and `duration_cast` to seconds
cuts the fraction off.
-/
import Mathlib.Data.Nat.Basic

namespace MMOServers.Common

namespace SecurityConstants

def maxParseViolations : Nat := 5
def maxRateViolations : Nat := 5
def maxPacketsPerSecond : Nat := 200
def rateWindowSeconds : Nat := 1

/-- `SHARED_PASSPHRASE`. -/
def sharedPassphrase : String := "MMOSERVER_AES128_SHARED_KEY_2025"

end SecurityConstants

open SecurityConstants

/-- `class PacketRateLimiter`. -/
structure PacketRateLimiter where
  windowStart : Nat := 0
  packetCount : Nat := 0

namespace PacketRateLimiter

/-- `AllowPacket` at the clock reading `now`. -/
def allowPacket (r : PacketRateLimiter) (now : Nat) : Bool × PacketRateLimiter :=
  let elapsed := (now - r.windowStart) / 1000000000
  if elapsed ≥ rateWindowSeconds then (true, ⟨now, 1⟩)
  else
    let r := { r with packetCount := r.packetCount + 1 }
    (!(r.packetCount > maxPacketsPerSecond), r)

end PacketRateLimiter

/-- `class ParseViolationTracker`. -/
structure ParseViolationTracker where
  violationCount : Nat := 0

namespace ParseViolationTracker

/-- `OnParseFailure`; true means the session is to be closed. -/
def onParseFailure (t : ParseViolationTracker) : Bool × ParseViolationTracker :=
  let t : ParseViolationTracker := ⟨t.violationCount + 1⟩
  (t.violationCount ≥ maxParseViolations, t)

def onParseSuccess (_ : ParseViolationTracker) : ParseViolationTracker := ⟨0⟩

end ParseViolationTracker

end MMOServers.Common
