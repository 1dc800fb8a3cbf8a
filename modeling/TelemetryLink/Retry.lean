import TelemetryLink.Duration
import TelemetryLink.Error

/-!
# Retrying

When a session fails, a fresh one may succeed where it did not. This module says which errors
are worth another session, and how long to wait before it: twice as long after each failure,
from a base up to a bound.
-/

namespace TelemetryLink

namespace ProtocolError

/-- Whether a fresh session could succeed after this error. Rejections for magic, version or
authentication repeat, and so do values that cannot be built and exchanges at the wrong time. -/
def isRetryable : ProtocolError → Bool
  | handshakeRejected (.unknown _) => true
  | handshakeRejected _ => false
  | validation _ => false
  | invalidState _ => false
  | _ => true

end ProtocolError

/-- When to stop retrying, and how long to wait. -/
structure ReconnectPolicy where
  /-- Sessions in all, the first included. -/
  maxAttempts : UInt32
  /-- The wait after the first failure. -/
  base : Duration
  /-- The longest wait. -/
  max : Duration
  deriving DecidableEq, Repr

namespace ReconnectPolicy

/-- The greatest number of doublings that is distinguished. -/
def maxDoublings : Nat := 31

/-- The wait after so many failures. -/
def backoff (policy : ReconnectPolicy) (failures : UInt32) : Duration :=
  -- The wait after the first failure is the base itself.
  let doublings := min (failures.toNat - 1) maxDoublings
  (policy.base.saturatingMul (UInt32.ofNat (Nat.pow 2 doublings))).min policy.max

end ReconnectPolicy

end TelemetryLink
