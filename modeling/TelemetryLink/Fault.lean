/-!
# Transport faults

What a connection reports when a read, a write or a connection attempt fails: a kind, which
decides how the protocol treats it, and the text that is shown.
-/

namespace TelemetryLink

/-- The kinds of transport faults. -/
inductive FaultKind where
  | timedOut
  | wouldBlock
  | connectionReset
  | connectionAborted
  | connectionRefused
  | notConnected
  | brokenPipe
  | unexpectedEof
  | permissionDenied
  | interrupted
  | invalidData
  | invalidInput
  | notFound
  | addressInUse
  | writeZero
  | outOfMemory
  | unsupported
  | hostUnreachable
  | networkUnreachable
  | other
  deriving DecidableEq, Repr

namespace FaultKind

/-- The text of a fault that says no more than its kind. -/
def text : FaultKind → String
  | timedOut => "timed out"
  | wouldBlock => "operation would block"
  | connectionReset => "connection reset"
  | connectionAborted => "connection aborted"
  | connectionRefused => "connection refused"
  | notConnected => "not connected"
  | brokenPipe => "broken pipe"
  | unexpectedEof => "unexpected end of file"
  | permissionDenied => "permission denied"
  | interrupted => "operation interrupted"
  | invalidData => "invalid data"
  | invalidInput => "invalid input parameter"
  | notFound => "entity not found"
  | addressInUse => "address in use"
  | writeZero => "write zero"
  | outOfMemory => "out of memory"
  | unsupported => "unsupported"
  | hostUnreachable => "host unreachable"
  | networkUnreachable => "network unreachable"
  | other => "other error"

end FaultKind

/-- A transport fault as it is reported. -/
structure Fault where
  /-- Decides which protocol error the fault becomes. -/
  kind : FaultKind
  /-- What a reader of the message sees. -/
  text : String
  deriving DecidableEq, Repr

namespace Fault

/-- A fault that says no more than its kind. -/
def bare (kind : FaultKind) : Fault := ⟨kind, kind.text⟩

/-- A write that took no octet although some were offered. -/
def nothingWritten : Fault := ⟨.writeZero, "failed to write whole buffer"⟩

/-- A timeout of zero, which no connection accepts. -/
def zeroTimeout : Fault := ⟨.invalidInput, "cannot set a 0 duration timeout"⟩

/-- A host name that no address is known for. -/
def unknownHost : Fault :=
  ⟨.other, "failed to lookup address information: Name or service not known"⟩

/-- A host name that holds the character NUL. -/
def nulInHost : Fault := ⟨.invalidInput, "file name contained an unexpected NUL byte"⟩

/-- A wait for the peer that outlasted the bound on a read. -/
def readTimedOut : Fault := ⟨.wouldBlock, "Resource temporarily unavailable (os error 11)"⟩

/-- A connection attempt that the peer turned down. -/
def refused : Fault := ⟨.connectionRefused, "Connection refused (os error 111)"⟩

/-- A connection attempt to a network without a route. -/
def networkUnreachable : Fault := ⟨.networkUnreachable, "Network is unreachable (os error 101)"⟩

/-- A connection attempt to a host without a route. -/
def hostUnreachable : Fault := ⟨.hostUnreachable, "No route to host (os error 113)"⟩

/-- A connection attempt that the local system forbids. -/
def accessDenied : Fault := ⟨.permissionDenied, "Permission denied (os error 13)"⟩

/-- A connection attempt that got no answer. -/
def connectTimedOut : Fault := ⟨.timedOut, "Connection timed out (os error 110)"⟩

/-- A connection attempt that the peer cut off. -/
def resetByPeer : Fault := ⟨.connectionReset, "Connection reset by peer (os error 104)"⟩

end Fault

end TelemetryLink
