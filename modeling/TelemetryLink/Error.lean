import TelemetryLink.Fault
import TelemetryLink.Handshake.Verdict
import TelemetryLink.Session.Stage
import TelemetryLink.Text.Quoted

/-!
# Protocol errors

Every way in which building, decoding or exchanging a message fails. An error is its cause;
`ProtocolError.message` is the one place that puts causes into words, and
`ProtocolError.ofFault` the one place that sorts transport faults.
-/

namespace TelemetryLink

/-- Why a value cannot be built. -/
inductive Invalid where
  /-- A device id whose digits, without separators, do not take twelve octets. -/
  | deviceIdLength (given : String)
  /-- A device id whose octet at `index` is no hexadecimal digit. -/
  | deviceIdDigit (given : String) (byte : UInt8) (index : Nat)
  /-- A raw device id of another size than six octets. -/
  | deviceIdSize (size : Nat)
  /-- A key without octets. -/
  | emptyKey
  /-- A handshake of another size than 52 octets. -/
  | handshakeSize (size : Nat)
  /-- A cause known by its text only. -/
  | stated (text : String)
  deriving DecidableEq, Repr

namespace Invalid

/-- The cause in words. The offending octet of a device id stands as a Latin-1 character. -/
def message : Invalid → String
  | deviceIdLength given =>
    "device id must be 6 bytes (12 hex chars), got " ++ Text.Quoted.string given
  | deviceIdDigit given byte index =>
    "device id " ++ Text.Quoted.string given ++ " is not valid hex: Invalid character " ++
      Text.Quoted.char (Char.ofNat byte.toNat) ++ " at position " ++ toString index
  | deviceIdSize size => "device id must be 6 bytes, got " ++ toString size
  | emptyKey => "authentication key must not be empty"
  | handshakeSize size => "handshake must be 52 bytes, got " ++ toString size
  | stated text => text

end Invalid

/-- How a connection ended too early. -/
inductive Closure where
  /-- The peer closed after `filled` of the `needed` octets of a read. -/
  | byPeer (filled needed : Nat)
  /-- A transport fault said so. -/
  | reported (text : String)
  deriving DecidableEq, Repr

/-- The end of the connection in words. -/
def Closure.message : Closure → String
  | byPeer filled needed => s!"peer closed after {filled} of {needed} bytes"
  | reported text => text

/-- A failure of the transport that is neither a timeout nor the end of a connection. -/
inductive Breakdown where
  /-- The host has no address at all. -/
  | noAddress (host : String) (port : UInt16)
  /-- A transport fault said so. -/
  | reported (text : String)
  deriving DecidableEq, Repr

/-- The failure in words. -/
def Breakdown.message : Breakdown → String
  | noAddress host port => host ++ ":" ++ toString port.toNat ++ " resolved to no addresses"
  | reported text => text

/-- An exchange asked of a session that cannot make it. -/
inductive Misuse where
  /-- The exchange belongs to another state. -/
  | wrongState (stage : Stage) (expected actual : SessionState)
  /-- A session sends one ping at most. -/
  | secondPing
  /-- The connection is gone already. -/
  | released
  /-- A cause known by its text only. -/
  | stated (text : String)
  deriving DecidableEq, Repr

/-- The misuse in words. -/
def Misuse.message : Misuse → String
  | wrongState stage expected actual =>
    stage.text ++ " requires state " ++ expected.text ++ ", session is " ++ actual.text
  | secondPing => "ping already sent in this session"
  | released => "stream already released"
  | stated text => text

/-- Every way in which the protocol fails. -/
inductive ProtocolError where
  /-- A value that cannot be built. -/
  | validation (cause : Invalid)
  /-- Input that ends too early. -/
  | truncatedInput (needed available : Nat)
  /-- An optional record that starts with neither mark. -/
  | invalidDiscriminant (byte : UInt8)
  /-- Octets after the end of a value. -/
  | trailingBytes (count : Nat)
  /-- A frame length outside the allowed range. -/
  | invalidFrameLength (length : Nat)
  /-- The connection ended. -/
  | connectionClosed (cause : Closure)
  /-- The peer took too long. -/
  | timeout (text : String)
  /-- The transport failed otherwise. -/
  | transport (cause : Breakdown)
  /-- The collector rejected the handshake. -/
  | handshakeRejected (reason : Rejection)
  /-- The collector reported an error of its own. -/
  | serverError (code : UInt8)
  /-- A reply that the protocol does not know. -/
  | protocolViolation (bytes : Bytes)
  /-- An exchange asked at the wrong time. -/
  | invalidState (cause : Misuse)
  deriving DecidableEq, Repr

namespace ProtocolError

/-- The error in words. -/
def message : ProtocolError → String
  | validation cause => "validation failed: " ++ cause.message
  | truncatedInput needed available =>
    s!"truncated input: need {needed} bytes, have {available}"
  | invalidDiscriminant byte => "invalid option discriminant: " ++ Text.Hex.tagged byte
  | trailingBytes count => s!"{count} trailing bytes after decoded value"
  | invalidFrameLength length => s!"invalid frame length: {length} (allowed 1..=65536)"
  | connectionClosed cause => "connection closed: " ++ cause.message
  | timeout text => "operation timed out: " ++ text
  | transport cause => "transport error: " ++ cause.message
  | handshakeRejected reason => "handshake rejected: " ++ reason.message
  | serverError code => "server error code " ++ Text.Hex.tagged code
  | protocolViolation bytes =>
    "protocol violation: unexpected bytes [" ++ Text.Hex.encode bytes ++ "]"
  | invalidState cause => "invalid session state: " ++ cause.message

/-- A transport fault as a protocol error. Timeouts and would-block are timeouts, the four kinds
that end a connection close it, and every other kind is a failure of the transport. -/
def ofFault (fault : Fault) : ProtocolError :=
  match fault.kind with
  | .timedOut | .wouldBlock => timeout fault.text
  | .connectionReset | .connectionAborted | .brokenPipe | .unexpectedEof =>
    connectionClosed (.reported fault.text)
  | _ => transport (.reported fault.text)

end ProtocolError

/-- A protocol error with the stage of the session that it ended. -/
structure SessionError where
  /-- The exchange that failed. -/
  stage : Stage
  /-- Why it failed. -/
  error : ProtocolError
  deriving DecidableEq, Repr

/-- The error in words, after its stage. -/
def SessionError.message (e : SessionError) : String :=
  e.stage.text ++ " failed: " ++ e.error.message

end TelemetryLink
