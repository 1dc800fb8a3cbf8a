import TelemetryLink.Bytes

/-!
# Replies

The collector answers every frame with two octets, a marker and a code. One marker confirms,
another reports an error of the collector, and no other is known.
-/

namespace TelemetryLink

/-- The code of a confirmation. -/
inductive AckCode where
  | data
  | ping
  | other (code : UInt8)
  deriving DecidableEq, Repr

namespace AckCode

/-- The code that an octet stands for. -/
def ofByte (byte : UInt8) : AckCode :=
  if byte = 0x01 then data else if byte = 0x02 then ping else other byte

/-- The octet of a code. -/
def toByte : AckCode → UInt8
  | data => 0x01
  | ping => 0x02
  | other byte => byte

end AckCode

/-- The answer to a frame. -/
inductive Reply where
  /-- The collector confirms. -/
  | ack (code : AckCode)
  /-- The collector reports an error. -/
  | serverError (code : UInt8)
  /-- Two octets without a known marker. -/
  | malformed (marker code : UInt8)
  deriving DecidableEq, Repr

namespace Reply

/-- Octets in a reply. -/
def size : Nat := 2

/-- The marker of a confirmation. -/
def ackMarker : UInt8 := 0x03

/-- The marker of an error. -/
def errorMarker : UInt8 := 0x10

/-- The reply that two octets stand for. -/
def ofBytes (marker code : UInt8) : Reply :=
  if marker = ackMarker then ack (.ofByte code)
  else if marker = errorMarker then serverError code
  else malformed marker code

/-- The octets of a reply. -/
def toBytes : Reply → Bytes
  | ack code => [ackMarker, code.toByte]
  | serverError code => [errorMarker, code]
  | malformed marker code => [marker, code]

/-- What confirms a data frame. -/
def dataAck : Bytes := (ack .data).toBytes

/-- What confirms a ping. -/
def pingAck : Bytes := (ack .ping).toBytes

end Reply

end TelemetryLink
