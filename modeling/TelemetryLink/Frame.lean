import TelemetryLink.Error

/-!
# Frames

After the handshake everything that a client sends is a frame: a length of four octets, most
significant first, one octet for the type, and the payload. The length counts type and payload,
at least 1 and at most 65536. `Frame.parse` reads a frame from a buffer; the reader of
connections stands in `TelemetryLink.Link`.
-/

namespace TelemetryLink

/-- The types of frames. -/
inductive FrameType where
  | data
  | ping
  | unknown (byte : UInt8)
  deriving DecidableEq, Repr

namespace FrameType

/-- The type that an octet stands for. -/
def ofByte (byte : UInt8) : FrameType :=
  if byte = 0x01 then data else if byte = 0x02 then ping else unknown byte

/-- The octet of a type. -/
def toByte : FrameType → UInt8
  | data => 0x01
  | ping => 0x02
  | unknown byte => byte

end FrameType

/-- A frame. -/
structure Frame where
  /-- What the payload is. -/
  type : FrameType
  /-- The octets it carries. -/
  payload : Bytes
  deriving DecidableEq, Repr

namespace Frame

/-- The greatest length of type and payload together. -/
def maxLength : Nat := 65536

/-- The greatest length of a payload. -/
def maxPayload : Nat := maxLength - 1

/-- Octets in the length. -/
def lengthSize : Nat := 4

/-- Octets before the payload. -/
def headerSize : Nat := lengthSize + 1

/-- Refuses a length outside the allowed range. -/
def checkLength (length : Nat) : Except ProtocolError Unit :=
  if length = 0 ∨ maxLength < length then .error (.invalidFrameLength length) else .ok ()

/-- The octets of a frame. -/
def build (type : FrameType) (payload : Bytes) : Except ProtocolError Bytes := do
  let length := 1 + payload.length
  checkLength length
  return Bytes.be32 length ++ type.toByte :: payload

/-- The octets of a frame. -/
def encode (frame : Frame) : Except ProtocolError Bytes :=
  build frame.type frame.payload

/-- The frame whose type and payload are these octets. -/
def ofBody : Bytes → Frame
  | [] => ⟨.ofByte 0, []⟩
  | type :: payload => ⟨.ofByte type, payload⟩

/-- Reads one frame from the start of a buffer, and says how many octets it takes. A buffer that
is too short is told how many octets are needed in all: four while the length is incomplete. -/
def parse (buffer : Bytes) : Except ProtocolError (Frame × Nat) := do
  if buffer.length < lengthSize then
    throw (.truncatedInput lengthSize buffer.length)
  let length := Bytes.ofBe (buffer.take lengthSize)
  -- The length is judged as soon as it is there, however much of the frame is missing.
  checkLength length
  let needed := lengthSize + length
  if buffer.length < needed then
    throw (.truncatedInput needed buffer.length)
  return (ofBody ((buffer.drop lengthSize).take length), needed)

end Frame

end TelemetryLink
