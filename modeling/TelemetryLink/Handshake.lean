import TelemetryLink.Digest.Hmac
import TelemetryLink.Identity

/-!
# The handshake

A client opens a connection with 52 octets:

```text
magic 4 | version 1 | flags 1 | device id 6 | nonce 8 | tag 32
```

The tag is the keyed digest of everything before it. The nonce is part of what is signed, so two
handshakes of one device differ. `Handshake.build` makes the message, `Handshake.ofBytes` reads
any 52 octets as one, and `Handshake.verify` is the collector's test.
-/

namespace TelemetryLink

/-- The flags of a handshake. -/
structure Flags where
  /-- The octet that is sent. -/
  byte : UInt8
  deriving DecidableEq, Repr

namespace Flags

/-- No flag set. -/
def empty : Flags := ⟨0⟩

/-- The low eight bits of a wider number. -/
def ofWord (word : UInt32) : Flags := ⟨word.toUInt8⟩

end Flags

/-- Octets that make a handshake unlike any other. -/
abbrev Nonce := Block 8

/-- A handshake message, field by field. -/
structure Handshake where
  magic : Block 4
  version : UInt8
  flags : Flags
  deviceId : DeviceId
  nonce : Nonce
  tag : Block Digest.Sha256.size
  deriving DecidableEq

namespace Handshake

/-- The octets that every handshake starts with: `RGW1`. -/
def protocolMagic : Block 4 := ⟨[0x52, 0x47, 0x57, 0x31], rfl⟩

/-- The version of the protocol. -/
def protocolVersion : UInt8 := 0x01

/-- Octets in a handshake. -/
def size : Nat := 52

/-- Octets that the tag covers. -/
def signedSize : Nat := 20

/-- What the tag covers: everything before it. -/
def signed (magic : Block 4) (version : UInt8) (flags : Flags) (deviceId : DeviceId)
    (nonce : Nonce) : Bytes :=
  magic.val ++ version :: flags.byte :: deviceId.bytes ++ nonce.val

/-- The part of a message that its tag covers. -/
def signedPart (message : Handshake) : Bytes :=
  signed message.magic message.version message.flags message.deviceId message.nonce

/-- The octets of a message. -/
def toBytes (message : Handshake) : Bytes :=
  message.signedPart ++ message.tag.val

/-- Reads any 52 octets as a message. -/
def ofBytes (bytes : Bytes) : Except ProtocolError Handshake :=
  if h : bytes.length = size then
    -- The size as a number, which the bounds below are checked against.
    have h : bytes.length = 52 := h
    .ok {
      magic := bytes.slice 0 4 (by omega)
      version := bytes[4]
      flags := ⟨bytes[5]⟩
      deviceId := ⟨bytes.slice 6 6 (by omega)⟩
      nonce := bytes.slice 12 8 (by omega)
      tag := bytes.slice 20 32 (by omega) }
  else .error (.validation (.handshakeSize bytes.length))

/-- The message of a device under a key. -/
def build (key : AuthKey) (deviceId : DeviceId) (flags : Flags) (nonce : Nonce) : Handshake where
  magic := protocolMagic
  version := protocolVersion
  flags := flags
  deviceId := deviceId
  nonce := nonce
  tag := Digest.hmac key.bytes (signed protocolMagic protocolVersion flags deviceId nonce)

/-- The message of a device given by raw octets, of which there have to be six. -/
def buildRaw (key : AuthKey) (deviceId : Bytes) (flags : Flags) (nonce : Nonce) :
    Except ProtocolError Handshake :=
  match DeviceId.ofBytes deviceId with
  | .ok deviceId => .ok (build key deviceId flags nonce)
  | .error cause => .error (.validation cause)

/-- Whether the tag is the keyed digest of what it covers. -/
def verify (message : Handshake) (key : AuthKey) : Bool :=
  message.tag = Digest.hmac key.bytes message.signedPart

/-- What a message shows of itself: everything but the tag. -/
def describe (message : Handshake) : String :=
  "HandshakeMessage \x7b version: " ++ toString message.version.toNat ++
    ", flags: HandshakeFlags(" ++ toString message.flags.byte.toNat ++
    "), device_id: \"" ++ Text.Hex.encode message.deviceId.bytes ++
    "\", nonce: \"" ++ Text.Hex.encode message.nonce.val ++ "\" \x7d"

end Handshake

end TelemetryLink
