import TelemetryLink.Error
import TelemetryLink.Text.Blank
import TelemetryLink.Text.Utf8

/-!
# Device ids and keys

A gateway is known by six octets, normally a hardware address, and authenticates with a key
that the collector knows too. This module reads and writes the text of ids.
-/

namespace TelemetryLink

/-- Octets in a device id. -/
def deviceIdSize : Nat := 6

/-- The identifier of a device. -/
structure DeviceId where
  /-- The six octets, in the order of the text. -/
  block : Block deviceIdSize
  deriving DecidableEq

namespace DeviceId

/-- The octets of an id. -/
def bytes (id : DeviceId) : Bytes := id.block.val

/-- An id from raw octets, of which there have to be six. -/
def ofBytes (bytes : Bytes) : Except Invalid DeviceId :=
  if h : bytes.length = deviceIdSize then .ok ⟨bytes, h⟩
  else .error (.deviceIdSize bytes.length)

/-- The characters between the digits of an id, which a reader skips wherever they stand. -/
def isSeparator (c : Char) : Bool := c == ':' || c == '-'

/-- The text of an id without the white space around it and without separators. -/
def digits (text : String) : List Char :=
  (Text.Blank.trim text.toList).filter (!isSeparator ·)

/-- The first octet that is no hexadecimal digit, with its index. -/
def firstNonDigit (bytes : Bytes) : Option (UInt8 × Nat) :=
  bytes.zipIdx.find? fun entry => (Text.Hex.digit? entry.1).isNone

/-- Reads an id: twelve hexadecimal digits of either case, with separators anywhere and white
space around. A wrong count of octets is reported before a wrong digit. -/
def parse (text : String) : Except Invalid DeviceId :=
  let raw := Text.Utf8.encodeChars (digits text)
  if raw.length ≠ 2 * deviceIdSize then .error (.deviceIdLength text)
  else match Text.Hex.decode raw, firstNonDigit raw with
    -- Twelve octets that are all digits always make an id.
    | some bytes, _ => ofBytes bytes
    | none, some (byte, index) => .error (.deviceIdDigit text byte index)
    | none, none => .error (.deviceIdLength text)

/-- The text of an id: upper-case digits with a colon after every octet but the last. -/
def display (id : DeviceId) : String :=
  ":".intercalate (id.bytes.map fun b => String.ofList (Text.Hex.upperOctet b))

/-- The octets of an id as decimal numbers, as a session's description shows them. -/
def describe (id : DeviceId) : String :=
  "DeviceId([" ++ ", ".intercalate (id.bytes.map fun b => toString b.toNat) ++ "])"

end DeviceId

/-- A key that the gateway shares with the collector. It is never empty. -/
structure AuthKey where
  /-- The octets of the key. -/
  bytes : Bytes
  bytes_ne_nil : bytes ≠ []
  deriving DecidableEq

namespace AuthKey

/-- A key from its octets. -/
def ofBytes (bytes : Bytes) : Except Invalid AuthKey :=
  if h : bytes = [] then .error .emptyKey else .ok ⟨bytes, h⟩

/-- What a key shows of itself: its length, and nothing of its octets. -/
def describe (key : AuthKey) : String :=
  "AuthKey \x7b len: " ++ toString key.bytes.length ++ ", bytes: \"[REDACTED]\" \x7d"

end AuthKey

end TelemetryLink
