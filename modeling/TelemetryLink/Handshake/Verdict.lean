import TelemetryLink.Text.Hex

/-!
# Verdicts on a handshake

The collector answers a handshake with one octet. `0x01` accepts it, every other octet rejects
it, three of them for a stated reason.
-/

namespace TelemetryLink

/-- Why a handshake was rejected. -/
inductive Rejection where
  | badMagic
  | badVersion
  | badAuthentication
  | unknown (code : UInt8)
  deriving DecidableEq, Repr

namespace Rejection

/-- The octet that gives the reason. -/
def code : Rejection → UInt8
  | badMagic => 0xFF
  | badVersion => 0xFE
  | badAuthentication => 0xFD
  | unknown code => code

/-- The reason in words. -/
def label : Rejection → String
  | badMagic => "bad magic"
  | badVersion => "bad version"
  | badAuthentication => "bad authentication tag"
  | unknown _ => "unknown reason"

/-- The reason as it stands in messages, with its octet. -/
def message (reason : Rejection) : String :=
  reason.label ++ " (" ++ Text.Hex.tagged reason.code ++ ")"

end Rejection

/-- The collector's answer to a handshake. -/
inductive Verdict where
  | accepted
  | rejected (reason : Rejection)
  deriving DecidableEq, Repr

namespace Verdict

/-- The octet that accepts a handshake. -/
def acceptance : UInt8 := 0x01

/-- The verdict that an octet stands for. -/
def ofByte (byte : UInt8) : Verdict :=
  if byte = acceptance then accepted
  else if byte = 0xFF then rejected .badMagic
  else if byte = 0xFE then rejected .badVersion
  else if byte = 0xFD then rejected .badAuthentication
  else rejected (.unknown byte)

end Verdict

end TelemetryLink
