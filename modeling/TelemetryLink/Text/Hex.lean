import TelemetryLink.Bytes

/-!
# Hexadecimal text

Octets written as two hexadecimal digits each, in either case, and the reading of a digit.
-/

namespace TelemetryLink.Text.Hex

/-- The lower-case digit of a number below sixteen. -/
def lowerDigit (n : Nat) : Char :=
  if n < 10 then Char.ofNat (48 + n) else Char.ofNat (87 + n)

/-- The upper-case digit of a number below sixteen. -/
def upperDigit (n : Nat) : Char :=
  if n < 10 then Char.ofNat (48 + n) else Char.ofNat (55 + n)

/-- An octet as two lower-case digits. -/
def octet (b : UInt8) : List Char :=
  [lowerDigit (b.toNat / 16), lowerDigit (b.toNat % 16)]

/-- An octet as two upper-case digits. -/
def upperOctet (b : UInt8) : List Char :=
  [upperDigit (b.toNat / 16), upperDigit (b.toNat % 16)]

/-- The lower-case text of a byte string, without separators. -/
def encode (bytes : Bytes) : String :=
  String.ofList (bytes.flatMap octet)

/-- A single octet as it stands in messages: `0x` and two lower-case digits. -/
def tagged (b : UInt8) : String :=
  "0x" ++ encode [b]

/-- The value of the octet as an ASCII hexadecimal digit of either case. -/
def digit? (b : UInt8) : Option Nat :=
  let n := b.toNat
  if 48 ≤ n ∧ n ≤ 57 then some (n - 48)
  else if 97 ≤ n ∧ n ≤ 102 then some (n - 87)
  else if 65 ≤ n ∧ n ≤ 70 then some (n - 55)
  else none

/-- The value of a character as a hexadecimal digit of either case. -/
def charDigit? (c : Char) : Option Nat :=
  if c.toNat < 128 then digit? (UInt8.ofNat c.toNat) else none

/-- The octets written by pairs of digits. Anything else, an odd count included, has no value. -/
def decode : Bytes → Option Bytes
  | [] => some []
  | high :: low :: rest => do
    let h ← digit? high
    let l ← digit? low
    let bytes ← decode rest
    return UInt8.ofNat (16 * h + l) :: bytes
  | [_] => none

/-- The hexadecimal digits of a number, lower case, without leading zeros. -/
def ofNat (n : Nat) : String :=
  String.ofList (Nat.toDigits 16 n)

end TelemetryLink.Text.Hex
