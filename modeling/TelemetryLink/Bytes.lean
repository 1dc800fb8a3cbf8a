/-!
# Byte strings

Byte strings are lists of octets, so that cutting and joining them is `take`, `drop` and `++`.
This module holds the fixed-size ones (`Block`) and the two integer layouts of the wire:
16-bit little-endian fields and the 32-bit big-endian length prefix.
-/

namespace TelemetryLink

/-- A string of octets, first octet first. -/
abbrev Bytes := List UInt8

/-- A byte string of exactly `n` octets. -/
abbrev Block (n : Nat) := { bytes : Bytes // bytes.length = n }

namespace Bytes

/-- The two octets of a 16-bit word, least significant first. -/
def le16 (word : UInt16) : Bytes :=
  [UInt8.ofNat word.toNat, UInt8.ofNat (word.toNat / 256)]

/-- The 16-bit word written least significant octet first. -/
def ofLe16 (low high : UInt8) : UInt16 :=
  UInt16.ofNat (low.toNat + 256 * high.toNat)

/-- The four octets of a 32-bit quantity, most significant first. Larger numbers lose their
high bits. -/
def be32 (value : Nat) : Bytes :=
  [UInt8.ofNat (value / 16777216), UInt8.ofNat (value / 65536), UInt8.ofNat (value / 256),
    UInt8.ofNat value]

/-- The number that octets stand for, most significant first. -/
def ofBe (bytes : Bytes) : Nat :=
  bytes.foldl (fun n b => n * 256 + b.toNat) 0

/-- The `n` octets that start at `start`. -/
def slice (bytes : Bytes) (start n : Nat) (h : start + n ≤ bytes.length) : Block n :=
  ⟨(bytes.drop start).take n, by simp; omega⟩

end Bytes

end TelemetryLink
