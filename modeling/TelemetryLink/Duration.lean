/-!
# Durations

Spans of time with nanosecond resolution, up to the greatest number of whole seconds in 64 bits.
Arithmetic never leaves the range: a product that is too large is the greatest duration.
`Duration.toNanos` is the duration as one exact number.
-/

namespace TelemetryLink

/-- Nanoseconds in a second. -/
def nanosPerSecond : Nat := 1000000000

/-- A span of time: whole seconds and the nanoseconds left over. -/
structure Duration where
  /-- Whole seconds. -/
  secs : UInt64
  /-- Nanoseconds beyond the whole seconds. -/
  nanos : Fin 1000000000
  deriving DecidableEq, Repr

namespace Duration

/-- No time at all. -/
def zero : Duration := ⟨0, 0⟩

/-- The longest duration. -/
def max : Duration := ⟨18446744073709551615, 999999999⟩

/-- A number of whole seconds. -/
def ofSecs (secs : UInt64) : Duration := ⟨secs, 0⟩

/-- A number of milliseconds. -/
def ofMillis (millis : UInt64) : Duration :=
  ⟨millis / 1000, ⟨millis.toNat % 1000 * 1000000, by omega⟩⟩

/-- A number of seconds and nanoseconds. Nanoseconds that make up whole seconds are carried,
modulo the range of seconds. -/
def ofParts (secs : UInt64) (nanos : UInt32) : Duration :=
  ⟨secs + UInt64.ofNat (nanos.toNat / 1000000000),
    ⟨nanos.toNat % 1000000000, Nat.mod_lt _ (by decide)⟩⟩

/-- The duration in nanoseconds. -/
def toNanos (d : Duration) : Nat :=
  d.secs.toNat * nanosPerSecond + d.nanos.val

/-- Whether one duration is shorter than another. -/
def lt (a b : Duration) : Bool :=
  a.secs < b.secs || (a.secs == b.secs && a.nanos < b.nanos)

/-- The shorter of two durations. -/
def min (a b : Duration) : Duration :=
  if b.lt a then b else a

/-- The duration taken `n` times. Seconds and nanoseconds are multiplied apart, the whole seconds
among the nanoseconds are carried, and a sum beyond the range gives the longest duration. -/
def saturatingMul (d : Duration) (n : UInt32) : Duration :=
  let nanos := d.nanos.val * n.toNat
  let secs := d.secs.toNat * n.toNat + nanos / 1000000000
  if secs < UInt64.size then ⟨UInt64.ofNat secs, ⟨nanos % 1000000000, Nat.mod_lt _ (by decide)⟩⟩
  else max

end Duration

end TelemetryLink
