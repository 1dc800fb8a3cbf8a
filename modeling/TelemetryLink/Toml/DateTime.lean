import TelemetryLink.Toml.Reader

/-!
# Dates and times

Dates, times of the day, and both together with or without an offset from universal time. They
are checked against the calendar and the clock, and not kept.
-/

namespace TelemetryLink.Toml.DateTime

/-- The number of which `value` are the digits so far, and so many more follow. -/
def fixed (value : Nat) : Nat → Reader Nat
  | 0 => return value
  | n + 1 => do
    let c ← Reader.satisfying Char.isDigit
    fixed (10 * value + (c.toNat - '0'.toNat)) n

/-- So many decimal digits, as a number between bounds. -/
def field (digits low high : Nat) : Reader Nat := do
  let n ← fixed 0 digits
  if low ≤ n ∧ n ≤ high then return n else failure

/-- Whether a year has a 29th of February. -/
def isLeap (year : Nat) : Bool :=
  year % 4 == 0 && (year % 100 != 0 || year % 400 == 0)

/-- Days in a month. -/
def daysIn (year month : Nat) : Nat :=
  if month = 2 then (if isLeap year then 29 else 28)
  else if month = 4 ∨ month = 6 ∨ month = 9 ∨ month = 11 then 30
  else 31

/-- A day of the calendar. -/
def date : Reader Unit := do
  let year ← fixed 0 4
  Reader.exactly "-"
  let month ← field 2 1 12
  Reader.exactly "-"
  let _ ← field 2 1 (daysIn year month)

/-- A time of the day, with seconds, a leap second included, and perhaps a fraction of one. -/
def time : Reader Unit := do
  let _ ← field 2 0 23
  Reader.exactly ":"
  let _ ← field 2 0 59
  Reader.exactly ":"
  let _ ← field 2 0 60
  let _ ← Reader.optional do
    Reader.exactly "."
    let _ ← Reader.satisfying Char.isDigit
    Reader.takeWhile Char.isDigit

/-- The offset of a clock from universal time. -/
def offset : Reader Unit := do
  let c ← Reader.satisfying fun c => c == 'Z' || c == 'z' || c == '+' || c == '-'
  if c == '+' || c == '-' then
    let _ ← field 2 0 23
    Reader.exactly ":"
    let _ ← field 2 0 59

/-- The time of the day after a date. -/
def timeOfDate : Reader Unit := do
  let _ ← Reader.satisfying fun c => c == 'T' || c == 't' || c == ' '
  time
  let _ ← Reader.optional offset

/-- A date, a time, or both. -/
def read : Reader Scalar := do
  let dated : Reader Unit := do
    date
    let _ ← Reader.optional timeOfDate
  Reader.orElse dated time
  return .dateTime

end TelemetryLink.Toml.DateTime
