import TelemetryLink.Identity

/-!
# Telemetry records

A record holds the raw integers that a sensor reports, and the sensor's hardware address.
-/

namespace TelemetryLink

/-- One reading of a sensor. -/
structure Record where
  /-- Identifies the data format. -/
  format : UInt8
  /-- Temperature in steps of 0.005 degrees Celsius. -/
  temperature : Int16
  /-- Relative humidity in steps of 0.0025 percent. -/
  humidity : UInt16
  /-- Pressure in pascals above 50000. -/
  pressure : UInt16
  /-- Acceleration along the first axis, in thousandths of standard gravity. -/
  accX : Int16
  /-- Acceleration along the second axis. -/
  accY : Int16
  /-- Acceleration along the third axis. -/
  accZ : Int16
  /-- Battery voltage in the upper eleven bits, transmission power in the lower five. -/
  powerInfo : UInt16
  /-- Counts movements. -/
  movementCounter : UInt8
  /-- Counts readings. -/
  measurementSeq : UInt16
  /-- The sensor's hardware address. -/
  mac : DeviceId
  deriving DecidableEq

/-- The record with another sequence number. -/
def Record.withSequence (record : Record) (seq : UInt16) : Record :=
  { record with measurementSeq := seq }

end TelemetryLink
