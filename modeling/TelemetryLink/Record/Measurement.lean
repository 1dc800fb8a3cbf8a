import TelemetryLink.Record

/-!
# Measurements

The physical quantities behind a record's raw integers. Fractions are single-precision numbers,
and each step is one operation in single precision.
-/

namespace TelemetryLink.Record

/-- The single-precision number nearest to 0.005. -/
def temperatureStep : Float32 := Float32.ofBits 0x3BA3D70A

/-- The single-precision number nearest to 0.0025. -/
def humidityStep : Float32 := Float32.ofBits 0x3B23D70A

/-- Temperature in degrees Celsius. -/
def temperatureCelsius (record : Record) : Float32 :=
  Float32.ofInt record.temperature.toInt * temperatureStep

/-- Relative humidity in percent, at most 100. -/
def relativeHumidity (record : Record) : Float32 :=
  let percent := Float32.ofNat record.humidity.toNat * humidityStep
  if percent < Float32.ofNat 100 then percent else Float32.ofNat 100

/-- Pressure in pascals. -/
def pressurePascals (record : Record) : Nat :=
  record.pressure.toNat + 50000

/-- Battery voltage in volts: the upper eleven bits count millivolts above 1600. -/
def batteryVolts (record : Record) : Float32 :=
  Float32.ofNat (1600 + record.powerInfo.toNat / 32) / Float32.ofNat 1000

/-- Transmission power in dBm: the lower five bits count steps of two from -40. -/
def txPowerDbm (record : Record) : Int :=
  (record.powerInfo.toNat % 32 : Nat) * 2 - 40

end TelemetryLink.Record
