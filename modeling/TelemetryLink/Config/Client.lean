import TelemetryLink.Client
import TelemetryLink.Config.Validation
import TelemetryLink.Text.Utf8

/-!
# The client of a configuration

What the parts of a client are in a configuration. `Client.ofConfig` needs a device id and a key,
and does not ask for more.
-/

namespace TelemetryLink

namespace Config

/-- The key, if there is one that is not empty. -/
def authKey (config : Config) : Option AuthKey :=
  config.auth.key.bind fun key => (AuthKey.ofBytes (Text.Utf8.encode key)).toOption

/-- The flags of the handshake: the low eight bits. -/
def flags (config : Config) : Flags := .ofWord config.device.flags

/-- The bounds on waiting. -/
def connectOptions (config : Config) : ConnectOptions where
  connectTimeout := .ofSecs config.server.connectTimeoutSecs
  ioTimeout := .ofSecs config.server.ioTimeoutSecs

/-- What to send. -/
def plan (config : Config) : Plan where
  frames := config.session.frames
  interval := .ofMillis config.session.intervalMs
  ping := config.session.ping

/-- When to retry. -/
def reconnectPolicy (config : Config) : Option ReconnectPolicy :=
  if config.reconnect.enabled then
    some {
      maxAttempts := config.reconnect.maxAttempts
      base := .ofMillis config.reconnect.baseBackoffMs
      max := .ofMillis config.reconnect.maxBackoffMs }
  else none

/-- The reading as a record of the device with this id. -/
def Reading.toRecord (reading : Reading) (mac : DeviceId) : Record where
  format := reading.format
  temperature := reading.temperature
  humidity := reading.humidity
  pressure := reading.pressure
  accX := reading.accX
  accY := reading.accY
  accZ := reading.accZ
  powerInfo := reading.powerInfo
  movementCounter := reading.movementCounter
  measurementSeq := reading.measurementSeq
  mac

end Config

/-- Why a configuration gives no client. -/
inductive ClientError where
  /-- The configuration is not valid where the client needs it. -/
  | invalid (violation : Config.Violation)
  /-- There is no key. -/
  | noKey
  deriving DecidableEq, Repr

/-- The failure in words. -/
def ClientError.message : ClientError → String
  | invalid violation => violation.message
  | noKey => "No authentication key configured"

/-- The client of a configuration. A device id that cannot be read is reported before a missing
key. -/
def Client.ofConfig (config : Config) : Except ClientError Client := do
  -- Nothing else is checked here: a client of an invalid configuration fails when it runs.
  let deviceId ← config.deviceId.mapError .invalid
  match config.authKey with
  | none => throw .noKey
  | some key => return {
      host := config.server.host
      port := config.server.port
      options := config.connectOptions
      credentials := { key, deviceId, flags := config.flags }
      plan := config.plan
      sample := config.reading.toRecord deviceId
      reconnect := config.reconnectPolicy }

end TelemetryLink
