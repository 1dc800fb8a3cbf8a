import TelemetryLink.Config
import TelemetryLink.Identity
import TelemetryLink.Text.Lowercase

/-!
# Validation

What a configuration has to satisfy before it is used, checked in a fixed order. A missing key
is no violation; whoever needs the key asks for it.
-/

namespace TelemetryLink.Config

/-- Why a configuration is not valid. -/
inductive Violation where
  /-- The device id cannot be read. -/
  | deviceId (text : String)
  /-- The port is zero. -/
  | port (port : UInt16)
  /-- No data frames are to be sent. -/
  | frames (frames : UInt32)
  /-- A bound on waiting is zero. -/
  | timeout (name : String)
  /-- Not even one session is allowed. -/
  | maxAttempts (attempts : UInt32)
  /-- The first pause is zero or longer than the longest. -/
  | backoff (base max : UInt64)
  /-- There is no such level. -/
  | logLevel (level : String)
  deriving DecidableEq, Repr

/-- The violation in words. -/
def Violation.message : Violation → String
  | deviceId text => "device id must be 6 hex bytes such as DE:AD:BE:EF:00:01, got " ++ text
  | port n => "port must be between 1 and 65535, got " ++ toString n.toNat
  | frames n => "frames must be at least 1, got " ++ toString n.toNat
  | timeout name => name ++ " must be greater than 0 seconds"
  | maxAttempts n => "reconnect max_attempts must be at least 1, got " ++ toString n.toNat
  | backoff base max =>
    "reconnect backoff needs 0 < base <= max, got base=" ++ toString base.toNat ++ "ms max=" ++
      toString max.toNat ++ "ms"
  | logLevel level =>
    "log level must be one of: trace, debug, info, warn, error; got " ++ level

/-- The levels of logging. -/
def logLevels : List String := ["trace", "debug", "info", "warn", "error"]

/-- Whether a text names a level. The case of its letters does not matter. -/
def isLogLevel (text : String) : Bool := logLevels.contains (Text.lowercase text)

/-- The device id. -/
def deviceId (config : Config) : Except Violation DeviceId :=
  match DeviceId.parse config.device.id with
  | .ok id => .ok id
  | .error _ => .error (.deviceId config.device.id)

/-- The first check that fails decides the violation. -/
def check (holds : Bool) (violation : Violation) : Except Violation Unit :=
  if holds then .ok () else .error violation

/-- Checks the device id, the port, the timeouts, the number of frames, the number of attempts,
the pauses and the level, in this order. -/
def validate (config : Config) : Except Violation Unit := do
  -- Of several violations the first is told, so that the order matters.
  let _ ← config.deviceId
  check (config.server.port != 0) (.port config.server.port)
  check (config.server.connectTimeoutSecs != 0) (.timeout "connect_timeout_secs")
  check (config.server.ioTimeoutSecs != 0) (.timeout "io_timeout_secs")
  check (config.session.frames != 0) (.frames config.session.frames)
  check (config.reconnect.maxAttempts != 0) (.maxAttempts config.reconnect.maxAttempts)
  let base := config.reconnect.baseBackoffMs
  let max := config.reconnect.maxBackoffMs
  check (base != 0 && base ≤ max) (.backoff base max)
  check (isLogLevel config.logging.level) (.logLevel config.logging.level)

end TelemetryLink.Config
