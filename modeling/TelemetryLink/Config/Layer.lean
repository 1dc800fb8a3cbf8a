import TelemetryLink.Config

/-!
# Layers

What is laid over the configuration of a file: first the environment, then what the command line
overrides. A layer touches only what it sets.
-/

namespace TelemetryLink

/-- The variables of the environment. -/
abbrev Environment := String → Option String

namespace Environment

/-- The value of a variable that is set and not empty. -/
def nonempty (env : Environment) (name : String) : Option String :=
  (env name).filter (!·.isEmpty)

end Environment

namespace Config

/-- The variables that hold a key. Of those that are not empty the last counts. -/
def keyVariables : List String := ["AUTH_KEY", "RGW_AUTH_KEY"]

/-- The variable that holds a level of logging. -/
def levelVariable : String := "RGW_LOG_LEVEL"

/-- The configuration with another key, if there is one. -/
def withKey? (key : Option String) (config : Config) : Config :=
  match key with
  | some key => { config with auth := { config.auth with key := some key } }
  | none => config

/-- The configuration with what the environment sets. -/
def withEnvironment (env : Environment) (config : Config) : Config :=
  let config := keyVariables.foldl (fun config name => config.withKey? (env.nonempty name)) config
  match env.nonempty levelVariable with
  | some level => { config with logging := { config.logging with level } }
  | none => config

/-- What a caller may set in place of the configuration. -/
structure Overrides where
  /-- The name or address of the collector. -/
  host : Option String := none
  /-- Its port. -/
  port : Option UInt16 := none
  /-- The key. An empty one is none. -/
  authKey : Option String := none
  /-- The text of the device id. -/
  deviceId : Option String := none
  /-- The number of data frames. -/
  frames : Option UInt32 := none
  /-- The pause between data frames, in milliseconds. -/
  intervalMs : Option UInt64 := none
  /-- Ping in any case. -/
  ping : Bool := false
  /-- Retry in any case. -/
  reconnect : Bool := false
  deriving DecidableEq, Repr

/-- The configuration with what is overridden. A switch turns on and never off. -/
def withOverrides (overrides : Overrides) (config : Config) : Config :=
  let server := { config.server with
    host := overrides.host.getD config.server.host
    port := overrides.port.getD config.server.port }
  let device := { config.device with id := overrides.deviceId.getD config.device.id }
  let session := { config.session with
    frames := overrides.frames.getD config.session.frames
    intervalMs := overrides.intervalMs.getD config.session.intervalMs
    ping := config.session.ping || overrides.ping }
  let reconnect := { config.reconnect with
    enabled := config.reconnect.enabled || overrides.reconnect }
  -- An empty key leaves that of the layers below.
  { config with server, device, session, reconnect }.withKey?
    (overrides.authKey.filter (!·.isEmpty))

end Config

end TelemetryLink
