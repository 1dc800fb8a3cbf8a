import TelemetryLink.Config.Layer

/-!
# Options of the command line

What the command line can ask for, and how each option is spelled. An option has a long name,
most have no short one, and some take a value.
-/

namespace TelemetryLink.CommandLine

/-- Options with a value. -/
inductive Parameter where
  | config
  | host
  | port
  | authKey
  | deviceId
  | frames
  | intervalMs
  deriving DecidableEq, Repr

/-- Options without a value. -/
inductive Switch where
  | ping
  | reconnect
  | writeConfig
  | verbose
  /-- Show the help and stop. -/
  | help
  /-- Show the version and stop. -/
  | version
  deriving DecidableEq, Repr

/-- An option. -/
inductive Opt where
  | parameter (parameter : Parameter)
  | switch (switch : Switch)
  deriving DecidableEq, Repr

/-- The option with a long name. -/
def Opt.ofLong? : String → Option Opt
  | "config" => some (.parameter .config)
  | "host" => some (.parameter .host)
  | "port" => some (.parameter .port)
  | "auth-key" => some (.parameter .authKey)
  | "device-id" => some (.parameter .deviceId)
  | "frames" => some (.parameter .frames)
  | "interval-ms" => some (.parameter .intervalMs)
  | "ping" => some (.switch .ping)
  | "reconnect" => some (.switch .reconnect)
  | "write-config" => some (.switch .writeConfig)
  | "verbose" => some (.switch .verbose)
  | "help" => some (.switch .help)
  | "version" => some (.switch .version)
  | _ => none

/-- The option with a short name. -/
def Opt.ofShort? : Char → Option Opt
  | 'c' => some (.parameter .config)
  | 'p' => some (.parameter .port)
  | 'n' => some (.parameter .frames)
  | 'v' => some (.switch .verbose)
  | 'h' => some (.switch .help)
  | 'V' => some (.switch .version)
  | _ => none

/-- What the command line asks for. -/
structure Options where
  /-- The file of the configuration, if not the usual one. -/
  config : Option String := none
  /-- What is set in place of the configuration. -/
  overrides : Config.Overrides := {}
  /-- Save the configuration instead of running. -/
  writeConfig : Bool := false
  /-- Log more. -/
  verbose : Bool := false
  deriving DecidableEq, Repr

end TelemetryLink.CommandLine
