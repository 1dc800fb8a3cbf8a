/-!
# Configuration

Everything that a client can be told: where to connect, who to be, what to send, when to retry
and what to log. Every setting has a default.
-/

namespace TelemetryLink

namespace Config

/-- Where the collector is, and how long to wait for it. -/
structure Server where
  /-- The name or address of the collector. -/
  host : String := "127.0.0.1"
  /-- Its port. -/
  port : UInt16 := 9090
  /-- The bound on making a connection, in seconds. -/
  connectTimeoutSecs : UInt64 := 5
  /-- The bound on every read and write, in seconds. -/
  ioTimeoutSecs : UInt64 := 5
  deriving DecidableEq, Repr

/-- Who the client presents itself as. -/
structure Device where
  /-- The text of the device id. -/
  id : String := "DE:AD:BE:EF:00:01"
  /-- The handshake flags, of which the low eight bits are sent. -/
  flags : UInt32 := 0
  deriving DecidableEq, Repr

/-- What the client authenticates with. -/
structure Auth where
  /-- The shared key. -/
  key : Option String := none
  deriving DecidableEq, Repr

/-- What a run sends. -/
structure Session where
  /-- The number of data frames. -/
  frames : UInt32 := 1
  /-- The pause between data frames, in milliseconds. -/
  intervalMs : UInt64 := 2000
  /-- Whether to ping first. -/
  ping : Bool := false
  deriving DecidableEq, Repr

/-- When to retry. -/
structure Reconnect where
  /-- Whether to retry at all. -/
  enabled : Bool := false
  /-- Sessions in all, the first included. -/
  maxAttempts : UInt32 := 5
  /-- The pause after the first failure, in milliseconds. -/
  baseBackoffMs : UInt64 := 500
  /-- The longest pause, in milliseconds. -/
  maxBackoffMs : UInt64 := 30000
  deriving DecidableEq, Repr

/-- The reading that is sent. Its hardware address is the device id. -/
structure Reading where
  format : UInt8 := 5
  temperature : Int16 := 215
  humidity : UInt16 := 4500
  pressure : UInt16 := 10015
  accX : Int16 := 10
  accY : Int16 := -3
  accZ : Int16 := 1024
  powerInfo : UInt16 := 0xAA55
  movementCounter : UInt8 := 7
  /-- The sequence number of the first record. -/
  measurementSeq : UInt16 := 1234
  deriving DecidableEq, Repr

/-- What is logged. -/
structure Logging where
  /-- The least severe level that is logged. -/
  level : String := "info"
  deriving DecidableEq, Repr

end Config

/-- All settings of a client. -/
structure Config where
  /-- Where the collector is. -/
  server : Config.Server := {}
  /-- Who the client is. -/
  device : Config.Device := {}
  /-- What it authenticates with. -/
  auth : Config.Auth := {}
  /-- What it sends. -/
  session : Config.Session := {}
  /-- When it retries. -/
  reconnect : Config.Reconnect := {}
  /-- The reading in every data frame. -/
  reading : Config.Reading := {}
  /-- What it logs. -/
  logging : Config.Logging := {}
  deriving DecidableEq, Repr

/-- The configuration without its key. -/
def Config.withoutKey (config : Config) : Config := { config with auth := {} }

end TelemetryLink
