import TelemetryLink.Config
import TelemetryLink.Config.Setting
import TelemetryLink.Toml.Syntax

/-!
# Configurations as documents

The sections of a configuration and the settings in each, in the order in which they are written.
The same tables of fields serve for reading and for writing. Reading ignores keys that it does
not know and leaves settings that are not there at their defaults; `Config.parse` reports the
first item that does not fit.
-/

namespace TelemetryLink.Config

open Toml

/-- One setting of a section of type `σ`. -/
structure Field (σ : Type) where
  /-- The key of the setting. -/
  name : String
  /-- The section with the setting that an item holds. -/
  read : Item → σ → Except Mismatch σ
  /-- The value of the setting. -/
  write : σ → Except WriteError (Option Written)

/-- A field by its key, and how to get and set it. -/
def Field.of {σ α : Type} [Setting α] (name : String) (get : σ → α) (set : α → σ → σ) :
    Field σ where
  name
  read item s := return set (← Setting.ofItem item) s
  write s := Setting.write (get s)

/-- An item that does not fit, and where it stands. -/
structure Misfit where
  /-- Why it does not fit. -/
  mismatch : Mismatch
  /-- Where it stands. -/
  extent : Extent
  deriving DecidableEq, Repr

/-- A type of sections. -/
structure Shape (σ : Type) where
  /-- What a complaint calls the section. -/
  title : String
  /-- Its settings, in order. -/
  fields : List (Field σ)

namespace Shape

variable {σ : Type}

/-- Reads one setting. An item that stands in several places is located by its key. -/
def readField (field : Field σ) (item : Item) (fallback : Extent) (s : σ) : Except Misfit σ :=
  (field.read item s).mapError fun mismatch => ⟨mismatch, item.extent?.getD fallback⟩

/-- Reads settings by their keys. Unknown keys are ignored. -/
def readEntries (shape : Shape σ) (entries : Entries) (s : σ) : Except Misfit σ :=
  entries.foldlM (fun s (key, item) =>
    match shape.fields.find? (·.name == key.name) with
    | some field => readField field item key.extent s
    | none => .ok s) s

/-- Reads settings in their order. Settings beyond the items are left alone, and items beyond the
settings are ignored. -/
def readElements (fallback : Extent) : List (Field σ) → List Item → σ → Except Misfit σ
  | field :: fields, item :: items, s => do
    readElements fallback fields items (← readField field item fallback s)
  | _, _, s => .ok s

/-- Reads a section: a table by its keys, and an array in its order. A date or time has none of
the keys. -/
def read (shape : Shape σ) (item : Item) (fallback : Extent) (s : σ) : Except Misfit σ :=
  match item with
  | .table _ entries _ => shape.readEntries entries s
  | .array items _ | .tables items _ => readElements fallback shape.fields items s
  -- Looked at as a table, a date has a single key that no section knows.
  | .scalar .dateTime _ => .ok s
  | item =>
    .error ⟨.wrongType (.of item) ("struct " ++ shape.title), item.extent?.getD fallback⟩

/-- The keys and values of a section, without the settings that are absent. -/
def write (shape : Shape σ) (s : σ) : Except WriteError (List (String × Written)) := do
  let values ← shape.fields.mapM fun field => return (← field.write s).map (field.name, ·)
  return values.filterMap id

end Shape

/-- One section of a configuration. -/
structure Part where
  /-- The key of the section. -/
  name : String
  /-- The configuration with the section that an item holds. -/
  read : Item → Extent → Config → Except Misfit Config
  /-- The keys and values of the section. -/
  write : Config → Except WriteError (List (String × Written))

/-- A section by its key and shape, and how to get and set it. -/
def Part.of {σ : Type} (name : String) (shape : Shape σ) (get : Config → σ)
    (set : σ → Config → Config) : Part where
  name
  read item fallback config := return set (← shape.read item fallback (get config)) config
  write config := shape.write (get config)

/-! ## The sections -/

/-- Where the collector is. -/
def serverShape : Shape Server where
  title := "ServerConfig"
  fields := [
    .of "host" (·.host) fun x s => { s with host := x },
    .of "port" (·.port) fun x s => { s with port := x },
    .of "connect_timeout_secs" (·.connectTimeoutSecs) fun x s => { s with connectTimeoutSecs := x },
    .of "io_timeout_secs" (·.ioTimeoutSecs) fun x s => { s with ioTimeoutSecs := x }]

/-- Who the client is. -/
def deviceShape : Shape Device where
  title := "DeviceConfig"
  fields := [
    .of "id" (·.id) fun x s => { s with id := x },
    .of "flags" (·.flags) fun x s => { s with flags := x }]

/-- What the client authenticates with. -/
def authShape : Shape Auth where
  title := "AuthConfig"
  fields := [.of "key" (·.key) fun x s => { s with key := x }]

/-- What the client sends. -/
def sessionShape : Shape Session where
  title := "SessionConfig"
  fields := [
    .of "frames" (·.frames) fun x s => { s with frames := x },
    .of "interval_ms" (·.intervalMs) fun x s => { s with intervalMs := x },
    .of "ping" (·.ping) fun x s => { s with ping := x }]

/-- When the client retries. -/
def reconnectShape : Shape Reconnect where
  title := "ReconnectConfig"
  fields := [
    .of "enabled" (·.enabled) fun x s => { s with enabled := x },
    .of "max_attempts" (·.maxAttempts) fun x s => { s with maxAttempts := x },
    .of "base_backoff_ms" (·.baseBackoffMs) fun x s => { s with baseBackoffMs := x },
    .of "max_backoff_ms" (·.maxBackoffMs) fun x s => { s with maxBackoffMs := x }]

/-- The reading in every data frame. -/
def readingShape : Shape Reading where
  title := "RecordConfig"
  fields := [
    .of "format" (·.format) fun x s => { s with format := x },
    .of "temperature" (·.temperature) fun x s => { s with temperature := x },
    .of "humidity" (·.humidity) fun x s => { s with humidity := x },
    .of "pressure" (·.pressure) fun x s => { s with pressure := x },
    .of "acc_x" (·.accX) fun x s => { s with accX := x },
    .of "acc_y" (·.accY) fun x s => { s with accY := x },
    .of "acc_z" (·.accZ) fun x s => { s with accZ := x },
    .of "power_info" (·.powerInfo) fun x s => { s with powerInfo := x },
    .of "movement_counter" (·.movementCounter) fun x s => { s with movementCounter := x },
    .of "measurement_seq" (·.measurementSeq) fun x s => { s with measurementSeq := x }]

/-- What the client logs. -/
def loggingShape : Shape Logging where
  title := "LoggingConfig"
  fields := [.of "level" (·.level) fun x s => { s with level := x }]

/-- All sections, in the order in which they are written. -/
def parts : List Part := [
  .of "server" serverShape (·.server) fun x c => { c with server := x },
  .of "device" deviceShape (·.device) fun x c => { c with device := x },
  .of "auth" authShape (·.auth) fun x c => { c with auth := x },
  .of "session" sessionShape (·.session) fun x c => { c with session := x },
  .of "reconnect" reconnectShape (·.reconnect) fun x c => { c with reconnect := x },
  .of "record" readingShape (·.reading) fun x c => { c with reading := x },
  .of "logging" loggingShape (·.logging) fun x c => { c with logging := x }]

/-! ## Reading and writing -/

/-- Why a text is no configuration. -/
inductive ReadError where
  /-- It is not well formed. -/
  | malformed
  /-- An item of it does not fit. -/
  | misfit (mismatch : Mismatch) (span : Span)
  deriving DecidableEq, Repr

/-- The failure in words. What is malformed about a text is not told. -/
def ReadError.message : ReadError → String
  | malformed => "Invalid TOML configuration: <syntax>"
  | misfit mismatch span =>
    "Invalid TOML configuration: " ++ mismatch.message ++
      s!" (at position {span.start}..{span.stop})"

/-- The configuration with the sections of a table. Unknown sections are ignored. -/
def readEntries (entries : Entries) (config : Config) : Except Misfit Config :=
  entries.foldlM (fun config (key, item) =>
    match parts.find? (·.name == key.name) with
    | some part => part.read item key.extent config
    | none => .ok config) config

/-- Reads a configuration. What the text does not set has its default. -/
def parse (text : String) : Except ReadError Config :=
  match Toml.parse text with
  | none => .error .malformed
  | some entries =>
    (readEntries entries {}).mapError fun misfit =>
      .misfit misfit.mismatch (misfit.extent.within (Text.Utf8.size text.toList))

/-- The text of a configuration. -/
def render (config : Config) : Except WriteError String := do
  let sections ← parts.mapM fun part => return (part.name, ← part.write config)
  return String.ofList (Written.document sections)

end TelemetryLink.Config
