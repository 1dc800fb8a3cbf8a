import TelemetryLink.CommandLine.Scan
import TelemetryLink.Proofs.Config.Layer
import TelemetryLink.Proofs.Program.Run

/-!
# Layers and settings

Where the settings of a run come from. The options are above the environment, which is above the
file, and each of the two layers on top sets what it can set or leaves it: a key or a level unless
it is empty, the other values if they are there, and switches only to on.

- `Config.Layered`: the value of every setting, by the source it may come from.
- `Config.layered_iff`: the layers make exactly this of a file.
- `Config.withEnvironment_idem`, `Config.withOverrides_idem`: a layer twice is a layer once.
- `Program.loadConfig_layered`: what is loaded for a run.
-/

namespace TelemetryLink

namespace Config

/-- The configuration with all that a layer can set as it is in another. -/
def withSettingsOf (config other : Config) : Config :=
  { config with
    server := { config.server with host := other.server.host, port := other.server.port }
    device := { config.device with id := other.device.id }
    auth := { config.auth with key := other.auth.key }
    session := { config.session with
      frames := other.session.frames
      intervalMs := other.session.intervalMs
      ping := other.session.ping }
    reconnect := { config.reconnect with enabled := other.reconnect.enabled }
    logging := { config.logging with level := other.logging.level } }

/-- A configuration that has each setting from where it has to come: the options, the environment,
or the configuration of the file. -/
structure Layered (overrides : Overrides) (env : Environment) (file config : Config) : Prop where
  key : config.auth.key =
    (firstKey [overrides.authKey, env "RGW_AUTH_KEY", env "AUTH_KEY"]).or file.auth.key
  level : config.logging.level = (env.nonempty "RGW_LOG_LEVEL").getD file.logging.level
  host : config.server.host = overrides.host.getD file.server.host
  port : config.server.port = overrides.port.getD file.server.port
  deviceId : config.device.id = overrides.deviceId.getD file.device.id
  frames : config.session.frames = overrides.frames.getD file.session.frames
  intervalMs : config.session.intervalMs = overrides.intervalMs.getD file.session.intervalMs
  ping : config.session.ping = (file.session.ping || overrides.ping)
  enabled : config.reconnect.enabled = (file.reconnect.enabled || overrides.reconnect)
  /-- Nothing else is touched. -/
  rest : config = file.withSettingsOf config

variable {overrides : Overrides} {env : Environment} {file config : Config}

/-! ## What comes from where -/

/-- Both layers together. Of two keys that are set the upper one stays. -/
theorem layers_eq (overrides : Overrides) (env : Environment) (file : Config) :
    (file.withEnvironment env).withOverrides overrides =
      { file with
        server := { file.server with
          host := overrides.host.getD file.server.host
          port := overrides.port.getD file.server.port }
        device := { file.device with id := overrides.deviceId.getD file.device.id }
        auth := { file.auth with
          key := (firstKey [overrides.authKey, env "RGW_AUTH_KEY", env "AUTH_KEY"]).or
            file.auth.key }
        session := { file.session with
          frames := overrides.frames.getD file.session.frames
          intervalMs := overrides.intervalMs.getD file.session.intervalMs
          ping := file.session.ping || overrides.ping }
        reconnect := { file.reconnect with
          enabled := file.reconnect.enabled || overrides.reconnect }
        logging := { file.logging with
          level := (env.nonempty "RGW_LOG_LEVEL").getD file.logging.level } } := by
  have hkey : (firstKey [overrides.authKey, env "RGW_AUTH_KEY", env "AUTH_KEY"]).or file.auth.key =
      (firstKey [overrides.authKey]).or
        ((firstKey [env "RGW_AUTH_KEY", env "AUTH_KEY"]).or file.auth.key) := by
    rw [firstKey_cons, Option.or_assoc]
  rw [withOverrides_eq, withEnvironment_eq, hkey]

/-- The layers make exactly this of a configuration. -/
theorem layered_iff :
    Layered overrides env file config ↔
      config = (file.withEnvironment env).withOverrides overrides := by
  rw [layers_eq]
  constructor
  · intro h
    -- The parts that layers can set as a whole are told from their settings.
    obtain ⟨server, device, ⟨key⟩, ⟨frames, intervalMs, ping⟩, reconnect, reading, ⟨level⟩⟩ := config
    obtain ⟨rfl, rfl, hhost, hport, hdeviceId, rfl, rfl, rfl, henabled, hrest⟩ := h
    rw [hrest, withSettingsOf, hhost, hport, hdeviceId, henabled]
  · rintro rfl
    exact ⟨rfl, rfl, rfl, rfl, rfl, rfl, rfl, rfl, rfl, rfl⟩

/-! ## Layers again -/

/-- A source that is asked again has nothing else to say. -/
theorem getD_getD_self {α : Type} (source : Option α) (value : α) :
    source.getD (source.getD value) = source.getD value := by
  cases source with
  | none => rfl
  | some value => rfl

theorem withEnvironment_idem (env : Environment) (config : Config) :
    (config.withEnvironment env).withEnvironment env = config.withEnvironment env := by
  rw [withEnvironment_eq env (config.withEnvironment env), withEnvironment_eq env config]
  dsimp only
  rw [getD_getD_self, ← Option.or_assoc, Option.or_self]

theorem withOverrides_idem (overrides : Overrides) (config : Config) :
    (config.withOverrides overrides).withOverrides overrides = config.withOverrides overrides := by
  rw [withOverrides_eq overrides (config.withOverrides overrides), withOverrides_eq overrides config]
  simp only [getD_getD_self, ← Option.or_assoc, Option.or_self, Bool.or_assoc, Bool.or_self]

theorem withOverrides_none (config : Config) : config.withOverrides {} = config := by
  rw [withOverrides_eq, firstKey_singleton]
  simp only [Option.getD_none, Option.filter_none, Option.none_or, Bool.or_false]

end Config

namespace Program

open CommandLine Files Stateful

/-- What is loaded for a run. Nothing is, and no file changes, where the file cannot be loaded.
Otherwise each setting is that of the strongest source which has it: the key, of the options, the
two variables and the file, the first that is not empty, or that of the file; the level, of its
variable unless that is empty, and the file; other values that options set, of the options and the
file; and switches are on if they are on in either. All other settings are those of the file. For
every configuration the two layers make just this of it, neither makes anything more of it the
second time, and no options at all make nothing of it. -/
theorem loadConfig_layered :
    (∀ (options : Options) (env : Environment) (files : Tree),
      (∀ error, loaded options env files = .error error →
        on (loadConfig options env) files = (.error error, files)) ∧
      ∀ file, loaded options env files = .ok file →
        ∃ config, on (loadConfig options env) files = (.ok config, files) ∧
          Config.Layered options.overrides env file config) ∧
    (∀ (overrides : Config.Overrides) (env : Environment) (file config : Config),
      Config.Layered overrides env file config ↔
        config = (file.withEnvironment env).withOverrides overrides) ∧
    (∀ (env : Environment) (config : Config),
      (config.withEnvironment env).withEnvironment env = config.withEnvironment env) ∧
    (∀ (overrides : Config.Overrides) (config : Config),
      (config.withOverrides overrides).withOverrides overrides =
        config.withOverrides overrides) ∧
    ∃ options, CommandLine.parse [] = .ok options ∧
      ∀ config : Config, config.withOverrides options.overrides = config := by
  refine ⟨fun options env files => ⟨fun error hload => ?_, fun file hload => ?_⟩,
    fun overrides env file config => Config.layered_iff, Config.withEnvironment_idem,
    Config.withOverrides_idem, {}, rfl, Config.withOverrides_none⟩
  · rw [loadConfig_on, hload]
    rfl
  · refine ⟨effective options env file, ?_, Config.layered_iff.2 rfl⟩
    rw [loadConfig_on, hload]
    rfl

/-- A run whose key is that of the weaker variable, as the stronger one and the option are empty. The
ping that its file asks for stays, and so do the frames. With a broken file nothing is loaded. -/
theorem loadConfig_layered_key :
    let files : Tree :=
      { nodes := [(["client.toml"], .file (Text.Utf8.encode
        "[auth]\nkey = \"stored\"\n\n[session]\nframes = 3\nping = true\n"))] }
    let broken : Tree := { nodes := [(["client.toml"], .file (Text.Utf8.encode "[auth"))] }
    let options : Options :=
      { config := some "client.toml", overrides := { host := some "collector", authKey := some "" } }
    let env : Environment := fun name =>
      if name = "AUTH_KEY" then some "weaker" else if name = "RGW_AUTH_KEY" then some "" else none
    let file : Config :=
      { auth := { key := some "stored" }, session := { frames := 3, ping := true } }
    loaded options env files = .ok file ∧
      ∃ config, on (loadConfig options env) files = (.ok config, files) ∧
        Config.Layered options.overrides env file config ∧ config.auth.key = some "weaker" ∧
        config.server.host = "collector" ∧ config.session = file.session ∧
      ∃ error, loaded options env broken = .error error ∧
        on (loadConfig options env) broken = (.error error, broken) := by
  intro files broken options env file
  have hload : loaded options env files = .ok file := by decide +kernel
  obtain ⟨hruns, hlayered, -⟩ := loadConfig_layered
  obtain ⟨config, hconfig, hsettings⟩ := (hruns options env files).2 file hload
  have heffective := (hlayered options.overrides env file config).1 hsettings
  obtain ⟨error, hbroken⟩ : ∃ error, loaded options env broken = .error error := by
    have hfails : (loaded options env broken).isOk = false := by decide +kernel
    cases h : loaded options env broken with
    | error error => exact ⟨error, rfl⟩
    | ok file =>
      rw [h] at hfails
      cases hfails
  refine ⟨hload, config, hconfig, hsettings, ?_, ?_, ?_, error, hbroken,
    (hruns options env broken).1 error hbroken⟩
  all_goals
    rw [heffective]
    decide +kernel

end Program

end TelemetryLink
