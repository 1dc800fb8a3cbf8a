import TelemetryLink.Config.Layer
import TelemetryLink.Proofs.Config.Validation

/-!
# Layers and keys

What the two layers on a configuration set, as equations. Each replaces the key by the first of its
own that is not empty, or leaves it, so that there is a key in the end if any layer offers one.

- `withEnvironment_eq`, `withOverrides_eq`: the layers as equations.
- `hasKey_withEnvironment`, `hasKey_withOverrides`: where a key may come from.
- `withoutKey_withEnvironment`, `withoutKey_withOverrides`: what the layers set beside the key does
  not depend on any key.
-/

namespace TelemetryLink.Config

/-- The first key that is not empty. -/
def firstKey (sources : List (Option String)) : Option String :=
  sources.findSome? (·.filter (!·.isEmpty))

/-! ## The layers as equations -/

theorem firstKey_singleton (source : Option String) :
    firstKey [source] = source.filter (!·.isEmpty) :=
  List.findSome?_singleton

theorem firstKey_cons (source : Option String) (sources : List (Option String)) :
    firstKey (source :: sources) = (firstKey [source]).or (firstKey sources) :=
  @List.findSome?_append _ _ _ [source] sources

theorem withKey?_eq (key : Option String) (config : Config) :
    config.withKey? key =
      { config with auth := { config.auth with key := key.or config.auth.key } } := by
  cases key with
  | none => rfl
  | some key => rfl

/-- The environment sets the key and the level. -/
theorem withEnvironment_eq (env : Environment) (config : Config) :
    config.withEnvironment env =
      { config with
        auth := { config.auth with
          key := (firstKey [env "RGW_AUTH_KEY", env "AUTH_KEY"]).or config.auth.key }
        logging := { config.logging with
          level := (env.nonempty "RGW_LOG_LEVEL").getD config.logging.level } } := by
  -- The variable that is looked at last is the stronger one.
  have hkeys : firstKey [env "RGW_AUTH_KEY", env "AUTH_KEY"] =
      (env.nonempty "RGW_AUTH_KEY").or (env.nonempty "AUTH_KEY") := by
    rw [firstKey_cons, firstKey_singleton, firstKey_singleton]
    rfl
  unfold withEnvironment
  simp only [keyVariables, levelVariable, List.foldl_cons, List.foldl_nil, withKey?_eq, hkeys,
    Option.or_assoc]
  cases env.nonempty "RGW_LOG_LEVEL" with
  | none => rfl
  | some level => rfl

/-- The options set the key and what is theirs alone. -/
theorem withOverrides_eq (overrides : Overrides) (config : Config) :
    config.withOverrides overrides =
      { config with
        server := { config.server with
          host := overrides.host.getD config.server.host
          port := overrides.port.getD config.server.port }
        device := { config.device with id := overrides.deviceId.getD config.device.id }
        auth := { config.auth with key := (firstKey [overrides.authKey]).or config.auth.key }
        session := { config.session with
          frames := overrides.frames.getD config.session.frames
          intervalMs := overrides.intervalMs.getD config.session.intervalMs
          ping := config.session.ping || overrides.ping }
        reconnect := { config.reconnect with
          enabled := config.reconnect.enabled || overrides.reconnect } } := by
  rw [firstKey_singleton]
  exact withKey?_eq _ _

/-! ## Keys -/

/-- There is a key if any source has one that is not empty, or if there was one before. -/
theorem exists_firstKey_or_iff {sources : List (Option String)} {key? : Option String} :
    (∃ key, (firstKey sources).or key? = some key ∧ key ≠ "") ↔
      (∃ source ∈ sources, ∃ key, source = some key ∧ key ≠ "") ∨
        ∃ key, key? = some key ∧ key ≠ "" := by
  cases hfirst : firstKey sources with
  | none =>
    have hempty := List.findSome?_eq_none_iff.1 hfirst
    rw [Option.none_or]
    refine ⟨.inr, fun h => h.resolve_left ?_⟩
    rintro ⟨source, hsource, key, rfl, hne⟩
    exact absurd (hempty _ hsource) (by simp [Option.filter_some, hne])
  | some key =>
    obtain ⟨source, hsource, hkey⟩ := List.exists_of_findSome?_eq_some hfirst
    obtain ⟨rfl, hne⟩ := Option.filter_eq_some_iff.1 hkey
    have hne : key ≠ "" := by simpa using hne
    exact ⟨fun _ => .inl ⟨_, hsource, key, rfl, hne⟩, fun _ => ⟨key, rfl, hne⟩⟩

theorem hasKey_withEnvironment {env : Environment} {config : Config} :
    (config.withEnvironment env).HasKey ↔
      (∃ key, env "RGW_AUTH_KEY" = some key ∧ key ≠ "") ∨
        (∃ key, env "AUTH_KEY" = some key ∧ key ≠ "") ∨ config.HasKey := by
  rw [withEnvironment_eq, HasKey]
  dsimp only
  rw [exists_firstKey_or_iff]
  simp only [List.mem_cons, List.not_mem_nil, or_false, exists_eq_or_imp, exists_eq_left, or_assoc,
    HasKey]

theorem hasKey_withOverrides {overrides : Overrides} {config : Config} :
    (config.withOverrides overrides).HasKey ↔
      (∃ key, overrides.authKey = some key ∧ key ≠ "") ∨ config.HasKey := by
  rw [withOverrides_eq, HasKey]
  dsimp only
  rw [exists_firstKey_or_iff]
  simp only [List.mem_singleton, exists_eq_left, HasKey]

/-! ## Beside the key -/

/-- What is overridden beside the key. -/
def Overrides.withoutKey (overrides : Overrides) : Overrides := { overrides with authKey := none }

/-- Whether a configuration is valid has nothing to do with its key. -/
theorem validate_withoutKey (config : Config) : config.withoutKey.validate = config.validate := by
  cases config
  rfl

/-- Variables that hold keys set nothing else. -/
theorem withoutKey_withEnvironment {env env' : Environment} {config config' : Config}
    (henv : ∀ name, name ∉ keyVariables → env name = env' name)
    (h : config.withoutKey = config'.withoutKey) :
    (config.withEnvironment env).withoutKey = (config'.withEnvironment env').withoutKey := by
  have hlevel : env.nonempty "RGW_LOG_LEVEL" = env'.nonempty "RGW_LOG_LEVEL" :=
    congrArg (Option.filter _) (henv "RGW_LOG_LEVEL" (by decide))
  have hkeyless (env : Environment) (config : Config) :
      (config.withEnvironment env).withoutKey =
        { config.withoutKey with logging := { config.withoutKey.logging with
          level := (env.nonempty "RGW_LOG_LEVEL").getD config.withoutKey.logging.level } } := by
    rw [withEnvironment_eq]
    rfl
  rw [hkeyless, hkeyless, hlevel, h]

/-- A key that is overridden changes nothing else. -/
theorem withoutKey_withOverrides {overrides overrides' : Overrides} {config config' : Config}
    (hoverrides : overrides.withoutKey = overrides'.withoutKey)
    (h : config.withoutKey = config'.withoutKey) :
    (config.withOverrides overrides).withoutKey = (config'.withOverrides overrides').withoutKey := by
  have hkeyless (overrides : Overrides) (config : Config) :
      (config.withOverrides overrides).withoutKey =
        config.withoutKey.withOverrides overrides.withoutKey := by
    rw [withOverrides_eq, withOverrides_eq]
    rfl
  rw [hkeyless, hkeyless, hoverrides, h]

end TelemetryLink.Config
