import TelemetryLink.Config.Client
import TelemetryLink.Proofs.Except
import TelemetryLink.Proofs.Text.Lowercase
import TelemetryLink.Proofs.Text.Utf8

/-!
# Valid configurations

What it takes for a configuration to be valid, and for a client to be made of it.

- `isLogLevel_iff`: a text names a level only by letters of ASCII.
- `decided_validate`: the first requirement that is not met decides what is told.
- `validate_eq_ok_iff`: a configuration is valid if every check holds.
- `authKey_eq_some_iff`, `isSome_authKey_iff`: a key is any text that is not empty.
- `Client.exists_ofConfig`: a valid configuration with a key has a client.
-/

namespace TelemetryLink

namespace Config

/-! ## Single checks -/

theorem check_eq_ok_iff {holds : Bool} {violation : Violation} {u : Unit} :
    check holds violation = .ok u ↔ holds = true := by
  cases holds with
  | false => exact ⟨nofun, nofun⟩
  | true => exact ⟨fun _ => rfl, fun _ => rfl⟩

theorem deviceId_eq_ok_iff {config : Config} {id : DeviceId} :
    config.deviceId = .ok id ↔ DeviceId.parse config.device.id = .ok id := by
  unfold deviceId
  cases DeviceId.parse config.device.id with
  | error error => exact ⟨nofun, nofun⟩
  | ok id => exact ⟨fun h => congrArg Except.ok (Except.ok.inj h),
      fun h => congrArg Except.ok (Except.ok.inj h)⟩

/-- A text names a level if it does so up to the case of the letters of ASCII. No other character
becomes one of a level when it becomes small: the Kelvin sign would be a k, and no level has one. -/
theorem isLogLevel_iff {text : String} :
    isLogLevel text = true ↔
      ∃ level ∈ logLevels, text.toList.map Char.toLower = level.toList := by
  have hlevels : ∀ level ∈ logLevels, ∀ c ∈ level.toList, c.toNat < 128 ∧ c ≠ 'k' := by
    have hall : ∀ level ∈ logLevels,
        level.toList.all (fun c => c.toNat < 128 && c != 'k') = true := by
      decide +kernel
    intro level hlevel c hc
    simpa using List.all_eq_true.1 (hall level hlevel) c hc
  have hsame : ∀ level ∈ logLevels,
      Text.lowercase text = level ↔ text.toList.map Char.toLower = level.toList := by
    intro level hlevel
    rw [← Text.Lowercase.lowerAll_eq_iff (hlevels level hlevel), Text.lowercase,
      ← String.toList_inj, String.toList_ofList]
  rw [isLogLevel, List.contains_iff_mem]
  constructor
  · intro h
    exact ⟨_, h, (hsame _ h).1 rfl⟩
  · rintro ⟨level, hlevel, h⟩
    rwa [(hsame level hlevel).2 h]

/-- The dotted capital I becomes an i and a dot of its own. -/
example : isLogLevel "İNFO" = false := by decide +kernel

/-! ## The first requirement that is not met -/

/-- Something that is asked of a configuration. -/
structure Requirement where
  /-- What is asked. -/
  Met : Prop
  /-- What is told where it is not so. -/
  violation : Violation

/-- What is told of the first requirement that is not met. -/
inductive FirstUnmet : List Requirement → Violation → Prop where
  | here {requirement : Requirement} {later : List Requirement} (unmet : ¬ requirement.Met) :
      FirstUnmet (requirement :: later) requirement.violation
  | later {requirement : Requirement} {later : List Requirement} {violation : Violation}
      (met : requirement.Met) (unmet : FirstUnmet later violation) :
      FirstUnmet (requirement :: later) violation

/-- A result that says whether all requirements are met, and which is the first that is not. -/
structure Decided (requirements : List Requirement) (result : Except Violation Unit) : Prop where
  ok : result = .ok () ↔ ∀ requirement ∈ requirements, requirement.Met
  error : ∀ violation, result = .error violation ↔ FirstUnmet requirements violation

variable {requirement : Requirement} {later : List Requirement}

theorem Decided.nil : Decided [] (.ok ()) where
  ok := ⟨fun _ => nofun, fun _ => rfl⟩
  error _ := ⟨nofun, nofun⟩

/-- One more requirement is looked at before the others. -/
theorem Decided.cons {α : Type} {step : Except Violation α} {next : α → Except Violation Unit}
    (hok : (∃ a, step = .ok a) ↔ requirement.Met)
    (herror : ∀ violation, step = .error violation → violation = requirement.violation)
    (hnext : ∀ a, Decided later (next a)) :
    Decided (requirement :: later) (step >>= next) := by
  cases step with
  | error violation =>
    -- What comes after the failure does not matter.
    obtain rfl := herror violation rfl
    have hunmet : ¬ requirement.Met := mt hok.2 nofun
    refine ⟨⟨nofun, fun h => absurd (h _ List.mem_cons_self) hunmet⟩, fun violation => ?_⟩
    constructor
    · rintro ⟨⟩
      exact .here hunmet
    · rintro (_ | ⟨hmet, -⟩)
      · rfl
      · exact absurd hmet hunmet
  | ok a =>
    have hmet : requirement.Met := hok.1 ⟨a, rfl⟩
    refine ⟨?_, fun violation => ?_⟩
    · rw [List.forall_mem_cons, and_iff_right hmet]
      exact (hnext a).ok
    · refine ((hnext a).error violation).trans ⟨.later hmet, ?_⟩
      rintro (hunmet | ⟨-, hlater⟩)
      · exact absurd hmet hunmet
      · exact hlater

/-- The same for a check that stands before others. -/
theorem Decided.check {holds : Bool} {next : Except Violation Unit}
    (hmet : holds = true ↔ requirement.Met) (hnext : Decided later next) :
    Decided (requirement :: later)
      (Config.check holds requirement.violation >>= fun _ => next) := by
  refine .cons ?_ ?_ fun _ => hnext
  · rw [← hmet]
    exact ⟨fun ⟨_, h⟩ => check_eq_ok_iff.1 h, fun h => ⟨(), check_eq_ok_iff.2 h⟩⟩
  · intro violation h
    cases holds with
    | false => exact (Except.error.inj h).symm
    | true => cases h

/-- All that is asked of a configuration, in the order in which it is looked at. -/
def requirements (config : Config) : List Requirement := [
  ⟨∃ id, DeviceId.parse config.device.id = .ok id, .deviceId config.device.id⟩,
  ⟨config.server.port ≠ 0, .port config.server.port⟩,
  ⟨config.server.connectTimeoutSecs ≠ 0, .timeout "connect_timeout_secs"⟩,
  ⟨config.server.ioTimeoutSecs ≠ 0, .timeout "io_timeout_secs"⟩,
  ⟨config.session.frames ≠ 0, .frames config.session.frames⟩,
  ⟨config.reconnect.maxAttempts ≠ 0, .maxAttempts config.reconnect.maxAttempts⟩,
  ⟨0 < config.reconnect.baseBackoffMs ∧
      config.reconnect.baseBackoffMs ≤ config.reconnect.maxBackoffMs,
    .backoff config.reconnect.baseBackoffMs config.reconnect.maxBackoffMs⟩,
  ⟨∃ level ∈ ["trace", "debug", "info", "warn", "error"],
      config.logging.level.toList.map Char.toLower = level.toList,
    .logLevel config.logging.level⟩]

/-- The first requirement that is not met decides what is told. -/
theorem decided_validate (config : Config) : Decided config.requirements config.validate := by
  -- The last check is like the others, with nothing after it.
  have hlast : Config.check (isLogLevel config.logging.level) (.logLevel config.logging.level) =
      Config.check (isLogLevel config.logging.level) (.logLevel config.logging.level) >>=
        fun _ => .ok () :=
    (bind_pure _).symm
  unfold validate
  rw [hlast]
  refine .cons (exists_congr fun _ => deviceId_eq_ok_iff) ?_ fun _ => ?_
  · intro violation h
    unfold deviceId at h
    split at h
    · cases h
    · exact (Except.error.inj h).symm
  refine .check bne_iff_ne ?_
  refine .check bne_iff_ne ?_
  refine .check bne_iff_ne ?_
  refine .check bne_iff_ne ?_
  refine .check bne_iff_ne ?_
  refine .check ?_ ?_
  · rw [Bool.and_eq_true, bne_iff_ne, decide_eq_true_eq, UInt64.pos_iff_ne_zero]
  exact .check isLogLevel_iff .nil

/-- A configuration is valid if every check holds. -/
theorem validate_eq_ok_iff {config : Config} :
    config.validate = .ok () ↔
      (∃ id, config.deviceId = .ok id) ∧ config.server.port ≠ 0 ∧
        config.server.connectTimeoutSecs ≠ 0 ∧ config.server.ioTimeoutSecs ≠ 0 ∧
        config.session.frames ≠ 0 ∧ config.reconnect.maxAttempts ≠ 0 ∧
        config.reconnect.baseBackoffMs ≠ 0 ∧
        config.reconnect.baseBackoffMs ≤ config.reconnect.maxBackoffMs ∧
        isLogLevel config.logging.level = true := by
  rw [(decided_validate config).ok]
  simp only [requirements, List.forall_mem_cons, List.not_mem_nil, false_implies, implies_true,
    and_true, and_assoc, deviceId_eq_ok_iff, UInt64.pos_iff_ne_zero, isLogLevel_iff, logLevels]

/-! ## Keys -/

/-- Whether a configuration has a key. -/
def HasKey (config : Config) : Prop := ∃ key, config.auth.key = some key ∧ key ≠ ""

/-- The octets of a key are those of its text. -/
theorem authKey_eq_some_iff {config : Config} {key : AuthKey} :
    config.authKey = some key ↔
      ∃ text, config.auth.key = some text ∧ key.bytes = Text.Utf8.encode text := by
  unfold authKey AuthKey.ofBytes
  cases config.auth.key with
  | none => exact ⟨nofun, nofun⟩
  | some text =>
    rw [Option.bind_some]
    split
    next hempty =>
      -- An empty text gives no key, and no key is without octets.
      refine ⟨nofun, ?_⟩
      rintro ⟨_, ⟨⟩, hbytes⟩
      exact absurd (hbytes.trans hempty) key.bytes_ne_nil
    next =>
      constructor
      · rintro ⟨⟩
        exact ⟨text, rfl, rfl⟩
      · rintro ⟨_, ⟨⟩, hbytes⟩
        cases key
        cases hbytes
        rfl

theorem isSome_authKey_iff {config : Config} : config.authKey.isSome = true ↔ config.HasKey := by
  constructor
  · intro hsome
    obtain ⟨key, hkey⟩ := Option.isSome_iff_exists.1 hsome
    obtain ⟨text, htext, hbytes⟩ := authKey_eq_some_iff.1 hkey
    refine ⟨text, htext, fun hempty => key.bytes_ne_nil ?_⟩
    rw [hbytes, Text.Utf8.encode_eq_nil_iff.2 hempty]
  · rintro ⟨text, htext, hne⟩
    have hkey : config.authKey = some ⟨_, mt Text.Utf8.encode_eq_nil_iff.1 hne⟩ :=
      authKey_eq_some_iff.2 ⟨text, htext, rfl⟩
    exact Option.isSome_iff_exists.2 ⟨_, hkey⟩

/-! ## Clients -/

theorem reconnectPolicy_eq_some_iff {config : Config} {policy : ReconnectPolicy} :
    config.reconnectPolicy = some policy ↔
      config.reconnect.enabled = true ∧ policy = {
        maxAttempts := config.reconnect.maxAttempts
        base := .ofMillis config.reconnect.baseBackoffMs
        max := .ofMillis config.reconnect.maxBackoffMs } := by
  unfold reconnectPolicy
  cases config.reconnect.enabled with
  | false => exact ⟨nofun, nofun⟩
  | true => exact ⟨fun h => ⟨rfl, (Option.some.inj h).symm⟩, fun h => congrArg some h.2.symm⟩

end Config

namespace Client

/-- What a client takes from a configuration. -/
theorem ofConfig_eq {config : Config} {id : DeviceId} {key : AuthKey}
    (hid : config.deviceId = .ok id) (hkey : config.authKey = some key) :
    ofConfig config = .ok {
      host := config.server.host
      port := config.server.port
      options := config.connectOptions
      credentials := { key, deviceId := id, flags := config.flags }
      plan := config.plan
      sample := config.reading.toRecord id
      reconnect := config.reconnectPolicy } := by
  unfold ofConfig
  rw [hid, hkey]
  rfl

/-- A valid configuration with a key has a client, which sends what it says. -/
theorem exists_ofConfig {config : Config} (hvalid : config.validate = .ok ())
    (hkey : config.HasKey) :
    ∃ client, ofConfig config = .ok client ∧ client.plan = config.plan := by
  obtain ⟨⟨id, hid⟩, -⟩ := Config.validate_eq_ok_iff.1 hvalid
  obtain ⟨key, hkey⟩ := Option.isSome_iff_exists.1 (Config.isSome_authKey_iff.2 hkey)
  exact ⟨_, ofConfig_eq hid hkey, rfl⟩

end Client

end TelemetryLink
