import TelemetryLink.Proofs.Client.Backoff
import TelemetryLink.Proofs.Program.ExitStatus

/-!
# What validation is good for

A configuration that was checked needs no other check before it is used. Whatever a client takes
from it, the client gets, and nothing in it can be what a run would stumble over.

- `Client.Sound`: a client that is fit to run, made of a configuration.
- `Client.exists_sound`: a valid configuration with a key has one.
- `Program.runOn_ne_client`: no run ends because there is no client.
- `Program.validation_suffices`: what is checked, in which order, and what follows from it.
-/

namespace TelemetryLink

/-- A client that is what a configuration and a key say, and that is fit to run: it has an address,
something to send, time to wait, and pauses that do not vanish. -/
structure Client.Sound (config : Config) (key : AuthKey) (client : Client) : Prop where
  host : client.host = config.server.host
  port : client.port = config.server.port
  port_pos : 0 < client.port
  connectTimeout : client.options.connectTimeout = .ofSecs config.server.connectTimeoutSecs
  connectTimeout_pos : 0 < client.options.connectTimeout.toNanos
  ioTimeout : client.options.ioTimeout = .ofSecs config.server.ioTimeoutSecs
  ioTimeout_pos : 0 < client.options.ioTimeout.toNanos
  keyText : ∃ text, config.auth.key = some text ∧ key.bytes = Text.Utf8.encode text
  key : client.credentials.key = key
  deviceId : DeviceId.parse config.device.id = .ok client.credentials.deviceId
  flags : client.credentials.flags.byte.toNat = config.device.flags.toNat % 2 ^ 8
  frames : client.plan.frames = config.session.frames
  interval : client.plan.interval = .ofMillis config.session.intervalMs
  ping : client.plan.ping = config.session.ping
  frames_pos : 1 ≤ client.plan.frames.toNat
  sample : client.sample = {
    format := config.reading.format
    temperature := config.reading.temperature
    humidity := config.reading.humidity
    pressure := config.reading.pressure
    accX := config.reading.accX
    accY := config.reading.accY
    accZ := config.reading.accZ
    powerInfo := config.reading.powerInfo
    movementCounter := config.reading.movementCounter
    measurementSeq := config.reading.measurementSeq
    mac := client.credentials.deviceId }
  mac : client.sample.mac = client.credentials.deviceId
  retries : client.reconnect.isSome = true ↔ config.reconnect.enabled = true
  policy : ∀ policy, client.reconnect = some policy →
    policy.maxAttempts = config.reconnect.maxAttempts ∧ 1 ≤ policy.maxAttempts.toNat ∧
      policy.base = .ofMillis config.reconnect.baseBackoffMs ∧
      policy.max = .ofMillis config.reconnect.maxBackoffMs ∧
      0 < policy.base.toNanos ∧ policy.base.toNanos ≤ policy.max.toNanos

/-- A number of seconds that is not zero is some time. -/
theorem Duration.ofSecs_pos {secs : UInt64} (h : secs ≠ 0) : 0 < (ofSecs secs).toNanos := by
  rw [toNanos_ofSecs]
  exact Nat.mul_pos (UInt64.pos_iff_ne_zero.2 h) (by decide)

/-- A valid configuration with a key has a client that is fit to run. -/
theorem Client.exists_sound {config : Config} {key : AuthKey} (hvalid : config.validate = .ok ())
    (hkey : config.authKey = some key) :
    ∃ client, ofConfig config = .ok client ∧ client.Sound config key := by
  obtain ⟨⟨id, hid⟩, hport, hconnect, hio, hframes, hattempts, -⟩ :=
    Config.validate_eq_ok_iff.1 hvalid
  have hclient := ofConfig_eq hid hkey
  refine ⟨_, hclient, {
    host := rfl
    port := rfl
    port_pos := UInt16.pos_iff_ne_zero.2 hport
    connectTimeout := rfl
    connectTimeout_pos := Duration.ofSecs_pos hconnect
    ioTimeout := rfl
    ioTimeout_pos := Duration.ofSecs_pos hio
    keyText := Config.authKey_eq_some_iff.1 hkey
    key := rfl
    deviceId := Config.deviceId_eq_ok_iff.1 hid
    flags := UInt32.toNat_toUInt8 config.device.flags
    frames := rfl
    interval := rfl
    ping := rfl
    frames_pos := UInt32.lt_iff_toNat_lt.1 (UInt32.pos_iff_ne_zero.2 hframes)
    sample := rfl
    mac := rfl
    retries := by simp [Option.isSome_iff_exists, Config.reconnectPolicy_eq_some_iff]
    policy := fun policy hpolicy => ?_ }⟩
  have hpauses := Backoff.base_of_validated hvalid hclient hpolicy
  obtain ⟨-, rfl⟩ := Config.reconnectPolicy_eq_some_iff.1 hpolicy
  have hsome := UInt32.lt_iff_toNat_lt.1 (UInt32.pos_iff_ne_zero.2 hattempts)
  exact ⟨rfl, hsome, rfl, rfl, hpauses⟩

namespace Program

open CommandLine Files Stateful

variable {options : Options} {env : Environment} {files : Tree} {network : Net.Network Stream}

/-- Where a configuration is checked, its client is there. -/
theorem client_ne_client (config : Config) (error : ClientError) :
    client config ≠ .error (.client error) := by
  rcases client_outcome config with ⟨-, h⟩ | ⟨violation, -, -, h⟩ | ⟨sender, -, -, -, -, h⟩
  all_goals
    rw [h]
    exact nofun

/-- No run ends because its configuration gives no client. -/
theorem runOn_ne_client (error : ClientError) :
    (runOn options env files network).1 ≠ .error (.client error) := by
  cases hload : loaded options env files with
  | error error =>
    rw [runOn_of_error hload]
    exact nofun
  | ok file =>
    cases hwrite : options.writeConfig with
    | true =>
      rw [runOn_of_writeConfig hload hwrite]
      intro h
      obtain ⟨_, ⟨⟩⟩ | ⟨_, ⟨⟩⟩ := writeConfig_error h
    | false =>
      rw [runOn_of_client hload hwrite]
      -- The client itself fails only while it runs.
      cases hclient : client (effective options env file) with
      | error error' =>
        intro h
        cases h
        exact client_ne_client _ _ hclient
      | ok sender =>
        dsimp only
        cases (sender.runOn network).1 with
        | error error => exact nofun
        | ok summary => exact nofun

/-- A configuration is valid exactly if all is met that is asked of it: the device id can be read,
the port, the timeouts, the number of frames and that of attempts are not zero, the base of the
pauses is not zero and within their bound, and the level is one of five up to the case of the
letters of ASCII. Otherwise the violation is that of the first of these which is not met, in this
order. It has a key exactly if the text of one is not empty. If it is valid and has a key, it has a
client, which is all that it says and fit to run. So no run of the program ends because there is no
client. -/
theorem validation_suffices :
    (∀ config : Config,
      (config.validate = .ok () ↔ ∀ requirement ∈ config.requirements, requirement.Met) ∧
      (∀ violation, config.validate = .error violation ↔
        Config.FirstUnmet config.requirements violation) ∧
      (config.authKey.isSome = true ↔ ∃ text, config.auth.key = some text ∧ text ≠ "")) ∧
    (∀ (config : Config) (key : AuthKey), config.validate = .ok () → config.authKey = some key →
      ∃ client, Client.ofConfig config = .ok client ∧ client.Sound config key) ∧
    ∀ (options : Options) (env : Environment) (files : Tree) (network : Net.Network Stream)
      (error : ClientError),
      (runOn options env files network).1 ≠ .error (.client error) := by
  refine ⟨fun config => ?_, fun config key hvalid hkey => Client.exists_sound hvalid hkey,
    fun options env files network error => runOn_ne_client error⟩
  have hdecided := config.decided_validate
  exact ⟨hdecided.ok, hdecided.error, Config.isSome_authKey_iff⟩

/-- A client that retries and pings, made of a configuration with more flags than are sent and with
a level in capitals. Without a device id the same is not valid, whatever its port is. -/
theorem validation_suffices_retrying :
    let config : Config :=
      { device := { flags := 0x1FF }, auth := { key := some "k" }
        session := { frames := 3, intervalMs := 250, ping := true }
        reconnect := { enabled := true }, logging := { level := "WARN" } }
    let key : AuthKey := ⟨[0x6B], by decide⟩
    let nameless : Config := { config with device := { id := "none" }, server := { port := 0 } }
    config.validate = .ok () ∧ config.authKey = some key ∧
      DeviceId.parse config.device.id = .ok ⟨⟨[0xDE, 0xAD, 0xBE, 0xEF, 0x00, 0x01], rfl⟩⟩ ∧
      (∃ client, Client.ofConfig config = .ok client ∧ client.Sound config key) ∧
      nameless.validate = .error (.deviceId "none") := by
  intro config key nameless
  have hvalid : config.validate = .ok () := by decide +kernel
  have hkey : config.authKey = some key := by decide +kernel
  have hunmet : ¬ ∃ id, DeviceId.parse nameless.device.id = .ok id := by
    rintro ⟨id, hid⟩
    have hfails : (DeviceId.parse nameless.device.id).isOk = false := by decide +kernel
    rw [hid] at hfails
    cases hfails
  exact ⟨hvalid, hkey, by decide +kernel, validation_suffices.2.1 config key hvalid hkey,
    ((validation_suffices.1 nameless).2.1 _).2 (.here hunmet)⟩

end Program

end TelemetryLink
