import TelemetryLink.Proofs.Config.Layer
import TelemetryLink.Proofs.Program.Run

/-!
# Exit statuses

What the number says that the program ends with: `2` that there is no key, whatever else is wrong,
`0` that all was sent, and `1` that something else stood in the way.

- `client_outcome`: a missing key is found before anything else that is wrong.
- `Client.isOk_runOn_iff`: a client succeeds if and only if everything was acknowledged.
- `Client.confirms_runOn_iff`: what counts as acknowledged was confirmed on some connection.
- `exitStatus_run`: the statuses of all runs, and the runs that leave the network alone.
-/

namespace TelemetryLink

/-- A client that has something to send succeeds exactly when all of it counts as acknowledged. -/
theorem Client.isOk_runOn_iff (client : Client) {network : Net.Network Stream}
    (hunused : network.Unused) (hframes : client.plan.frames ≠ 0) :
    (∃ summary, (client.runOn network).1 = .ok summary) ↔
      (reached (client.runOn network).1).framesAcknowledged = client.plan.frames := by
  have hpos : 0 < client.plan.frames := UInt32.pos_iff_ne_zero.2 hframes
  obtain ⟨logs, -, hended⟩ := client.runOn_outcome hunused
  generalize (client.runOn network).1 = result at hended ⊢
  cases result with
  | ok summary => exact ⟨fun _ => (hended.ok summary rfl).1, fun _ => ⟨summary, rfl⟩⟩
  | error e =>
    refine ⟨nofun, fun hall => ?_⟩
    exact absurd hall (UInt32.ne_of_lt (hended.error e rfl hpos))

/-- On the connections that were released on the way from one network to another, so many data
frames are confirmed. -/
def Net.Network.Confirms (network after : Network Stream) (n : Nat) : Prop :=
  ∃ logs, after.retired.map Stream.log = network.retired.map Stream.log ++ logs ∧
    (logs.flatMap Log.confirmed).length = n

/-- What a client counts as acknowledged is what was confirmed on its connections. -/
theorem Client.confirms_runOn_iff (client : Client) {network : Net.Network Stream}
    (hunused : network.Unused) {n : Nat} :
    network.Confirms (client.runOn network).2 n ↔
      (reached (client.runOn network).1).framesAcknowledged.toNat = n := by
  obtain ⟨logs, hretired, hended⟩ := client.runOn_outcome hunused
  have hlength := hended.chain.length_confirmed
  rw [Nat.zero_add] at hlength
  rw [← hlength]
  constructor
  · -- What the run has released is what was released before it, and its own connections.
    rintro ⟨others, hothers, rfl⟩
    rw [List.append_cancel_left (hretired.symm.trans hothers)]
  · rintro rfl
    exact ⟨logs, hretired, rfl⟩

namespace Program

open CommandLine Files Stateful

/-- Where a run may find a key: among the options, in the environment, and in the file. -/
def keySources (options : Options) (env : Environment) (file : Config) : List (Option String) :=
  [options.overrides.authKey, env "RGW_AUTH_KEY", env "AUTH_KEY", file.auth.key]

/-- Some source has a key that is not empty. -/
def Keyed (options : Options) (env : Environment) (file : Config) : Prop :=
  ∃ source ∈ keySources options env file, ∃ key, source = some key ∧ key ≠ ""

variable {options : Options} {env : Environment} {files : Tree} {network : Net.Network Stream}

theorem hasKey_effective_iff {file : Config} :
    (effective options env file).HasKey ↔ Keyed options env file := by
  unfold effective Keyed keySources
  rw [Config.hasKey_withOverrides, Config.hasKey_withEnvironment, Config.HasKey]
  simp only [List.mem_cons, List.not_mem_nil, or_false, exists_eq_or_imp, exists_eq_left]

/-- Whether a configuration gives a client: a missing key is found first, then what is not valid,
and then nothing more can be wrong. -/
theorem client_outcome (config : Config) :
    (¬ config.HasKey ∧ client config = .error .noKey) ∨
      (∃ violation, config.HasKey ∧ config.validate = .error violation ∧
        client config = .error (.invalid violation)) ∨
      ∃ sender, config.HasKey ∧ config.validate = .ok () ∧ Client.ofConfig config = .ok sender ∧
        sender.plan = config.plan ∧ client config = .ok sender := by
  by_cases hkey : config.HasKey
  · have hsome := Config.isSome_authKey_iff.2 hkey
    have hnone : ¬ config.authKey.isNone = true := by
      rw [Option.isNone_iff_eq_none]
      rintro hnone
      rw [hnone] at hsome
      cases hsome
    unfold client
    rw [if_neg hnone]
    right
    cases hvalid : config.validate with
    | error violation => exact .inl ⟨violation, hkey, rfl, rfl⟩
    | ok =>
      obtain ⟨sender, hsender, hplan⟩ := Client.exists_ofConfig hvalid hkey
      rw [hsender]
      exact .inr ⟨sender, hkey, rfl, rfl, hplan, rfl⟩
  · have hnone : config.authKey.isNone = true := by
      rw [Option.isNone_iff_eq_none, ← Option.not_isSome_iff_eq_none]
      exact mt Config.isSome_authKey_iff.1 hkey
    refine .inl ⟨hkey, ?_⟩
    unfold client
    rw [if_pos hnone]
    rfl

/-- Saving does not ask for a key. -/
theorem status_writeConfig_ne (config : Config) :
    status (on (writeConfig options env config) files).1 ≠ .noKey := by
  cases h : (on (writeConfig options env config) files).1 with
  | error error =>
    obtain ⟨_, rfl⟩ | ⟨_, rfl⟩ := writeConfig_error h
    · exact nofun
    · exact nofun
  | ok => exact nofun

/-- A client that ran had a key, and its success is that of the program. -/
theorem status_sending (result : Except RunError Summary) :
    status ((result.map fun _ => ()).mapError .run) ≠ .noKey ∧
      (status ((result.map fun _ => ()).mapError .run) = .success ↔
        ∃ summary, result = .ok summary) := by
  cases result with
  | error e =>
    have hstatus : status (((.error e : Except RunError Summary).map fun _ => ()).mapError .run) =
      .failure := rfl
    rw [hstatus]
    exact ⟨nofun, nofun, nofun⟩
  | ok summary =>
    have hstatus :
      status (((.ok summary : Except RunError Summary).map fun _ => ()).mapError .run) =
        .success := rfl
    rw [hstatus]
    exact ⟨nofun, fun _ => ⟨summary, rfl⟩, fun _ => rfl⟩

/-- A run that is not to save the configuration uses it, as far as that is possible. -/
theorem runOn_of_loaded {file : Config} (hunused : network.Unused)
    (hwrite : options.writeConfig = false) (hload : loaded options env files = .ok file) :
    let config := effective options env file
    let outcome := runOn options env files network
    (status outcome.1 = .noKey ↔ ¬ config.HasKey) ∧
      (status outcome.1 = .success ↔ config.HasKey ∧ config.validate = .ok () ∧
        ∃ sender, Client.ofConfig config = .ok sender ∧
          (Client.reached (sender.runOn network).1).framesAcknowledged = config.session.frames) ∧
      (status outcome.1 = .success ↔ config.HasKey ∧ config.validate = .ok () ∧
        network.Confirms outcome.2.2 config.session.frames.toNat) ∧
      (outcome.2.2 ≠ network → config.HasKey ∧ config.validate = .ok ()) := by
  intro config outcome
  have houtcome : outcome = _ := runOn_of_client hload hwrite
  rw [houtcome]
  rcases client_outcome config with
    ⟨hkey, hclient⟩ | ⟨violation, hkey, hvalid, hclient⟩ |
      ⟨sender, hkey, hvalid, hof, hplan, hclient⟩
  · rw [hclient]
    exact ⟨⟨fun _ => hkey, fun _ => rfl⟩, ⟨nofun, fun h => absurd h.1 hkey⟩,
      ⟨nofun, fun h => absurd h.1 hkey⟩, fun h => absurd rfl h⟩
  · rw [hclient, hvalid]
    exact ⟨⟨nofun, fun h => absurd hkey h⟩, ⟨nofun, nofun⟩, ⟨nofun, nofun⟩, fun h => absurd rfl h⟩
  · rw [hclient, hof]
    -- The client has something to send, so that it succeeds only if all of it is acknowledged.
    have hframes : sender.plan.frames = config.session.frames := congrArg Plan.frames hplan
    have hsome : sender.plan.frames ≠ 0 := by
      rw [hframes]
      exact (Config.validate_eq_ok_iff.1 hvalid).2.2.2.2.1
    have hall := sender.isOk_runOn_iff hunused hsome
    rw [hframes] at hall
    obtain ⟨hkeyed, hsuccess⟩ := status_sending (sender.runOn network).1
    have hsent := hsuccess.trans hall
    refine ⟨⟨fun h => absurd h hkeyed, fun h => absurd hkey h⟩, ?_, ?_, fun _ => ⟨hkey, hvalid⟩⟩
    · calc status (((sender.runOn network).1.map fun _ => ()).mapError .run) = .success
          ↔ (Client.reached (sender.runOn network).1).framesAcknowledged =
              config.session.frames := hsent
        _ ↔ _ := ⟨fun h => ⟨hkey, hvalid, sender, rfl, h⟩, fun ⟨_, _, _, heq, h⟩ =>
            Except.ok.inj heq ▸ h⟩
    · rw [sender.confirms_runOn_iff hunused, UInt32.toNat_inj]
      exact hsent.trans ⟨fun h => ⟨hkey, hvalid, h⟩, fun h => h.2.2⟩

/-- The number that a run ends with. It is `2` exactly if the file loads, nothing is to be saved and
no source has a key that is not empty, whatever else is wrong. When nothing is to be saved, it is
`0` exactly if the file loads, some source has a key, the configuration in effect is valid, and its
client has as many frames acknowledged as it says, which is as many as are confirmed on the
connections of the run; otherwise it is `1`. The network is left as it is unless there is a key, the
configuration is valid, and nothing is to be saved. -/
theorem exitStatus_run (options : Options) (env : Environment) (files : Tree)
    (network : Net.Network Stream) (hunused : network.Unused) :
    let outcome := runOn options env files network
    let code := (status outcome.1).code
    (code = 2 ↔ options.writeConfig = false ∧
      ∃ file, loaded options env files = .ok file ∧ ¬ Keyed options env file) ∧
    (options.writeConfig = false →
      (code = 0 ↔ ∃ file, loaded options env files = .ok file ∧ Keyed options env file ∧
        (effective options env file).validate = .ok () ∧
        ∃ sender, Client.ofConfig (effective options env file) = .ok sender ∧
          (Client.reached (sender.runOn network).1).framesAcknowledged =
            (effective options env file).session.frames) ∧
      (code = 0 ↔ ∃ file, loaded options env files = .ok file ∧ Keyed options env file ∧
        (effective options env file).validate = .ok () ∧
        network.Confirms outcome.2.2 (effective options env file).session.frames.toNat) ∧
      (code = 1 ↔ code ≠ 0 ∧ code ≠ 2)) ∧
    (outcome.2.2 ≠ network → options.writeConfig = false ∧
      ∃ file, loaded options env files = .ok file ∧ Keyed options env file ∧
        (effective options env file).validate = .ok ()) := by
  intro outcome code
  have hcode : (code = 2 ↔ status outcome.1 = .noKey) ∧ (code = 0 ↔ status outcome.1 = .success) ∧
      (code = 1 ↔ code ≠ 0 ∧ code ≠ 2) := by
    change ((status outcome.1).code = 2 ↔ _) ∧ ((status outcome.1).code = 0 ↔ _) ∧
      ((status outcome.1).code = 1 ↔ (status outcome.1).code ≠ 0 ∧ (status outcome.1).code ≠ 2)
    cases status outcome.1 <;> decide
  obtain ⟨htwo, hzero, hone⟩ := hcode
  rw [htwo, hzero]
  cases hload : loaded options env files with
  | error error =>
    have houtcome : outcome = _ := runOn_of_error hload
    rw [houtcome]
    exact ⟨⟨nofun, nofun⟩, fun _ => ⟨⟨nofun, nofun⟩, ⟨nofun, nofun⟩, hone⟩,
      fun h => absurd rfl h⟩
  | ok file =>
    cases hwrite : options.writeConfig with
    | true =>
      have houtcome : outcome = _ := runOn_of_writeConfig hload hwrite
      have hkeyed : status outcome.1 ≠ .noKey := by
        rw [houtcome]
        exact status_writeConfig_ne (effective options env file)
      rw [houtcome] at hkeyed ⊢
      exact ⟨⟨fun h => absurd h hkeyed, nofun⟩, nofun, fun h => absurd rfl h⟩
    | false =>
      obtain ⟨hnone, hall, hconfirms, hchanged⟩ := runOn_of_loaded hunused hwrite hload
      rw [hasKey_effective_iff] at hnone hall hconfirms hchanged
      simp only [Except.ok.injEq, exists_eq_left', true_and, forall_const]
      exact ⟨hnone, ⟨hall, hconfirms, hone⟩, hchanged⟩

/-- A run without a configuration file, with a key among its options, that sends two frames over two
connections, one frame on each. -/
theorem exitStatus_run_reconnect :
    let options : Options :=
      { config := some "rgw.toml"
        overrides := { authKey := some "k", frames := some 2, reconnect := true } }
    let env : Environment := fun _ => none
    let network : Net.Network Stream :=
      { hosts := fun _ => .ok [],
        links := [⟨[.chunk [0x01, 0x03, 0x01]], [], [], []⟩,
          ⟨[.chunk [0x01, 0x03, 0x05]], [], [], []⟩],
        spare := ⟨[], [], [], []⟩, spareNonce := ⟨[0, 0, 0, 0, 0, 0, 0, 1], rfl⟩ }
    let outcome := runOn options env {} network
    network.Unused ∧ (status outcome.1).code = 0 ∧
      (∃ file, loaded options env {} = .ok file ∧ Keyed options env file ∧
        (effective options env file).validate = .ok () ∧
        ∃ sender, Client.ofConfig (effective options env file) = .ok sender ∧
          (Client.reached (sender.runOn network).1).framesAcknowledged =
            (effective options env file).session.frames) ∧
      ∃ file, loaded options env {} = .ok file ∧ Keyed options env file ∧
        (effective options env file).validate = .ok () ∧
        network.Confirms outcome.2.2 (effective options env file).session.frames.toNat := by
  intro options env network outcome
  have hunused : network.Unused := ⟨by simp [network], rfl⟩
  have hcode : (status outcome.1).code = 0 := by decide +kernel
  obtain ⟨hcounted, hconfirmed, -⟩ := (exitStatus_run options env {} network hunused).2.1 rfl
  exact ⟨hunused, hcode, hcounted.1 hcode, hconfirmed.1 hcode⟩

end Program

end TelemetryLink
