import TelemetryLink.Proofs.Config.Saving
import TelemetryLink.Proofs.Program.Run

/-!
# Saving the configuration in effect

What a run that is to save the configuration leaves behind, and what is loaded from it later.

- `runOn_of_accepts`: the run, where there is room for the file.
- `writeConfig_run`: a valid configuration is saved without its key exactly if the format can hold
  the pause that the options set.
-/

namespace TelemetryLink.Program

open CommandLine Files Stateful

variable {options : Options} {env : Environment} {files : Tree}

/-- The pause between frames that the options set, if any, is one that the format can hold. -/
def PauseFits (options : Options) : Prop :=
  ∀ ms, options.overrides.intervalMs = some ms → Config.Fits ms

/-- What is loaded from a file, the environment and the options, can be written as far as the pause
fits. -/
theorem writable_effective {file : Config} (hload : loaded options env files = .ok file) :
    (effective options env file).withoutKey.Writable ↔ PauseFits options :=
  Config.writable_withOverrides
    (Config.writable_withEnvironment.2 (Config.writable_of_loadFrom hload))

/-- A valid configuration is saved where there is room for the file, if it has a text. -/
theorem runOn_of_accepts (network : Net.Network Stream) {file : Config}
    (hwrite : options.writeConfig = true) (hload : loaded options env files = .ok file)
    (hvalid : (effective options env file).validate = .ok ())
    (haccepts : Config.Accepts (configPath options env) files) :
    (PauseFits options ∧ ∃ after, runOn options env files network = (.ok (), after, network) ∧
      Config.loadFrom (configPath options env) after =
        .ok (effective options env file).withoutKey) ∨
    (¬ PauseFits options ∧ runOn options env files network =
      (.error (.save (.noText .outOfRange)),
        (Config.makeRoom (configPath options env) files).2, network)) := by
  rw [runOn_of_writeConfig hload hwrite, writeConfig_on, hvalid, ← writable_effective hload]
  dsimp only
  obtain ⟨hwritable, after, hsave, hafter⟩ | ⟨hwritable, hsave⟩ :=
    Config.save_of_accepts (effective options env file).withoutKey haccepts
  · rw [hsave]
    exact .inl ⟨hwritable, after, rfl, hafter⟩
  · rw [hsave]
    exact .inr ⟨hwritable, rfl⟩

/-- A run that is to save the configuration, where that is valid and there is room for the file,
ends with `0` and leaves a file from which exactly the configuration in effect without its key is
loaded, if and only if the options set no pause between frames that the format cannot hold.
Otherwise it ends with `1` and writes no file. -/
theorem writeConfig_run (options : Options) (env : Environment) (files : Tree)
    (network : Net.Network Stream) {file : Config} (hwrite : options.writeConfig = true)
    (hload : loaded options env files = .ok file)
    (hvalid : (effective options env file).validate = .ok ())
    (haccepts : Config.Accepts (configPath options env) files) :
    let path := configPath options env
    let outcome := runOn options env files network
    let Saved := (status outcome.1).code = 0 ∧
      on (Config.load path) outcome.2.1 =
        (.ok (effective options env file).withoutKey, outcome.2.1)
    (Saved ↔ PauseFits options) ∧
      (¬ Saved → (status outcome.1).code = 1 ∧ outcome.2.1 = (Config.makeRoom path files).2) := by
  intro path outcome Saved
  have houtcome : outcome = runOn options env files network := rfl
  obtain ⟨hfits, after, hrun, hafter⟩ | ⟨hfits, hrun⟩ :=
    runOn_of_accepts network hwrite hload hvalid haccepts
  · have hsaved : Saved := by
      rw [hrun] at houtcome
      refine ⟨by rw [houtcome]; rfl, ?_⟩
      rw [houtcome, Config.load_on]
      exact congrArg (·, after) hafter
    exact ⟨iff_of_true hsaved hfits, fun h => absurd hsaved h⟩
  · have hcode : (status outcome.1).code = 1 := by
      rw [houtcome, hrun]
      rfl
    have hunsaved : ¬ Saved := fun h => absurd (hcode.symm.trans h.1) (by decide)
    exact ⟨iff_of_false hunsaved hfits, fun _ => ⟨hcode, by rw [houtcome, hrun]⟩⟩

/-- A run without a file that saves the defaults with another pause. -/
theorem writeConfig_run_defaults :
    let options : Options :=
      { config := some "client.toml", overrides := { intervalMs := some 250 }, writeConfig := true }
    let env : Environment := fun _ => none
    let network : Net.Network Stream :=
      { hosts := fun _ => .ok [], links := [], spare := ⟨[], [], [], []⟩,
        spareNonce := ⟨[0, 0, 0, 0, 0, 0, 0, 1], rfl⟩ }
    let outcome := runOn options env {} network
    loaded options env {} = .ok {} ∧ (effective options env {}).validate = .ok () ∧
      Config.Accepts "client.toml" {} ∧ (status outcome.1).code = 0 ∧
      on (Config.load "client.toml") outcome.2.1 =
        (.ok { session := { intervalMs := 250 } }, outcome.2.1) := by
  intro options env network outcome
  have hload : loaded options env {} = .ok {} := by decide +kernel
  have hvalid : (effective options env {}).validate = .ok () := by decide +kernel
  have haccepts : Config.Accepts "client.toml" {} := ⟨{}, rfl, fun content => ⟨_, rfl⟩⟩
  have hfits : PauseFits options := by
    rintro _ ⟨⟩
    decide
  have hsaved := (writeConfig_run options env {} network rfl hload hvalid haccepts).1.2 hfits
  exact ⟨hload, hvalid, haccepts, hsaved⟩

/-- The greatest pause that the options can set is not saved, although the configuration is valid
and there is room for the file. -/
theorem writeConfig_greatest_pause :
    let options : Options :=
      { config := some "client.toml", overrides := { intervalMs := some 18446744073709551615 },
        writeConfig := true }
    let env : Environment := fun _ => none
    let network : Net.Network Stream :=
      { hosts := fun _ => .ok [], links := [], spare := ⟨[], [], [], []⟩,
        spareNonce := ⟨[0, 0, 0, 0, 0, 0, 0, 1], rfl⟩ }
    let outcome := runOn options env {} network
    loaded options env {} = .ok {} ∧ (effective options env {}).validate = .ok () ∧
      Config.Accepts "client.toml" {} ∧ (status outcome.1).code = 1 ∧ outcome.2.1.nodes = [] := by
  intro options env network outcome
  have haccepts : Config.Accepts "client.toml" {} := ⟨{}, rfl, fun content => ⟨_, rfl⟩⟩
  exact ⟨by decide +kernel, by decide +kernel, haccepts, by decide +kernel, by decide +kernel⟩

end TelemetryLink.Program
