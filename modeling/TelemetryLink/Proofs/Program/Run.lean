import TelemetryLink.Proofs.Client.Progress
import TelemetryLink.Proofs.Config.Storage
import TelemetryLink.Program

/-!
# Runs of the program

A run of the program on a file tree and a scripted network, as equations: what it prepares from the
files, and what becomes of the network.

- `prepare_on`: what is done with files.
- `runOn_of_error`, `runOn_of_writeConfig`, `runOn_of_client`: the ways a run goes.
-/

namespace TelemetryLink.Program

open CommandLine Files Stateful

variable (options : Options) (env : Environment)

/-- What a configuration file becomes under the environment and the options. -/
def effective (file : Config) : Config :=
  (file.withEnvironment env).withOverrides options.overrides

/-- What is loaded from the file of a run. -/
def loaded (files : Tree) : Except Config.LoadError Config :=
  Config.loadFrom (configPath options env) files

/-- What a run without outside effects ends with, and what it leaves behind. -/
def runOn (files : Tree) (network : Net.Network Stream) :
    Except ProgramError Unit × Tree × Net.Network Stream :=
  on (run options env) (files, network)

variable {options env} {files : Tree} {network : Net.Network Stream}

theorem loadConfig_on :
    on (loadConfig options env) files =
      ((loaded options env files).map (effective options env), files) := by
  have hload := Config.load_on (configPath options env) files
  unfold loadConfig loaded
  cases hloaded : Config.loadFrom (configPath options env) files with
  | error error =>
    rw [hloaded] at hload
    exact on_bind_error _ hload
  | ok file =>
    rw [hloaded] at hload
    exact on_bind_ok _ hload

/-- A configuration is saved without its key if it is valid. -/
theorem writeConfig_on (config : Config) :
    on (writeConfig options env config) files =
      match config.validate with
      | .error violation => (.error (.invalid violation), files)
      | .ok () =>
        let (result, after) := on (Config.save (configPath options env) config.withoutKey) files
        (result.mapError .save, after) := by
  unfold writeConfig
  cases config.validate with
  | error violation => rfl
  | ok => rfl

/-- Saving fails because of what is saved or because of where. -/
theorem writeConfig_error {config : Config} {error : ProgramError}
    (h : (on (writeConfig options env config) files).1 = .error error) :
    (∃ violation, error = .invalid violation) ∨ ∃ cause, error = .save cause := by
  rw [writeConfig_on] at h
  cases hvalid : config.validate with
  | error violation =>
    rw [hvalid] at h
    exact .inl ⟨violation, (Except.error.inj h).symm⟩
  | ok =>
    rw [hvalid] at h
    dsimp only at h
    cases hsave : (on (Config.save (configPath options env) config.withoutKey) files).1 with
    | error cause =>
      rw [hsave] at h
      exact .inr ⟨cause, (Except.error.inj h).symm⟩
    | ok =>
      rw [hsave] at h
      cases h

/-- What a run makes of what was prepared. -/
theorem runOn_eq :
    runOn options env files network =
      match on (prepare options env) files with
      | (.error error, after) => (.error error, after, network)
      | (.ok none, after) => (.ok (), after, network)
      | (.ok (some client), after) =>
        (((client.runOn network).1.map fun _ => ()).mapError .run, after,
          (client.runOn network).2) := by
  have hprepare : on (ExceptT.mk fun (files, network) => do
        let (result, files) ← (prepare options env).run.run files
        return (result, (files, network)) :
      ExceptT ProgramError (StateT (Tree × Net.Network Stream) Id) (Option Client))
      (files, network) =
      ((on (prepare options env) files).1, (on (prepare options env) files).2, network) := rfl
  unfold runOn run
  rcases hprepared : on (prepare options env) files with ⟨error | _ | client, after⟩
  · rw [hprepared] at hprepare
    exact on_bind_error _ hprepare
  · rw [hprepared] at hprepare
    exact on_bind_ok _ hprepare
  · rw [hprepared] at hprepare
    exact on_bind_ok _ hprepare

/-- What is prepared once the configuration is loaded. -/
theorem prepare_on :
    on (prepare options env) files =
      match loaded options env files with
      | .error error => (.error (.load error), files)
      | .ok file =>
        if options.writeConfig then
          let (result, after) := on (writeConfig options env (effective options env file)) files
          (result.map fun _ => none, after)
        else ((client (effective options env file)).map some, files) := by
  have hload : on (ExceptT.adapt ProgramError.load (loadConfig options env)) files =
      (((loaded options env files).map (effective options env)).mapError .load, files) := by
    rw [on_adapt, loadConfig_on]
  unfold prepare
  cases hloaded : loaded options env files with
  | error error =>
    rw [hloaded] at hload
    exact on_bind_error _ hload
  | ok file =>
    rw [hloaded] at hload
    rw [on_bind_ok _ hload]
    dsimp only
    split
    · rcases hwrite : on (writeConfig options env (effective options env file)) files with
        ⟨error | ⟨⟩, after⟩
      · exact on_bind_error _ hwrite
      · exact on_bind_ok _ hwrite
    · cases client (effective options env file) with
      | error error => rfl
      | ok client => rfl

/-! ## The ways a run goes -/

theorem runOn_of_error {error : Config.LoadError}
    (hload : loaded options env files = .error error) :
    runOn options env files network = (.error (.load error), files, network) := by
  rw [runOn_eq, prepare_on, hload]

/-- The configuration is saved, and the network is not used. -/
theorem runOn_of_writeConfig {file : Config} (hload : loaded options env files = .ok file)
    (hwrite : options.writeConfig = true) :
    runOn options env files network =
      ((on (writeConfig options env (effective options env file)) files).1,
        (on (writeConfig options env (effective options env file)) files).2, network) := by
  rw [runOn_eq, prepare_on, hload]
  dsimp only
  rw [if_pos hwrite]
  rcases on (writeConfig options env (effective options env file)) files with ⟨error | ⟨⟩, after⟩
  · rfl
  · rfl

/-- The client of the configuration runs, if there is one. The files stay as they are. -/
theorem runOn_of_client {file : Config} (hload : loaded options env files = .ok file)
    (hwrite : options.writeConfig = false) :
    runOn options env files network =
      match client (effective options env file) with
      | .error error => (.error error, files, network)
      | .ok sender =>
        (((sender.runOn network).1.map fun _ => ()).mapError .run, files,
          (sender.runOn network).2) := by
  rw [runOn_eq, prepare_on, hload]
  dsimp only
  rw [if_neg (Bool.eq_false_iff.1 hwrite)]
  cases client (effective options env file) with
  | error error => rfl
  | ok sender => rfl

end TelemetryLink.Program
