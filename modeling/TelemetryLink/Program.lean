import TelemetryLink.CommandLine.Options
import TelemetryLink.Config.Client
import TelemetryLink.Config.Storage

/-!
# The program

What a run of the program does, from the options to the exit status. The configuration of a file
comes first, then the environment, then the options. Either the result is saved without its key,
or it is checked and a client sends what it says.
-/

namespace TelemetryLink

/-- How the program ends. -/
inductive ExitStatus where
  /-- All was done. -/
  | success
  /-- Something failed. -/
  | failure
  /-- There is no key. -/
  | noKey
  deriving DecidableEq, Repr

/-- The number of an exit status. -/
def ExitStatus.code : ExitStatus → UInt8
  | success => 0
  | failure => 1
  | noKey => 2

/-- Why the program fails. -/
inductive ProgramError where
  /-- The configuration cannot be loaded. -/
  | load (error : Config.LoadError)
  /-- The configuration is not valid. -/
  | invalid (violation : Config.Violation)
  /-- The configuration cannot be saved. -/
  | save (error : Config.SaveError)
  /-- No source has a key. -/
  | noKey
  /-- The configuration gives no client. -/
  | client (error : ClientError)
  /-- The client gave up. -/
  | run (error : RunError)
  deriving DecidableEq

namespace ProgramError

/-- The failure in words. -/
def message : ProgramError → String
  | load error => error.message
  | invalid violation => "Invalid configuration: " ++ violation.message
  | save error => error.message
  | noKey => "No authentication key: set AUTH_KEY, pass --auth-key or set [auth] key"
  | client error => error.message
  | run error => error.message

/-- How the program ends after the failure. -/
def status : ProgramError → ExitStatus
  | noKey => .noKey
  | _ => .failure

end ProgramError

namespace Program

open CommandLine Net

variable {φ ν σ : Type} {m : Type → Type} [Monad m] [Files φ m] [Link σ m] [Dialer ν σ m]

/-- The file of the configuration. -/
def configPath (options : Options) (env : Environment) : String :=
  options.config.getD (Config.defaultPath env)

/-- The configuration of the file under what the environment and the options set. It is not
checked. -/
def loadConfig (options : Options) (env : Environment) :
    ExceptT Config.LoadError (StateT φ m) Config := do
  let config ← Config.load (configPath options env)
  return (config.withEnvironment env).withOverrides options.overrides

/-- Saves a configuration without its key, if it is valid. -/
def writeConfig (options : Options) (env : Environment) (config : Config) :
    ExceptT ProgramError (StateT φ m) Unit := do
  ExceptT.mk (pure (config.validate.mapError .invalid))
  ExceptT.adapt .save (Config.save (configPath options env) config.withoutKey)

/-- The client of a configuration that has a key and is valid. A missing key is reported before
anything else. -/
def client (config : Config) : Except ProgramError Client := do
  -- Whoever forgot the key hears of that first, whatever else is wrong.
  if config.authKey.isNone then throw .noKey
  config.validate.mapError .invalid
  (Client.ofConfig config).mapError .client

/-- What the program does with files: it finds the client that is to run, or is done without. -/
def prepare (options : Options) (env : Environment) :
    ExceptT ProgramError (StateT φ m) (Option Client) := do
  let config ← ExceptT.adapt .load (loadConfig options env)
  if options.writeConfig then
    writeConfig options env config
    return none
  else
    some <$> ExceptT.mk (pure (client config))

/-- A run of the program on files and a network. -/
def run (options : Options) (env : Environment) :
    ExceptT ProgramError (StateT (φ × ν) m) Unit := do
  let prepared ← ExceptT.mk fun (files, network) => do
    let (result, files) ← (prepare options env).run.run files
    return (result, (files, network))
  match prepared with
  | none => return
  | some client =>
    ExceptT.mk fun (files, network) => do
      let (result, network) ← client.run.run network
      return ((result.map fun _ => ()).mapError .run, (files, network))

/-- How a run ends. -/
def status (result : Except ProgramError Unit) : ExitStatus :=
  match result with
  | .ok () => .success
  | .error error => error.status

end Program

end TelemetryLink
