import TelemetryLink.Config.Document
import TelemetryLink.Config.Layer
import TelemetryLink.Files
import TelemetryLink.Files.Path

/-!
# Stored configurations

Where a configuration is kept, and how it is loaded and saved. A file that is not there stands
for the defaults. Saving makes the directories around the file; the text is made before the file
is touched, so that a configuration without a text leaves the file as it was.
-/

namespace TelemetryLink.Config

/-- Why a configuration cannot be loaded. -/
inductive LoadError where
  /-- The file cannot be read. -/
  | unreadable (path : String) (failure : Files.Failure)
  /-- The file holds no configuration. -/
  | invalid (path : String) (error : ReadError)
  deriving DecidableEq, Repr

/-- The failure in words. -/
def LoadError.message : LoadError → String
  | unreadable path failure => "Failed to read config file: " ++ path ++ ": " ++ failure.text
  | invalid path error => "Failed to parse config file: " ++ path ++ ": " ++ error.message

/-- Why a configuration cannot be saved. -/
inductive SaveError where
  /-- The directory of the file cannot be made. -/
  | noDirectory (directory : String) (failure : Files.Failure)
  /-- The configuration has no text. -/
  | noText (error : WriteError)
  /-- The file cannot be written. -/
  | unwritable (path : String) (failure : Files.Failure)
  deriving DecidableEq, Repr

/-- The failure in words. -/
def SaveError.message : SaveError → String
  | noDirectory directory failure =>
    "Failed to create config directory: " ++ directory ++ ": " ++ failure.text
  | noText error => error.message
  | unwritable path failure => "Failed to write config file: " ++ path ++ ": " ++ failure.text

/-- The directory for configurations: the one that is set, if it is absolute, else the usual one
below the home directory, else the current one. Only the environment is asked for the home
directory. Where `HOME` is not set, or empty, a system may still find one in its list of accounts
(the `passwd` entry of the user); this is left out, and the current directory is the answer. -/
def home (env : Environment) : String :=
  match (env "XDG_CONFIG_HOME").filter Files.Path.isAbsolute with
  | some directory => directory
  | none =>
    match env.nonempty "HOME" with
    | some directory => Files.Path.child directory ".config"
    | none => "."

/-- Where the configuration is kept if nothing else is said. -/
def defaultPath (env : Environment) : String :=
  Files.Path.child (Files.Path.child (home env) "rgw") "client.toml"

variable {φ : Type} {m : Type → Type} [Monad m] [Files φ m]

/-- Loads a configuration. -/
def load (path : String) : ExceptT LoadError (StateT φ m) Config := do
  -- The empty path leads nowhere, and stands for the defaults like any missing file.
  if !(← ExceptT.lift (Files.present path)) then return {}
  let content ← ExceptT.mk do
    return (← Files.read path).mapError (.unreadable path)
  match Text.Utf8.decode? content with
  | none => throw (.unreadable path .notText)
  | some text => ExceptT.mk (pure ((parse text).mapError (.invalid path)))

/-- Saves a configuration. -/
def save (path : String) (config : Config) : ExceptT SaveError (StateT φ m) Unit := do
  match Files.Path.parent? path with
  | some directory =>
    ExceptT.mk do
      return (← Files.createDirectories directory).mapError (.noDirectory directory)
  | none => pure ()
  -- The file is opened only when there is something to write.
  let text ← ExceptT.mk (pure (config.render.mapError .noText))
  ExceptT.mk do
    return (← Files.write path (Text.Utf8.encode text)).mapError (.unwritable path)

end TelemetryLink.Config
