import TelemetryLink.CommandLine.Scan
import TelemetryLink.Live.Disk
import TelemetryLink.Live.Socket
import TelemetryLink.LogFilter
import TelemetryLink.Program

/-!
# The command line

Runs the program on the disk and the network of the machine.
-/

namespace TelemetryLink.CommandLine

/-- The variables of the environment that matter. -/
def variableNames : List String :=
  ["HOME", "XDG_CONFIG_HOME", Config.levelVariable, LogFilter.variableName] ++ Config.keyVariables

/-- The environment of the process, as far as it matters. -/
def environment : IO Environment := do
  let values ← variableNames.mapM fun name => return (name, ← IO.getEnv name)
  return fun name => (values.lookup name).join

/-- What the help shows. -/
def help : String :=
  "\n".intercalate [
    "Usage: rgw-client [OPTIONS]",
    "",
    "Options:",
    "  -c, --config <FILE>     Path to configuration file",
    "      --host <HOST>       Collector host",
    "  -p, --port <PORT>       Collector port",
    "      --auth-key <KEY>    Pre-shared authentication key (overrides AUTH_KEY)",
    "      --device-id <ID>    Device identifier, e.g. DE:AD:BE:EF:00:01",
    "  -n, --frames <FRAMES>   Number of data frames to send",
    "      --interval-ms <MS>  Pause between data frames in milliseconds",
    "      --ping              Send a ping before the first data frame",
    "      --reconnect         Retry failed sessions with exponential backoff",
    "      --write-config      Write the effective configuration (without the key) and exit",
    "  -v, --verbose           Enable verbose logging",
    "  -h, --help              Print help",
    "  -V, --version           Print version"]

/-- What is wrong with the arguments, in words. -/
def UsageError.message : UsageError → String
  | unknownArgument => "unexpected argument"
  | invalidValue => "a value is required and may not be missing or empty"
  | valueValidation => "invalid value"
  | argumentConflict => "an option cannot be used multiple times"
  | tooManyValues => "a value was given to an option that takes none"

/-- Follows the options. Errors are logged, unless the filter turns them off. -/
def follow (options : Options) : IO UInt8 := do
  let env ← environment
  let run : ExceptT ProgramError (StateT (Live.Disk × Live.Internet) IO) Unit :=
    Program.run options env
  -- The machine keeps the state of its files and connections itself.
  let (result, _) ← run.run.run ({}, {})
  match result with
  | .ok () => pure ()
  | .error error =>
    if (LogFilter.choose options.verbose "info" env).admitsErrors "rgw_client" then
      IO.println ("ERROR rgw_client: " ++ error.message)
  return (Program.status result).code

end TelemetryLink.CommandLine

/-- Follows the command line and returns the number that the process ends with. -/
def main (arguments : List String) : IO UInt32 := do
  match TelemetryLink.CommandLine.parse arguments with
  | .ok options => return (← TelemetryLink.CommandLine.follow options).toUInt32
  | .error stop =>
    match stop with
    | .usage error =>
      IO.eprintln ("error: " ++ error.message ++ "\n\nFor more information, try '--help'.")
    | .help => IO.println TelemetryLink.CommandLine.help
    | .version => IO.print stop.output
    return stop.code.toUInt32
