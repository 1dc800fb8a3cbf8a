import TelemetryLink.CommandLine.Options
import TelemetryLink.Text.Numeral

/-!
# Reading the command line

Arguments are read from left to right, and the first problem counts. An option that takes a value
in the next argument is `pending` until something else than its value is known to follow: only
then is its value looked at. An argument that no option fits is reported before that.
-/

namespace TelemetryLink.CommandLine

/-- Why a command line cannot be followed. -/
inductive UsageError where
  /-- There is no such option, or an argument that belongs to none. -/
  | unknownArgument
  /-- A value is missing, or an empty one is not allowed. -/
  | invalidValue
  /-- A value is no number, or not in its range. -/
  | valueValidation
  /-- An option is given twice. -/
  | argumentConflict
  /-- A value is given to an option that takes none. -/
  | tooManyValues
  deriving DecidableEq, Repr

/-- Why the arguments ask for no run. -/
inductive Stop where
  /-- They cannot be followed. -/
  | usage (error : UsageError)
  /-- They ask for the help. -/
  | help
  /-- They ask for the version. -/
  | version
  deriving DecidableEq, Repr

namespace Stop

/-- The number that the program ends with. -/
def code : Stop → UInt8
  | usage _ => 2
  | help => 0
  | version => 0

/-- What the program shows on its standard output, apart from the help. -/
def output : Stop → String
  | version => "rgw-client 0.1.0\n"
  | _ => ""

end Stop

/-- What was read so far. -/
structure Scan where
  /-- What the options ask for. -/
  options : Options := {}
  /-- The options that were given. -/
  given : List Opt := []
  /-- The option whose value the next argument may be, and its value once it was there. -/
  pending : Option (Parameter × Option String) := none
  /-- Whether the options were declared to be over. -/
  ended : Bool := false

namespace Scan

/-- The result of reading on. -/
abbrev Result := Except Stop Scan

/-- Notes that an option is given, which may happen once. -/
def note (option : Opt) (scan : Scan) : Result :=
  if scan.given.contains option then throw (.usage .argumentConflict)
  else return { scan with given := option :: scan.given }

/-- A value that has to be there. -/
def required {α : Type} : Option α → Except Stop α
  | some value => return value
  | none => throw (.usage .valueValidation)

/-- The options with the value of a parameter. -/
def assign (options : Options) (value : String) : Parameter → Except Stop Options
  | .config =>
    if value.isEmpty then throw (.usage .invalidValue)
    else return { options with config := some value }
  | .host => return { options with overrides.host := some value }
  | .port => do
    let n ← required (Text.Numeral.upTo? (UInt16.size - 1) value)
    return { options with overrides.port := some (UInt16.ofNat n) }
  | .authKey => return { options with overrides.authKey := some value }
  | .deviceId => return { options with overrides.deviceId := some value }
  | .frames => do
    let n ← required (Text.Numeral.upTo? (UInt32.size - 1) value)
    return { options with overrides.frames := some (UInt32.ofNat n) }
  | .intervalMs => do
    let n ← required (Text.Numeral.unsignedUpTo? (UInt64.size - 1) value)
    return { options with overrides.intervalMs := some (UInt64.ofNat n) }

/-- Gives a parameter its value. -/
def give (parameter : Parameter) (value : String) (scan : Scan) : Result := do
  let scan ← note (.parameter parameter) scan
  return { scan with options := ← assign scan.options value parameter }

/-- Gives the pending parameter its value, which has to be there by now. -/
def settle (scan : Scan) : Result :=
  let settled := { scan with pending := none }
  match scan.pending with
  | none => return settled
  -- Another option, or the end, came where the value should have been.
  | some (_, none) => throw (.usage .invalidValue)
  | some (parameter, some value) => give parameter value settled

/-- Turns a switch on. -/
def turnOn (switch : Switch) (scan : Scan) : Result := do
  let scan ← settle scan
  match switch with
  | .help => throw .help
  | .version => throw .version
  | switch =>
    let scan ← note (.switch switch) scan
    let options := scan.options
    return { scan with options := match switch with
      | .ping => { options with overrides.ping := true }
      | .reconnect => { options with overrides.reconnect := true }
      | .writeConfig => { options with writeConfig := true }
      | .verbose => { options with verbose := true }
      | .help | .version => options }

/-- Reads a parameter, whose value may stand in the same argument. -/
def expect (parameter : Parameter) (attached : Option String) (scan : Scan) : Result := do
  let scan ← settle scan
  match attached with
  | some value => give parameter value scan
  | none => return { scan with pending := some (parameter, none) }

/-- Reads an option by its long name, with what follows an equals sign. -/
def long (name : String) (attached : Option String) (scan : Scan) : Result :=
  match Opt.ofLong? name, attached with
  | none, _ => throw (.usage .unknownArgument)
  | some (.parameter parameter), attached => expect parameter attached scan
  | some (.switch switch), none => turnOn switch scan
  | some (.switch _), some _ => throw (.usage .tooManyValues)

/-- Reads options by their short names. What follows the name of a parameter is its value, which
an equals sign may precede. -/
def shorts : List Char → Scan → Result
  | [], scan => return scan
  | c :: rest, scan =>
    match Opt.ofShort? c with
    | none => throw (.usage .unknownArgument)
    | some (.switch switch) => do shorts rest (← turnOn switch scan)
    | some (.parameter parameter) =>
      match rest with
      | [] => expect parameter none scan
      | '=' :: value => expect parameter (some (String.ofList value)) scan
      | value => expect parameter (some (String.ofList value)) scan

/-- Reads an argument that is no option: the value of the pending parameter, or one too many. -/
def value (text : String) (scan : Scan) : Result :=
  match scan.pending with
  | some (parameter, none) => return { scan with pending := some (parameter, some text) }
  | _ => throw (.usage .unknownArgument)

/-- Reads one argument. -/
def argument (scan : Scan) (text : String) : Result :=
  -- There are no arguments without an option, so that none may follow the end.
  if scan.ended then throw (.usage .unknownArgument)
  else match text.toList with
    | ['-', '-'] => return { scan with ended := true }
    | '-' :: '-' :: rest =>
      let name := String.ofList (rest.takeWhile (· != '='))
      let attached := match rest.dropWhile (· != '=') with
        | _ :: value => some (String.ofList value)
        | [] => none
      long name attached scan
    -- A lone hyphen is a value like any other.
    | '-' :: c :: rest => shorts (c :: rest) scan
    | _ => value text scan

end Scan

/-- What the arguments ask for. -/
def parse (arguments : List String) : Except Stop Options := do
  let scan ← arguments.foldlM Scan.argument {}
  return (← scan.settle).options

end TelemetryLink.CommandLine
