import TelemetryLink.Text.Numeral

/-!
# Levels

How severe messages are, from the quietest level to the most talkative one.
-/

namespace TelemetryLink

/-- How severe a message has to be. -/
inductive LogLevel where
  | off
  | error
  | warn
  | info
  | debug
  | trace
  deriving DecidableEq, Repr

namespace LogLevel

/-- The name of a level. -/
def text : LogLevel → String
  | off => "off"
  | error => "error"
  | warn => "warn"
  | info => "info"
  | debug => "debug"
  | trace => "trace"

/-- All levels, the quietest first. -/
def all : List LogLevel := [off, error, warn, info, debug, trace]

/-- The level with a name, in either case, or with a number that counts from zero. The empty text
is the level of errors. -/
def parse? (text : String) : Option LogLevel :=
  if text.isEmpty then some error
  else match Text.Numeral.unsignedUpTo? 5 text with
    | some n => all[n]?
    | none => all.find? fun level => level.text == String.ofList (text.toList.map Char.toLower)

end LogLevel

end TelemetryLink
