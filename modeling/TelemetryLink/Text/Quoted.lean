import TelemetryLink.Text.Hex
import TelemetryLink.Text.Unprintable

/-!
# Quoted text

How a text or a character stands in a message when its exact content matters: between quotes,
with escapes for the quote itself, the backslash, the common controls and every other
unprintable character.
-/

namespace TelemetryLink.Text.Quoted

/-- One character inside quotes `quote`. A quote of the other kind stands as it is. -/
def escape (quote c : Char) : List Char :=
  if c = Char.ofNat 0 then ['\\', '0']
  else if c = '\t' then ['\\', 't']
  else if c = '\r' then ['\\', 'r']
  else if c = '\n' then ['\\', 'n']
  else if c = '\\' then ['\\', '\\']
  else if c = quote then ['\\', c]
  else if Unprintable.isUnprintable c then
    ['\\', 'u', '\x7b'] ++ (Hex.ofNat c.toNat).toList ++ ['\x7d']
  else [c]

/-- A text between double quotes. -/
def string (text : String) : String :=
  String.ofList ('"' :: text.toList.flatMap (escape '"') ++ ['"'])

/-- A character between single quotes. -/
def char (c : Char) : String :=
  String.ofList ('\'' :: escape '\'' c ++ ['\''])

end TelemetryLink.Text.Quoted
