import TelemetryLink.Text.Hex
import TelemetryLink.Toml.Document

/-!
# Writing values and sections

How scalars and sections are written. A text is written in the plainest form that can hold it:
without escapes where that is possible, on one line where it has one.
-/

namespace TelemetryLink.Toml

namespace QuotedText

/-- The forms that a text is written in. -/
inductive Style where
  /-- Between double quotes. -/
  | basic
  /-- Between single quotes. -/
  | literal
  /-- Between triple double quotes. -/
  | basicLines
  /-- Between triple single quotes. -/
  | literalLines
  deriving DecidableEq, Repr

/-- Whether a character is written as an escape wherever it stands: a control other than the tab
and the line end. -/
def isControl (c : Char) : Bool :=
  (c.toNat < 0x20 && c != '\t' && c != '\n') || c.toNat == 0x7F

/-- The length of the longest run of a character, where `current` of them stand before the
text. -/
def longestRun (c : Char) (current : Nat) : List Char → Nat
  | [] => current
  | x :: xs => if x = c then longestRun c (current + 1) xs else max current (longestRun c 0 xs)

/-- The style of a text: of the styles in which it needs no escape the first of one line, then of
several; else the one with escapes that has as many lines as the text. -/
def Style.of (text : List Char) : Style :=
  let control := text.any isControl
  let backslash := text.contains '\\'
  let lines := text.contains '\n'
  let double := longestRun '"' 0 text
  let single := longestRun '\'' 0 text
  if !control && !backslash && !lines && double = 0 then .basic
  else if !control && !lines && single = 0 then .literal
  else if !control && !backslash && double ≤ 2 then .basicLines
  else if !control && single ≤ 2 then .literalLines
  else if lines then .basicLines
  else .basic

/-- A character between double quotes; quotes and line ends are up to the style. -/
def escaped (c : Char) : List Char :=
  if c = Char.ofNat 8 then ['\\', 'b']
  else if c = '\t' then ['\\', 't']
  else if c = Char.ofNat 12 then ['\\', 'f']
  else if c = '\r' then ['\\', 'r']
  else if c = '\\' then ['\\', '\\']
  else if isControl c then ['\\', 'u', '0', '0'] ++ Text.Hex.upperOctet (UInt8.ofNat c.toNat)
  else [c]

/-- A character between double quotes on one line. -/
def escapedInLine (c : Char) : List Char :=
  if c = '"' then ['\\', '"'] else if c = '\n' then ['\\', 'n'] else escaped c

/-- A text between triple double quotes, after a run of so many quotes. Every third quote of a
run is escaped. -/
def escapedLines (run : Nat) : List Char → List Char
  | [] => []
  | c :: cs =>
    if c = '"' then
      -- Three quotes in a row would end the text.
      if run = 2 then '\\' :: '"' :: escapedLines 0 cs else '"' :: escapedLines (run + 1) cs
    else if c = '\n' then '\n' :: escapedLines 0 cs
    else escaped c ++ escapedLines 0 cs

/-- A text in a style. Before a text with several lines a line ends that does not belong to
it. -/
def writeAs (style : Style) (text : List Char) : List Char :=
  let opening := if text.contains '\n' then ['\n'] else []
  match style with
  | .basic => '"' :: text.flatMap escapedInLine ++ ['"']
  | .literal => '\'' :: text ++ ['\'']
  | .basicLines => ['"', '"', '"'] ++ opening ++ escapedLines 0 text ++ ['"', '"', '"']
  | .literalLines => ['\'', '\'', '\''] ++ opening ++ text ++ ['\'', '\'', '\'']

/-- A text in its style. -/
def write (text : List Char) : List Char := writeAs (Style.of text) text

end QuotedText

/-- What a configuration is made of when it is written. -/
inductive Written where
  | string (value : String)
  | integer (value : Int)
  | boolean (value : Bool)
  deriving DecidableEq, Repr

namespace Written

/-- An integer in decimal. -/
def integerText (n : Int) : List Char :=
  (if n < 0 then ['-'] else []) ++ Nat.toDigits 10 n.natAbs

/-- The text of a value. -/
def text : Written → List Char
  | string value => QuotedText.write value.toList
  | integer value => integerText value
  | boolean true => "true".toList
  | boolean false => "false".toList

/-- The line of an assignment. -/
def line (name : String) (value : Written) : List Char :=
  name.toList ++ " = ".toList ++ value.text ++ ['\n']

/-- A header and the assignments under it. -/
def sectionText (name : String) (values : List (String × Written)) : List Char :=
  '[' :: name.toList ++ [']', '\n'] ++ values.flatMap fun (name, value) => line name value

/-- Sections with an empty line between two. -/
def document (sections : List (String × List (String × Written))) : List Char :=
  ['\n'].intercalate (sections.map fun (name, values) => sectionText name values)

end Written

end TelemetryLink.Toml
