import TelemetryLink.Text.Hex
import TelemetryLink.Toml.Reader

/-!
# Quoted texts

The four forms of quoted text: between double quotes with escapes, between single quotes without,
and both again between triple quotes, where lines may end. All are read by one machine that goes
over the characters once; `advance` says what each character does to it.
-/

namespace TelemetryLink.Toml.QuotedText

/-- What stands around a text, and what may stand in it. -/
structure Form where
  /-- The quote at both ends, three of them if the text may have lines. -/
  quote : Char
  /-- Whether a backslash starts an escape. -/
  escapes : Bool

/-- Double quotes. -/
def basic : Form := ⟨'"', true⟩

/-- Single quotes. -/
def literal : Form := ⟨'\'', false⟩

/-- What the machine is in the middle of. -/
inductive Mode where
  /-- Nothing. -/
  | plain
  /-- A backslash was read. -/
  | escaped
  /-- Of a character's number, so many digits are missing after this value. -/
  | number (missing value : Nat)
  /-- A backslash and blanks were read: the line has to end. -/
  | folding
  /-- A line ended after a backslash: blanks and line ends are left out. -/
  | folded
  /-- So many quotes were read. -/
  | quotes (count : Nat)
  deriving DecidableEq, Repr

/-- What a single character after a backslash stands for. -/
def unescape : Char → Option Char
  | 'b' => some (Char.ofNat 8)
  | 't' => some '\t'
  | 'n' => some '\n'
  | 'f' => some (Char.ofNat 12)
  | 'r' => some '\r'
  | '"' => some '"'
  | '\\' => some '\\'
  | _ => none

/-- The character with a number, if there is one. -/
def charOf (n : Nat) : Option Char :=
  if n.isValidChar then some (Char.ofNat n) else none

/-- A character outside escapes and runs of quotes: the text that it adds, and the mode after it.
The controls are refused, except for the tab, and for the line end in a text with lines. -/
def advancePlain (form : Form) (lines : Bool) (c : Char) : Option (List Char × Mode) :=
  if c = form.quote then some ([], .quotes 1)
  else if c = '\\' ∧ form.escapes then some ([], .escaped)
  else if isCommentChar c ∨ (c = '\n' ∧ lines) then some ([c], .plain)
  else none

/-- What a character does: the text that it adds, and the mode after it. -/
def advance (form : Form) (lines : Bool) : Mode → Char → Option (List Char × Mode)
  | .plain, c => advancePlain form lines c
  | .escaped, c =>
    if c = 'u' then some ([], .number 4 0)
    else if c = 'U' then some ([], .number 8 0)
    else if c = '\n' ∧ lines then some ([], .folded)
    else if isBlank c ∧ lines then some ([], .folding)
    else (unescape c).map fun c => ([c], .plain)
  | .number missing value, c => do
    let value := 16 * value + (← Text.Hex.charDigit? c)
    if missing ≤ 1 then return ([← charOf value], .plain)
    else return ([], .number (missing - 1) value)
  | .folding, c =>
    if c = '\n' then some ([], .folded)
    else if isBlank c then some ([], .folding)
    else none
  | .folded, c =>
    if c = '\n' ∨ isBlank c then some ([], .folded) else advancePlain form lines c
  | .quotes count, c =>
    if c = form.quote then some ([], .quotes (count + 1))
    else (advancePlain form lines c).map fun (text, mode) =>
      (List.replicate count form.quote ++ text, mode)

/-- Reads the rest of a text within one line. The first quote outside an escape ends it. -/
def readLine (form : Form) : Mode → List Char → Option (List Char × List Char)
  | _, [] => none
  | mode, c :: cs => do
    match ← advance form false mode c with
    -- On one line a single quote ends the text.
    | (_, .quotes _) => return ([], cs)
    | (added, mode) =>
      let (text, rest) ← readLine form mode cs
      return (added ++ text, rest)

/-- The end of a text between triple quotes, if the mode and the next character make one: three
to five quotes that no further quote follows, or five. Those beyond three belong to the text. -/
def ending (form : Form) (mode : Mode) (next : Option Char) : Option (List Char) :=
  match mode with
  | .quotes count =>
    if 3 ≤ count ∧ (next ≠ some form.quote ∨ count = 5) then
      some (List.replicate (count - 3) form.quote)
    else none
  | _ => none

/-- Reads the rest of a text between triple quotes. A carriage return before the end of a line
is left out. -/
def readLines (form : Form) : Mode → List Char → Option (List Char × List Char)
  | mode, [] => (ending form mode none).map (·, [])
  | mode, c :: cs =>
    match ending form mode (some c) with
    | some text => some (text, c :: cs)
    | none =>
      if c = '\r' then
        -- The line end that follows is read next, so that the pair counts as one.
        if cs.head? = some '\n' then readLines form mode cs else none
      else do
        let (added, mode) ← advance form true mode c
        let (text, rest) ← readLines form mode cs
        return (added ++ text, rest)

/-- Reads a text between single quotes of a form. -/
def line (form : Form) : Reader String := do
  Reader.exactly (String.singleton form.quote)
  String.ofList <$> Reader.of (readLine form .plain)

/-- Reads a text between triple quotes of a form. A line end right after the first quotes does
not belong to the text. -/
def lines (form : Form) : Reader String := do
  Reader.exactly (String.ofList (List.replicate 3 form.quote))
  let _ ← Reader.optional Reader.newline
  String.ofList <$> Reader.of (readLines form .plain)

/-- Reads a quoted text of any form. -/
def read : Reader String := do
  match ← Reader.peek with
  | some '"' => Reader.orElse (lines basic) (line basic)
  | some _ => Reader.orElse (lines literal) (line literal)
  | none => failure

end TelemetryLink.Toml.QuotedText
