import TelemetryLink.Toml.Assembly
import TelemetryLink.Toml.DateTime
import TelemetryLink.Toml.Number
import TelemetryLink.Toml.QuotedText

/-!
# The grammar of the text

Keys, values and statements, and `Toml.parse`, which reads a whole text. Values nest, and keys
have dots, to a limited depth.
-/

namespace TelemetryLink.Toml

/-- How many arrays and braces may stand inside each other. -/
def maxNesting : Nat := 79

/-- How many keys may be joined by dots. -/
def maxKeys : Nat := 79

/-! ## Keys -/

/-- Whether a character may stand in a key without quotes. -/
def isBareKeyChar (c : Char) : Bool := c.isAlphanum || c == '_' || c == '-'

/-- One key. -/
def key : Reader Key := do
  let (name, extent) ← Reader.located do
    match ← Reader.peek with
    | some '"' => QuotedText.line QuotedText.basic
    | some '\'' => QuotedText.line QuotedText.literal
    | _ =>
      let name ← Reader.takeWhile isBareKeyChar
      if name.isEmpty then failure
      return String.ofList name
  return ⟨name, extent⟩

/-- Up to `n` keys with dots between them: those before the last, and the last. -/
def keys : Nat → Reader (List Key × Key)
  | 0 => failure
  | n + 1 => do
    Reader.blanks
    let first ← key
    Reader.blanks
    match ← Reader.peek with
    | some '.' =>
      Reader.exactly "."
      let (path, last) ← keys n
      return (first :: path, last)
    | _ => return ([], first)

/-! ## Values -/

/-- The elements of an array, up to its closing bracket. A comma may follow the last. There are
fewer than `n`. -/
def elements (element : Reader Item) : Nat → Reader (List Item)
  | 0 => failure
  | n + 1 => do
    Reader.gap
    match ← Reader.peek with
    | some ']' => return []
    | _ =>
      let item ← element
      Reader.gap
      match ← Reader.peek with
      | some ',' =>
        Reader.exactly ","
        return item :: (← elements element n)
      | _ => return [item]

/-- An assignment, with blanks around the value. -/
def assignment (value : Reader Item) : Reader Assignment := do
  let (path, key) ← keys maxKeys
  Reader.exactly "="
  Reader.blanks
  return ⟨path, key, ← value⟩

/-- The assignments between braces, fewer than `n`. No comma follows the last. -/
def assignments (value : Reader Item) : Nat → Reader (List Assignment)
  | 0 => failure
  | n + 1 => do
    let first ← assignment value
    Reader.blanks
    match ← Reader.peek with
    | some ',' =>
      Reader.exactly ","
      return first :: (← assignments value n)
    | _ => return [first]

/-- A reader that is bounded by a number, with a bound above the length of the text. -/
def bounded {α : Type} (reader : Nat → Reader α) : Reader α :=
  Reader.of fun cs => reader (cs.length + 1) cs

/-- An array whose elements `element` reads. -/
def array (element : Reader Item) : Reader Item := do
  let (items, extent) ← Reader.located do
    Reader.exactly "["
    let items ← bounded (elements element)
    Reader.exactly "]"
    return items
  return .array items extent

/-- A table between braces, whose values `value` reads. -/
def inlineTable (value : Reader Item) : Reader Item := do
  let (entries, extent) ← Reader.located do
    -- Between braces everything stands on one line, so that only blanks are skipped.
    Reader.exactly "\x7b"
    Reader.blanks
    let content ← match ← Reader.peek with
      | some '\x7d' => pure []
      | _ => bounded (assignments value)
    Reader.exactly "\x7d"
    match Entries.assignAll content [] with
    | some entries => return entries
    | none => failure
  return .table .inline entries (some extent)

/-- A value without parts. -/
def scalar : Reader Item := do
  let (value, extent) ← Reader.located do
    match ← Reader.peek with
    | some '"' | some '\'' => Scalar.string <$> QuotedText.read
    | some 't' => Reader.exactly "true"; return .boolean true
    | some 'f' => Reader.exactly "false"; return .boolean false
    | _ => Reader.orElse DateTime.read Number.read
  return .scalar value extent

/-- A value; its parts, if it may have any, are read by `part`. -/
def valueOf (part : Option (Reader Item)) : Reader Item := do
  match ← Reader.peek, part with
  | some '[', some part => array part
  | some '\x7b', some part => inlineTable part
  | _, _ => scalar

/-- A value with at most so many arrays and braces inside each other. -/
def value : Nat → Reader Item
  | 0 => valueOf none
  | depth + 1 => valueOf (some (value depth))

/-! ## Statements -/

/-- A header. -/
def header : Reader Statement := do
  let ((path, key, repeated), extent) ← Reader.located do
    Reader.exactly "["
    -- Nothing may stand between two brackets that belong together.
    let repeated := (← Reader.peek) == some '['
    if repeated then Reader.exactly "["
    let (path, key) ← keys maxKeys
    Reader.exactly "]"
    if repeated then Reader.exactly "]"
    return (path, key, repeated)
  Reader.trailer
  return .header ⟨path, key, repeated, extent⟩

/-- One line that is not at the end of the text, or several if a value has several. -/
def statement : Reader (Option Statement) := do
  match ← Reader.peek with
  | some '#' | some '\n' | some '\r' => Reader.trailer; return none
  | some '[' => some <$> header
  | _ =>
    let a ← assignment (value maxNesting)
    Reader.trailer
    return some (.assignment a)

/-- All statements up to the end of the text, in fewer than `n` lines. -/
def statements : Nat → Reader (List Statement)
  | 0 => failure
  | n + 1 => do
    Reader.blanks
    match ← Reader.peek with
    | none => return []
    | _ =>
      let first ← statement
      return first.toList ++ (← statements n)

/-- The table that a text describes, if the text is well formed. A mark of the byte order before
the text is skipped. -/
def parse (text : String) : Option Entries := do
  let whole : Reader (List Statement) := do
    -- The mark is no part of the first line, but counts in every span.
    let _ ← Reader.optional (Reader.exactly "\uFEFF")
    bounded statements
  let (statements, _) ← whole text.toList
  Entries.ofStatements statements

end TelemetryLink.Toml
