import TelemetryLink.Toml.Document

/-!
# Reading from the front of a text

A reader takes a value off the front of a text, or fails; it never looks at what was read before.
Every construct of the format is told by its first characters, so that trying one reader after
another cannot accept what none of them describes.
-/

namespace TelemetryLink.Toml

/-- Takes a value off the front of a text, or fails. -/
abbrev Reader (α : Type) := StateT (List Char) Option α

namespace Reader

/-- A function from texts to a value and the rest, as a reader. -/
def of {α : Type} (read : List Char → Option (α × List Char)) : Reader α := read

/-- The character at the front, which stays. -/
def peek : Reader (Option Char) := of fun cs => some (cs.head?, cs)

/-- One character that satisfies `p`. -/
def satisfying (p : Char → Bool) : Reader Char := of fun
  | c :: cs => if p c then some (c, cs) else none
  | [] => none

/-- Exactly this text. -/
def exactly (text : String) : Reader Unit := of fun cs =>
  if text.toList.isPrefixOf cs then some ((), cs.drop text.length) else none

/-- The characters up to the first that does not satisfy `p`. -/
def takeWhile (p : Char → Bool) : Reader (List Char) := of fun cs =>
  some (cs.takeWhile p, cs.dropWhile p)

/-- One reader, or the other if the first fails. -/
def orElse {α : Type} (first second : Reader α) : Reader α := of fun cs =>
  (first cs).or (second cs)

/-- What a reader finds, if it does not fail. -/
def optional {α : Type} (reader : Reader α) : Reader (Option α) :=
  orElse (some <$> reader) (pure none)

/-- What a reader finds, and where it stands. -/
def located {α : Type} (reader : Reader α) : Reader (α × Extent) := of fun cs => do
  let (value, rest) ← reader cs
  return ((value, ⟨Text.Utf8.size cs, Text.Utf8.size rest⟩), rest)

end Reader

/-! ## Blanks, comments and line ends -/

/-- Whether a character separates words within a line. -/
def isBlank (c : Char) : Bool := c == ' ' || c == '\t'

/-- Whether a character may stand in a comment: any but the controls, of which only the tab may. -/
def isCommentChar (c : Char) : Bool := c == '\t' || (0x20 ≤ c.toNat && c.toNat != 0x7F)

namespace Reader

/-- Any blanks. -/
def blanks : Reader Unit := do
  let _ ← takeWhile isBlank

/-- The end of a line. -/
def newline : Reader Unit := of fun
  | '\n' :: cs => some ((), cs)
  | '\r' :: '\n' :: cs => some ((), cs)
  | _ => none

/-- The end of a line, or of the text. -/
def lineEnd : Reader Unit := of fun
  | [] => some ((), [])
  | cs => newline cs

/-- A comment, up to the end of its line. -/
def comment : Reader Unit := do
  exactly "#"
  let _ ← takeWhile isCommentChar

/-- What may follow a value or a header in its line, and the end of the line. -/
def trailer : Reader Unit := do
  blanks
  let _ ← optional comment
  lineEnd

/-- The text without the blanks, comments and line ends at its front. Fails where a comment ends
other than with its line. -/
def skipGap (inComment : Bool) : List Char → Option (List Char)
  | [] => some []
  | '\n' :: cs => skipGap false cs
  | '\r' :: '\n' :: cs => skipGap false cs
  | c :: cs =>
    if inComment then
      if isCommentChar c then skipGap true cs else none
    else if isBlank c then skipGap false cs
    else if c = '#' then skipGap true cs
    else some (c :: cs)

/-- Any blanks, comments and line ends. -/
def gap : Reader Unit := of fun cs => (skipGap false cs).map ((), ·)

end Reader

end TelemetryLink.Toml
