import TelemetryLink.Bytes

/-!
# UTF-8

Text as octets. Positions in texts are counted in these octets.
-/

namespace TelemetryLink.Text.Utf8

/-- The octets of a list of characters. -/
def encodeChars (cs : List Char) : Bytes :=
  cs.flatMap String.utf8EncodeChar

/-- The octets of a text. -/
def encode (text : String) : Bytes :=
  encodeChars text.toList

/-- How many octets a list of characters takes. -/
def size (cs : List Char) : Nat :=
  cs.foldr (fun c n => c.utf8Size + n) 0

/-- A text without its first `n` octets. They do not end inside a character. -/
def drop? : Nat → List Char → Option (List Char)
  | 0, cs => some cs
  | _ + 1, [] => none
  | n + 1, c :: cs => if c.utf8Size ≤ n + 1 then drop? (n + 1 - c.utf8Size) cs else none

/-- The first `n` octets of a text. They do not end inside a character. -/
def take? : Nat → List Char → Option (List Char)
  | 0, _ => some []
  | _ + 1, [] => none
  | n + 1, c :: cs =>
    if c.utf8Size ≤ n + 1 then (take? (n + 1 - c.utf8Size) cs).map (c :: ·) else none

/-- The part of a text between two positions. -/
def cut? (cs : List Char) (first last : Nat) : Option (List Char) :=
  (drop? first cs).bind (take? (last - first))

/-- The text of a byte string, if it is well-formed UTF-8. -/
def decode? (bytes : Bytes) : Option String :=
  String.fromUTF8? ⟨bytes.toArray⟩

end TelemetryLink.Text.Utf8
