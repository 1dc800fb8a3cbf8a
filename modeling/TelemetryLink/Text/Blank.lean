/-!
# White space

The characters with the Unicode property `White_Space`, and texts without them at either end.
-/

namespace TelemetryLink.Text.Blank

/-- Whether a character is white space: the ASCII blanks and the separators of Unicode. -/
def isBlank (c : Char) : Bool :=
  let n := c.toNat
  (9 ≤ n && n ≤ 13) || n == 0x20 || n == 0x85 || n == 0xA0 || n == 0x1680 ||
    (0x2000 ≤ n && n ≤ 0x200A) || n == 0x2028 || n == 0x2029 || n == 0x202F || n == 0x205F ||
    n == 0x3000

/-- The list without its last elements that satisfy `p`. -/
def dropWhileEnd {α : Type} (p : α → Bool) (xs : List α) : List α :=
  (xs.reverse.dropWhile p).reverse

/-- The text without white space at either end. -/
def trim (cs : List Char) : List Char :=
  dropWhileEnd isBlank (cs.dropWhile isBlank)

end TelemetryLink.Text.Blank
