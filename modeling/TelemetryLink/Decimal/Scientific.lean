import TelemetryLink.Decimal.Binary64
import TelemetryLink.Text.Numeral

/-!
# Scientific notation

Double precision numbers as people write them: with a sign or without, with a point among the
digits, before or after them, and with a power of ten at the end. `inf`, `infinity` and `nan` are
written in either case.
-/

namespace TelemetryLink.Decimal

namespace Scientific

/-- Whether a text starts with a minus, and what follows its sign. -/
def splitSign : List Char → Bool × List Char
  | '-' :: cs => (true, cs)
  | '+' :: cs => (false, cs)
  | cs => (false, cs)

/-- The power of ten at the end of a number. Without one it is zero. -/
def exponent? : List Char → Option Int
  | [] => some 0
  | c :: cs =>
    if c = 'e' ∨ c = 'E' then
      let (negative, ds) := splitSign cs
      (Text.Numeral.digits? ds).map (Binary64.signed negative)
    else none

/-- A number that is not finite. -/
def special? (negative : Bool) (cs : List Char) : Option Binary64 :=
  let word := String.ofList (cs.map Char.toLower)
  if word = "inf" ∨ word = "infinity" then some (.infinite negative)
  else if word = "nan" then some .nan
  else none

/-- A finite number, or one that is too large. There is at least one digit before or after the
point. -/
def decimal? (negative : Bool) (cs : List Char) : Option Binary64 := do
  let rest := cs.dropWhile Char.isDigit
  let (fraction, rest) := match rest with
    | '.' :: more => (more.takeWhile Char.isDigit, more.dropWhile Char.isDigit)
    | _ => ([], rest)
  let digits ← Text.Numeral.digits? (cs.takeWhile Char.isDigit ++ fraction)
  let power ← exponent? rest
  return Binary64.ofDecimal negative digits (power - fraction.length)

end Scientific

/-- The number nearest to what a text says. -/
def Binary64.ofText? (text : String) : Option Binary64 :=
  let (negative, cs) := Scientific.splitSign text.toList
  Scientific.special? negative cs <|> Scientific.decimal? negative cs

end TelemetryLink.Decimal
