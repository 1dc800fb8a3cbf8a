/-!
# Double precision numbers

Numbers with 53 binary digits, as exact values: a mantissa times a power of two. `ofDecimal`
rounds a decimal to the nearest one, of two equally near ones to the one with the even mantissa.
`shortest` finds the decimal with the fewest digits that reads back as the same number, of two
equally near ones the one farther from zero. `text` and `plainText` write it without an exponent,
and `isBelow` compares numbers by their values.
-/

namespace TelemetryLink.Decimal

/-- A double precision number. -/
inductive Binary64 where
  /-- No number. -/
  | nan
  /-- Beyond the finite numbers. -/
  | infinite (negative : Bool)
  /-- The finite number `mantissa * 2 ^ exponent`, or its opposite. -/
  | finite (negative : Bool) (mantissa : Nat) (exponent : Int)
  deriving DecidableEq, Repr

namespace Binary64

/-- The least exponent of a finite number. -/
def minExponent : Int := -1074

/-- The integer nearest to `num / den`; a half goes to the even neighbour. -/
def roundHalfEven (num den : Nat) : Nat :=
  let quotient := num / den
  let twice := 2 * (num % den)
  if twice < den ∨ (twice = den ∧ quotient % 2 = 0) then quotient else quotient + 1

/-- The power of a base, for an exponent that is not negative; else one. A fraction is scaled by
a power either way with one such factor above and one below. -/
def scale (base : Nat) (exponent : Int) : Nat := Nat.pow base exponent.toNat

/-- The greatest `e` such that `2 ^ e ≤ num / den`, for positive numbers. -/
def binade (num den : Nat) : Int :=
  let estimate : Int := (num.log2 : Int) - den.log2
  if den * scale 2 estimate ≤ num * scale 2 (-estimate) then estimate else estimate - 1

/-- The number nearest to the positive fraction `num / den`. -/
def ofFraction (negative : Bool) (num den : Nat) : Binary64 :=
  let exponent := max (binade num den - 52) minExponent
  let mantissa := roundHalfEven (num * scale 2 (-exponent)) (den * scale 2 exponent)
  if scale 2 1024 ≤ mantissa * scale 2 exponent then infinite negative
  else if mantissa = 9007199254740992 then finite negative 4503599627370496 (exponent + 1)
  else finite negative mantissa exponent

/-- The number of decimal digits. -/
def digitCount (n : Nat) : Nat := (Nat.toDigits 10 n).length

/-- The number nearest to the decimal `digits * 10 ^ power`. Decimals far outside the range are
told by their size alone. -/
def ofDecimal (negative : Bool) (digits : Nat) (power : Int) : Binary64 :=
  let magnitude := power + digitCount digits
  if digits = 0 ∨ magnitude < -330 then finite negative 0 minExponent
  else if 320 < magnitude then infinite negative
  else ofFraction negative (digits * scale 10 power) (scale 10 (-power))

/-- The greatest `e` such that `10 ^ e ≤ mantissa * 2 ^ exponent`, for a positive mantissa: an
estimate from the binary exponent, corrected. -/
def decade (mantissa : Nat) (exponent : Int) : Int :=
  let num := mantissa * scale 2 exponent
  let den := scale 2 (-exponent)
  let estimate : Int := if den ≤ num then digitCount (num / den) - 1
    else -(digitCount (den / num) : Int)
  if den * scale 10 (estimate + 1) ≤ num * scale 10 (-(estimate + 1)) then estimate + 1
  else if den * scale 10 estimate ≤ num * scale 10 (-estimate) then estimate
  else estimate - 1

/-- The decimals with `count` digits next to a positive number, as digits and a power of ten. The
nearer one comes first, of two equally near ones the greater. -/
def neighbours (mantissa : Nat) (exponent : Int) (count : Nat) : List (Nat × Int) :=
  let power := decade mantissa exponent - count + 1
  let num := mantissa * scale 2 exponent * scale 10 (-power)
  let den := scale 2 (-exponent) * scale 10 power
  let below := num / den
  if 2 * (num % den) < den then [(below, power), (below + 1, power)]
  else [(below + 1, power), (below, power)]

/-- The decimal with the fewest digits that reads back as `mantissa * 2 ^ exponent`, and among
those the nearest. Seventeen digits always suffice. -/
def shortest (mantissa : Nat) (exponent : Int) : Nat × Int :=
  ((List.range 17).flatMap fun n => neighbours mantissa exponent (n + 1)).find?
      (fun (digits, power) => ofDecimal false digits power == finite false mantissa exponent)
    |>.getD (0, 0)

/-- A decimal in positional notation: the digits before the point and those after it, without
zeros at the end. -/
def positional (digits : Nat) (power : Int) : List Char × List Char :=
  let ds := Nat.toDigits 10 digits
  if 0 ≤ power then (ds ++ List.replicate power.toNat '0', [])
  else
    let places := (-power).toNat
    let padded := List.replicate (places + 1 - ds.length) '0' ++ ds
    let fraction := padded.drop (padded.length - places)
    (padded.take (padded.length - places), (fraction.reverse.dropWhile (· == '0')).reverse)

/-- The number in words: `NaN`, `inf`, or the shortest decimal that reads back. A whole number ends
in `ending`. -/
def write (ending : List Char) : Binary64 → String
  | nan => "NaN"
  | infinite negative => if negative then "-inf" else "inf"
  | finite negative mantissa exponent =>
    let (digits, power) := if mantissa = 0 then (0, 0) else shortest mantissa exponent
    let (whole, fraction) := positional digits power
    String.ofList ((if negative then ['-'] else []) ++ whole ++
      if fraction.isEmpty then ending else '.' :: fraction)

/-- The number in words, with at least one digit after the point. -/
def text (x : Binary64) : String := x.write ['.', '0']

/-- The number in words, with a point only where digits follow it. -/
def plainText (x : Binary64) : String := x.write []

/-- The mantissa with its sign. -/
def signed (negative : Bool) (mantissa : Nat) : Int :=
  if negative then -(mantissa : Int) else mantissa

/-- Whether a number has a smaller value than another. What is no number comes last. -/
def isBelow : Binary64 → Binary64 → Bool
  | nan, _ => false
  | _, nan => true
  | infinite negative, infinite other => negative && !other
  | infinite negative, finite _ _ _ => negative
  | finite _ _ _, infinite negative => !negative
  | finite negative m e, finite other n f =>
    signed negative m * scale 2 (e - f) < signed other n * scale 2 (f - e)

end Binary64

end TelemetryLink.Decimal
