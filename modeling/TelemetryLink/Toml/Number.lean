import TelemetryLink.Text.Hex
import TelemetryLink.Toml.Reader

/-!
# Numbers

Integers in four bases, which have to fit 64 bits with a sign, and floating point numbers. Single
underscores may stand between digits.
-/

namespace TelemetryLink.Toml.Number

/-- The value of a character as a digit in a base. -/
def digitIn (base : Nat) (c : Char) : Option Nat := do
  let value ← Text.Hex.charDigit? c
  if value < base then some value else none

/-- The digits of a number up to the first character that is none. An underscore counts if a
digit follows it. -/
def digitRun (base : Nat) : List Char → List Nat × List Char
  | [] => ([], [])
  | '_' :: c :: cs =>
    match digitIn base c with
    | some d => let (ds, rest) := digitRun base cs; (d :: ds, rest)
    | none => ([], '_' :: c :: cs)
  | c :: cs =>
    match digitIn base c with
    | some d => let (ds, rest) := digitRun base cs; (d :: ds, rest)
    | none => ([], c :: cs)

/-- At least one digit; the first thing is no underscore. -/
def digits (base : Nat) : Reader (List Nat) := Reader.of fun cs =>
  match cs with
  | [] => none
  | c :: _ =>
    if (digitIn base c).isSome then some (digitRun base cs) else none

/-- The number that digits stand for, the most significant first. -/
def ofDigits (base : Nat) (ds : List Nat) : Nat := ds.foldl (fun n d => n * base + d) 0

/-- The sign before a number: whether it is a minus. -/
def sign : Reader Bool := do
  match ← Reader.peek with
  | some '-' => Reader.exactly "-"; return true
  | some '+' => Reader.exactly "+"; return false
  | _ => return false

/-- A decimal whole number with its sign. Only the number zero starts with a zero. -/
def whole : Reader (Bool × List Nat) := do
  let negative ← sign
  match ← Reader.peek with
  | some '0' => Reader.exactly "0"; return (negative, [0])
  | _ => return (negative, ← digits 10)

/-- The least and the greatest integer of the format. -/
def inRange (n : Int) : Bool := -9223372036854775808 ≤ n && n ≤ 9223372036854775807

/-- A number with a sign. -/
def signed (negative : Bool) (n : Nat) : Int := if negative then -(n : Int) else n

/-- An integer of the format's range. -/
def checked (n : Int) : Reader Scalar :=
  if inRange n then return .integer n else failure

/-- An integer. Those in another base than ten have no sign. -/
def integer : Reader Scalar := do
  let based (mark : String) (base : Nat) : Reader Scalar := do
    Reader.exactly mark
    checked (ofDigits base (← digits base))
  let decimal : Reader Scalar := do
    let (negative, ds) ← whole
    checked (signed negative (ofDigits 10 ds))
  Reader.orElse (based "0x" 16) <| Reader.orElse (based "0o" 8) <|
    Reader.orElse (based "0b" 2) decimal

/-- The exponent of a floating point number. -/
def exponent : Reader Int := do
  let _ ← Reader.satisfying fun c => c == 'e' || c == 'E'
  let negative ← sign
  return signed negative (ofDigits 10 (← digits 10))

/-- A floating point number with a fraction, an exponent or both. Too large a positive number is
refused; too large a negative one is minus infinity. -/
def decimalFloat : Reader Scalar := do
  let (negative, ds) ← whole
  let fraction ← Reader.optional do
    Reader.exactly "."
    digits 10
  -- Without a fraction there has to be an exponent, or the number is an integer.
  let power ← if fraction.isSome then Reader.optional exponent else some <$> exponent
  let fraction := fraction.getD []
  let value := Decimal.Binary64.ofDecimal negative (ofDigits 10 (ds ++ fraction))
    (power.getD 0 - fraction.length)
  -- Rounding decides what is too large.
  if value = .infinite false then failure
  return .float value

/-- A floating point number that is not finite. -/
def specialFloat : Reader Scalar := do
  let negative ← sign
  let infinite : Reader Scalar := do
    Reader.exactly "inf"
    return .float (.infinite negative)
  let nan : Reader Scalar := do
    Reader.exactly "nan"
    return .float .nan
  Reader.orElse infinite nan

/-- A number. -/
def read : Reader Scalar :=
  Reader.orElse decimalFloat <| Reader.orElse specialFloat integer

end TelemetryLink.Toml.Number
