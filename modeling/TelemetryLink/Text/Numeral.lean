/-!
# Whole numbers

Numbers in decimal, with a sign or without, that have to lie in a range.
-/

namespace TelemetryLink.Text.Numeral

/-- The number that decimal digits stand for. There is at least one, and nothing else. -/
def digits? (cs : List Char) : Option Nat :=
  if cs.isEmpty || !cs.all Char.isDigit then none
  else some (cs.foldl (fun n c => 10 * n + (c.toNat - '0'.toNat)) 0)

/-- A number with an optional sign. -/
def signed? (text : String) : Option Int :=
  match text.toList with
  | '-' :: cs => (digits? cs).map fun n => -(n : Int)
  | '+' :: cs => (digits? cs).map Int.ofNat
  | cs => (digits? cs).map Int.ofNat

/-- A number up to `max`, which may be written with a sign as long as it is not negative. -/
def upTo? (max : Nat) (text : String) : Option Nat := do
  let n ← signed? text
  if 0 ≤ n ∧ n ≤ max then some n.toNat else none

/-- A number up to `max` that is not written with a minus. -/
def unsignedUpTo? (max : Nat) (text : String) : Option Nat :=
  if text.toList.head? = some '-' then none else upTo? max text

/-- A number with an optional sign that 64 bits can hold, of which one is the sign. -/
def signed64? (text : String) : Option Int := do
  let n ← signed? text
  if -9223372036854775808 ≤ n ∧ n ≤ 9223372036854775807 then some n else none

end TelemetryLink.Text.Numeral
