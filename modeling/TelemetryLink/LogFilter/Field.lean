import TelemetryLink.Decimal.Scientific
import TelemetryLink.Ranking
import TelemetryLink.Text.Pattern

/-!
# Fields

What a log filter asks of the data of a message: that there is a field of some name, and maybe
what its value is.
-/

namespace TelemetryLink

/-- What the value of a field has to be. -/
inductive LogValue where
  | bool (b : Bool)
  /-- A number with a fraction, or one that only a floating point number can hold. -/
  | float (x : Decimal.Binary64)
  /-- A number without a sign. -/
  | natural (n : Nat)
  /-- A number with a minus. -/
  | integer (n : Int)
  /-- A text that fits a pattern. -/
  | pattern (text : String)
  deriving DecidableEq, Repr

namespace LogValue

/-- Reads a value: as the first kind that fits. -/
def parse? (text : String) : Option LogValue :=
  if text = "true" then some (.bool true)
  else if text = "false" then some (.bool false)
  else
    (Text.Numeral.unsignedUpTo? (UInt64.size - 1) text).map natural <|>
    (Text.Numeral.signed64? text).map integer <|>
    (Decimal.Binary64.ofText? text).map float <|>
    if Text.Pattern.isWellFormed text then some (pattern text) else none

/-- The value as it is shown. -/
def text : LogValue → String
  | bool b => if b then "true" else "false"
  | float x => x.plainText
  | natural n => String.ofList (Nat.toDigits 10 n)
  | integer n =>
    String.ofList ((if n < 0 then ['-'] else []) ++ Nat.toDigits 10 n.natAbs)
  | pattern text => text

/-- The kinds of values in their order. What is no number comes after the floating point
numbers. -/
def kind : LogValue → Nat
  | bool _ => 0
  | float _ => 1
  | natural _ => 2
  | integer _ => 3
  | pattern _ => 4

/-- The order of values: by kind, then by size or text. -/
def rank : LogValue → LogValue → Ordering
  | bool a, bool b => Ranking.bools a b
  | float a, float b => Ranking.byLess Decimal.Binary64.isBelow a b
  | natural a, natural b => Ranking.naturals a b
  | integer a, integer b => Ranking.integers a b
  | pattern a, pattern b => Ranking.texts a b
  | a, b => Ranking.naturals a.kind b.kind

end LogValue

/-- A field that a message has to have. -/
structure LogField where
  /-- The name of the field. -/
  name : String
  /-- What its value has to be; `none` is anything. -/
  value : Option LogValue
  deriving DecidableEq, Repr

namespace LogField

/-- Reads a field: a name, or a name and a value with an equals sign between. What follows another
equals sign is left out. -/
def parse? (text : String) : Option LogField :=
  let isBefore (c : Char) : Bool := c != '='
  let name := String.ofList (text.toList.takeWhile isBefore)
  match text.toList.dropWhile isBefore with
  | [] => some ⟨name, none⟩
  | _ :: cs => (LogValue.parse? (String.ofList (cs.takeWhile isBefore))).map (⟨name, some ·⟩)

/-- The field as it is shown. -/
def text (field : LogField) : String :=
  match field.value with
  | some value => field.name ++ "=" ++ value.text
  | none => field.name

/-- The order of fields: a field without a value comes first. -/
def rank (a b : LogField) : Ordering :=
  (Ranking.bools a.value.isSome b.value.isSome).then <|
    (Ranking.texts a.name b.name).then <| Ranking.options LogValue.rank a.value b.value

end LogField

end TelemetryLink
