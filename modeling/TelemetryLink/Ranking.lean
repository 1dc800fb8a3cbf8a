/-!
# Rankings

Functions that say which of two values comes first. Rankings by several criteria are put together
with `Ordering.then`, the most important one first.
-/

namespace TelemetryLink.Ranking

/-- By when a value is less than another; values of which neither is are equal. -/
def byLess {α : Type} (isLess : α → α → Bool) (a b : α) : Ordering :=
  if isLess a b then .lt else if isLess b a then .gt else .eq

/-- `false` comes before `true`. -/
def bools : Bool → Bool → Ordering := byLess fun a b => !a && b

/-- Natural numbers by size. -/
def naturals : Nat → Nat → Ordering := byLess fun a b => decide (a < b)

/-- Integers by size. -/
def integers : Int → Int → Ordering := byLess fun a b => decide (a < b)

/-- Texts by their first characters that differ; a text comes before what continues it. -/
def texts : String → String → Ordering := byLess fun a b => decide (a < b)

/-- What is missing comes before what is there. -/
def options {α : Type} (rank : α → α → Ordering) : Option α → Option α → Ordering
  | some a, some b => rank a b
  | a, b => bools a.isSome b.isSome

end TelemetryLink.Ranking
