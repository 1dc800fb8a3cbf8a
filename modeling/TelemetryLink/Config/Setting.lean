import TelemetryLink.Text.Quoted
import TelemetryLink.Toml.Document
import TelemetryLink.Toml.Writer

/-!
# Settings in documents

How the types of settings stand in a document: each is read from an item that fits it, and
written as a value. An item that does not fit is a `Mismatch`; an integer that the format cannot
hold is not written.
-/

namespace TelemetryLink.Config

open Toml

/-- What a document holds, as far as complaints tell it. -/
inductive Found where
  | integer (value : Int)
  | float (value : Decimal.Binary64)
  | boolean (value : Bool)
  | string (value : String)
  | sequence
  | map
  deriving DecidableEq, Repr

/-- The finding in words. -/
def Found.text : Found → String
  | integer value => "integer `" ++ toString value ++ "`"
  | float value => "floating point `" ++ value.text ++ "`"
  | boolean value => "boolean `" ++ toString value ++ "`"
  | string value => "string " ++ Text.Quoted.string value
  | sequence => "sequence"
  | map => "map"

/-- What an item is found to be. Dates and times count as maps. -/
def Found.of : Item → Found
  | .scalar (.string value) _ => string value
  | .scalar (.integer value) _ => integer value
  | .scalar (.float value) _ => float value
  | .scalar (.boolean value) _ => boolean value
  | .scalar .dateTime _ => map
  | .array .. => sequence
  | .tables .. => sequence
  | .table .. => map

/-- Why an item does not fit. -/
inductive Mismatch where
  /-- It is something else. -/
  | wrongType (found : Found) (expected : String)
  /-- It is an integer outside the range. -/
  | outOfRange (value : Int) (expected : String)
  deriving DecidableEq, Repr

/-- The mismatch in words. -/
def Mismatch.message : Mismatch → String
  | wrongType found expected => "invalid type: " ++ found.text ++ ", expected " ++ expected
  | outOfRange value expected =>
    "invalid value: " ++ (Found.integer value).text ++ ", expected " ++ expected

/-- Why a setting cannot be written. -/
inductive WriteError where
  /-- The format has no such great integers. -/
  | outOfRange
  deriving DecidableEq, Repr

/-- The failure in words. -/
def WriteError.message : WriteError → String
  | outOfRange =>
    "Failed to serialize configuration to TOML: out-of-range value for u64 type"

/-- A type of settings. -/
class Setting (α : Type) where
  /-- What fits, in words. -/
  expected : String
  /-- The setting that an item holds, if it fits. -/
  ofItem : Item → Except Mismatch α
  /-- The value that is written for a setting; `none` is to write nothing. -/
  write : α → Except WriteError (Option Written)

namespace Setting

/-- The integer that an item holds, if it is one in the range that `narrow` accepts. -/
def integer {α : Type} (expected : String) (narrow : Int → Option α) (item : Item) :
    Except Mismatch α :=
  match item with
  | .scalar (.integer n) _ =>
    match narrow n with
    | some value => .ok value
    | none => .error (.outOfRange n expected)
  | item => .error (.wrongType (.of item) expected)

/-- An integer from zero up to below `bound`, as a number. -/
def natBelow (bound : Nat) (n : Int) : Option Nat :=
  if 0 ≤ n ∧ n < bound then some n.toNat else none

instance : Setting UInt8 where
  expected := "u8"
  ofItem := integer "u8" fun n => (natBelow UInt8.size n).map UInt8.ofNat
  write n := .ok (some (.integer n.toNat))

instance : Setting UInt16 where
  expected := "u16"
  ofItem := integer "u16" fun n => (natBelow UInt16.size n).map UInt16.ofNat
  write n := .ok (some (.integer n.toNat))

instance : Setting UInt32 where
  expected := "u32"
  ofItem := integer "u32" fun n => (natBelow UInt32.size n).map UInt32.ofNat
  write n := .ok (some (.integer n.toNat))

/-- The greatest integer of the format. -/
def greatest : Nat := 9223372036854775807

instance : Setting UInt64 where
  expected := "u64"
  ofItem := integer "u64" fun n => (natBelow UInt64.size n).map UInt64.ofNat
  write n := if n.toNat ≤ greatest then .ok (some (.integer n.toNat)) else .error .outOfRange

instance : Setting Int16 where
  expected := "i16"
  ofItem := integer "i16" fun n =>
    if -32768 ≤ n ∧ n ≤ 32767 then some (Int16.ofInt n) else none
  write n := .ok (some (.integer n.toInt))

instance : Setting Bool where
  expected := "a boolean"
  ofItem
    | .scalar (.boolean value) _ => .ok value
    | item => .error (.wrongType (.of item) "a boolean")
  write value := .ok (some (.boolean value))

instance : Setting String where
  expected := "a string"
  ofItem
    | .scalar (.string value) _ => .ok value
    | item => .error (.wrongType (.of item) "a string")
  write value := .ok (some (.string value))

/-- A setting that may be absent is not written then. -/
instance {α : Type} [Setting α] : Setting (Option α) where
  expected := expected α
  ofItem item := some <$> ofItem item
  write
    | some value => write value
    | none => .ok none

end Setting

end TelemetryLink.Config
