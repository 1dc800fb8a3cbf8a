import TelemetryLink.Decimal.Binary64
import TelemetryLink.Text.Utf8

/-!
# Configuration documents

What a TOML text says: a table of keys with values, in the order in which the text first names
them. Every value knows which part of the text it comes from, so that a complaint about it can
point there.
-/

namespace TelemetryLink.Toml

/-- A part of a text, given by how many octets of the text follow its start and its end. -/
structure Extent where
  /-- Octets from the start of the part to the end of the text. -/
  fromStart : Nat
  /-- Octets from the end of the part to the end of the text. -/
  fromEnd : Nat
  deriving DecidableEq, Repr

/-- The part from the start of one part to the end of another. -/
def Extent.through (first last : Extent) : Extent := ⟨first.fromStart, last.fromEnd⟩

/-- A part of a text, given by the octets before its start and before its end. -/
structure Span where
  /-- Octets before the part. -/
  start : Nat
  /-- Octets before the end of the part. -/
  stop : Nat
  deriving DecidableEq, Repr

/-- Where a part of a text of `size` octets stands. -/
def Extent.within (extent : Extent) (size : Nat) : Span :=
  ⟨size - extent.fromStart, size - extent.fromEnd⟩

/-- A key as it stands in the text. -/
structure Key where
  /-- The key without quotes and escapes. -/
  name : String
  /-- Where it stands. -/
  extent : Extent
  deriving DecidableEq, Repr

/-- A value without parts. Dates and times are checked and not kept. -/
inductive Scalar where
  | string (value : String)
  | integer (value : Int)
  | float (value : Decimal.Binary64)
  | boolean (value : Bool)
  | dateTime
  deriving DecidableEq, Repr

/-- How a table came to be, which decides who may still add to it. -/
inductive Origin where
  /-- By a header of its own. -/
  | header
  /-- As an outer table of a header. -/
  | implied
  /-- By a key with dots. -/
  | dotted
  /-- Between braces. Nobody may add to it. -/
  | inline
  deriving DecidableEq, Repr

/-- A value. -/
inductive Item where
  /-- A value without parts. -/
  | scalar (value : Scalar) (extent : Extent)
  /-- Values between brackets. -/
  | array (elements : List Item) (extent : Extent)
  /-- A table. Only tables with a header or braces stand in one place. -/
  | table (origin : Origin) (entries : List (Key × Item)) (extent : Option Extent)
  /-- The tables of repeated double headers. -/
  | tables (elements : List Item) (extent : Extent)
  deriving Repr

/-- The content of a table. -/
abbrev Entries := List (Key × Item)

/-- Where a value stands, if in one place. -/
def Item.extent? : Item → Option Extent
  | scalar _ extent => some extent
  | array _ extent => some extent
  | table _ _ extent => extent
  | tables _ extent => some extent

/-- The value of a key. -/
def Entries.get? (entries : Entries) (name : String) : Option Item :=
  (entries.find? fun entry => entry.1.name == name).map (·.2)

end TelemetryLink.Toml
