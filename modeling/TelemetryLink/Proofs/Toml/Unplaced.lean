import TelemetryLink.Proofs.Toml.Document

/-!
# Documents without places

Two texts may say the same in different places. What they say is the document without the places.

- `Item.unplaced`: an item without the places where its parts stand.
- `Entries.without`: a document without one of its tables and without places.
- `Item.unplacedEntries_of_outline`: for tables of values the outline says everything.
-/

namespace TelemetryLink.Toml

/-- An extent for what stands nowhere. -/
def Extent.nowhere : Extent := ⟨0, 0⟩

mutual

/-- An item without the places where its parts stand, and without the way its tables came to be. -/
def Item.unplaced : Item → Item
  | .scalar value _ => .scalar value .nowhere
  | .array elements _ => .array (unplacedAll elements) .nowhere
  | .table _ entries _ => .table .header (unplacedEntries entries) none
  | .tables elements _ => .tables (unplacedAll elements) .nowhere

/-- Items without the places where they stand. -/
def Item.unplacedAll : List Item → List Item
  | [] => []
  | item :: items => item.unplaced :: unplacedAll items

/-- A table without the places where its keys and values stand. -/
def Item.unplacedEntries : List (Key × Item) → List (Key × Item)
  | [] => []
  | entry :: entries => (⟨entry.1.name, .nowhere⟩, entry.2.unplaced) :: unplacedEntries entries

end

/-- A table without one of its keys, and without the places of the others. -/
def Entries.without (name : String) (entries : Entries) : Entries :=
  Item.unplacedEntries (entries.filter (·.1.name != name))

/-! ## Tables of values -/

/-- Values that stand nowhere. -/
def Entries.ofValues (values : List (String × Scalar)) : Entries :=
  values.map fun value => (⟨value.1, .nowhere⟩, .scalar value.2 .nowhere)

/-- Tables of values that stand nowhere. -/
def Entries.ofTables (tables : List (String × List (String × Scalar))) : Entries :=
  tables.map fun table => (⟨table.1, .nowhere⟩, .table .header (ofValues table.2) none)

/-- Of values their names and the values say everything. -/
theorem Item.unplacedEntries_of_scalars {entries : Entries} {values : List (String × Scalar)}
    (h : entries.map (fun entry => (entry.1.name, entry.2.scalar?)) =
      values.map fun value => (value.1, some value.2)) :
    unplacedEntries entries = Entries.ofValues values := by
  induction values generalizing entries with
  | nil =>
    obtain rfl := List.map_eq_nil_iff.1 h
    rfl
  | cons value values ih =>
    obtain ⟨⟨key, item⟩, rest, rfl, hentry, hrest⟩ := List.map_eq_cons_iff.1 h
    obtain ⟨hkey, hitem⟩ := Prod.mk.inj hentry
    obtain ⟨extent, rfl⟩ := Item.eq_scalar hitem
    rw [unplacedEntries, ih hrest, hkey]
    rfl

/-- Of tables of values the outline says everything. -/
theorem Item.unplacedEntries_of_outline {entries : Entries}
    {tables : List (String × List (String × Scalar))}
    (h : entries.outline = tables.map fun table =>
      (table.1, some (table.2.map fun value => (value.1, some value.2)))) :
    unplacedEntries entries = Entries.ofTables tables := by
  induction tables generalizing entries with
  | nil =>
    obtain rfl := List.map_eq_nil_iff.1 h
    rfl
  | cons table tables ih =>
    obtain ⟨⟨key, item⟩, rest, rfl, hentry, hrest⟩ := List.map_eq_cons_iff.1 h
    obtain ⟨hkey, hitem⟩ := Prod.mk.inj hentry
    obtain ⟨origin, values, extent, rfl, hvalues⟩ := Item.eq_table hitem
    rw [unplacedEntries, ih hrest, hkey]
    dsimp only
    rw [unplaced, unplacedEntries_of_scalars hvalues]
    rfl

end TelemetryLink.Toml
