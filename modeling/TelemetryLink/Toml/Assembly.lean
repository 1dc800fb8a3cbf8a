import TelemetryLink.Toml.Document

/-!
# Assembling tables

The statements of a text assign values to keys, under headers that name tables. This module puts
them together: a key is assigned once, a table has one header, and a key with dots adds only to
tables that keys with dots made.
-/

namespace TelemetryLink.Toml

/-- A value for a key, inside the tables that `path` names. -/
structure Assignment where
  /-- The keys before the dots. -/
  path : List Key
  /-- The key itself. -/
  key : Key
  /-- Its value. -/
  value : Item

/-- A header: the table that the assignments after it go to. -/
structure Header where
  /-- The outer tables. -/
  path : List Key
  /-- The table itself. -/
  key : Key
  /-- Whether the header adds one more table to a list of tables. -/
  repeated : Bool
  /-- Where the header stands. -/
  extent : Extent

/-- One statement of a text. -/
inductive Statement where
  | assignment (assignment : Assignment)
  | header (header : Header)

/-- A header with the assignments under it. -/
structure Section where
  /-- The header. -/
  header : Header
  /-- Its assignments, in order. -/
  assignments : List Assignment

/-- The part of the text that a section's table stands in: from the header to the last value. -/
def Section.extent (s : Section) : Extent :=
  match s.assignments.getLast?.bind (·.value.extent?) with
  | some last => s.header.extent.through last
  | none => s.header.extent

/-- The assignments before the first header, and the sections. -/
def Statement.group : List Statement → List Assignment × List Section
  | [] => ([], [])
  | .assignment a :: rest =>
    let (assignments, sections) := group rest
    (a :: assignments, sections)
  | .header h :: rest =>
    let (assignments, sections) := group rest
    ([], ⟨h, assignments⟩ :: sections)

namespace Entries

/-- Changes the value of a key in place. A new key comes last. -/
def update (key : Key) (change : Option Item → Option Item) : Entries → Option Entries
  | [] => do return [(key, ← change none)]
  | (k, item) :: rest => do
    if k.name = key.name then return (k, ← change (some item)) :: rest
    return (k, item) :: (← update key change rest)

/-- Adds a value under a key that has none. -/
def insertNew (key : Key) (item : Item) (entries : Entries) : Option Entries :=
  update key (fun | none => some item | some _ => none) entries

/-- Changes the last of some items. -/
def onLast (change : Item → Option Item) : List Item → Option (List Item)
  | [] => none
  | [item] => do return [← change item]
  | item :: rest => do return item :: (← onLast change rest)

/-- Changes the table that a path leads to from a table made by `origin`. Tables on the way that
do not exist are made, by `made`; of a list of tables the last is meant. Values that are no such
tables, and those that `enters` refuses, are not entered. -/
def descend (made : Origin) (enters : Origin → Bool)
    (change : Origin → Entries → Option Entries) :
    List Key → Origin → Entries → Option Entries
  | [], origin, entries => change origin entries
  | key :: path, _, entries =>
    let go (origin : Origin) (inner : Entries) := descend made enters change path origin inner
    update key (fun
      | none => do return .table made (← go made []) none
      | some (.table origin inner extent) => do
        -- A table that is closed to this kind of statement ends the descent.
        if !enters origin then none
        return .table origin (← go origin inner) extent
      | some (.tables elements extent) => do
        let elements ← onLast (fun
          | .table origin inner extent => do return .table origin (← go origin inner) extent
          | _ => none) elements
        return .tables elements extent
      | some _ => none) entries

/-- Makes an assignment in a table. With dots, the last table has to be one that dots made, and
none on the way may have a header or braces. -/
def assign (entries : Entries) (a : Assignment) : Option Entries :=
  descend .dotted (fun origin => origin != .header && origin != .inline)
    (fun origin inner =>
      if (origin == .dotted) == a.path.isEmpty then none else insertNew a.key a.value inner)
    a.path .header entries

/-- Makes assignments in order. -/
def assignAll (assignments : List Assignment) (entries : Entries) : Option Entries :=
  assignments.foldlM assign entries

/-- Adds the table of a section to the table that holds it. A table that was only implied so far
keeps its content and moves to the end. -/
def place (s : Section) (entries : Entries) : Option Entries :=
  let table (content : Entries) : Option Item := do
    return .table .header (← assignAll s.assignments content) (some s.extent)
  if s.header.repeated then
    update s.header.key (fun
      | none => do return .tables [← table []] s.extent
      | some (.tables elements extent) => do
        return .tables (elements ++ [← table []]) (extent.through s.extent)
      | some _ => none) entries
  else match entries.get? s.header.key.name with
    | none => do insertNew s.header.key (← table []) entries
    -- The header makes the implied table explicit, which can happen once.
    | some (.table .implied content _) => do
      return entries.filter (·.1.name != s.header.key.name) ++
        [(s.header.key, ← table content)]
    | some _ => none

/-- Adds the table of a section, inside any tables but those between braces. -/
def addSection (entries : Entries) (s : Section) : Option Entries :=
  descend .implied (· != .inline) (fun _ inner => place s inner) s.header.path .header entries

/-- The table that statements describe. -/
def ofStatements (statements : List Statement) : Option Entries := do
  let (assignments, sections) := Statement.group statements
  sections.foldlM addSection (← assignAll assignments [])

end Entries

end TelemetryLink.Toml
