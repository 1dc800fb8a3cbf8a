import TelemetryLink.Toml.Assembly

/-!
# Tables with distinct keys

Where no key stands twice and no header names an outer table, the statements of a text describe one
table for each header, with the assignments under it in order.

- `Entries.update_of_not_mem`: a new key comes last.
- `Entries.assignAll_of_nodup`, `Entries.addSections_of_nodup`: so do new assignments and sections.
- `Entries.ofStatements_sections`: the table that such statements describe.
-/

namespace TelemetryLink.Toml

/-! ## Statements -/

/-- The statements that a section is made of. -/
def Section.statements (s : Section) : List Statement :=
  .header s.header :: s.assignments.map .assignment

theorem Statement.group_assignments (assignments : List Assignment) (rest : List Statement) :
    group (assignments.map .assignment ++ rest) =
      (assignments ++ (group rest).1, (group rest).2) := by
  induction assignments with
  | nil => rfl
  | cons a assignments ih =>
    rw [List.map_cons, List.cons_append, group, ih]
    rfl

theorem Statement.group_sections (sections : List Section) :
    group (sections.flatMap Section.statements) = ([], sections) := by
  induction sections with
  | nil => rfl
  | cons s sections ih =>
    rw [List.flatMap_cons, Section.statements, List.cons_append, group, group_assignments, ih,
      List.append_nil]

/-! ## New keys -/

namespace Entries

variable {entries : Entries}

/-- The names of the keys, in order. -/
def names (entries : Entries) : List String := entries.map (·.1.name)

theorem update_of_not_mem {key : Key} {change : Option Item → Option Item} {item : Item}
    (hkey : key.name ∉ entries.names) (hchange : change none = some item) :
    update key change entries = some (entries ++ [(key, item)]) := by
  induction entries with
  | nil =>
    rw [update, hchange]
    rfl
  | cons entry entries ih =>
    obtain ⟨k, value⟩ := entry
    have hk : k.name ≠ key.name := fun h => hkey (h ▸ List.mem_cons_self)
    have hlater : key.name ∉ names entries := fun h => hkey (List.mem_cons_of_mem _ h)
    rw [update, if_neg hk, ih hlater]
    rfl

theorem get?_of_not_mem {name : String} (hname : name ∉ entries.names) :
    entries.get? name = none := by
  rw [get?, Option.map_eq_none_iff, List.find?_eq_none]
  intro entry hentry hbeq
  exact hname (eq_of_beq hbeq ▸ List.mem_map_of_mem hentry)

/-! ## Assignments -/

theorem assign_of_not_mem {a : Assignment} (hpath : a.path = [])
    (hkey : a.key.name ∉ entries.names) :
    assign entries a = some (entries ++ [(a.key, a.value)]) := by
  rw [assign, hpath]
  exact update_of_not_mem hkey rfl

/-- Assignments to different keys come in order. -/
theorem assignAll_of_nodup {assignments : List Assignment}
    (hpaths : ∀ a ∈ assignments, a.path = [])
    (hnodup : (entries.names ++ assignments.map (·.key.name)).Nodup) :
    assignAll assignments entries =
      some (entries ++ assignments.map fun a => (a.key, a.value)) := by
  induction assignments generalizing entries with
  | nil => exact congrArg some (List.append_nil entries).symm
  | cons a assignments ih =>
    have hkey : a.key.name ∉ entries.names := fun h =>
      (List.nodup_append.1 hnodup).2.2 _ h _ List.mem_cons_self rfl
    rw [assignAll, List.foldlM_cons, assign_of_not_mem (hpaths a List.mem_cons_self) hkey]
    change assignAll assignments (entries ++ [(a.key, a.value)]) = _
    rw [ih fun b hb => hpaths b (List.mem_cons_of_mem _ hb), List.append_assoc]
    · rfl
    · rw [names, List.map_append, List.append_assoc]
      exact hnodup

end Entries

/-! ## Sections -/

namespace Section

/-- The table of a section stands outside of all others, and no key is assigned twice in it. -/
structure Plain (s : Section) : Prop where
  /-- The header names no outer table. -/
  path : s.header.path = []
  /-- The header adds to no list of tables. -/
  repeated : s.header.repeated = false
  /-- No key has dots. -/
  paths : ∀ a ∈ s.assignments, a.path = []
  /-- The keys are different. -/
  nodup : (s.assignments.map (·.key.name)).Nodup

/-- The table of a section under its key. -/
def entry (s : Section) : Key × Item :=
  (s.header.key, .table .header (s.assignments.map fun a => (a.key, a.value)) (some s.extent))

end Section

namespace Entries

variable {entries : Entries}

theorem addSection_of_not_mem {s : Section} (hs : s.Plain)
    (hkey : s.header.key.name ∉ entries.names) :
    addSection entries s = some (entries ++ [s.entry]) := by
  have hassign : assignAll s.assignments [] = some (s.assignments.map fun a => (a.key, a.value)) :=
    assignAll_of_nodup hs.paths hs.nodup
  rw [addSection, hs.path]
  change place s entries = _
  unfold place
  rw [hs.repeated, get?_of_not_mem hkey]
  dsimp only
  rw [if_neg Bool.false_ne_true, hassign]
  exact update_of_not_mem hkey rfl

theorem addSections_of_nodup {sections : List Section} (hsections : ∀ s ∈ sections, s.Plain)
    (hnodup : (entries.names ++ sections.map (·.header.key.name)).Nodup) :
    sections.foldlM addSection entries = some (entries ++ sections.map Section.entry) := by
  induction sections generalizing entries with
  | nil => exact congrArg some (List.append_nil entries).symm
  | cons s sections ih =>
    have hkey : s.header.key.name ∉ entries.names := fun h =>
      (List.nodup_append.1 hnodup).2.2 _ h _ List.mem_cons_self rfl
    rw [List.foldlM_cons, addSection_of_not_mem (hsections s List.mem_cons_self) hkey]
    change sections.foldlM addSection (entries ++ [s.entry]) = _
    rw [ih fun t ht => hsections t (List.mem_cons_of_mem _ ht), List.append_assoc]
    · rfl
    · rw [names, List.map_append, List.append_assoc]
      exact hnodup

/-- The table that plain sections with different keys describe. -/
theorem ofStatements_sections {sections : List Section} (hsections : ∀ s ∈ sections, s.Plain)
    (hnodup : (sections.map (·.header.key.name)).Nodup) :
    ofStatements (sections.flatMap Section.statements) = some (sections.map Section.entry) := by
  rw [ofStatements, Statement.group_sections]
  exact @addSections_of_nodup [] _ hsections hnodup

end Entries

end TelemetryLink.Toml
