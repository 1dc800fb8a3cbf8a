import TelemetryLink.Proofs.Config.Layer
import TelemetryLink.Proofs.Config.Saving
import TelemetryLink.Proofs.Files.Layout

/-!
# The key does not matter for the rest

Files that differ in nothing but the key are loaded as configurations that differ in nothing but the
key. Where the settings stand in the text does not matter, either, and where a configuration can be
saved does not depend on what the files hold.

- `Part.Keyless`: a section is read in the same way wherever it stands and whatever the key is.
- `withoutKey_readEntries`: documents that agree without the table of the key.
- `loadFrom_agree`: files that hold such documents.
- `save_agree`: what is saved of a configuration where files hold different things.
-/

namespace TelemetryLink

namespace Config

open Toml Files Stateful

/-! ## Reading without places -/

namespace Shape

variable {σ : Type} {shape : Shape σ} {s s' : σ} {item : Item} {fallback : Extent}

theorem readField_unplaced {field : Field σ} (hfield : field.Lawful)
    (h : readField field item fallback s = .ok s') (fallback' : Extent) :
    readField field item.unplaced fallback' s = .ok s' := by
  rw [readField, mapError_eq_ok_iff] at h ⊢
  rw [hfield.unplaced, h]

theorem readEntries_unplaced (hlawful : shape.Lawful) {entries : Entries}
    (h : shape.readEntries entries s = .ok s') :
    shape.readEntries (Item.unplacedEntries entries) s = .ok s' := by
  induction entries generalizing s with
  | nil => exact h
  | cons entry entries ih =>
    rw [readEntries, List.foldlM_cons] at h
    obtain ⟨next, hnext, hrest⟩ := bind_eq_ok_iff.1 h
    rw [Item.unplacedEntries, readEntries, List.foldlM_cons]
    refine bind_eq_ok_iff.2 ⟨next, ?_, ih hrest⟩
    -- The field is found by its name, which has no place.
    dsimp only at hnext ⊢
    cases hfind : shape.fields.find? (·.name == entry.1.name) with
    | none =>
      rw [hfind] at hnext
      exact hnext
    | some field =>
      rw [hfind] at hnext
      exact readField_unplaced (hlawful.fields field (List.mem_of_find?_eq_some hfind)) hnext _

theorem readElements_unplaced {fields : List (Field σ)}
    (hfields : ∀ field ∈ fields, field.Lawful) {items : List Item}
    (h : readElements fallback fields items s = .ok s') (fallback' : Extent) :
    readElements fallback' fields (Item.unplacedAll items) s = .ok s' := by
  induction fields generalizing items s with
  | nil => exact h
  | cons field fields ih =>
    cases items with
    | nil => exact h
    | cons item items =>
      obtain ⟨hfield, hfields⟩ := List.forall_mem_cons.1 hfields
      obtain ⟨next, hnext, hrest⟩ := bind_eq_ok_iff.1 h
      exact bind_eq_ok_iff.2 ⟨next, readField_unplaced hfield hnext _, ih hfields hrest⟩

/-- A section is read from what an item says, wherever it stands. -/
theorem read_unplaced (hlawful : shape.Lawful) (h : shape.read item fallback s = .ok s')
    (fallback' : Extent) : shape.read item.unplaced fallback' s = .ok s' := by
  cases item with
  | table origin entries extent => exact readEntries_unplaced hlawful h
  | array items extent => exact readElements_unplaced hlawful.fields h fallback'
  | tables items extent => exact readElements_unplaced hlawful.fields h fallback'
  | scalar value extent =>
    cases value with
    | dateTime => exact h
    | _ => cases h

end Shape

/-! ## Reading without the key -/

/-- A section is read from what an item says, and the key does not matter for it. -/
def Part.Keyless (part : Part) : Prop :=
  ∀ item fallback config config', part.read item fallback config = .ok config' →
    ∀ fallback', part.read item.unplaced fallback' config.withoutKey = .ok config'.withoutKey

theorem Part.keyless_of {σ : Type} {name : String} {shape : Shape σ} {get : Config → σ}
    {set : σ → Config → Config} (hlawful : shape.Lawful)
    (hget : ∀ config, get config.withoutKey = get config)
    (hset : ∀ x config, (set x config).withoutKey = set x config.withoutKey) :
    (Part.of name shape get set).Keyless := by
  intro item fallback config config' h fallback'
  obtain ⟨x, hread, hconfig'⟩ := bind_eq_ok_iff.1 h
  cases hconfig'
  refine bind_eq_ok_iff.2 ⟨x, ?_, congrArg Except.ok (hset x config).symm⟩
  rw [hget]
  exact Shape.read_unplaced hlawful hread fallback'

/-- The key of the section with the key. -/
def authTable : String := "auth"

/-- For every other section the key does not matter, and its own section says nothing else. -/
theorem parts_keyless : ∀ part ∈ parts,
    (part.name ≠ authTable ∧ part.Keyless) ∨
      (part.name = authTable ∧ ∀ item fallback config config',
        part.read item fallback config = .ok config' → config'.withoutKey = config.withoutKey) := by
  unfold parts
  simp only [List.forall_mem_cons]
  refine ⟨.inl ⟨by decide, Part.keyless_of serverShape_lawful (fun _ => rfl) fun _ _ => rfl⟩,
    .inl ⟨by decide, Part.keyless_of deviceShape_lawful (fun _ => rfl) fun _ _ => rfl⟩,
    .inr ⟨rfl, ?_⟩,
    .inl ⟨by decide, Part.keyless_of sessionShape_lawful (fun _ => rfl) fun _ _ => rfl⟩,
    .inl ⟨by decide, Part.keyless_of reconnectShape_lawful (fun _ => rfl) fun _ _ => rfl⟩,
    .inl ⟨by decide, Part.keyless_of readingShape_lawful (fun _ => rfl) fun _ _ => rfl⟩,
    .inl ⟨by decide, Part.keyless_of loggingShape_lawful (fun _ => rfl) fun _ _ => rfl⟩, nofun⟩
  intro item fallback config config' h
  obtain ⟨auth, -, hconfig'⟩ := bind_eq_ok_iff.1 h
  cases hconfig'
  rfl

variable {entry : Key × Item} {entries entries' : Entries} {config config' : Config}

/-- The table of the key says nothing else. -/
theorem withoutKey_readEntry (hname : entry.1.name = authTable)
    (h : readEntry entry config = .ok config') : config'.withoutKey = config.withoutKey := by
  unfold readEntry at h
  split at h
  next part hfind =>
    have hpart : part.name = entry.1.name := by simpa using List.find?_some hfind
    obtain ⟨hother, -⟩ | ⟨-, hauth⟩ := parts_keyless part (List.mem_of_find?_eq_some hfind)
    · exact absurd (hpart.trans hname) hother
    · exact hauth _ _ _ _ h
  next =>
    cases h
    rfl

/-- For the other tables the key does not matter. -/
theorem readEntry_unplaced (hname : entry.1.name ≠ authTable)
    (h : readEntry entry config = .ok config') :
    readEntry (⟨entry.1.name, .nowhere⟩, entry.2.unplaced) config.withoutKey =
      .ok config'.withoutKey := by
  unfold readEntry at h ⊢
  dsimp only
  cases hfind : parts.find? (·.name == entry.1.name) with
  | none =>
    rw [hfind] at h
    cases h
    rfl
  | some part =>
    rw [hfind] at h
    have hpart : part.name = entry.1.name := by simpa using List.find?_some hfind
    obtain ⟨-, hkeyless⟩ | ⟨hauth, -⟩ := parts_keyless part (List.mem_of_find?_eq_some hfind)
    · exact hkeyless _ _ _ _ h _
    · exact absurd (hpart.symm.trans hauth) hname

/-- Without the table of the key a document is read as the configuration without the key. -/
theorem readEntries_without (h : readEntries entries config = .ok config') :
    readEntries (entries.without authTable) config.withoutKey = .ok config'.withoutKey := by
  induction entries generalizing config with
  | nil =>
    cases h
    rfl
  | cons entry entries ih =>
    rw [readEntries_cons] at h
    obtain ⟨next, hnext, hrest⟩ := bind_eq_ok_iff.1 h
    have hrest := ih hrest
    -- The table of the key is left out, as it changed nothing but the key; the others stay.
    by_cases hname : entry.1.name = authTable
    · rw [Entries.without, List.filter_cons_of_neg (by simpa using hname), ← Entries.without,
        ← withoutKey_readEntry hname hnext]
      exact hrest
    · rw [Entries.without, List.filter_cons_of_pos (by simpa using hname), Item.unplacedEntries,
        ← Entries.without, readEntries_cons]
      exact bind_eq_ok_iff.2 ⟨next.withoutKey, readEntry_unplaced hname hnext, hrest⟩

/-- Documents that agree without the table of the key are read as configurations that agree without
the key. -/
theorem withoutKey_readEntries {file file' : Config}
    (hagree : entries.without authTable = entries'.without authTable)
    (h : readEntries entries {} = .ok file) (h' : readEntries entries' {} = .ok file') :
    file.withoutKey = file'.withoutKey := by
  -- Both are read from the same document.
  have hfile := readEntries_without h
  rw [hagree, readEntries_without h'] at hfile
  exact (Except.ok.inj hfile).symm

/-! ## Files -/

variable {path : String} {tree tree' : Tree} {file file' : Config}

/-- What the file at a path says, if it is a document. -/
def documentAt (path : String) (tree : Tree) : Option Entries := do
  let content ← (tree.read path).toOption
  let text ← Text.Utf8.decode? content
  Toml.parse text

/-- What the file at a path says beside the key. -/
def besideKey (path : String) (tree : Tree) : Option Entries :=
  (documentAt path tree).map (·.without authTable)

/-- Of a document of tables of values the outline says everything beside the key. -/
theorem besideKey_of_outline {tables : List (String × List (String × Scalar))}
    (h : (documentAt path tree).map (fun entries =>
        Entries.outline (entries.filter (·.1.name != authTable))) =
      some (tables.map fun table =>
        (table.1, some (table.2.map fun value => (value.1, some value.2))))) :
    besideKey path tree = some (.ofTables tables) := by
  obtain ⟨entries, hentries, houtline⟩ := Option.map_eq_some_iff.1 h
  rw [besideKey, hentries]
  exact congrArg some (Item.unplacedEntries_of_outline houtline)

/-- What is loaded are the defaults, if there is no file, or what a document says. -/
theorem loadFrom_eq_ok (h : loadFrom path tree = .ok file) :
    (∃ failure, tree.find path = .error failure ∧ file = {}) ∨
      ∃ node entries, tree.find path = .ok node ∧ documentAt path tree = some entries ∧
        readEntries entries {} = .ok file := by
  unfold loadFrom at h
  split at h
  next failure hfind =>
    cases h
    exact .inl ⟨failure, hfind, rfl⟩
  next node hfind =>
    split at h
    next => cases h
    next content hread =>
      split at h
      next => cases h
      next text htext =>
        have h := mapError_eq_ok_iff.1 h
        unfold parse at h
        split at h
        next => cases h
        next entries hentries =>
          refine .inr ⟨node, entries, hfind, ?_, mapError_eq_ok_iff.1 h⟩
          rw [documentAt, hread]
          change (Text.Utf8.decode? content).bind Toml.parse = _
          rw [htext]
          exact hentries

/-- Files that differ in the key alone are loaded as configurations that differ in the key alone. -/
theorem loadFrom_agree (hlayout : tree.layout = tree'.layout)
    (hbeside : besideKey path tree = besideKey path tree')
    (h : loadFrom path tree = .ok file) (h' : loadFrom path tree' = .ok file') :
    file.withoutKey = file'.withoutKey := by
  -- There is a file in both trees or in neither.
  have hfound : (tree.find path).map Node.emptied = (tree'.find path).map Node.emptied := by
    rw [← Tree.find_layout, hlayout, Tree.find_layout]
  obtain ⟨failure, hfind, rfl⟩ | ⟨node, entries, hfind, hentries, hread⟩ := loadFrom_eq_ok h
  · obtain ⟨failure', hfind', rfl⟩ | ⟨node', -, hfind', -⟩ := loadFrom_eq_ok h'
    · rfl
    · rw [hfind, hfind'] at hfound
      cases hfound
  · obtain ⟨failure', hfind', rfl⟩ | ⟨node', entries', hfind', hentries', hread'⟩ :=
      loadFrom_eq_ok h'
    · rw [hfind, hfind'] at hfound
      cases hfound
    · rw [besideKey, besideKey, hentries, hentries'] at hbeside
      exact withoutKey_readEntries (Option.some.inj hbeside) hread hread'

/-! ## Saving -/

theorem makeRoom_layout (path : String) (tree : Tree) :
    makeRoom path tree.layout = ((makeRoom path tree).1, (makeRoom path tree).2.layout) := by
  unfold makeRoom
  cases Path.parent? path with
  | none => rfl
  | some directory =>
    dsimp only
    rw [Tree.createDirectories_layout]

/-- What comes of replacing a file, seen on the layout of the tree. -/
theorem replace_fst (config : Config) :
    (replace path tree config).1 = do
      let _ ← config.render.mapError .noText
      let _ ← (tree.layout.write path []).mapError (.unwritable path)
      return := by
  unfold replace
  cases config.render with
  | error error => rfl
  | ok text =>
    dsimp only
    rw [Tree.write_layout tree path (Text.Utf8.encode text)]
    cases tree.write path (Text.Utf8.encode text) with
    | error failure => rfl
    | ok after => rfl

/-- What comes of saving a configuration, seen on the layout of the tree. -/
theorem save_fst (config : Config) :
    (on (save path config) tree).1 = do
      (makeRoom path tree.layout).1
      let _ ← config.render.mapError .noText
      let _ ← ((makeRoom path tree.layout).2.write path []).mapError (.unwritable path)
      return := by
  rw [save_on, makeRoom_layout]
  rcases makeRoom path tree with ⟨error | ⟨⟩, room⟩
  · rfl
  · exact replace_fst config

/-- Whether a configuration can be saved depends on where the files are, not on what they hold. -/
theorem save_fst_agree (hlayout : tree.layout = tree'.layout) (config : Config) :
    (on (save path config) tree).1 = (on (save path config) tree').1 := by
  rw [save_fst, save_fst, hlayout]

/-- What was written for a configuration is loaded as the configuration. -/
theorem loadFrom_of_wrote {text : String} (htext : config.render = .ok text)
    (hwrote : Tree.Wrote path (Text.Utf8.encode text) tree tree') :
    loadFrom path tree' = .ok config := by
  obtain ⟨room, -, hwrite⟩ := hwrote
  exact loadFrom_of_write htext hwrite

/-- Where the files are at the same places, the same text is written for a configuration, or no file
is written in either tree. -/
theorem save_agree (path : String) (hlayout : tree.layout = tree'.layout) (config : Config) :
    (∃ content after after', on (save path config) tree = (.ok (), after) ∧
      on (save path config) tree' = (.ok (), after') ∧
      Tree.Wrote path content tree after ∧ Tree.Wrote path content tree' after' ∧
      loadFrom path after = .ok config ∧ loadFrom path after' = .ok config) ∨
    (∃ error after after', on (save path config) tree = (.error error, after) ∧
      on (save path config) tree' = (.error error, after') ∧
      Tree.SameFiles tree after ∧ Tree.SameFiles tree' after') := by
  -- So it cannot be that one ends well and the other does not.
  have hfst : (on (save path config) tree).1 = (on (save path config) tree').1 :=
    save_fst_agree hlayout config
  obtain ⟨text, after, htext, hsave, hwrote⟩ | ⟨error, after, hsave, hfiles⟩ :=
    save_cases path tree config
  · obtain ⟨text', after', htext', hsave', hwrote'⟩ | ⟨error', after', hsave', -⟩ :=
      save_cases path tree' config
    · cases htext.symm.trans htext'
      exact .inl ⟨_, after, after', hsave, hsave', hwrote, hwrote',
        loadFrom_of_wrote htext hwrote, loadFrom_of_wrote htext hwrote'⟩
    · rw [hsave, hsave'] at hfst
      cases hfst
  · obtain ⟨-, after', -, hsave', -⟩ | ⟨error', after', hsave', hfiles'⟩ :=
      save_cases path tree' config
    · rw [hsave, hsave'] at hfst
      cases hfst
    · rw [hsave, hsave'] at hfst
      cases hfst
      exact .inr ⟨error, after, after', hsave, hsave', hfiles, hfiles'⟩

end Config

end TelemetryLink
