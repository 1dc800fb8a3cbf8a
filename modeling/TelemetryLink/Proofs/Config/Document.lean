import TelemetryLink.Config.Document
import TelemetryLink.Proofs.Config.Setting
import TelemetryLink.Proofs.Except
import TelemetryLink.Proofs.Toml.Pieces

/-!
# Documents of fields and sections

What fields and sections are read as that were written, all of them or some.

- `Field.copy`, `Shape.copy`, `Part.copy`: what one configuration has, taken over by another.
- `Shape.only`, `Part.only`: sections that are written without some of their settings.
- `Field.Lawful`, `Shape.Lawful`, `Part.Lawful`: fields and sections that are read as they were
  written, wherever they stand.
- `Shape.readEntries_of_write`, `readEntries_of_write`: what was written of some fields or sections
  is read as these, and the rest is left as it was.
-/

namespace TelemetryLink

/-- An element is found by its name if the names are different. -/
theorem find?_name_of_nodup {α : Type} {name : α → String} {l : List α} {x : α}
    (hnodup : (l.map name).Nodup) (hx : x ∈ l) : l.find? (name · == name x) = some x := by
  induction l with
  | nil => cases hx
  | cons y l ih =>
    obtain ⟨hy, hnodup⟩ := List.nodup_cons.1 hnodup
    rcases List.mem_cons.1 hx with rfl | hx
    · exact List.find?_cons_of_pos (beq_self_eq_true _)
    · have hne : name y ≠ name x := fun h => hy (h ▸ List.mem_map_of_mem hx)
      rw [List.find?_cons_of_neg (by simpa using hne)]
      exact ih hnodup hx

namespace Config

open Toml

/-! ## Fields -/

namespace Field

variable {σ α : Type}

/-- A section with one setting of another, as far as that is written. -/
def copy (field : Field σ) (source target : σ) : σ :=
  match field.write source with
  | .ok (some w) => (field.read (.scalar w.scalar .nowhere) target).toOption.getD target
  | _ => target

/-- A field whose setting is read as it was written, wherever it stands. -/
structure Lawful (field : Field σ) : Prop where
  /-- The key needs no quotes. -/
  bare : Bare field.name
  /-- The format can hold what is written. -/
  fits {s : σ} {w : Written} : field.write s = .ok (some w) → w.Fits
  /-- What is written is the setting. -/
  read {s : σ} {w : Written} : field.write s = .ok (some w) →
    ∀ extent target, field.read (.scalar w.scalar extent) target = .ok (field.copy s target)
  /-- What an item says has nothing to do with where it stands. -/
  unplaced : ∀ item target, field.read item.unplaced target = field.read item target

variable [Setting α] [LawfulSetting α] {name : String} {get : σ → α} {set : α → σ → σ}

theorem read_of {s : σ} {w : Written} (h : Setting.write (get s) = .ok (some w)) (extent : Extent)
    (target : σ) :
    (Field.of name get set).read (.scalar w.scalar extent) target = .ok (set (get s) target) := by
  change (do return set (← Setting.ofItem _) target : Except Mismatch σ) = _
  rw [LawfulSetting.ofItem h extent]
  rfl

/-- What is written is taken over. -/
theorem copy_of {s : σ} {w : Written} (h : Setting.write (get s) = .ok (some w)) (target : σ) :
    (Field.of name get set).copy s target = set (get s) target := by
  have hwrite : (Field.of name get set).write s = .ok (some w) := h
  rw [copy, hwrite]
  dsimp only
  rw [read_of h]
  rfl

/-- A setting is taken over if it is kept, and if not, the one that is there stays. -/
theorem keep_of (hset : ∀ t, set (get t) t = t) {s : σ}
    (h : ∃ w, Setting.write (get s) = .ok (some w)) (keeps : String → Bool) (target : σ) :
    (if keeps (Field.of name get set).name then (Field.of name get set).copy s target
      else target) = set (if keeps name then get s else get target) target := by
  change (if keeps name then _ else target) = _
  cases keeps name with
  | true =>
    obtain ⟨w, h⟩ := h
    exact copy_of h target
  | false => exact (hset target).symm

theorem keep_of_total [TotalSetting α] (hset : ∀ t, set (get t) t = t) (keeps : String → Bool)
    (s target : σ) :
    (if keeps (Field.of name get set).name then (Field.of name get set).copy s target
      else target) = set (if keeps name then get s else get target) target :=
  keep_of hset (TotalSetting.write (get s)) keeps target

theorem lawful_of (hname : Bare name) : (Field.of name get set).Lawful where
  bare := hname
  fits h := LawfulSetting.fits (a := get _) h
  read {s w} h extent target := by
    have hwrite : Setting.write (get s) = .ok (some w) := h
    rw [copy_of hwrite]
    exact read_of hwrite extent target
  unplaced item target :=
    congrArg (fun read : Except Mismatch α => return set (← read) target)
      (LawfulSetting.unplaced item)

omit [LawfulSetting α] in
theorem exists_write_of_total [TotalSetting α] (s : σ) :
    ∃ w, (Field.of name get set).write s = .ok w := by
  obtain ⟨w, h⟩ := TotalSetting.write (get s)
  exact ⟨some w, h⟩

theorem exists_write_uint64 {get : σ → UInt64} {set : UInt64 → σ → σ} {s : σ} :
    (∃ w, (Field.of name get set).write s = .ok w) ↔ Fits (get s) := by
  change (∃ w, Setting.write (get s) = .ok w) ↔ _
  obtain ⟨hn, hwrite⟩ | ⟨hn, hwrite⟩ := write_uint64 (get s)
  · exact ⟨fun _ => hn, fun _ => ⟨_, hwrite⟩⟩
  · rw [hwrite]
    exact ⟨nofun, fun h => absurd h hn⟩

/-- A setting that may be absent is taken over if it is there. -/
theorem copy_of_option [TotalSetting α] {get : σ → Option α} {set : Option α → σ → σ}
    (s target : σ) :
    (Field.of name get set).copy s target =
      if (get s).isSome then set (get s) target else target := by
  cases ha : get s with
  | none =>
    have hwrite : (Field.of name get set).write s = .ok none := by
      change Setting.write (get s) = .ok none
      rw [ha]
      rfl
    rw [copy, hwrite]
    rfl
  | some a =>
    obtain ⟨w, hw⟩ := TotalSetting.write a
    have hwrite : Setting.write (get s) = .ok (some w) := ha ▸ hw
    rw [copy_of hwrite, ha]
    rfl

theorem keep_of_uint64 {get : σ → UInt64} {set : UInt64 → σ → σ} (hset : ∀ t, set (get t) t = t)
    {s : σ} (h : Fits (get s)) (keeps : String → Bool) (target : σ) :
    (if keeps (Field.of name get set).name then (Field.of name get set).copy s target
      else target) = set (if keeps name then get s else get target) target :=
  keep_of hset ⟨_, if_pos h⟩ keeps target

end Field

/-! ## Sections -/

namespace Shape

variable {σ : Type}

/-- A section with some settings of another. -/
def copy (shape : Shape σ) (source target : σ) : σ :=
  shape.fields.foldl (fun target field => field.copy source target) target

/-- A section of which only some settings are written. -/
def only (shape : Shape σ) (keeps : String → Bool) : Shape σ :=
  { shape with fields := shape.fields.filter (keeps ·.name) }

/-- A shape of sections that are read as they were written. -/
structure Lawful (shape : Shape σ) : Prop where
  /-- Its fields are. -/
  fields : ∀ field ∈ shape.fields, field.Lawful
  /-- The keys are different. -/
  nodup : (shape.fields.map (·.name)).Nodup

variable {shape : Shape σ} {title : String} {field : Field σ} {fields : List (Field σ)}
  {s target : σ} {values : List (String × Written)}

/-- A field is written in front of the later ones, if there is something to write. -/
theorem write_cons_eq_ok_iff :
    write ⟨title, field :: fields⟩ s = .ok values ↔
      ∃ w later, field.write s = .ok w ∧ write ⟨title, fields⟩ s = .ok later ∧
        values = (w.map (field.name, ·)).toList ++ later := by
  unfold write
  rw [bind_eq_ok_iff]
  constructor
  · rintro ⟨all, hall, ⟨⟩⟩
    obtain ⟨_, others, hfirst, hothers, rfl⟩ := mapM_cons_eq_ok_iff.1 hall
    obtain ⟨w, hfield, ⟨⟩⟩ := bind_eq_ok_iff.1 hfirst
    refine ⟨w, _, hfield, bind_eq_ok_iff.2 ⟨others, hothers, rfl⟩, ?_⟩
    cases w with
    | none => rfl
    | some w => rfl
  · rintro ⟨w, later, hfield, hlater, rfl⟩
    obtain ⟨others, hothers, ⟨⟩⟩ := bind_eq_ok_iff.1 hlater
    refine ⟨w.map (field.name, ·) :: others,
      mapM_cons_eq_ok_iff.2 ⟨_, others, bind_eq_ok_iff.2 ⟨w, hfield, rfl⟩, hothers, rfl⟩, ?_⟩
    cases w with
    | none => rfl
    | some w => rfl

/-- Without some of the settings their lines are missing, and nothing else. -/
theorem write_only (keeps : String → Bool) (hwrite : write ⟨title, fields⟩ s = .ok values) :
    (only ⟨title, fields⟩ keeps).write s = .ok (values.filter fun v => keeps v.1) := by
  induction fields generalizing values with
  | nil =>
    cases hwrite
    rfl
  | cons field fields ih =>
    obtain ⟨w, later, hfield, hlater, rfl⟩ := write_cons_eq_ok_iff.1 hwrite
    have hlater := ih hlater
    rw [List.filter_append]
    -- A line is left out together with its field, whether there is one or not.
    cases hkeeps : keeps field.name with
    | false =>
      rw [only, List.filter_cons_of_neg (by simpa using hkeeps)]
      have hnone : (w.map (field.name, ·)).toList.filter (fun v => keeps v.1) = [] := by
        cases w with
        | none => rfl
        | some w => exact List.filter_cons_of_neg (by simpa using hkeeps)
      rw [hnone, List.nil_append]
      exact hlater
    | true =>
      rw [only, List.filter_cons_of_pos (by exact hkeeps)]
      refine write_cons_eq_ok_iff.2 ⟨w, _, hfield, hlater, ?_⟩
      cases w with
      | none => rfl
      | some w => exact congrArg (· ++ _) (List.filter_cons_of_pos (by exact hkeeps))

/-- Only the settings that are kept are taken over. -/
theorem copy_only (keeps : String → Bool) (s target : σ) :
    (shape.only keeps).copy s target = shape.fields.foldl
      (fun target field => if keeps field.name then field.copy s target else target) target :=
  List.foldl_filter

theorem copy_none (s target : σ) : (shape.only fun _ => false).copy s target = target := by
  rw [copy, only, List.filter_eq_nil_iff.2 fun _ _ => Bool.false_ne_true]
  rfl

/-- An entry with the key of a field is read as it. -/
theorem readEntries_cons (hlawful : shape.Lawful) (hfield : field ∈ shape.fields) {key : Key}
    {item : Item} (hkey : key.name = field.name) (hread : field.read item s = .ok target)
    (entries : Entries) :
    shape.readEntries ((key, item) :: entries) s = shape.readEntries entries target := by
  have hfind : shape.fields.find? (·.name == key.name) = some field := by
    rw [hkey]
    exact find?_name_of_nodup hlawful.nodup hfield
  rw [readEntries, List.foldlM_cons]
  dsimp only
  rw [hfind]
  dsimp only
  rw [readField, hread]
  rfl

/-- What was written of some fields is read as these. -/
theorem readEntries_of_write (title : String) (hlawful : shape.Lawful)
    (hfields : ∀ field ∈ fields, field ∈ shape.fields)
    (hwrite : write ⟨title, fields⟩ s = .ok values) {entries : Entries}
    (hentries : entries.map (fun entry => (entry.1.name, entry.2.scalar?)) =
      values.map Written.named) (target : σ) :
    shape.readEntries entries target = .ok (copy ⟨title, fields⟩ s target) := by
  induction fields generalizing values entries target with
  | nil =>
    cases hwrite
    obtain rfl := List.map_eq_nil_iff.1 hentries
    rfl
  | cons field fields ih =>
    obtain ⟨w, later, hfield, hlater, rfl⟩ := write_cons_eq_ok_iff.1 hwrite
    have hmem := hfields field List.mem_cons_self
    have hfields := fun f hf => hfields f (List.mem_cons_of_mem _ hf)
    cases w with
    | none =>
      have hcopy : field.copy s target = target := by rw [Field.copy, hfield]
      have h := ih hfields hlater hentries target
      rw [h, copy, copy, List.foldl_cons, hcopy]
    | some w =>
      obtain ⟨⟨key, item⟩, rest, rfl, hentry, hrest⟩ := List.map_eq_cons_iff.1 hentries
      obtain ⟨hkey, hitem⟩ := Prod.mk.inj hentry
      obtain ⟨extent, rfl⟩ := Item.eq_scalar hitem
      have hread := (hlawful.fields field hmem).read hfield extent target
      rw [readEntries_cons hlawful hmem hkey hread]
      exact ih hfields hlater hrest (field.copy s target)

/-- What is written has the keys of fields. -/
theorem mem_of_write (hwrite : write ⟨title, fields⟩ s = .ok values) :
    ∀ v ∈ values, ∃ field ∈ fields, field.name = v.1 ∧ field.write s = .ok (some v.2) := by
  obtain ⟨all, hall, ⟨⟩⟩ := bind_eq_ok_iff.1 hwrite
  intro v hv
  obtain ⟨found, hfound, rfl⟩ := List.mem_filterMap.1 hv
  obtain ⟨field, hfield, hv⟩ := exists_of_mem_mapM hall _ hfound
  obtain ⟨w, hw, hv⟩ := bind_eq_ok_iff.1 hv
  cases w with
  | none => cases hv
  | some w =>
    cases hv
    exact ⟨field, hfield, rfl, hw⟩

/-- The keys that are written are among those of the fields, in their order. -/
theorem names_sublist (hwrite : write ⟨title, fields⟩ s = .ok values) :
    (values.map (·.1)).Sublist (fields.map (·.name)) := by
  induction fields generalizing values with
  | nil =>
    cases hwrite
    exact .slnil
  | cons field fields ih =>
    obtain ⟨w, later, -, hlater, rfl⟩ := write_cons_eq_ok_iff.1 hwrite
    cases w with
    | none => exact (ih hlater).cons _
    | some w => exact (ih hlater).cons_cons _

/-- Everything can be written exactly if each setting can. -/
theorem exists_write_iff :
    (∃ values, write ⟨title, fields⟩ s = .ok values) ↔
      ∀ field ∈ fields, ∃ w, field.write s = .ok w := by
  unfold write
  rw [exists_bind_pure_iff, exists_mapM_iff]
  exact forall₂_congr fun _ _ => exists_bind_pure_iff

end Shape

/-! ## Parts -/

namespace Part

/-- A configuration with one section of another, as far as that is written. -/
def copy (part : Part) (source target : Config) : Config :=
  match part.write source with
  | .ok values =>
    let entries := values.map fun v => (⟨v.1, .nowhere⟩, .scalar v.2.scalar .nowhere)
    let item := .table .header entries none
    (part.read item .nowhere target).toOption.getD target
  | .error _ => target

/-- A section of which only some settings are written. -/
def only (part : Part) (keeps : String → Bool) : Part where
  name := part.name
  read := part.read
  write config := (part.write config).map (·.filter fun v => keeps v.1)

/-- A section that is read as it was written, wherever it stands. -/
structure Lawful (part : Part) : Prop where
  /-- The key needs no quotes. -/
  bare : Bare part.name
  /-- Neither do the keys in the section, and the format can hold the values. -/
  values {config : Config} {values : List (String × Written)} : part.write config = .ok values →
    ∀ v ∈ values, Bare v.1 ∧ v.2.Fits
  /-- The keys in the section are different. -/
  nodup {config : Config} {values : List (String × Written)} : part.write config = .ok values →
    (values.map (·.1)).Nodup
  /-- What is written is the section, and what is left of it is what is kept of the section. -/
  read {config : Config} {values : List (String × Written)} : part.write config = .ok values →
    ∀ keeps item, item.named? = some ((values.filter fun v => keeps v.1).map Written.named) →
      ∀ fallback target, part.read item fallback target = .ok ((part.only keeps).copy config target)
  /-- Where nothing is kept, the section stays as it was. -/
  none (config target : Config) : (part.only fun _ => false).copy config target = target

variable {σ : Type} {name : String} {shape : Shape σ} {get : Config → σ}
  {set : σ → Config → Config} {config : Config} {values : List (String × Written)}

theorem name_of : (Part.of name shape get set).name = name := rfl

theorem read_of (hlawful : shape.Lawful) (hwrite : shape.write (get config) = .ok values)
    {keeps : String → Bool} {item : Item}
    (hitem : item.named? = some ((values.filter fun v => keeps v.1).map Written.named))
    (fallback : Extent) (target : Config) :
    (Part.of name shape get set).read item fallback target =
      .ok (set ((shape.only keeps).copy (get config) (get target)) target) := by
  obtain ⟨origin, entries, extent, rfl, hentries⟩ := Item.eq_table hitem
  have hread := Shape.readEntries_of_write shape.title hlawful
    (fun _ h => (List.mem_filter.1 h).1) (Shape.write_only keeps hwrite) hentries (get target)
  change (do
    return set (← shape.readEntries entries (get target)) target : Except Misfit Config) = _
  rw [hread]
  rfl

/-- What is written is taken over. -/
theorem copy_of (hlawful : shape.Lawful)
    (hwrites : ∃ values, shape.write (get config) = .ok values) (keeps : String → Bool)
    (target : Config) :
    ((Part.of name shape get set).only keeps).copy config target =
      set ((shape.only keeps).copy (get config) (get target)) target := by
  obtain ⟨values, hwrite⟩ := hwrites
  have hpart : ((Part.of name shape get set).only keeps).write config =
      .ok (values.filter fun v => keeps v.1) := congrArg (Except.map _) hwrite
  have hitem (extent : Option Extent) : (Item.table .header
      ((values.filter fun v => keeps v.1).map fun v =>
        (⟨v.1, .nowhere⟩, .scalar v.2.scalar .nowhere)) extent).named? =
      some ((values.filter fun v => keeps v.1).map Written.named) := by
    simp [Item.named?, Item.scalar?, Written.named]
  rw [copy, hpart]
  dsimp only
  rw [only, read_of hlawful hwrite (hitem none)]
  rfl

theorem lawful_of (hname : Bare name) (hlawful : shape.Lawful)
    (hset : ∀ config, set (get config) config = config) :
    (Part.of name shape get set).Lawful where
  bare := hname
  values {config values} hwrite v hv := by
    have hwrite : shape.write (get config) = .ok values := hwrite
    obtain ⟨field, hfield, hname, hvalue⟩ := Shape.mem_of_write hwrite v hv
    have hfield := hlawful.fields field hfield
    exact ⟨hname ▸ hfield.bare, hfield.fits hvalue⟩
  nodup {config values} hwrite := by
    have hwrite : shape.write (get config) = .ok values := hwrite
    exact (Shape.names_sublist hwrite).nodup hlawful.nodup
  read {config values} hwrite keeps item hitem fallback target := by
    have hwrite : shape.write (get config) = .ok values := hwrite
    rw [copy_of hlawful ⟨values, hwrite⟩]
    exact read_of hlawful hwrite hitem fallback target
  none config target := by
    cases hwrite : shape.write (get config) with
    | ok values =>
      rw [copy_of hlawful ⟨values, hwrite⟩, Shape.copy_none, hset]
    | error error =>
      have hpart : ((Part.of name shape get set).only fun _ => false).write config =
          .error error := congrArg (Except.map _) hwrite
      rw [copy, hpart]

end Part

/-! ## Configurations -/

/-- The keys and values of some sections. -/
def writeParts (parts : List Part) (config : Config) :
    Except WriteError (List (String × List (String × Written))) :=
  parts.mapM fun part => return (part.name, ← part.write config)

variable {part : Part} {kept : List Part} {config : Config}
  {sections : List (String × List (String × Written))}

theorem writeParts_cons_eq_ok_iff :
    writeParts (part :: kept) config = .ok sections ↔
      ∃ values later, part.write config = .ok values ∧ writeParts kept config = .ok later ∧
        sections = (part.name, values) :: later := by
  unfold writeParts
  rw [mapM_cons_eq_ok_iff]
  constructor
  · rintro ⟨_, later, hfirst, hlater, rfl⟩
    obtain ⟨values, hvalues, ⟨⟩⟩ := bind_eq_ok_iff.1 hfirst
    exact ⟨values, later, hvalues, hlater, rfl⟩
  · rintro ⟨values, later, hvalues, hlater, rfl⟩
    exact ⟨_, later, bind_eq_ok_iff.2 ⟨values, hvalues, rfl⟩, hlater, rfl⟩

/-- The keys of sections are those of the parts. -/
theorem names_of_writeParts (hwrite : writeParts kept config = .ok sections) :
    sections.map (·.1) = kept.map (·.name) := by
  induction kept generalizing sections with
  | nil =>
    cases hwrite
    rfl
  | cons part kept ih =>
    obtain ⟨values, later, -, hlater, rfl⟩ := writeParts_cons_eq_ok_iff.1 hwrite
    rw [List.map_cons, ih hlater, List.map_cons]

theorem exists_writeParts_iff :
    (∃ sections, writeParts kept config = .ok sections) ↔
      ∀ part ∈ kept, ∃ values, part.write config = .ok values :=
  exists_mapM_iff.trans (forall₂_congr fun _ _ => exists_bind_pure_iff)

/-- Every section comes from a part. -/
theorem mem_of_writeParts (hwrite : writeParts kept config = .ok sections) :
    ∀ s ∈ sections, ∃ part ∈ kept, part.name = s.1 ∧ part.write config = .ok s.2 := by
  intro s hs
  obtain ⟨part, hpart, hsection⟩ := exists_of_mem_mapM hwrite s hs
  obtain ⟨values, hvalues, ⟨⟩⟩ := bind_eq_ok_iff.1 hsection
  exact ⟨part, hpart, rfl, hvalues⟩

/-- What parts write can be read back. -/
theorem plain_of_writeParts (hlawful : ∀ part ∈ kept, part.Lawful)
    (hnodup : (kept.map (·.name)).Nodup) (hwrite : writeParts kept config = .ok sections) :
    Written.Plain sections := by
  have hsection := mem_of_writeParts hwrite
  constructor
  · intro s hs
    obtain ⟨part, hpart, hname, -⟩ := hsection s hs
    exact hname ▸ (hlawful part hpart).bare
  · rw [names_of_writeParts hwrite]
    exact hnodup
  · intro s hs
    obtain ⟨part, hpart, -, hvalues⟩ := hsection s hs
    exact (hlawful part hpart).values hvalues
  · intro s hs
    obtain ⟨part, hpart, -, hvalues⟩ := hsection s hs
    exact (hlawful part hpart).nodup hvalues

/-- Reads one entry of a document. -/
def readEntry (entry : Key × Item) (config : Config) : Except Misfit Config :=
  match parts.find? (·.name == entry.1.name) with
  | some part => part.read entry.2 entry.1.extent config
  | none => .ok config

theorem readEntries_cons (entry : Key × Item) (entries : Entries) (config : Config) :
    readEntries (entry :: entries) config =
      readEntry entry config >>= fun next => readEntries entries next :=
  List.foldlM_cons ..

/-- What was written of some parts is read as these, and what is left of it as what is kept. -/
theorem readEntries_of_write (hlawful : ∀ part ∈ parts, part.Lawful)
    (hnodup : (parts.map (·.name)).Nodup) {headed : String → Bool}
    {keeps : String → String → Bool}
    (hheaded : ∀ table, headed table = false → ∀ key, keeps table key = false)
    (hkept : ∀ part ∈ kept, part ∈ parts) (hwrite : writeParts kept config = .ok sections)
    {entries : Entries}
    (hentries : entries.outline = Written.outline (Written.only headed keeps sections))
    (target : Config) :
    readEntries entries target = .ok
      (kept.foldl (fun target part => (part.only (keeps part.name)).copy config target) target) := by
  induction kept generalizing sections entries target with
  | nil =>
    cases hwrite
    obtain rfl := List.map_eq_nil_iff.1 hentries
    rfl
  | cons part kept ih =>
    obtain ⟨values, later, hvalues, hlater, rfl⟩ := writeParts_cons_eq_ok_iff.1 hwrite
    have hmem := hkept part List.mem_cons_self
    have hkept := fun p hp => hkept p (List.mem_cons_of_mem _ hp)
    rw [List.foldl_cons]
    -- A section without its header is not read at all, and nothing is kept of it.
    cases hhere : headed part.name with
    | false =>
      rw [Written.only_cons_of_not_headed _ hhere] at hentries
      rw [funext (hheaded part.name hhere), (hlawful part hmem).none]
      exact ih hkept hlater hentries target
    | true =>
      rw [Written.only_cons_of_headed _ hhere] at hentries
      obtain ⟨⟨key, item⟩, rest, rfl, hentry, hrest⟩ := List.map_eq_cons_iff.1 hentries
      obtain ⟨hkey, hitem⟩ := Prod.mk.inj hentry
      have hfind : parts.find? (·.name == key.name) = some part := by
        rw [hkey]
        exact find?_name_of_nodup hnodup hmem
      rw [readEntries_cons, readEntry, hfind]
      dsimp only
      rw [(hlawful part hmem).read hvalues _ item hitem]
      exact ih hkept hlater hrest _

end Config

end TelemetryLink
