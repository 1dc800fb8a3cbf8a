import TelemetryLink.Toml.Syntax

/-!
# Integers that were read fit the format

Whatever text is read, every integer in the table that it describes is one that the format can
hold.

- `Item.InRange`: this, for an item with all its parts.
- `Reader.Yields`: all that a reader can find has a property.
- `inRange_of_parse`: the table of a text.
-/

namespace TelemetryLink.Toml

/-! ## Items -/

/-- An integer is one that the format can hold. -/
def Scalar.InRange : Scalar → Prop
  | integer value => Number.inRange value = true
  | _ => True

/-- All integers in an item are. -/
inductive Item.InRange : Item → Prop
  | scalar {value : Scalar} {extent : Extent} (h : value.InRange) : InRange (.scalar value extent)
  | array {elements : List Item} {extent : Extent} (h : ∀ item ∈ elements, InRange item) :
      InRange (.array elements extent)
  | table {origin : Origin} {entries : List (Key × Item)} {extent : Option Extent}
      (h : ∀ entry ∈ entries, InRange entry.2) : InRange (.table origin entries extent)
  | tables {elements : List Item} {extent : Extent} (h : ∀ item ∈ elements, InRange item) :
      InRange (.tables elements extent)

/-- All integers in a table are. -/
def Entries.InRange (entries : Entries) : Prop := ∀ entry ∈ entries, entry.2.InRange

/-! ## Readers -/

namespace Reader

variable {α β : Type} {P : α → Prop} {Q : β → Prop} {reader other : Reader α} {next : α → Reader β}

/-- All that a reader can find has a property. -/
def Yields (P : α → Prop) (reader : Reader α) : Prop :=
  ∀ cs a rest, reader cs = some (a, rest) → P a

namespace Yields

theorem pure {a : α} (h : P a) : Yields P (Pure.pure a) := by
  rintro cs _ _ ⟨⟩
  exact h

theorem failure : Yields P (Alternative.failure : Reader α) := nofun

/-- What is read last has the property, whatever was read first. -/
theorem bind (hreader : Yields P reader) (hnext : ∀ a, P a → Yields Q (next a)) :
    Yields Q (reader >>= next) := by
  intro cs b rest h
  obtain ⟨⟨a, front⟩, hread, hb⟩ := Option.bind_eq_some_iff.1 h
  exact hnext a (hreader cs a front hread) front b rest hb

/-- Nothing is known of what is read first. -/
theorem after (hnext : ∀ a, Yields Q (next a)) : Yields Q (reader >>= next) :=
  bind (P := fun _ => True) (fun _ _ _ _ => trivial) fun a _ => hnext a

theorem map {f : α → β} (h : ∀ a, P a → Q (f a)) (hreader : Yields P reader) :
    Yields Q (f <$> reader) :=
  bind hreader fun a ha => pure (h a ha)

theorem orElse (hreader : Yields P reader) (hother : Yields P other) :
    Yields P (reader.orElse other) := by
  intro cs a rest h
  rcases Option.or_eq_some_iff.1 h with h | ⟨-, h⟩
  · exact hreader cs a rest h
  · exact hother cs a rest h

theorem located (hreader : Yields P reader) : Yields (fun found => P found.1) reader.located := by
  intro cs found rest h
  obtain ⟨_, hread, hfound⟩ := Option.bind_eq_some_iff.1 h
  cases hfound
  exact hreader cs _ _ hread

end Yields

end Reader

open Reader

/-! ## Values without parts -/

namespace Number

theorem yields_checked (n : Int) : Yields Scalar.InRange (checked n) := by
  unfold checked
  split
  next h => exact .pure h
  next => exact .failure

theorem yields_integer : Yields Scalar.InRange integer :=
  .orElse (.after fun _ => .after fun _ => yields_checked _) <|
    .orElse (.after fun _ => .after fun _ => yields_checked _) <|
    .orElse (.after fun _ => .after fun _ => yields_checked _) (.after fun _ => yields_checked _)

theorem yields_decimalFloat : Yields Scalar.InRange decimalFloat := by
  unfold decimalFloat
  refine .after fun (negative, ds) => .after fun fraction => ?_
  have hvalue (power : Option Int) : Yields Scalar.InRange (do
      let fraction := fraction.getD []
      let value := Decimal.Binary64.ofDecimal negative (ofDigits 10 (ds ++ fraction))
        (power.getD 0 - fraction.length)
      if value = .infinite false then failure
      return .float value) := by
    dsimp only
    split
    next => exact .after fun _ => .pure trivial
    next => exact .pure trivial
  dsimp only
  split
  next => exact .after hvalue
  next => exact .after hvalue

theorem yields_specialFloat : Yields Scalar.InRange specialFloat :=
  .after fun _ => .orElse (.after fun _ => .pure trivial) (.after fun _ => .pure trivial)

theorem yields_read : Yields Scalar.InRange read :=
  .orElse yields_decimalFloat (.orElse yields_specialFloat yields_integer)

end Number

theorem yields_scalar : Yields Item.InRange scalar := by
  refine .bind (.located (P := Scalar.InRange) (.after fun c => ?_)) fun _ h => .pure (.scalar h)
  split
  next => exact .after fun _ => .pure trivial
  next => exact .after fun _ => .pure trivial
  next => exact .after fun _ => .pure trivial
  next => exact .after fun _ => .pure trivial
  next => exact .orElse (.after fun _ => .pure trivial) Number.yields_read

/-! ## Assembling tables -/

namespace Entries

variable {entries after : Entries} {key : Key}

/-- What may be put in place of an item, or of nothing. -/
def Keeps (change : Option Item → Option Item) : Prop :=
  (∀ item, change none = some item → item.InRange) ∧
    ∀ old item, old.InRange → change (some old) = some item → item.InRange

theorem inRange_nil : InRange [] := nofun

theorem inRange_cons {entry : Key × Item} :
    InRange (entry :: entries) ↔ entry.2.InRange ∧ entries.InRange :=
  List.forall_mem_cons

theorem inRange_update {change : Option Item → Option Item} (hchange : Keeps change)
    (hentries : entries.InRange) (h : update key change entries = some after) :
    after.InRange := by
  induction entries generalizing after with
  | nil =>
    obtain ⟨item, hitem, hafter⟩ := Option.bind_eq_some_iff.1 h
    cases hafter
    exact inRange_cons.2 ⟨hchange.1 item hitem, nofun⟩
  | cons entry entries ih =>
    obtain ⟨hentry, hentries⟩ := inRange_cons.1 hentries
    rw [update] at h
    split at h
    next =>
      obtain ⟨item, hitem, hafter⟩ := Option.bind_eq_some_iff.1 h
      cases hafter
      exact inRange_cons.2 ⟨hchange.2 _ item hentry hitem, hentries⟩
    next =>
      obtain ⟨rest, hrest, hafter⟩ := Option.bind_eq_some_iff.1 h
      cases hafter
      exact inRange_cons.2 ⟨hentry, ih hentries hrest⟩

theorem inRange_insertNew {item : Item} (hitem : item.InRange) (hentries : entries.InRange)
    (h : insertNew key item entries = some after) : after.InRange := by
  refine inRange_update ⟨?_, ?_⟩ hentries h
  · rintro _ ⟨⟩
    exact hitem
  · exact nofun

theorem inRange_onLast {change : Item → Option Item}
    (hchange : ∀ old item, old.InRange → change old = some item → item.InRange)
    {items items' : List Item} (hitems : ∀ item ∈ items, item.InRange)
    (h : onLast change items = some items') : ∀ item ∈ items', item.InRange := by
  induction items generalizing items' with
  | nil => cases h
  | cons item items ih =>
    obtain ⟨hitem, hitems⟩ := List.forall_mem_cons.1 hitems
    cases items with
    | nil =>
      obtain ⟨changed, hchanged, hitems'⟩ := Option.bind_eq_some_iff.1 h
      cases hitems'
      exact List.forall_mem_cons.2 ⟨hchange _ _ hitem hchanged, nofun⟩
    | cons next items =>
      obtain ⟨rest, hrest, hitems'⟩ := Option.bind_eq_some_iff.1 h
      cases hitems'
      exact List.forall_mem_cons.2 ⟨hitem, ih hitems hrest⟩

theorem inRange_descend {made : Origin} {enters : Origin → Bool}
    {change : Origin → Entries → Option Entries}
    (hchange : ∀ origin entries after, InRange entries → change origin entries = some after →
      after.InRange) (path : List Key) (origin : Origin)
    (hentries : entries.InRange) (h : descend made enters change path origin entries = some after) :
    after.InRange := by
  induction path generalizing origin entries after with
  | nil => exact hchange origin entries after hentries h
  | cons key path ih =>
    refine inRange_update ⟨?_, ?_⟩ hentries h
    · intro item h
      obtain ⟨inner, hinner, hitem⟩ := Option.bind_eq_some_iff.1 h
      cases hitem
      exact .table (ih made inRange_nil hinner)
    · intro old item hold h
      cases hold with
      | scalar => cases h
      | array => cases h
      | table hold =>
        dsimp only at h
        split at h
        next => cases h
        next =>
          obtain ⟨inner, hinner, hitem⟩ := Option.bind_eq_some_iff.1 h
          cases hitem
          exact .table (ih _ hold hinner)
      | tables hold =>
        obtain ⟨items, hitems, hitem⟩ := Option.bind_eq_some_iff.1 h
        cases hitem
        refine .tables (inRange_onLast ?_ hold hitems)
        intro old item hold h
        cases hold with
        | scalar => cases h
        | array => cases h
        | tables => cases h
        | table hold =>
          obtain ⟨inner, hinner, hitem⟩ := Option.bind_eq_some_iff.1 h
          cases hitem
          exact .table (ih _ hold hinner)

theorem inRange_assign {a : Assignment} (ha : a.value.InRange) (hentries : entries.InRange)
    (h : assign entries a = some after) : after.InRange := by
  refine inRange_descend ?_ a.path .header hentries h
  intro origin inner after hinner h
  split at h
  next => cases h
  next => exact inRange_insertNew ha hinner h

theorem inRange_assignAll {assignments : List Assignment} (h : ∀ a ∈ assignments, a.value.InRange)
    (hentries : entries.InRange) (hafter : assignAll assignments entries = some after) :
    after.InRange := by
  induction assignments generalizing entries with
  | nil =>
    cases hafter
    exact hentries
  | cons a assignments ih =>
    obtain ⟨ha, h⟩ := List.forall_mem_cons.1 h
    rw [assignAll, List.foldlM_cons] at hafter
    obtain ⟨next, hnext, hafter⟩ := Option.bind_eq_some_iff.1 hafter
    exact ih h (inRange_assign ha hentries hnext) hafter

theorem inRange_get? {name : String} {item : Item} (hentries : entries.InRange)
    (h : entries.get? name = some item) : item.InRange := by
  obtain ⟨entry, hentry, rfl⟩ := Option.map_eq_some_iff.1 h
  exact hentries entry (List.mem_of_find?_eq_some hentry)

/-- The table of a section, with what was there before. -/
theorem inRange_filled {s : Section} (hs : ∀ a ∈ s.assignments, a.value.InRange)
    (hentries : entries.InRange) {item : Item}
    (h : (do return .table .header (← assignAll s.assignments entries) (some s.extent)) =
      some item) : item.InRange := by
  obtain ⟨inner, hinner, hitem⟩ := Option.bind_eq_some_iff.1 h
  cases hitem
  exact .table (inRange_assignAll hs hentries hinner)

theorem inRange_place {s : Section} (hs : ∀ a ∈ s.assignments, a.value.InRange)
    (hentries : entries.InRange) (h : place s entries = some after) : after.InRange := by
  unfold place at h
  dsimp only at h
  split at h
  next =>
    refine inRange_update ⟨?_, ?_⟩ hentries h
    · intro item h
      obtain ⟨table, htab, hitem⟩ := Option.bind_eq_some_iff.1 h
      cases hitem
      exact .tables (List.forall_mem_cons.2 ⟨inRange_filled hs inRange_nil htab, nofun⟩)
    · intro old item hold h
      cases hold with
      | scalar => cases h
      | array => cases h
      | table => cases h
      | tables hold =>
        obtain ⟨table, htab, hitem⟩ := Option.bind_eq_some_iff.1 h
        cases hitem
        refine .tables fun item hmem => ?_
        rcases List.mem_append.1 hmem with hmem | hmem
        · exact hold item hmem
        · obtain rfl := List.mem_singleton.1 hmem
          exact inRange_filled hs inRange_nil htab
  next =>
    split at h
    next =>
      obtain ⟨table, htab, h⟩ := Option.bind_eq_some_iff.1 h
      exact inRange_insertNew (inRange_filled hs inRange_nil htab) hentries h
    next content _ hget =>
      obtain ⟨table, htab, hafter⟩ := Option.bind_eq_some_iff.1 h
      cases hafter
      have hcontent : InRange content := by
        cases inRange_get? hentries hget with
        | table h => exact h
      intro entry hmem
      rcases List.mem_append.1 hmem with hmem | hmem
      · exact hentries entry ((List.mem_filter.1 hmem).1)
      · obtain rfl := List.mem_singleton.1 hmem
        exact inRange_filled hs hcontent htab
    next => cases h

end Entries

/-- All integers in a statement are ones that the format can hold. -/
def Statement.InRange : Statement → Prop
  | assignment a => a.value.InRange
  | header _ => True

theorem Statement.inRange_group {statements : List Statement} (h : ∀ s ∈ statements, s.InRange) :
    (∀ a ∈ (group statements).1, a.value.InRange) ∧
      ∀ s ∈ (group statements).2, ∀ a ∈ s.assignments, a.value.InRange := by
  induction statements with
  | nil => exact ⟨nofun, nofun⟩
  | cons statement statements ih =>
    obtain ⟨hstatement, hstatements⟩ := List.forall_mem_cons.1 h
    obtain ⟨hassignments, hsections⟩ := ih hstatements
    cases statement with
    | assignment a => exact ⟨List.forall_mem_cons.2 ⟨hstatement, hassignments⟩, hsections⟩
    | header h => exact ⟨nofun, List.forall_mem_cons.2 ⟨hassignments, hsections⟩⟩

theorem Entries.inRange_ofStatements {statements : List Statement} {entries : Entries}
    (hstatements : ∀ s ∈ statements, s.InRange) (h : ofStatements statements = some entries) :
    entries.InRange := by
  obtain ⟨hassignments, hsections⟩ := Statement.inRange_group hstatements
  obtain ⟨first, hfirst, hentries⟩ := Option.bind_eq_some_iff.1 h
  replace hfirst := inRange_assignAll hassignments inRange_nil hfirst
  clear hassignments hstatements h
  generalize (Statement.group statements).2 = sections at *
  induction sections generalizing first with
  | nil =>
    cases hentries
    exact hfirst
  | cons s sections ih =>
    obtain ⟨hs, hsections⟩ := List.forall_mem_cons.1 hsections
    rw [List.foldlM_cons] at hentries
    obtain ⟨next, hnext, hentries⟩ := Option.bind_eq_some_iff.1 hentries
    have hnext := inRange_descend (fun _ _ _ hinner h => inRange_place hs hinner h) s.header.path
      .header hfirst hnext
    exact ih next hnext hsections hentries

/-! ## Values with parts -/

theorem yields_elements {element : Reader Item} (helement : Yields Item.InRange element) (n : Nat) :
    Yields (fun items => ∀ item ∈ items, item.InRange) (elements element n) := by
  induction n with
  | zero => exact .failure
  | succ n ih =>
    refine .after fun _ => .after fun c => ?_
    split
    next => exact .pure nofun
    next =>
      refine .bind helement fun item hitem => .after fun _ => .after fun c => ?_
      split
      next =>
        refine .after fun _ => .bind ih fun items hitems => .pure ?_
        exact List.forall_mem_cons.2 ⟨hitem, hitems⟩
      next => exact .pure (List.forall_mem_cons.2 ⟨hitem, nofun⟩)

theorem yields_assignment {value : Reader Item} (hvalue : Yields Item.InRange value) :
    Yields (fun a => a.value.InRange) (assignment value) :=
  .after fun (_, _) => .after fun _ => .after fun _ => .bind hvalue fun _ h => .pure h

theorem yields_assignments {value : Reader Item} (hvalue : Yields Item.InRange value) (n : Nat) :
    Yields (fun assignments => ∀ a ∈ assignments, a.value.InRange) (assignments value n) := by
  induction n with
  | zero => exact .failure
  | succ n ih =>
    refine .bind (yields_assignment hvalue) fun a ha => .after fun _ => .after fun c => ?_
    split
    next =>
      refine .after fun _ => .bind ih fun later hlater => .pure ?_
      exact List.forall_mem_cons.2 ⟨ha, hlater⟩
    next => exact .pure (List.forall_mem_cons.2 ⟨ha, nofun⟩)

theorem yields_bounded {α : Type} {P : α → Prop} {reader : Nat → Reader α}
    (h : ∀ n, Yields P (reader n)) : Yields P (bounded reader) :=
  fun cs a rest hread => h _ cs a rest hread

theorem yields_array {element : Reader Item} (helement : Yields Item.InRange element) :
    Yields Item.InRange (array element) := by
  have hitems : Yields (fun items => ∀ item ∈ items, item.InRange) (do
      exactly "["
      let items ← bounded (elements element)
      exactly "]"
      return items) :=
    .after fun _ => .bind (yields_bounded (yields_elements helement)) fun _ h =>
      .after fun _ => .pure h
  exact .bind hitems.located fun _ h => .pure (.array h)

theorem yields_inlineTable {value : Reader Item} (hvalue : Yields Item.InRange value) :
    Yields Item.InRange (inlineTable value) := by
  refine .bind (.located (P := Entries.InRange) ?_) fun _ h => .pure (.table h)
  refine .after fun _ => .after fun _ => .after fun c => ?_
  extract_lets assemble
  have hassemble (content : List Assignment) (h : ∀ a ∈ content, a.value.InRange) :
      Yields Entries.InRange (assemble content) := by
    refine .after fun _ => ?_
    split
    next hentries => exact .pure (Entries.inRange_assignAll h Entries.inRange_nil hentries)
    next => exact .failure
  split
  next => exact .bind (P := fun content => ∀ a ∈ content, a.value.InRange) (.pure nofun) hassemble
  next => exact .bind (yields_bounded (yields_assignments hvalue)) hassemble

theorem yields_valueOf {part : Option (Reader Item)}
    (hpart : ∀ reader, part = some reader → Yields Item.InRange reader) :
    Yields Item.InRange (valueOf part) := by
  refine .after fun c => ?_
  split
  next => exact yields_array (hpart _ rfl)
  next => exact yields_inlineTable (hpart _ rfl)
  next => exact yields_scalar

theorem yields_value (depth : Nat) : Yields Item.InRange (value depth) := by
  induction depth with
  | zero => exact yields_valueOf nofun
  | succ depth ih =>
    refine yields_valueOf ?_
    rintro _ ⟨⟩
    exact ih

/-! ## Texts -/

theorem yields_statement :
    Yields (fun statement => ∀ s ∈ statement, Statement.InRange s) statement := by
  refine .after fun c => ?_
  have hnone : Yields (fun statement => ∀ s ∈ statement, Statement.InRange s) (do
      trailer
      return none) := .after fun _ => .pure nofun
  split
  next => exact hnone
  next => exact hnone
  next => exact hnone
  next =>
    have hheader : Yields Statement.InRange header :=
      .after fun (_, _) => .after fun _ => .pure trivial
    refine .map (fun s h => ?_) hheader
    rintro _ ⟨⟩
    exact h
  next =>
    refine .bind (yields_assignment (yields_value maxNesting)) fun a ha => .after fun _ => .pure ?_
    rintro _ ⟨⟩
    exact ha

theorem yields_statements (n : Nat) :
    Yields (fun content => ∀ s ∈ content, Statement.InRange s) (statements n) := by
  induction n with
  | zero => exact .failure
  | succ n ih =>
    refine .after fun _ => .after fun c => ?_
    split
    next => exact .pure nofun
    next =>
      refine .bind yields_statement fun first hfirst => .bind ih fun later hlater => .pure ?_
      intro s hs
      rcases List.mem_append.1 hs with hs | hs
      · exact hfirst s (Option.mem_toList.1 hs)
      · exact hlater s hs

/-- Every integer of a text that can be read is one that the format can hold. -/
theorem inRange_of_parse {text : String} {entries : Entries} (h : parse text = some entries) :
    entries.InRange := by
  have hwhole : Yields (fun content => ∀ s ∈ content, Statement.InRange s) (do
      let _ ← Reader.optional (exactly "\uFEFF")
      bounded statements) := .after fun _ => yields_bounded yields_statements
  obtain ⟨⟨content, rest⟩, hcontent, hentries⟩ := Option.bind_eq_some_iff.1 h
  exact Entries.inRange_ofStatements (hwhole _ content rest hcontent) hentries

end TelemetryLink.Toml
