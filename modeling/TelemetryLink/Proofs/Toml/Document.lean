import TelemetryLink.Proofs.Toml.Assembly
import TelemetryLink.Proofs.Toml.Number
import TelemetryLink.Proofs.Toml.QuotedText
import TelemetryLink.Toml.Syntax

/-!
# Sections are read as they were written

A text of sections is read as one table for each section, with the values of the section under its
keys.

- `Entries.outline`: tables of values without the places where they stand.
- `statement_line`, `statement_header`: the lines that a section is written in.
- `reads_section`: a header, and the assignments under it.
- `parse_of_reads`: what is read of a text of plain sections with different keys.
-/

namespace TelemetryLink.Toml

open Reader

variable {rest : List Char} {name : String} {w : Written}

/-! ## Values -/

/-- The value that is written. -/
def Written.scalar : Written → Scalar
  | string value => .string value
  | integer value => .integer value
  | boolean value => .boolean value

/-- The format can hold the value. -/
def Written.Fits : Written → Prop
  | string _ => True
  | integer value => Number.inRange value = true
  | boolean _ => True

/-- The value of an item without parts. -/
def Item.scalar? : Item → Option Scalar
  | .scalar value _ => some value
  | _ => none

theorem Item.eq_scalar {item : Item} {value : Scalar} (h : item.scalar? = some value) :
    ∃ extent, item = .scalar value extent := by
  cases item with
  | scalar value' extent => exact ⟨extent, congrArg (Item.scalar · extent) (Option.some.inj h)⟩
  | _ => cases h

/-- An integer starts with its sign or with a digit. -/
theorem Number.integerText_eq_cons (n : Int) :
    ∃ c cs, Written.integerText n = c :: cs ∧ (c = '-' ∨ c.isDigit = true) := by
  unfold Written.integerText
  split
  next => exact ⟨_, _, rfl, .inl rfl⟩
  next =>
    rcases hds : Nat.toDigits 10 n.natAbs with _ | ⟨d, ds⟩
    · exact absurd hds Nat.toDigits_ne_nil
    · exact ⟨d, ds, rfl, .inr (Number.isDigit_toDigits n.natAbs d (hds ▸ List.mem_cons_self))⟩

/-- What a value starts with is neither a blank nor the mark of an array or a table. -/
theorem Written.text_eq_cons (w : Written) :
    ∃ c cs, w.text = c :: cs ∧ isBlank c = false ∧ c ≠ '[' ∧ c ≠ '\x7b' := by
  cases w with
  | string value =>
    rcases QuotedText.head?_write value.toList with h | h
    · obtain ⟨cs, h⟩ := List.head?_eq_some_iff.1 h
      exact ⟨_, cs, h, by decide⟩
    · obtain ⟨cs, h⟩ := List.head?_eq_some_iff.1 h
      exact ⟨_, cs, h, by decide⟩
  | integer n =>
    obtain ⟨c, cs, h, hc⟩ := Number.integerText_eq_cons n
    refine ⟨c, cs, h, ?_⟩
    rcases hc with rfl | hc
    · decide
    · refine ⟨Bool.eq_false_iff.2 fun hblank => ?_, ?_, ?_⟩
      · rw [isBlank, Bool.or_eq_true, beq_iff_eq, beq_iff_eq] at hblank
        rcases hblank with rfl | rfl
        · cases hc
        · cases hc
      · rintro rfl
        cases hc
      · rintro rfl
        cases hc
  | boolean value =>
    cases value with
    | true => exact ⟨_, _, rfl, by decide⟩
    | false => exact ⟨_, _, rfl, by decide⟩

/-- A value at the end of its line is read. -/
theorem scalar_text (hw : w.Fits) (rest : List Char) :
    ∃ extent, scalar (w.text ++ '\n' :: rest) = some (.scalar w.scalar extent, '\n' :: rest) := by
  refine exists_located_bind (a := w.scalar) ?_ fun _ => rfl
  rw [peek_bind]
  cases w with
  | string value =>
    have hvalue := map_eq (f := Scalar.string)
      (QuotedText.read_write value.toList ('\n' :: rest) (by simp) (by simp))
    rw [String.ofList_toList] at hvalue
    rw [Written.text, List.head?_append]
    rcases QuotedText.head?_write value.toList with h | h
    · rw [h]
      exact hvalue
    · rw [h]
      exact hvalue
  | integer n =>
    have hnumber := (orElse_eq_right (DateTime.read_integerText n)).trans
      (Number.read_integerText hw rest)
    obtain ⟨c, cs, h, hc⟩ := Number.integerText_eq_cons n
    have hother {d : Char} (hd : d ≠ '-' ∧ d.isDigit = false) :
        (Written.integerText n ++ '\n' :: rest).head? ≠ some d := by
      rw [h]
      rintro ⟨⟩
      simp [hd] at hc
    have hdouble := hother (d := '"') (by decide)
    have hsingle := hother (d := '\'') (by decide)
    have htrue := hother (d := 't') (by decide)
    have hfalse := hother (d := 'f') (by decide)
    rw [Written.text]
    simp only
    exact hnumber
  | boolean value =>
    cases value with
    | true => exact bind_eq (exactly_append "true" _)
    | false => exact bind_eq (exactly_append "false" _)

/-- Only arrays and tables have parts. -/
theorem valueOf_eq_scalar {cs : List Char} (harray : cs.head? ≠ some '[')
    (htable : cs.head? ≠ some '\x7b') (part : Option (Reader Item)) :
    valueOf part cs = scalar cs := by
  rw [valueOf, peek_bind]
  simp [harray, htable]

theorem value_text (hw : w.Fits) (depth : Nat) (rest : List Char) :
    ∃ extent, value depth (w.text ++ '\n' :: rest) =
      some (.scalar w.scalar extent, '\n' :: rest) := by
  obtain ⟨extent, hscalar⟩ := scalar_text hw rest
  obtain ⟨c, cs, htext, -, harray, htable⟩ := w.text_eq_cons
  refine ⟨extent, ?_⟩
  rw [← hscalar, htext]
  have harray : (c :: cs ++ '\n' :: rest).head? ≠ some '[' := fun h => harray (Option.some.inj h)
  have htable : (c :: cs ++ '\n' :: rest).head? ≠ some '\x7b' := fun h =>
    htable (Option.some.inj h)
  cases depth with
  | zero => exact valueOf_eq_scalar harray htable none
  | succ depth => exact valueOf_eq_scalar harray htable (some (value depth))

/-! ## Keys -/

/-- A key that is written without quotes. -/
def Bare (name : String) : Prop :=
  name.toList ≠ [] ∧ ∀ c ∈ name.toList, isBareKeyChar c = true

theorem bare_iff : Bare name ↔ (!name.toList.isEmpty && name.toList.all isBareKeyChar) = true := by
  simp [Bare]

instance (name : String) : Decidable (Bare name) :=
  decidable_of_iff _ bare_iff.symm

/-- The first character of a key says what it is. -/
theorem Bare.toList_eq_cons (h : Bare name) :
    ∃ c cs, name.toList = c :: cs ∧ isBareKeyChar c = true := by
  obtain ⟨hsome, hall⟩ := h
  rcases hname : name.toList with _ | ⟨c, cs⟩
  · exact absurd hname hsome
  · exact ⟨c, cs, rfl, hall c (hname ▸ List.mem_cons_self)⟩

/-- A character that may not stand in a key is not the first of one. -/
theorem Bare.head?_ne (h : Bare name) {c : Char} (hc : isBareKeyChar c = false) (cs : List Char) :
    (name.toList ++ cs).head? ≠ some c := by
  obtain ⟨d, ds, hname, hd⟩ := h.toList_eq_cons
  rw [hname]
  rintro ⟨⟩
  rw [hc] at hd
  cases hd

/-- No blank stands in front of a key. -/
theorem Bare.blanks_append (h : Bare name) (cs : List Char) :
    blanks (name.toList ++ cs) = some ((), name.toList ++ cs) := by
  obtain ⟨c, after, hname, hc⟩ := h.toList_eq_cons
  rw [hname]
  refine blanks_cons (Bool.eq_false_iff.2 fun hblank => ?_) _
  rw [isBlank, Bool.or_eq_true, beq_iff_eq, beq_iff_eq] at hblank
  rcases hblank with rfl | rfl
  · cases hc
  · cases hc

theorem key_bare (h : Bare name) (hrest : ∀ c ∈ rest.head?, isBareKeyChar c = false) :
    ∃ extent, key (name.toList ++ rest) = some (⟨name, extent⟩, rest) := by
  refine exists_located_bind (a := name) ?_ fun _ => rfl
  have hdouble := h.head?_ne (c := '"') (by decide) rest
  have hsingle := h.head?_ne (c := '\'') (by decide) rest
  rw [peek_bind]
  simp only
  rw [bind_eq (takeWhile_append _ h.2 hrest), if_neg (by simpa using h.1), String.ofList_toList]
  rfl

/-- A key without dots, with what stands behind it up to a mark. -/
theorem keys_bare (h : Bare name) {behind after : List Char} {mark : Char}
    (hbehind : ∀ c ∈ behind.head?, isBareKeyChar c = false)
    (hblanks : blanks behind = some ((), mark :: after)) (hmark : mark ≠ '.') (n : Nat) :
    ∃ extent, keys (n + 1) (name.toList ++ behind) =
      some (([], ⟨name, extent⟩), mark :: after) := by
  obtain ⟨extent, hkey⟩ := key_bare h hbehind
  refine ⟨extent, ?_⟩
  have hmark : (mark :: after).head? ≠ some '.' := fun h => hmark (Option.some.inj h)
  rw [keys, bind_eq (h.blanks_append behind), bind_eq hkey, bind_eq hblanks, peek_bind]
  simp only
  rfl

/-! ## Lines -/

/-- An assignment in a line of its own. -/
theorem assignment_line (hname : Bare name) (hw : w.Fits) (rest : List Char) :
    ∃ a : Assignment, a.path = [] ∧ a.key.name = name ∧ a.value.scalar? = some w.scalar ∧
      assignment (value maxNesting) (Written.line name w ++ rest) = some (a, '\n' :: rest) := by
  obtain ⟨extent, hvalue⟩ := value_text hw maxNesting rest
  obtain ⟨c, cs, htext, hc, -⟩ := w.text_eq_cons
  have hline : Written.line name w ++ rest =
      name.toList ++ ' ' :: '=' :: ' ' :: (w.text ++ '\n' :: rest) := by
    simp [Written.line]
  have hspace : blanks (' ' :: '=' :: ' ' :: (w.text ++ '\n' :: rest)) = some ((), _) :=
    blanks_space (by decide) _
  obtain ⟨place, hkeys⟩ := keys_bare hname (by rintro _ ⟨⟩; rfl) hspace (by decide) 78
  have hequals : exactly "=" ('=' :: ' ' :: (w.text ++ '\n' :: rest)) =
      some ((), ' ' :: (w.text ++ '\n' :: rest)) := exactly_append "=" _
  have hblanks : blanks (' ' :: (w.text ++ '\n' :: rest)) = some ((), w.text ++ '\n' :: rest) := by
    rw [htext]
    exact blanks_space hc _
  refine ⟨⟨[], ⟨name, place⟩, .scalar w.scalar extent⟩, rfl, rfl, rfl, ?_⟩
  rw [hline, assignment, maxKeys, bind_eq hkeys]
  dsimp only
  rw [bind_eq hequals, bind_eq hblanks, bind_eq hvalue]
  rfl

theorem statement_line (hname : Bare name) (hw : w.Fits) (rest : List Char) :
    ∃ a : Assignment, a.path = [] ∧ a.key.name = name ∧ a.value.scalar? = some w.scalar ∧
      statement (Written.line name w ++ rest) = some (some (.assignment a), rest) := by
  obtain ⟨a, hpath, hkey, hvalue, hassignment⟩ := assignment_line hname hw rest
  refine ⟨a, hpath, hkey, hvalue, ?_⟩
  have hother {c : Char} (hc : isBareKeyChar c = false) :
      (Written.line name w ++ rest).head? ≠ some c := by
    rw [Written.line, List.append_assoc, List.append_assoc, List.append_assoc]
    exact hname.head?_ne hc _
  have hcomment := hother (c := '#') (by decide)
  have hline := hother (c := '\n') (by decide)
  have hreturn := hother (c := '\r') (by decide)
  have hheader := hother (c := '[') (by decide)
  rw [statement, peek_bind]
  simp only
  rw [bind_eq hassignment, bind_eq (trailer_newline rest)]
  rfl

/-- A header in a line of its own. -/
theorem statement_header (hname : Bare name) (rest : List Char) :
    ∃ h : Header, h.path = [] ∧ h.key.name = name ∧ h.repeated = false ∧
      statement ('[' :: (name.toList ++ ']' :: '\n' :: rest)) = some (some (.header h), rest) := by
  have hblanks : blanks (']' :: '\n' :: rest) = some ((), _) := blanks_cons (by decide) _
  obtain ⟨place, hkeys⟩ := keys_bare hname (by rintro _ ⟨⟩; rfl) hblanks (by decide) 78
  have hsingle : (name.toList ++ ']' :: '\n' :: rest).head? ≠ some '[' :=
    hname.head?_ne (by decide) _
  have hopen : exactly "[" ('[' :: (name.toList ++ ']' :: '\n' :: rest)) =
      some ((), name.toList ++ ']' :: '\n' :: rest) := exactly_append "[" _
  have hclose : exactly "]" (']' :: '\n' :: rest) = some ((), '\n' :: rest) :=
    exactly_append "]" _
  obtain ⟨extent, hheader⟩ : ∃ extent, header ('[' :: (name.toList ++ ']' :: '\n' :: rest)) =
      some (.header ⟨[], ⟨name, place⟩, false, extent⟩, rest) := by
    refine exists_located_bind (a := ([], ⟨name, place⟩, false)) ?_ fun _ =>
      bind_eq (trailer_newline rest)
    rw [bind_eq hopen, peek_bind, beq_eq_false_iff_ne.2 hsingle]
    dsimp only
    rw [if_neg Bool.false_ne_true, maxKeys, bind_eq hkeys]
    dsimp only
    rw [bind_eq hclose, if_neg Bool.false_ne_true]
    rfl
  exact ⟨⟨[], ⟨name, place⟩, false, extent⟩, rfl, rfl, rfl, map_eq hheader⟩

/-! ## Statements -/

/-- A text of whole lines has these statements. -/
def Reads (cs : List Char) (content : List Statement) : Prop :=
  ∀ n, cs.length < n → statements n cs = some (content, [])

namespace Reads

variable {cs : List Char} {first : Option Statement} {later : List Statement}

theorem nil : Reads [] [] := by
  intro n hn
  obtain ⟨n, rfl⟩ := Nat.exists_eq_succ_of_ne_zero (Nat.ne_of_gt hn)
  rfl

/-- One line, and the lines behind it. -/
theorem cons (hsome : cs ≠ []) (hblanks : blanks cs = some ((), cs))
    (hfirst : statement cs = some (first, rest)) (hlt : rest.length < cs.length)
    (hrest : Reads rest later) : Reads cs (first.toList ++ later) := by
  intro n hn
  obtain ⟨n, rfl⟩ := Nat.exists_eq_succ_of_ne_zero (Nat.ne_of_gt (Nat.zero_lt_of_lt hn))
  have hlater := hrest n (by omega)
  have hhead : cs.head? ≠ none := mt List.head?_eq_none_iff.1 hsome
  rw [statements, bind_eq hblanks, peek_bind]
  simp only
  rw [bind_eq hfirst, bind_eq hlater]
  rfl

/-- An empty line says nothing. -/
theorem blank (hrest : Reads rest later) : Reads ('\n' :: rest) later := by
  have hstatement : statement ('\n' :: rest) = some (none, rest) := by
    rw [statement, peek_bind]
    exact bind_eq (trailer_newline rest)
  exact cons (List.cons_ne_nil _ _) (blanks_cons (by decide) rest) hstatement (Nat.lt_succ_self _)
    hrest

end Reads

/-- The name and the value of an assignment. -/
def Assignment.named (a : Assignment) : String × Option Scalar := (a.key.name, a.value.scalar?)

/-- A name with a value that is written. -/
def Written.named (v : String × Written) : String × Option Scalar := (v.1, some v.2.scalar)

theorem reads_lines {values : List (String × Written)} {later : List Statement}
    (hvalues : ∀ v ∈ values, Bare v.1 ∧ v.2.Fits) (hrest : Reads rest later) :
    ∃ assignments : List Assignment, (∀ a ∈ assignments, a.path = []) ∧
      assignments.map Assignment.named = values.map Written.named ∧
      Reads (values.flatMap (fun (name, value) => Written.line name value) ++ rest)
        (assignments.map .assignment ++ later) := by
  induction values with
  | nil => exact ⟨[], nofun, rfl, hrest⟩
  | cons v values ih =>
    obtain ⟨assignments, hpaths, hnamed, hreads⟩ :=
      ih fun u hu => hvalues u (List.mem_cons_of_mem _ hu)
    obtain ⟨hname, hw⟩ := hvalues v List.mem_cons_self
    obtain ⟨a, hpath, hkey, hvalue, hline⟩ := statement_line hname hw
      (values.flatMap (fun (name, value) => Written.line name value) ++ rest)
    refine ⟨a :: assignments, ?_, ?_, ?_⟩
    · intro b hb
      rcases List.mem_cons.1 hb with rfl | hb
      · exact hpath
      · exact hpaths b hb
    · rw [List.map_cons, List.map_cons, hnamed, Assignment.named, hkey, hvalue]
      rfl
    · rw [List.flatMap_cons, List.append_assoc]
      refine Reads.cons ?_ ?_ hline ?_ hreads
      · simp [Written.line]
      · simpa [Written.line] using hname.blanks_append _
      · simp [Written.line]
        omega

/-- A header, and the assignments under it. -/
theorem reads_section {values : List (String × Written)} {later : List Statement}
    (hname : Bare name) (hvalues : ∀ v ∈ values, Bare v.1 ∧ v.2.Fits)
    (hnodup : (values.map (·.1)).Nodup) (hrest : Reads rest later) :
    ∃ s : Section, s.Plain ∧ s.header.key.name = name ∧
      s.assignments.map Assignment.named = values.map Written.named ∧
      Reads (Written.sectionText name values ++ rest) (s.statements ++ later) := by
  obtain ⟨assignments, hpaths, hnamed, hreads⟩ := reads_lines hvalues hrest
  obtain ⟨h, hpath, hkey, hrepeated, hheader⟩ := statement_header hname
    (values.flatMap (fun (name, value) => Written.line name value) ++ rest)
  have hnames : assignments.map (·.key.name) = values.map (·.1) := by
    simpa [Assignment.named, Written.named, Function.comp_def] using
      congrArg (List.map Prod.fst) hnamed
  refine ⟨⟨h, assignments⟩, ⟨hpath, hrepeated, hpaths, hnames ▸ hnodup⟩, hkey, hnamed, ?_⟩
  have htext : Written.sectionText name values ++ rest = '[' :: (name.toList ++ ']' :: '\n' ::
      (values.flatMap (fun (name, value) => Written.line name value) ++ rest)) := by
    simp [Written.sectionText]
  rw [htext]
  refine Reads.cons (List.cons_ne_nil _ _) (blanks_cons (by decide) _) hheader ?_ hreads
  simp
  omega

/-! ## Documents -/

/-- Sections that can be read back: all keys are bare, keys of one table are different, and the
format can hold the values. -/
structure Written.Plain (sections : List (String × List (String × Written))) : Prop where
  /-- The keys of the sections. -/
  bare : ∀ s ∈ sections, Bare s.1
  /-- The keys of the sections are different. -/
  nodup : (sections.map (·.1)).Nodup
  /-- The keys and values in the sections. -/
  values : ∀ s ∈ sections, ∀ v ∈ s.2, Bare v.1 ∧ v.2.Fits
  /-- The keys in each section are different. -/
  values_nodup : ∀ s ∈ sections, (s.2.map (·.1)).Nodup

/-- The names and values of a table, if it is one. -/
def Item.named? : Item → Option (List (String × Option Scalar))
  | .table _ entries _ => some (entries.map fun entry => (entry.1.name, entry.2.scalar?))
  | _ => none

theorem Item.eq_table {item : Item} {named : List (String × Option Scalar)}
    (h : item.named? = some named) :
    ∃ origin entries extent, item = .table origin entries extent ∧
      entries.map (fun entry => (entry.1.name, entry.2.scalar?)) = named := by
  cases item with
  | table origin entries extent => exact ⟨origin, entries, extent, rfl, Option.some.inj h⟩
  | _ => cases h

/-- A table of tables without the places where everything stands. -/
def Entries.outline (entries : Entries) :
    List (String × Option (List (String × Option Scalar))) :=
  entries.map fun entry => (entry.1.name, entry.2.named?)

/-- Sections in the same form. -/
def Written.outline (sections : List (String × List (String × Written))) :
    List (String × Option (List (String × Option Scalar))) :=
  sections.map fun s => (s.1, some (s.2.map Written.named))

theorem Section.named?_entry (s : Section) :
    s.entry.2.named? = some (s.assignments.map Assignment.named) := by
  simp [Section.entry, Item.named?, Assignment.named, Function.comp_def]

/-- An empty line stands between two sections. -/
theorem Written.document_cons (s : String × List (String × Written))
    (sections : List (String × List (String × Written))) :
    document (s :: sections) =
      sectionText s.1 s.2 ++ (if sections = [] then [] else '\n' :: document sections) := by
  cases sections with
  | nil => simp [document, List.intercalate]
  | cons t sections => simp [document, List.intercalate]

/-- A text of plain sections with different keys is read as their tables. -/
theorem parse_of_reads {cs : List Char} {content : List Section} (hcontent : ∀ s ∈ content, s.Plain)
    (hnodup : (content.map (·.header.key.name)).Nodup)
    (hreads : Reads cs (content.flatMap Section.statements)) (hmark : cs.head? ≠ some '\uFEFF') :
    parse (String.ofList cs) = some (content.map Section.entry) := by
  have hentries := Entries.ofStatements_sections hcontent hnodup
  have hnone : exactly "\uFEFF" cs = none := by
    refine exactly_eq_none ?_
    rintro ⟨after, rfl⟩
    exact hmark rfl
  have hstatements : bounded statements cs = some (content.flatMap Section.statements, []) :=
    hreads _ (Nat.lt_succ_self _)
  have hwhole : (do
      let _ ← Reader.optional (exactly "\uFEFF")
      bounded statements : Reader (List Statement)) cs =
      some (content.flatMap Section.statements, []) := by
    rw [bind_eq (optional_eq_none hnone), hstatements]
  unfold parse
  rw [String.toList_ofList]
  dsimp only
  rw [hwhole]
  exact hentries

/-- The keys of sections, from their outline. -/
theorem names_of_outline {content : List Section}
    {sections : List (String × List (String × Written))}
    (h : Entries.outline (content.map Section.entry) = Written.outline sections) :
    content.map (·.header.key.name) = sections.map (·.1) := by
  simpa [Entries.outline, Written.outline, Section.entry, Function.comp_def] using
    congrArg (List.map Prod.fst) h

end TelemetryLink.Toml
