import TelemetryLink.Proofs.Toml.Document

/-!
# Documents with parts taken away

A document is made of headers, of lines with a value each, and of empty lines. Some of these may be
taken away: what is left is read as the tables and values that are left, as long as no line lost the
header of its table.

- `Written.Piece`, `Written.pieces`: what a document is made of.
- `Written.only`: the sections with some of their values.
- `parse_pieces`: what is read of some of the pieces.
- `parse_document`: what is read is what was written, if the keys are bare and different.
-/

namespace TelemetryLink

/-- Of elements with different keys a sublist has those whose keys it has. -/
theorem eq_filter_of_sublist {α β : Type} {key : α → β} {kept l : List α} (h : kept.Sublist l)
    (hnodup : (l.map key).Nodup) {p : α → Bool}
    (hp : ∀ x ∈ l, p x = true ↔ key x ∈ kept.map key) : kept = l.filter p := by
  induction h with
  | slnil => rfl
  | cons x h ih =>
    obtain ⟨hx, hnodup⟩ := List.nodup_cons.1 hnodup
    have hnot : p x ≠ true := fun hpx =>
      hx ((h.map key).subset ((hp x List.mem_cons_self).1 hpx))
    rw [List.filter_cons_of_neg hnot]
    exact ih hnodup fun y hy => hp y (List.mem_cons_of_mem _ hy)
  | cons_cons x h ih =>
    obtain ⟨hx, hnodup⟩ := List.nodup_cons.1 hnodup
    rw [List.filter_cons_of_pos ((hp x List.mem_cons_self).2 List.mem_cons_self)]
    refine congrArg (x :: ·) (ih hnodup fun y hy => ?_)
    have hne : key y ≠ key x := fun hkey => hx (hkey ▸ List.mem_map_of_mem hy)
    rw [hp y (List.mem_cons_of_mem _ hy), List.map_cons, List.mem_cons, or_iff_right hne]

namespace Toml

namespace Written

/-! ## The pieces of a document -/

/-- A piece of a document. -/
inductive Piece where
  /-- The header of a table. -/
  | header (table : String)
  /-- The line of a value in a table. -/
  | line (table key : String) (value : Written)
  /-- The empty line between two sections. -/
  | blank
  deriving DecidableEq, Repr

namespace Piece

/-- The text of a piece. -/
def text : Piece → List Char
  | header table => '[' :: table.toList ++ [']', '\n']
  | line _ key value => Written.line key value
  | blank => ['\n']

/-- The table that a piece belongs to. -/
def table? : Piece → Option String
  | header table => some table
  | line table _ _ => some table
  | blank => none

/-- Whether a piece is the line of this key in this table. -/
def assigns (table key : String) : Piece → Bool
  | line t k _ => t == table && k == key
  | _ => false

theorem assigns_eq_true_iff {table key : String} {piece : Piece} :
    piece.assigns table key = true ↔ ∃ value, piece = line table key value := by
  cases piece with
  | line t k value => simp [assigns]
  | header t => simp [assigns]
  | blank => simp [assigns]

end Piece

/-- The pieces of a section. -/
def sectionPieces (table : String) (values : List (String × Written)) : List Piece :=
  .header table :: values.map fun v => .line table v.1 v.2

theorem table?_of_mem_sectionPieces {piece : Piece} {table : String}
    {values : List (String × Written)} (h : piece ∈ sectionPieces table values) :
    piece.table? = some table := by
  rcases List.mem_cons.1 h with rfl | h
  · rfl
  · obtain ⟨v, -, rfl⟩ := List.mem_map.1 h
    rfl

/-- The pieces of a document. -/
def pieces (sections : List (String × List (String × Written))) : List Piece :=
  [.blank].intercalate (sections.map fun s => sectionPieces s.1 s.2)

theorem pieces_cons (s : String × List (String × Written))
    (sections : List (String × List (String × Written))) :
    pieces (s :: sections) =
      sectionPieces s.1 s.2 ++ (if sections = [] then [] else .blank :: pieces sections) := by
  cases sections with
  | nil => simp [pieces, List.intercalate]
  | cons t sections => simp [pieces, List.intercalate]

theorem text_sectionPieces (table : String) (values : List (String × Written)) :
    (sectionPieces table values).flatMap Piece.text = sectionText table values := by
  rw [sectionPieces, List.flatMap_cons, List.flatMap_map]
  rfl

/-- A document is the text of its pieces. -/
theorem document_eq_pieces (sections : List (String × List (String × Written))) :
    document sections = (pieces sections).flatMap Piece.text := by
  induction sections with
  | nil => rfl
  | cons s sections ih =>
    rw [document_cons, pieces_cons, List.flatMap_append, text_sectionPieces, ih]
    split
    · rfl
    · rfl

/-- The pieces with one more empty line, in front of the first section. -/
def spaced (sections : List (String × List (String × Written))) : List Piece :=
  sections.flatMap fun s => .blank :: sectionPieces s.1 s.2

theorem spaced_cons (s : String × List (String × Written))
    (sections : List (String × List (String × Written))) :
    spaced (s :: sections) = .blank :: pieces (s :: sections) := by
  induction sections generalizing s with
  | nil => simp [spaced, pieces, List.intercalate]
  | cons t sections ih =>
    have hlater := ih t
    rw [spaced] at hlater ⊢
    rw [List.flatMap_cons, hlater, pieces_cons s, if_neg (List.cons_ne_nil _ _)]
    rfl

theorem pieces_sublist_spaced (sections : List (String × List (String × Written))) :
    (pieces sections).Sublist (spaced sections) := by
  cases sections with
  | nil => exact .slnil
  | cons s sections =>
    rw [spaced_cons]
    exact List.sublist_cons_self _ _

/-- The pieces of sections name no other tables. -/
theorem mem_names_of_table? {piece : Piece} {table : String}
    {sections : List (String × List (String × Written))} (hpiece : piece ∈ spaced sections)
    (htable : piece.table? = some table) : table ∈ sections.map (·.1) := by
  obtain ⟨s, hs, hpiece⟩ := List.mem_flatMap.1 hpiece
  rcases List.mem_cons.1 hpiece with rfl | hpiece
  · cases htable
  · rw [table?_of_mem_sectionPieces hpiece] at htable
    cases htable
    exact List.mem_map_of_mem hs

/-- Every line is that of a value of a section. -/
theorem exists_section_of_line {table key : String} {value : Written}
    {sections : List (String × List (String × Written))}
    (h : .line table key value ∈ spaced sections) :
    ∃ s ∈ sections, s.1 = table ∧ (key, value) ∈ s.2 := by
  obtain ⟨s, hs, hpiece⟩ := List.mem_flatMap.1 h
  obtain ⟨v, hv, hline⟩ : ∃ v ∈ s.2, Piece.line s.1 v.1 v.2 = .line table key value := by
    simpa [sectionPieces] using hpiece
  cases hline
  exact ⟨s, hs, rfl, hv⟩

/-- A document has the pieces of all its sections. -/
theorem sectionPieces_subset {s : String × List (String × Written)}
    {sections : List (String × List (String × Written))} (hs : s ∈ sections) :
    sectionPieces s.1 s.2 ⊆ pieces sections := by
  induction sections with
  | nil => cases hs
  | cons t sections ih =>
    rw [pieces_cons]
    intro piece hpiece
    rcases List.mem_cons.1 hs with rfl | hs
    · exact List.mem_append_left _ hpiece
    · rw [if_neg (List.ne_nil_of_mem hs)]
      exact List.mem_append_right _ (List.mem_cons_of_mem _ (ih hs hpiece))

/-! ## What is left -/

/-- Whether the header of a table is left. -/
def headed (kept : List Piece) (table : String) : Bool := decide (.header table ∈ kept)

/-- Whether the line of a key in a table is left. -/
def keeps (kept : List Piece) (table key : String) : Bool := kept.any (Piece.assigns table key)

/-- Every line that is left has the header of its table. -/
def Headed (kept : List Piece) : Prop :=
  ∀ table key value, .line table key value ∈ kept → .header table ∈ kept

/-- Some of the sections, with some of their values. -/
def only (headed : String → Bool) (keeps : String → String → Bool)
    (sections : List (String × List (String × Written))) :
    List (String × List (String × Written)) :=
  (sections.filter fun s => headed s.1).map fun s => (s.1, s.2.filter fun v => keeps s.1 v.1)

section Only

variable {headed : String → Bool} {keeps : String → String → Bool}
  {s : String × List (String × Written)} (sections : List (String × List (String × Written)))

theorem only_cons_of_headed (h : headed s.1 = true) :
    only headed keeps (s :: sections) =
      (s.1, s.2.filter fun v => keeps s.1 v.1) :: only headed keeps sections := by
  rw [only, only, List.filter_cons_of_pos (by exact h), List.map_cons]

theorem only_cons_of_not_headed (h : headed s.1 = false) :
    only headed keeps (s :: sections) = only headed keeps sections := by
  rw [only, only, List.filter_cons_of_neg (by exact Bool.eq_false_iff.1 h)]

end Only

theorem only_congr {headed headed' : String → Bool} {keeps keeps' : String → String → Bool}
    {sections : List (String × List (String × Written))}
    (hheaded : ∀ s ∈ sections, headed s.1 = headed' s.1)
    (hkeeps : ∀ s ∈ sections, keeps s.1 = keeps' s.1) :
    only headed keeps sections = only headed' keeps' sections := by
  rw [only, only, List.filter_congr hheaded]
  refine List.map_congr_left fun s hs => ?_
  rw [hkeeps s (List.mem_filter.1 hs).1]

/-- Where everything is left, the sections are as they were. -/
theorem only_eq_self {headed : String → Bool} {keeps : String → String → Bool}
    {sections : List (String × List (String × Written))}
    (hheaded : ∀ s ∈ sections, headed s.1 = true)
    (hkeeps : ∀ s ∈ sections, ∀ v ∈ s.2, keeps s.1 v.1 = true) :
    only headed keeps sections = sections := by
  rw [only, List.filter_eq_self.2 hheaded]
  refine (List.map_congr_left fun s hs => ?_).trans (List.map_id sections)
  rw [List.filter_eq_self.2 (hkeeps s hs), id]

variable {kept front later : List Piece} {table : String}

theorem headed_append (front later : List Piece) (table : String) :
    headed (front ++ later) table = (headed front table || headed later table) := by
  rw [headed, headed, headed, ← Bool.decide_or]
  exact decide_eq_decide.2 List.mem_append

theorem keeps_append (front later : List Piece) (table key : String) :
    keeps (front ++ later) table key = (keeps front table key || keeps later table key) :=
  List.any_append

/-- Pieces of other tables are no header of this one, and no lines in it. -/
theorem headed_eq_false (h : ∀ piece ∈ kept, piece.table? ≠ some table) :
    headed kept table = false :=
  decide_eq_false fun hmem => h _ hmem rfl

theorem keeps_eq_false (h : ∀ piece ∈ kept, piece.table? ≠ some table) (key : String) :
    keeps kept table key = false := by
  refine List.any_eq_false.2 fun piece hpiece hassigns => ?_
  obtain ⟨value, rfl⟩ := Piece.assigns_eq_true_iff.1 hassigns
  exact h _ hpiece rfl

/-- An empty line makes no difference. -/
theorem headed_blank (kept : List Piece) : headed (.blank :: kept) = headed kept := by
  funext table
  have hblank : ∀ piece ∈ [Piece.blank], piece.table? ≠ some table := by simp [Piece.table?]
  rw [← List.singleton_append, headed_append, headed_eq_false hblank, Bool.false_or]

theorem keeps_blank (kept : List Piece) : keeps (.blank :: kept) = keeps kept := by
  funext table key
  have hblank : ∀ piece ∈ [Piece.blank], piece.table? ≠ some table := by simp [Piece.table?]
  rw [← List.singleton_append, keeps_append, keeps_eq_false hblank, Bool.false_or]

/-- A whole section has the lines of its values. -/
theorem keeps_sectionPieces {key : String} {values : List (String × Written)} :
    keeps (sectionPieces table values) table key = true ↔ key ∈ values.map (·.1) := by
  rw [keeps, List.any_eq_true, List.mem_map]
  constructor
  · rintro ⟨piece, hpiece, hassigns⟩
    obtain ⟨value, rfl⟩ := Piece.assigns_eq_true_iff.1 hassigns
    rcases List.mem_cons.1 hpiece with h | h
    · cases h
    · obtain ⟨v, hv, hline⟩ := List.mem_map.1 h
      cases hline
      exact ⟨v, hv, rfl⟩
  · rintro ⟨v, hv, rfl⟩
    exact ⟨.line table v.1 v.2, List.mem_cons_of_mem _ (List.mem_map_of_mem hv),
      Piece.assigns_eq_true_iff.2 ⟨v.2, rfl⟩⟩

/-- Where a header is gone, so are the lines under it. -/
theorem Headed.keeps_eq_false (h : Headed kept) (htable : headed kept table = false)
    (key : String) : keeps kept table key = false := by
  refine List.any_eq_false.2 fun piece hpiece hassigns => ?_
  obtain ⟨value, rfl⟩ := Piece.assigns_eq_true_iff.1 hassigns
  exact of_decide_eq_false htable (h table key value hpiece)

/-- A whole document has all headers. -/
theorem headed_pieces (sections : List (String × List (String × Written))) :
    Headed (pieces sections) := by
  intro table key value hline
  obtain ⟨s, hs, rfl, -⟩ := exists_section_of_line ((pieces_sublist_spaced sections).subset hline)
  exact sectionPieces_subset hs List.mem_cons_self

/-- A whole document has all of its sections. -/
theorem only_pieces (sections : List (String × List (String × Written))) :
    only (headed (pieces sections)) (keeps (pieces sections)) sections = sections := by
  have hheaded : ∀ s ∈ sections, headed (pieces sections) s.1 = true := fun s hs =>
    decide_eq_true (sectionPieces_subset hs List.mem_cons_self)
  have hkeeps : ∀ s ∈ sections, ∀ v ∈ s.2, keeps (pieces sections) s.1 v.1 = true := by
    intro s hs v hv
    refine List.any_eq_true.2 ⟨.line s.1 v.1 v.2, sectionPieces_subset hs ?_, ?_⟩
    · exact List.mem_cons_of_mem _ (List.mem_map_of_mem hv)
    · exact Piece.assigns_eq_true_iff.2 ⟨v.2, rfl⟩
  exact only_eq_self hheaded hkeeps

/-- What is left of the pieces of a section: nothing, or the header with some of the lines. -/
theorem kept_of_section {table : String} {values : List (String × Written)} {front : List Piece}
    (hfront : front.Sublist (sectionPieces table values))
    (hheaded : ∀ key value, .line table key value ∈ front → .header table ∈ front) :
    front = [] ∨ ∃ left : List (String × Written), left.Sublist values ∧
      front = sectionPieces table left := by
  rcases List.sublist_cons_iff.1 hfront with hlines | ⟨lines, rfl, hlines⟩
  · left
    obtain ⟨left, -, rfl⟩ := List.sublist_map_iff.1 hlines
    cases left with
    | nil => rfl
    | cons v left =>
      have hmem := hheaded v.1 v.2 List.mem_cons_self
      obtain ⟨u, -, hu⟩ := List.mem_map.1 hmem
      cases hu
  · right
    obtain ⟨left, hleft, rfl⟩ := List.sublist_map_iff.1 hlines
    exact ⟨left, hleft, rfl⟩

end Written

open Written

/-- Pieces are read as what is left of sections. -/
def ReadAs (kept : List Piece) (sections : List (String × List (String × Written))) : Prop :=
  ∃ content : List Section, (∀ s ∈ content, s.Plain) ∧
    Entries.outline (content.map Section.entry) =
      Written.outline (only (headed kept) (keeps kept) sections) ∧
    Reads (kept.flatMap Piece.text) (content.flatMap Section.statements)

/-- The first section, or what is left of it, in front of the others. -/
private theorem readAs_cons {s : String × List (String × Written)}
    {sections : List (String × List (String × Written))} (hplain : Written.Plain (s :: sections))
    {front later : List Piece} (hfront : front.Sublist (sectionPieces s.1 s.2))
    (hlater : later.Sublist (spaced sections)) (hheaded : Headed (front ++ later))
    (ih : Headed later → ReadAs later sections) : ReadAs (front ++ later) (s :: sections) := by
  have hname : s.1 ∉ sections.map (·.1) := (List.nodup_cons.1 hplain.nodup).1
  have hfronts : ∀ piece ∈ front, piece.table? = some s.1 := fun piece hpiece =>
    table?_of_mem_sectionPieces (hfront.subset hpiece)
  have hlaters : ∀ piece ∈ later, piece.table? ≠ some s.1 := fun piece hpiece htable =>
    hname (mem_names_of_table? (hlater.subset hpiece) htable)
  -- The lines of each have their headers among their own pieces.
  have hheadedLater : Headed later := by
    intro table key value hline
    refine (List.mem_append.1 (hheaded table key value (List.mem_append_right _ hline))).resolve_left
      fun hheader => hlaters _ hline ?_
    exact hfronts (.header table) hheader
  have hheadedFront : ∀ key value, .line s.1 key value ∈ front → .header s.1 ∈ front := by
    intro key value hline
    exact (List.mem_append.1 (hheaded s.1 key value (List.mem_append_left _ hline))).resolve_right
      fun hheader => hlaters _ hheader rfl
  obtain ⟨content, hcontent, houtline, hreads⟩ := ih hheadedLater
  have hothers : only (headed (front ++ later)) (keeps (front ++ later)) sections =
      only (headed later) (keeps later) sections := by
    have hne : ∀ t ∈ sections, ∀ piece ∈ front, piece.table? ≠ some t.1 := by
      rintro t ht piece hpiece htable
      rw [hfronts piece hpiece] at htable
      exact hname (List.mem_map.2 ⟨t, ht, (Option.some.inj htable).symm⟩)
    refine only_congr (fun t ht => ?_) fun t ht => funext fun key => ?_
    · rw [headed_append, headed_eq_false (hne t ht), Bool.false_or]
    · rw [keeps_append, keeps_eq_false (hne t ht), Bool.false_or]
  rcases kept_of_section hfront hheadedFront with rfl | ⟨left, hleft, rfl⟩
  · have hgone : headed ([] ++ later) s.1 = false := headed_eq_false hlaters
    refine ⟨content, hcontent, ?_, hreads⟩
    rw [houtline, only_cons_of_not_headed _ hgone, hothers]
  · have hhere : headed (sectionPieces s.1 left ++ later) s.1 = true :=
      decide_eq_true (List.mem_append_left _ List.mem_cons_self)
    have hvalues : left = s.2.filter fun v =>
        keeps (sectionPieces s.1 left ++ later) s.1 v.1 := by
      refine eq_filter_of_sublist hleft (hplain.values_nodup s List.mem_cons_self) fun v _ => ?_
      rw [keeps_append, keeps_eq_false hlaters, Bool.or_false, keeps_sectionPieces]
    obtain ⟨t, ht, hkey, hnamed, hsection⟩ := reads_section (hplain.bare s List.mem_cons_self)
      (fun v hv => hplain.values s List.mem_cons_self v (hleft.subset hv))
      ((hleft.map _).nodup (hplain.values_nodup s List.mem_cons_self)) hreads
    refine ⟨t :: content, List.forall_mem_cons.2 ⟨ht, hcontent⟩, ?_, ?_⟩
    · rw [only_cons_of_headed _ hhere, ← hvalues, hothers]
      have hentry : (t.entry.1.name, t.entry.2.named?) = (s.1, some (left.map Written.named)) := by
        rw [t.named?_entry, hnamed]
        exact congrArg (·, _) hkey
      exact List.cons_eq_cons.2 ⟨hentry, houtline⟩
    · rw [List.flatMap_append, text_sectionPieces]
      exact hsection

/-- Some of the pieces of plain sections are read as what is left of the sections. -/
theorem readAs_of_sublist {sections : List (String × List (String × Written))}
    (hplain : Written.Plain sections) {kept : List Piece} (hkept : kept.Sublist (spaced sections))
    (hheaded : Headed kept) : ReadAs kept sections := by
  induction sections generalizing kept with
  | nil =>
    obtain rfl := List.sublist_nil.1 hkept
    exact ⟨[], nofun, rfl, Reads.nil⟩
  | cons s sections ih =>
    have hlater : Written.Plain sections := ⟨fun t ht => hplain.bare t (List.mem_cons_of_mem _ ht),
      (List.nodup_cons.1 hplain.nodup).2, fun t ht => hplain.values t (List.mem_cons_of_mem _ ht),
      fun t ht => hplain.values_nodup t (List.mem_cons_of_mem _ ht)⟩
    rw [spaced, List.flatMap_cons, List.cons_append, ← spaced] at hkept
    rcases List.sublist_cons_iff.1 hkept with h | ⟨kept, rfl, h⟩
    · obtain ⟨front, later, rfl, hfront, hmore⟩ := List.sublist_append_iff.1 h
      exact readAs_cons hplain hfront hmore hheaded (ih hlater hmore)
    · -- The empty line says nothing.
      obtain ⟨front, later, rfl, hfront, hmore⟩ := List.sublist_append_iff.1 h
      have hrest : Headed (front ++ later) := fun table key value hline =>
        (List.mem_cons.1 (hheaded table key value (List.mem_cons_of_mem _ hline))).resolve_left nofun
      obtain ⟨content, hcontent, houtline, hreads⟩ :=
        readAs_cons hplain hfront hmore hrest (ih hlater hmore)
      refine ⟨content, hcontent, ?_, hreads.blank⟩
      rw [houtline, headed_blank, keeps_blank]

theorem names_only (headed : String → Bool) (keeps : String → String → Bool)
    (sections : List (String × List (String × Written))) :
    ((only headed keeps sections).map (·.1)).Sublist (sections.map (·.1)) := by
  rw [only, List.map_map]
  exact List.filter_sublist.map _

/-- Pieces start with a bracket, a line end or a key, and not with a mark of the byte order. -/
theorem head?_pieces {sections : List (String × List (String × Written))}
    (hplain : Written.Plain sections) {kept : List Piece} (hkept : kept.Sublist (spaced sections)) :
    (kept.flatMap Piece.text).head? ≠ some '\uFEFF' := by
  cases kept with
  | nil => exact nofun
  | cons piece kept =>
    rw [List.flatMap_cons]
    cases piece with
    | header table => exact fun h => absurd (Option.some.inj h) (by decide)
    | blank => exact fun h => absurd (Option.some.inj h) (by decide)
    | line table key value =>
      obtain ⟨s, hs, rfl, hv⟩ := exists_section_of_line (hkept.subset List.mem_cons_self)
      have hbare := (hplain.values s hs _ hv).1
      rw [Piece.text, Written.line, List.append_assoc, List.append_assoc, List.append_assoc]
      exact hbare.head?_ne (by decide) _

/-- Of plain sections any pieces may be taken away, as long as no line loses its header. What is
read is what is left. -/
theorem parse_pieces {sections : List (String × List (String × Written))}
    (hplain : Written.Plain sections) {kept : List Piece} (hkept : kept.Sublist (pieces sections))
    (hheaded : Headed kept) :
    (parse (String.ofList (kept.flatMap Piece.text))).map Entries.outline =
      some (Written.outline (only (headed kept) (keeps kept) sections)) := by
  have hspaced := hkept.trans (pieces_sublist_spaced sections)
  obtain ⟨content, hcontent, houtline, hreads⟩ := readAs_of_sublist hplain hspaced hheaded
  have hnodup := (names_only (headed kept) (keeps kept) sections).nodup hplain.nodup
  rw [parse_of_reads hcontent (names_of_outline houtline ▸ hnodup) hreads
    (head?_pieces hplain hspaced), ← houtline]
  rfl

/-- A document is read as the sections that it was written from. -/
theorem parse_document {sections : List (String × List (String × Written))}
    (hplain : Written.Plain sections) :
    (parse (String.ofList (Written.document sections))).map Entries.outline =
      some (Written.outline sections) := by
  have h := parse_pieces hplain (List.Sublist.refl _) (headed_pieces sections)
  rwa [← document_eq_pieces, only_pieces] at h

end Toml

end TelemetryLink
