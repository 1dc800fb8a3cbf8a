import TelemetryLink.Proofs.Config.Text
import TelemetryLink.Proofs.Except
import TelemetryLink.Proofs.Toml.Range

/-!
# Configurations that were read can be written

The integers of a text fit the format, so that whatever configuration is read from a text has a
text itself.

- `Field.Keeps`, `Shape.Keeps`, `Part.Keeps`: reading leaves a property of sections alone.
- `writable_of_parse`: all numbers of a configuration that was read fit the format.
-/

namespace TelemetryLink.Config

open Toml

/-! ## What reading keeps -/

variable {σ : Type} {Q : σ → Prop}

/-- Reading a field keeps a property of sections. -/
def Field.Keeps (Q : σ → Prop) (field : Field σ) : Prop :=
  ∀ item s s', item.InRange → Q s → field.read item s = .ok s' → Q s'

/-- Reading a section keeps a property of sections. -/
def Shape.Keeps (Q : σ → Prop) (shape : Shape σ) : Prop :=
  ∀ item fallback s s', item.InRange → Q s → shape.read item fallback s = .ok s' → Q s'

/-- Reading a part keeps a property of configurations. -/
def Part.Keeps (Q : Config → Prop) (part : Part) : Prop :=
  ∀ item fallback config config', item.InRange → Q config →
    part.read item fallback config = .ok config' → Q config'

theorem Field.keeps_of {α : Type} [Setting α] {name : String} {get : σ → α} {set : α → σ → σ}
    (h : ∀ item a s, item.InRange → Setting.ofItem item = .ok a → Q s → Q (set a s)) :
    (Field.of name get set).Keeps Q := by
  intro item s s' hitem hs hread
  change (do return set (← Setting.ofItem item) s : Except Mismatch σ) = .ok s' at hread
  obtain ⟨a, ha, hset⟩ := bind_eq_ok_iff.1 hread
  cases hset
  exact h item a s hitem ha hs

namespace Shape

variable {shape : Shape σ} {field : Field σ} {item : Item} {fallback : Extent} {s s' : σ}

theorem keeps_readField (hfield : field.Keeps Q) (hitem : item.InRange) (hs : Q s)
    (h : readField field item fallback s = .ok s') : Q s' :=
  hfield item s s' hitem hs (mapError_eq_ok_iff.1 h)

theorem keeps_readEntries (hfields : ∀ field ∈ shape.fields, field.Keeps Q) {entries : Entries}
    (hentries : entries.InRange) (hs : Q s) (h : shape.readEntries entries s = .ok s') : Q s' := by
  induction entries generalizing s with
  | nil =>
    cases h
    exact hs
  | cons entry entries ih =>
    obtain ⟨hentry, hentries⟩ := Entries.inRange_cons.1 hentries
    rw [readEntries, List.foldlM_cons] at h
    obtain ⟨next, hnext, hrest⟩ := bind_eq_ok_iff.1 h
    refine ih hentries ?_ hrest
    dsimp only at hnext
    split at hnext
    next field hfind =>
      exact keeps_readField (hfields field (List.mem_of_find?_eq_some hfind)) hentry hs hnext
    next =>
      cases hnext
      exact hs

theorem keeps_readElements {fields : List (Field σ)} (hfields : ∀ field ∈ fields, field.Keeps Q)
    {items : List Item} (hitems : ∀ item ∈ items, item.InRange) (hs : Q s)
    (h : readElements fallback fields items s = .ok s') : Q s' := by
  induction fields generalizing items s with
  | nil =>
    cases h
    exact hs
  | cons field fields ih =>
    cases items with
    | nil =>
      cases h
      exact hs
    | cons item items =>
      obtain ⟨hfield, hfields⟩ := List.forall_mem_cons.1 hfields
      obtain ⟨hitem, hitems⟩ := List.forall_mem_cons.1 hitems
      obtain ⟨next, hnext, hrest⟩ := bind_eq_ok_iff.1 h
      exact ih hfields hitems (keeps_readField hfield hitem hs hnext) hrest

/-- A section is read by its fields, in one order or another. -/
theorem keeps_of (hfields : ∀ field ∈ shape.fields, field.Keeps Q) : shape.Keeps Q := by
  intro item fallback s s' hitem hs h
  cases hitem with
  | table hentries => exact keeps_readEntries hfields hentries hs h
  | array hitems => exact keeps_readElements hfields hitems hs h
  | tables hitems => exact keeps_readElements hfields hitems hs h
  | @scalar value extent _ =>
    cases value with
    | dateTime =>
      cases h
      exact hs
    | _ => cases h

end Shape

theorem Part.keeps_of {name : String} {shape : Shape σ} {get : Config → σ}
    {set : σ → Config → Config} {P : Config → Prop} (hshape : shape.Keeps Q)
    (hget : ∀ config, P config → Q (get config))
    (hset : ∀ config s, P config → Q s → P (set s config)) :
    (Part.of name shape get set).Keeps P := by
  intro item fallback config config' hitem hconfig h
  obtain ⟨s, hs, hconfig'⟩ := bind_eq_ok_iff.1 h
  cases hconfig'
  exact hset config s hconfig (hshape item fallback _ s hitem (hget config hconfig) hs)

/-! ## The sections of a configuration -/

/-- A number of 64 bits that was read is not too great to be written. -/
theorem fits_of_ofItem {item : Item} {n : UInt64} (hitem : item.InRange)
    (h : Setting.ofItem item = .ok n) : Fits n := by
  have h : Setting.integer "u64" (fun n => (Setting.natBelow UInt64.size n).map UInt64.ofNat) item =
    .ok n := h
  unfold Setting.integer at h
  split at h
  next m extent =>
    cases hitem with
    | scalar hm =>
      have hm : Number.inRange _ = true := hm
      simp only [Number.inRange, Bool.and_eq_true, decide_eq_true_eq] at hm
      split at h
      next value hvalue =>
        cases h
        obtain ⟨k, hk, rfl⟩ := Option.map_eq_some_iff.1 hvalue
        rw [Setting.natBelow, Option.ite_none_right_eq_some] at hk
        obtain ⟨hbounds, hk⟩ := hk
        cases hk
        rw [Fits, UInt64.toNat_ofNat_of_lt' (by omega)]
        omega
      next => cases h
  next => cases h

theorem serverShape_keeps : serverShape.Keeps Server.Writable := by
  refine Shape.keeps_of ?_
  unfold serverShape
  simp only [List.forall_mem_cons]
  exact ⟨Field.keeps_of fun _ _ _ _ _ h => h, Field.keeps_of fun _ _ _ _ _ h => h,
    Field.keeps_of fun _ _ _ hitem hn h => ⟨fits_of_ofItem hitem hn, h.2⟩,
    Field.keeps_of fun _ _ _ hitem hn h => ⟨h.1, fits_of_ofItem hitem hn⟩, nofun⟩

theorem sessionShape_keeps : sessionShape.Keeps Session.Writable := by
  refine Shape.keeps_of ?_
  unfold sessionShape
  simp only [List.forall_mem_cons]
  exact ⟨Field.keeps_of fun _ _ _ _ _ h => h,
    Field.keeps_of fun _ _ _ hitem hn _ => fits_of_ofItem hitem hn,
    Field.keeps_of fun _ _ _ _ _ h => h, nofun⟩

theorem reconnectShape_keeps : reconnectShape.Keeps Reconnect.Writable := by
  refine Shape.keeps_of ?_
  unfold reconnectShape
  simp only [List.forall_mem_cons]
  exact ⟨Field.keeps_of fun _ _ _ _ _ h => h, Field.keeps_of fun _ _ _ _ _ h => h,
    Field.keeps_of fun _ _ _ hitem hn h => ⟨fits_of_ofItem hitem hn, h.2⟩,
    Field.keeps_of fun _ _ _ hitem hn h => ⟨h.1, fits_of_ofItem hitem hn⟩, nofun⟩

/-- A section without long numbers does not matter. -/
theorem Shape.keeps_true (shape : Shape σ) : shape.Keeps fun _ => True :=
  fun _ _ _ _ _ _ _ => trivial

theorem parts_keep : ∀ part ∈ parts, part.Keeps Writable := by
  unfold parts
  simp only [List.forall_mem_cons]
  exact ⟨Part.keeps_of serverShape_keeps (fun _ h => h.1) fun _ _ h hs => ⟨hs, h.2⟩,
    Part.keeps_of (Shape.keeps_true _) (fun _ _ => trivial) fun _ _ h _ => h,
    Part.keeps_of (Shape.keeps_true _) (fun _ _ => trivial) fun _ _ h _ => h,
    Part.keeps_of sessionShape_keeps (fun _ h => h.2.1) fun _ _ h hs => ⟨h.1, hs, h.2.2⟩,
    Part.keeps_of reconnectShape_keeps (fun _ h => h.2.2) fun _ _ h hs => ⟨h.1, h.2.1, hs⟩,
    Part.keeps_of (Shape.keeps_true _) (fun _ _ => trivial) fun _ _ h _ => h,
    Part.keeps_of (Shape.keeps_true _) (fun _ _ => trivial) fun _ _ h _ => h, nofun⟩

/-! ## Texts -/

theorem writable_of_readEntries {entries : Entries} {config config' : Config}
    (hentries : entries.InRange) (hconfig : config.Writable)
    (h : readEntries entries config = .ok config') : config'.Writable := by
  induction entries generalizing config with
  | nil =>
    cases h
    exact hconfig
  | cons entry entries ih =>
    obtain ⟨hentry, hentries⟩ := Entries.inRange_cons.1 hentries
    rw [readEntries_cons] at h
    obtain ⟨next, hnext, hrest⟩ := bind_eq_ok_iff.1 h
    refine ih hentries ?_ hrest
    unfold readEntry at hnext
    split at hnext
    next part hfind =>
      exact parts_keep part (List.mem_of_find?_eq_some hfind) _ _ config next hentry hconfig hnext
    next =>
      cases hnext
      exact hconfig

/-- Whatever is read can be written. -/
theorem writable_of_parse {text : String} {config : Config} (h : parse text = .ok config) :
    config.Writable := by
  unfold parse at h
  split at h
  next => cases h
  next entries hentries =>
    exact writable_of_readEntries (inRange_of_parse hentries) (by decide) (mapError_eq_ok_iff.1 h)

end TelemetryLink.Config
