import TelemetryLink.Text.Blank
import Mathlib.Data.List.DropRight

/-!
# White space around texts

Removing the white space around a text leaves the one part of it that has white space only on both
sides and none at its own ends. White space inside the text stays.

- `Trimmed`: what one text is of another without the white space around it.
- `trim_eq_iff`: this, and only this, is what `trim` returns.
-/

namespace TelemetryLink.Text.Blank

/-- The first text is the second with white space around it, and the second one neither begins nor
ends with white space. -/
structure Trimmed (cs core : List Char) : Prop where
  /-- Only white space stands around the core. -/
  around : ∃ lead trail : List Char, (∀ c ∈ lead, isBlank c = true) ∧
    (∀ c ∈ trail, isBlank c = true) ∧ cs = lead ++ core ++ trail
  /-- The core does not begin with white space. -/
  head : ∀ h : core ≠ [], ¬ isBlank (core.head h) = true
  /-- The core does not end with white space. -/
  last : ∀ h : core ≠ [], ¬ isBlank (core.getLast h) = true

section DropWhileEnd

variable {α : Type} {p : α → Bool} {xs ys : List α}

theorem dropWhileEnd_eq_rdropWhile : dropWhileEnd p xs = xs.rdropWhile p :=
  rfl

/-- Nothing is dropped from a list whose last element does not satisfy the predicate. -/
theorem dropWhileEnd_of_last (h : ∀ hne : xs ≠ [], ¬ p (xs.getLast hne) = true) :
    dropWhileEnd p xs = xs := by
  rw [dropWhileEnd_eq_rdropWhile]
  exact List.rdropWhile_eq_self_iff.2 h

/-- Elements that satisfy the predicate are dropped from the end. -/
theorem dropWhileEnd_append (h : ∀ y ∈ ys, p y = true) :
    dropWhileEnd p (xs ++ ys) = dropWhileEnd p xs := by
  have hreverse : ∀ y ∈ ys.reverse, p y = true := by
    intro y hy
    exact h y (List.mem_reverse.1 hy)
  simp [dropWhileEnd, List.dropWhile_append_of_pos hreverse]

end DropWhileEnd

/-- The core of a text is what remains when it is trimmed. -/
theorem Trimmed.trim_eq {cs core : List Char} (h : Trimmed cs core) : trim cs = core := by
  obtain ⟨lead, trail, hlead, htrail, rfl⟩ := h.around
  rw [trim, List.append_assoc, List.dropWhile_append_of_pos hlead]
  rcases core with _ | ⟨c, core⟩
  · -- Nothing but white space, which goes with the front.
    rw [List.nil_append, List.dropWhile_eq_nil_iff.2 htrail]
    rfl
  · have hc : ¬ isBlank c = true := h.head (List.cons_ne_nil c core)
    rw [List.cons_append, List.dropWhile_cons_of_neg hc, ← List.cons_append,
      dropWhileEnd_append htrail, dropWhileEnd_of_last h.last]

/-- A trimmed text is the core of the text that it was. -/
theorem trimmed_trim (cs : List Char) : Trimmed cs (trim cs) := by
  let rest := cs.dropWhile isBlank
  have hstart : trim cs <+: rest := List.rdropWhile_prefix isBlank rest
  constructor
  · refine ⟨cs.takeWhile isBlank, rest.rtakeWhile isBlank, ?_, ?_, ?_⟩
    · intro c hc
      exact List.mem_takeWhile_imp hc
    · intro c hc
      exact List.mem_rtakeWhile_imp hc
    · have hrest : trim cs ++ rest.rtakeWhile isBlank = rest :=
        List.rdropWhile_append_rtakeWhile
      rw [List.append_assoc, hrest, List.takeWhile_append_dropWhile]
  · intro h
    -- The core begins where the white space in front ends.
    rw [hstart.head h, Bool.not_eq_true]
    exact List.head_dropWhile_not isBlank _
  · intro h
    exact List.rdropWhile_last_not isBlank rest h

/-- Trimming leaves the core of a text and nothing else. -/
theorem trim_eq_iff {cs core : List Char} : trim cs = core ↔ Trimmed cs core := by
  constructor
  · rintro rfl
    exact trimmed_trim cs
  · exact Trimmed.trim_eq

/-- A text without any white space is the core of what stands between white space. -/
theorem trimmed_append {lead core trail : List Char} (hlead : ∀ c ∈ lead, isBlank c = true)
    (htrail : ∀ c ∈ trail, isBlank c = true) (hcore : ∀ c ∈ core, ¬ isBlank c = true) :
    Trimmed (lead ++ core ++ trail) core where
  around := ⟨lead, trail, hlead, htrail, rfl⟩
  head h := hcore _ (List.head_mem h)
  last h := hcore _ (List.getLast_mem h)

end TelemetryLink.Text.Blank
