import TelemetryLink.Toml.Reader

/-!
# What readers take

Equations for readers on a text of which they take the front. Each says what is read and what is
left, so that the readers of a grammar can be followed along a text.

- `Reader.bind_eq`, `Reader.bind_eq_none`: one reader after another.
- `Reader.exactly_append`, `Reader.takeWhile_append`: the readers that grammars are made of.
- `Reader.exists_located_bind`: where something stands does not matter to what it is.
-/

namespace TelemetryLink.Toml.Reader

variable {α β : Type} {reader other : Reader α} {next : α → Reader β} {cs rest : List Char} {a : α}

/-! ## One after another -/

theorem bind_eq (h : reader cs = some (a, rest)) : (reader >>= next) cs = next a rest := by
  change (reader cs).bind (fun p => next p.1 p.2) = _
  rw [h, Option.bind_some]

theorem bind_eq_none (h : reader cs = none) : (reader >>= next) cs = none := by
  change (reader cs).bind (fun p => next p.1 p.2) = _
  rw [h, Option.bind_none]

theorem map_eq {f : α → β} (h : reader cs = some (a, rest)) :
    (f <$> reader) cs = some (f a, rest) := by
  change (reader cs).bind (fun p => some (f p.1, p.2)) = _
  rw [h, Option.bind_some]

theorem orElse_eq (h : reader cs = some (a, rest)) : orElse reader other cs = some (a, rest) := by
  change (reader cs).or (other cs) = _
  rw [h, Option.some_or]

theorem orElse_eq_right (h : reader cs = none) : orElse reader other cs = other cs := by
  change (reader cs).or (other cs) = _
  rw [h, Option.none_or]

theorem optional_eq (h : reader cs = some (a, rest)) : optional reader cs = some (some a, rest) :=
  orElse_eq (map_eq h)

theorem map_eq_none {f : α → β} (h : reader cs = none) : (f <$> reader) cs = none := by
  change (reader cs).bind (fun p => some (f p.1, p.2)) = _
  rw [h, Option.bind_none]

theorem optional_eq_none (h : reader cs = none) : optional reader cs = some (none, cs) :=
  orElse_eq_right (map_eq_none h)

/-- What is read with its place goes on with some place. -/
theorem exists_located_bind {next : α × Extent → Reader β} {b : Extent → β} {after : List Char}
    (h : reader cs = some (a, rest))
    (hnext : ∀ extent, next (a, extent) rest = some (b extent, after)) :
    ∃ extent, (located reader >>= next) cs = some (b extent, after) := by
  have hlocated : located reader cs =
      some ((a, ⟨Text.Utf8.size cs, Text.Utf8.size rest⟩), rest) := by
    change (reader cs).bind (fun p => some ((p.1, _), p.2)) = _
    rw [h, Option.bind_some]
  exact ⟨_, (bind_eq hlocated).trans (hnext _)⟩

/-! ## Characters -/

theorem peek_bind {next : Option Char → Reader β} (cs : List Char) :
    (peek >>= next) cs = next cs.head? cs := rfl

theorem exactly_append (text : String) (rest : List Char) :
    exactly text (text.toList ++ rest) = some ((), rest) := by
  change (if text.toList.isPrefixOf (text.toList ++ rest) then _ else _) = _
  rw [if_pos (by simp), ← String.length_toList, List.drop_left]

theorem exactly_ofList (front rest : List Char) :
    exactly (String.ofList front) (front ++ rest) = some ((), rest) := by
  have h := exactly_append (String.ofList front) rest
  rwa [String.toList_ofList] at h

theorem exactly_eq_none {text : String} (h : ¬ text.toList <+: cs) : exactly text cs = none :=
  if_neg (by rwa [List.isPrefixOf_iff_prefix])

theorem takeWhile_append {p : Char → Bool} (text : List Char) (htext : ∀ c ∈ text, p c = true)
    (hrest : ∀ c ∈ rest.head?, p c = false) :
    takeWhile p (text ++ rest) = some (text, rest) := by
  have hnone : rest.takeWhile p = [] ∧ rest.dropWhile p = rest := by
    cases rest with
    | nil => exact ⟨rfl, rfl⟩
    | cons c rest =>
      have hc := hrest c rfl
      exact ⟨List.takeWhile_cons_of_neg (by simp [hc]), List.dropWhile_cons_of_neg (by simp [hc])⟩
  change some ((text ++ rest).takeWhile p, (text ++ rest).dropWhile p) = _
  rw [List.takeWhile_append_of_pos htext, List.dropWhile_append_of_pos htext, hnone.1, hnone.2,
    List.append_nil]

/-! ## Blanks and line ends -/

theorem blanks_cons {c : Char} (h : isBlank c = false) (cs : List Char) :
    blanks (c :: cs) = some ((), c :: cs) :=
  bind_eq (takeWhile_append [] nofun (by simpa using h))

theorem blanks_space {c : Char} (h : isBlank c = false) (cs : List Char) :
    blanks (' ' :: c :: cs) = some ((), c :: cs) :=
  bind_eq (takeWhile_append [' '] (List.forall_mem_singleton.2 rfl) (by simpa using h))

theorem newline_eq_none (hline : cs.head? ≠ some '\n') (hreturn : cs.head? ≠ some '\r') :
    newline cs = none := by
  unfold newline of
  dsimp only
  split
  next => exact absurd rfl hline
  next => exact absurd rfl hreturn
  next => rfl

/-- Nothing more stands in the line. -/
theorem trailer_newline (rest : List Char) : trailer ('\n' :: rest) = some ((), rest) := by
  have hcomment : comment ('\n' :: rest) = none := bind_eq_none (exactly_eq_none (by simp))
  rw [trailer, bind_eq (blanks_cons (by decide) rest), bind_eq (optional_eq_none hcomment)]
  rfl

end TelemetryLink.Toml.Reader
