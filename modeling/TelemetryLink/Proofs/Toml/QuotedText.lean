import TelemetryLink.Proofs.Text.Hex
import TelemetryLink.Proofs.Toml.Reader
import TelemetryLink.Toml.QuotedText
import TelemetryLink.Toml.Writer

/-!
# Quoted texts are read as they were written

Whatever a text holds, and in whichever form it is written, the machine that reads quoted texts
finds it again.

- `Feeds`: how the machine goes over characters that start no run of quotes.
- `readLine_written`, `readLines_written`, `readLines_verbatim`: what is written between quotes is
  read up to the closing ones.
- `read_write`: so is a text in the form that is chosen for it.
-/

namespace TelemetryLink.Toml.QuotedText

variable {form : Form} {multi : Bool} {mode mode' last : Mode} {c : Char}
  {cs added text rest after : List Char}

/-! ## Steps of the machine -/

/-- The mode after so many quotes in a row, of which none ends the text. -/
def Mode.run (k : Nat) : Mode := if k = 0 then .plain else .quotes k

/-- Characters that the machine goes over without starting a run of quotes, and the text that they
stand for. -/
inductive Feeds (form : Form) (multi : Bool) : Mode → List Char → List Char → Mode → Prop
  | nil (mode : Mode) : Feeds form multi mode [] [] mode
  | cons {mode mode' last : Mode} {c : Char} {cs added text : List Char}
      (hstep : advance form multi mode c = some (added, mode')) (hreturn : c ≠ '\r')
      (hopen : ∀ next, ending form mode next = none) (hquotes : ∀ n, mode' ≠ .quotes n)
      (hrest : Feeds form multi mode' cs text last) :
      Feeds form multi mode (c :: cs) (added ++ text) last

theorem readLine_feeds (h : Feeds form false mode cs text last)
    (hrest : readLine form last rest = some (added, after)) :
    readLine form mode (cs ++ rest) = some (text ++ added, after) := by
  induction h with
  | nil mode => exact hrest
  | @cons mode mode' last c cs front text hstep _ _ hquotes _ ih =>
    rw [List.cons_append, readLine, hstep]
    have hnext := ih hrest
    cases mode' with
    | quotes n => exact absurd rfl (hquotes n)
    | _ =>
      dsimp only [bind, Option.bind]
      rw [hnext]
      simp

theorem readLines_feeds (h : Feeds form true mode cs text last)
    (hrest : readLines form last rest = some (added, after)) :
    readLines form mode (cs ++ rest) = some (text ++ added, after) := by
  induction h with
  | nil mode => exact hrest
  | @cons mode mode' last c cs front text hstep hreturn hopen _ _ ih =>
    rw [List.cons_append, readLines, hopen, if_neg hreturn, hstep]
    dsimp only [bind, Option.bind]
    rw [ih hrest]
    simp

theorem ending_run {k : Nat} (hk : k < 3) (next : Option Char) :
    ending form (.run k) next = none := by
  unfold Mode.run
  split
  next => rfl
  next => exact if_neg (by omega)

/-- Behind a run of quotes that does not end the text, it belongs to the text. -/
theorem advance_run {k : Nat} (hc : c ≠ form.quote) :
    advance form multi (.run k) c =
      (advancePlain form multi c).map fun (text, mode) =>
        (List.replicate k form.quote ++ text, mode) := by
  unfold Mode.run
  split
  next h =>
    subst h
    cases h : advancePlain form multi c with
    | none => exact h
    | some p => exact h
  next => exact if_neg hc

theorem Feeds.one {added : List Char} {mode mode' : Mode}
    (hstep : advance form multi mode c = some (added, mode')) (hreturn : c ≠ '\r')
    (hopen : ∀ next, ending form mode next = none) (hquotes : ∀ n, mode' ≠ .quotes n) :
    Feeds form multi mode [c] added mode' := by
  have h := Feeds.cons hstep hreturn hopen hquotes (.nil mode')
  rwa [List.append_nil] at h

/-- A character that stands for itself. -/
theorem feeds_plain {k : Nat} (hk : k < 3) (hquote : c ≠ form.quote)
    (hescape : ¬ (c = '\\' ∧ form.escapes = true))
    (hplain : isCommentChar c = true ∨ (c = '\n' ∧ multi = true)) :
    Feeds form multi (.run k) [c] (List.replicate k form.quote ++ [c]) .plain := by
  refine .one ?_ ?_ (ending_run hk) nofun
  · rw [advance_run hquote, advancePlain, if_neg hquote, if_neg hescape, if_pos hplain]
    rfl
  · rintro rfl
    rcases hplain with h | ⟨h, -⟩
    · cases h
    · cases h

/-! ## Escapes -/

/-- A backslash in front of an escape. -/
theorem feeds_backslash {k : Nat} (hk : k < 3) (h : Feeds basic multi .escaped cs text .plain) :
    Feeds basic multi (.run k) ('\\' :: cs) (List.replicate k '"' ++ text) .plain := by
  have hstep : advance basic multi (.run k) '\\' =
      some (List.replicate k '"', .escaped) := by
    rw [advance_run (by decide)]
    exact congrArg (fun text => some (text, Mode.escaped)) (List.append_nil _)
  exact .cons hstep (by decide) (ending_run hk) nofun h

/-- A character that is escaped by one other. -/
theorem feeds_unescape {name : Char} (h : unescape name = some c) :
    Feeds basic multi .escaped [name] [c] .plain := by
  have hstep : advance basic multi .escaped name = some ([c], .plain) := by
    have hother : name ≠ 'u' ∧ name ≠ 'U' ∧ name ≠ '\n' ∧ isBlank name = false := by
      refine ⟨?_, ?_, ?_, Bool.eq_false_iff.2 fun hblank => ?_⟩
      iterate 3 (rintro rfl; cases h)
      rw [isBlank, Bool.or_eq_true, beq_iff_eq, beq_iff_eq] at hblank
      rcases hblank with rfl | rfl
      · cases h
      · cases h
    obtain ⟨hu, hU, hline, hblank⟩ := hother
    rw [advance, if_neg hu, if_neg hU, if_neg (by simp [hline]), if_neg (by simp [hblank]), h]
    rfl
  refine .one hstep ?_ (fun _ => rfl) nofun
  rintro rfl
  cases h

theorem upperDigit_ne_return {n : Nat} (hn : n < 16) : Text.Hex.upperDigit n ≠ '\r' := by
  intro h
  have hnone : Text.Hex.charDigit? '\r' = none := by decide
  rw [← h, Text.Hex.charDigit?_upperDigit hn] at hnone
  cases hnone

/-- A digit of a character's number that is not the last. -/
theorem feeds_digit {missing value n : Nat} (hn : n < 16) (hmissing : 1 < missing)
    (h : Feeds basic multi (.number (missing - 1) (16 * value + n)) cs text .plain) :
    Feeds basic multi (.number missing value) (Text.Hex.upperDigit n :: cs) text .plain := by
  have hstep : advance basic multi (.number missing value) (Text.Hex.upperDigit n) =
      some ([], .number (missing - 1) (16 * value + n)) := by
    rw [advance, Text.Hex.charDigit?_upperDigit hn]
    exact if_neg (by omega)
  exact .cons hstep (upperDigit_ne_return hn) (fun _ => rfl) nofun h

theorem charOf_toNat (c : Char) : charOf c.toNat = some c := by
  rw [charOf, if_pos (show c.toNat.isValidChar from c.valid), Char.ofNat_toNat]

/-- A character by its number. -/
theorem feeds_number (hc : c.toNat < 256) :
    Feeds basic multi .escaped (['u', '0', '0'] ++ Text.Hex.upperOctet (UInt8.ofNat c.toNat)) [c]
      .plain := by
  have hoctet : (UInt8.ofNat c.toNat).toNat = c.toNat :=
    (UInt8.toNat_ofNat).trans (Nat.mod_eq_of_lt hc)
  have hlast : Feeds basic multi (.number 1 (c.toNat / 16))
      [Text.Hex.upperDigit (c.toNat % 16)] [c] .plain := by
    refine .one ?_ (upperDigit_ne_return (Nat.mod_lt _ (by decide))) (fun _ => rfl) nofun
    rw [advance, Text.Hex.charDigit?_upperDigit (Nat.mod_lt _ (by decide))]
    dsimp only [bind, Option.bind]
    rw [Nat.div_add_mod, charOf_toNat]
    rfl
  rw [Text.Hex.upperOctet, hoctet]
  have hmark : advance basic multi .escaped 'u' = some ([], .number 4 0) := rfl
  refine .cons hmark (by decide) (fun _ => rfl) nofun ?_
  refine feeds_digit (n := 0) (by decide) (by decide) ?_
  refine feeds_digit (n := 0) (by decide) (by decide) ?_
  exact feeds_digit (Nat.div_lt_of_lt_mul (by omega)) (by decide) (by simpa using hlast)

theorem toNat_lt_of_isControl (h : isControl c = true) : c.toNat < 256 := by
  simp only [isControl, Bool.or_eq_true, Bool.and_eq_true, decide_eq_true_eq, beq_iff_eq] at h
  omega

/-- Only controls need an escape. -/
theorem isCommentChar_of_not_isControl (h : isControl c = false) (hline : c ≠ '\n') :
    isCommentChar c = true := by
  by_cases htab : c = '\t'
  · subst htab
    rfl
  · simp [isControl, htab, hline] at h
    simp [isCommentChar, h]

/-- A character as it is written between double quotes, where it is neither a quote nor the end of
a line. -/
theorem feeds_escaped {k : Nat} (hk : k < 3) (hquote : c ≠ '"') (hline : c ≠ '\n') :
    Feeds basic multi (.run k) (escaped c) (List.replicate k '"' ++ [c]) .plain := by
  unfold escaped
  -- Five characters have escapes of their own.
  iterate 5
    split
    next h => exact feeds_backslash hk (feeds_unescape (by subst h; rfl))
  split
  next hcontrol => exact feeds_backslash hk (feeds_number (toNat_lt_of_isControl hcontrol))
  next hslash hcontrol =>
    refine feeds_plain hk hquote (fun h => hslash h.1) (.inl ?_)
    exact isCommentChar_of_not_isControl (Bool.eq_false_iff.2 hcontrol) hline

/-! ## Texts on one line -/

/-- The quote that ends a text on one line. -/
theorem readLine_quote (rest : List Char) :
    readLine form .plain (form.quote :: rest) = some ([], rest) := by
  have hstep : advance form false .plain form.quote = some ([], .quotes 1) := if_pos rfl
  rw [readLine, hstep]
  rfl

/-- Between double quotes any text is written on one line. -/
theorem readLine_written (text rest : List Char) :
    readLine basic .plain (text.flatMap escapedInLine ++ '"' :: rest) = some (text, rest) := by
  have hzero : (0 : Nat) < 3 := by decide
  induction text with
  | nil => exact readLine_quote rest
  | cons c text ih =>
    have hfeeds : Feeds basic false (.run 0) (escapedInLine c) [c] .plain := by
      unfold escapedInLine
      split
      next h =>
        subst h
        exact feeds_backslash hzero (feeds_unescape rfl)
      split
      next h =>
        subst h
        exact feeds_backslash hzero (feeds_unescape rfl)
      next hquote hline => exact feeds_escaped hzero hquote hline
    rw [List.flatMap_cons, List.append_assoc]
    exact readLine_feeds hfeeds ih

/-- Between single quotes a text is written as it is, if nothing in it is in the way. -/
theorem readLine_verbatim {text : List Char} (rest : List Char)
    (htext : ∀ c ∈ text, isControl c = false ∧ c ≠ '\n' ∧ c ≠ '\'') :
    readLine literal .plain (text ++ '\'' :: rest) = some (text, rest) := by
  induction text with
  | nil => exact readLine_quote rest
  | cons c text ih =>
    obtain ⟨hcontrol, hline, hquote⟩ := htext c List.mem_cons_self
    have hfeeds : Feeds literal false (.run 0) [c] [c] .plain :=
      feeds_plain (by decide) hquote (by simp [literal])
        (.inl (isCommentChar_of_not_isControl hcontrol hline))
    exact readLine_feeds hfeeds (ih fun c hc => htext c (List.mem_cons_of_mem _ hc))

/-! ## Texts with lines -/

/-- One more quote in a run that does not end the text yet. -/
theorem readLines_quote (form : Form) {k : Nat} (hk : k < 5) (hquote : c = form.quote)
    (hreturn : form.quote ≠ '\r') (cs : List Char) :
    readLines form (.run k) (c :: cs) = readLines form (.run (k + 1)) cs := by
  subst hquote
  have hopen : ending form (.run k) (some form.quote) = none := by
    unfold Mode.run
    split
    next => rfl
    next => exact if_neg (by simp; omega)
  have hstep : advance form true (.run k) form.quote = some ([], .run (k + 1)) := by
    unfold Mode.run
    split
    next h =>
      subst h
      exact if_pos rfl
    next => exact if_pos rfl
  rw [readLines, hopen]
  dsimp only
  rw [if_neg hreturn, hstep]
  dsimp only [bind, Option.bind]
  cases readLines form (.run (k + 1)) cs with
  | none => rfl
  | some p => rfl

/-- The three quotes that end a text. Those before them belong to it. -/
theorem readLines_end {k : Nat} (hk : k < 3) (hreturn : form.quote ≠ '\r')
    (hrest : rest.head? ≠ some form.quote) :
    readLines form (.run k) (form.quote :: form.quote :: form.quote :: rest) =
      some (List.replicate k form.quote, rest) := by
  have hclosed (next : Option Char) (hnext : next ≠ some form.quote) :
      ending form (.run (k + 3)) next = some (List.replicate k form.quote) :=
    if_pos ⟨by omega, .inl hnext⟩
  rw [readLines_quote form (by omega) rfl hreturn, readLines_quote form (by omega) rfl hreturn,
    readLines_quote form (by omega) rfl hreturn]
  cases rest with
  | nil =>
    rw [readLines, hclosed none nofun]
    rfl
  | cons c rest => rw [readLines, hclosed (some c) hrest]

/-- A text between triple double quotes, behind a run of quotes that belong to it. -/
theorem readLines_written {k : Nat} (hk : k < 3) (text : List Char)
    (hrest : rest.head? ≠ some '"') :
    readLines basic (.run k) (escapedLines k text ++ '"' :: '"' :: '"' :: rest) =
      some (List.replicate k '"' ++ text, rest) := by
  induction text generalizing k with
  | nil =>
    rw [List.append_nil]
    exact readLines_end hk (by decide) hrest
  | cons c text ih =>
    -- Whatever a character is written as, the rest is read as if nothing stood before it.
    have hnext {cs : List Char}
        (h : Feeds basic true (.run k) cs (List.replicate k '"' ++ [c]) .plain) :
        readLines basic (.run k) ((cs ++ escapedLines 0 text) ++ '"' :: '"' :: '"' :: rest) =
          some (List.replicate k '"' ++ c :: text, rest) := by
      rw [List.append_assoc, readLines_feeds h (ih (k := 0) (by decide)), List.append_assoc]
      rfl
    unfold escapedLines
    split
    next hquote =>
      subst hquote
      split
      next => exact hnext (feeds_backslash hk (feeds_unescape rfl))
      next htwo =>
        rw [List.cons_append, readLines_quote basic (c := '"') (by omega) rfl (by decide),
          ih (by omega), List.replicate_succ', List.append_assoc]
        rfl
    split
    next hline =>
      subst hline
      exact hnext (feeds_plain hk (by decide) (by decide) (.inr ⟨rfl, rfl⟩))
    next hquote hline => exact hnext (feeds_escaped hk hquote hline)

/-! ## Runs of quotes -/

theorem le_longestRun (c : Char) (k : Nat) (text : List Char) : k ≤ longestRun c k text := by
  induction text generalizing k with
  | nil => exact Nat.le_refl k
  | cons x text ih =>
    unfold longestRun
    split
    next => exact Nat.le_of_succ_le (ih (k + 1))
    next => exact Nat.le_max_left ..

/-- Where no run is longer than nothing, the character does not occur. -/
theorem not_mem_of_longestRun {k : Nat} {text : List Char} (h : longestRun c k text = 0) :
    c ∉ text := by
  induction text generalizing k with
  | nil => exact List.not_mem_nil
  | cons x text ih =>
    unfold longestRun at h
    split at h
    next =>
      have := le_longestRun c (k + 1) text
      omega
    next hx =>
      rw [List.mem_cons]
      rintro (rfl | hmem)
      · exact hx rfl
      · exact ih (Nat.le_zero.1 (h ▸ Nat.le_max_right ..)) hmem

/-- A text between triple single quotes, which may have runs of quotes that are not too long. -/
theorem readLines_verbatim {k : Nat} {text : List Char} (hrest : rest.head? ≠ some '\'')
    (hcontrol : ∀ c ∈ text, isControl c = false) (hrun : longestRun '\'' k text ≤ 2) :
    readLines literal (.run k) (text ++ '\'' :: '\'' :: '\'' :: rest) =
      some (List.replicate k '\'' ++ text, rest) := by
  have hk : k < 3 := Nat.lt_succ_of_le (Nat.le_trans (le_longestRun _ k text) hrun)
  induction text generalizing k with
  | nil =>
    rw [List.append_nil]
    exact readLines_end hk (by decide) hrest
  | cons c text ih =>
    have hcontrols := fun c hc => hcontrol c (List.mem_cons_of_mem _ hc)
    unfold longestRun at hrun
    split at hrun
    next hquote =>
      subst hquote
      rw [List.cons_append, readLines_quote literal (c := '\'') (by omega) rfl (by decide),
        ih hcontrols hrun (Nat.lt_succ_of_le (Nat.le_trans (le_longestRun _ _ text) hrun)),
        List.replicate_succ', List.append_assoc]
      rfl
    next hquote =>
      have hplain : isCommentChar c = true ∨ (c = '\n' ∧ true = true) := by
        by_cases hline : c = '\n'
        · exact .inr ⟨hline, rfl⟩
        · exact .inl (isCommentChar_of_not_isControl (hcontrol c List.mem_cons_self) hline)
      have hfeeds : Feeds literal true (.run k) [c] (List.replicate k '\'' ++ [c]) .plain :=
        feeds_plain hk hquote (by simp [literal]) hplain
      have hnext := ih (k := 0) hcontrols (Nat.le_trans (Nat.le_max_right ..) hrun) (by decide)
      have h := readLines_feeds hfeeds hnext
      rwa [List.append_assoc] at h

/-! ## Whole texts -/

/-- What a text has to be like to be written in a style. -/
def Style.Suits (text : List Char) : Style → Prop
  | basic => True
  | literal => ∀ c ∈ text, isControl c = false ∧ c ≠ '\n' ∧ c ≠ '\''
  | basicLines => True
  | literalLines => (∀ c ∈ text, isControl c = false) ∧ longestRun '\'' 0 text ≤ 2

/-- The style of a text suits it. -/
theorem Style.suits_of (text : List Char) : (Style.of text).Suits text := by
  have hcontrols (h : (!text.any isControl) = true) : ∀ c ∈ text, isControl c = false := by
    simpa using h
  unfold Style.of
  dsimp only
  split
  next => trivial
  split
  next h =>
    simp only [Bool.and_eq_true, decide_eq_true_eq] at h
    obtain ⟨⟨hcontrol, hline⟩, hquote⟩ := h
    intro c hc
    refine ⟨hcontrols hcontrol c hc, ?_, ?_⟩
    · rintro rfl
      simp [hc] at hline
    · rintro rfl
      exact not_mem_of_longestRun hquote hc
  split
  next => trivial
  split
  next h =>
    simp only [Bool.and_eq_true, decide_eq_true_eq] at h
    exact ⟨hcontrols h.1, h.2⟩
  split
  next => trivial
  next => trivial

/-- A text between single quotes of a form is read. -/
theorem line_quoted (form : Form) (h : readLine form .plain cs = some (text, rest)) :
    line form (form.quote :: cs) = some (String.ofList text, rest) := by
  have hquote :
      Reader.exactly (String.singleton form.quote) (form.quote :: cs) = some ((), cs) := by
    have h := Reader.exactly_append (String.singleton form.quote) cs
    rwa [String.toList_singleton] at h
  rw [line, Reader.bind_eq hquote]
  exact Reader.map_eq h

/-- A text on one line is none between triple quotes, even if it is empty. -/
theorem lines_eq_none (form : Form) (hrest : rest.head? ≠ some form.quote)
    (hcs : cs.head? ≠ some form.quote) :
    lines form (form.quote :: cs ++ form.quote :: rest) = none := by
  refine Reader.bind_eq_none (Reader.exactly_eq_none ?_)
  rw [String.toList_ofList]
  cases cs with
  | nil =>
    rintro ⟨after, h⟩
    obtain rfl : form.quote :: after = rest := by simpa [List.replicate] using h
    exact hrest rfl
  | cons c cs =>
    rintro ⟨after, h⟩
    obtain ⟨rfl, -⟩ : form.quote = c ∧ _ := by simpa [List.replicate] using h
    exact hcs rfl

/-- A text between triple quotes of a form is read. -/
theorem lines_quoted {skipped : Option Unit}
    (hopening : Reader.optional Reader.newline cs = some (skipped, added))
    (h : readLines form .plain added = some (text, rest)) :
    lines form (form.quote :: form.quote :: form.quote :: cs) =
      some (String.ofList text, rest) := by
  have hquotes : Reader.exactly (String.ofList (List.replicate 3 form.quote))
      (form.quote :: form.quote :: form.quote :: cs) = some ((), cs) :=
    Reader.exactly_ofList (List.replicate 3 form.quote) cs
  rw [lines, Reader.bind_eq hquotes, Reader.bind_eq hopening]
  exact Reader.map_eq h

/-- Only a line end that was put in front of a text is skipped. -/
theorem optional_newline_opening {body : List Char}
    (hbody : '\n' ∉ text → body.head? ≠ some '\n' ∧ body.head? ≠ some '\r') :
    ∃ skipped, Reader.optional Reader.newline
      ((if text.contains '\n' then ['\n'] else []) ++ body) = some (skipped, body) := by
  by_cases hline : '\n' ∈ text
  · rw [if_pos (by simpa using hline)]
    exact ⟨_, Reader.optional_eq rfl⟩
  · rw [if_neg (by simpa using hline)]
    obtain ⟨hnewline, hreturn⟩ := hbody hline
    exact ⟨_, Reader.optional_eq_none (Reader.newline_eq_none hnewline hreturn)⟩

/-- A character that is written as it is starts neither a line end nor an escape. -/
theorem escaped_cases (c : Char) :
    (∃ tail, escaped c = '\\' :: tail) ∨ (escaped c = [c] ∧ c ≠ '\r') := by
  unfold escaped
  iterate 3
    split
    next => exact .inl ⟨_, rfl⟩
  split
  next => exact .inl ⟨_, rfl⟩
  next hreturn =>
    iterate 2
      split
      next => exact .inl ⟨_, rfl⟩
    exact .inr ⟨rfl, hreturn⟩

/-- The first character of a text on one line is no quote. -/
theorem head?_flatMap_escapedInLine (text : List Char) :
    (text.flatMap escapedInLine).head? ≠ some '"' := by
  cases text with
  | nil => exact nofun
  | cons c text =>
    rw [List.flatMap_cons]
    unfold escapedInLine
    split
    next => exact nofun
    next hquote =>
      split
      next => exact nofun
      next =>
        obtain ⟨tail, h⟩ | ⟨h, -⟩ := escaped_cases c
        · rw [h]
          exact nofun
        · rw [h]
          exact fun h => hquote (Option.some.inj h)

/-- A text without line ends does not start with one. -/
theorem head?_escapedLines {text : List Char} (hline : '\n' ∉ text) (rest : List Char) :
    (escapedLines 0 text ++ '"' :: rest).head? ≠ some '\n' ∧
      (escapedLines 0 text ++ '"' :: rest).head? ≠ some '\r' := by
  cases text with
  | nil => exact ⟨nofun, nofun⟩
  | cons c text =>
    have hc : c ≠ '\n' := fun h => hline (h ▸ List.mem_cons_self)
    unfold escapedLines
    split
    next => exact ⟨nofun, nofun⟩
    obtain ⟨tail, h⟩ | ⟨h, hreturn⟩ := escaped_cases c
    · rw [h]
      exact ⟨nofun, nofun⟩
    · rw [h]
      exact ⟨fun h => hc (Option.some.inj h), fun h => hreturn (Option.some.inj h)⟩

/-- A text is read from any style that suits it. -/
theorem read_writeAs {style : Style} (hsuits : style.Suits text)
    (hdouble : rest.head? ≠ some '"') (hsingle : rest.head? ≠ some '\'') :
    read (writeAs style text ++ rest) = some (String.ofList text, rest) := by
  cases style with
  | basic =>
    have hlines := lines_eq_none QuotedText.basic hdouble (head?_flatMap_escapedInLine text)
    have hline := line_quoted QuotedText.basic (readLine_written text rest)
    have h : read ('"' :: text.flatMap escapedInLine ++ '"' :: rest) =
        some (String.ofList text, rest) :=
      (Reader.orElse_eq_right hlines).trans hline
    rwa [List.append_cons] at h
  | literal =>
    have hhead : text.head? ≠ some '\'' := fun h => (hsuits _ (List.mem_of_head? h)).2.2 rfl
    have hlines := lines_eq_none QuotedText.literal hsingle hhead
    have hline := line_quoted QuotedText.literal (readLine_verbatim rest hsuits)
    have h : read ('\'' :: text ++ '\'' :: rest) = some (String.ofList text, rest) :=
      (Reader.orElse_eq_right hlines).trans hline
    rwa [List.append_cons] at h
  | basicLines =>
    obtain ⟨skipped, hopening⟩ :=
      optional_newline_opening fun hline => head?_escapedLines hline ('"' :: '"' :: rest)
    have hlines := lines_quoted hopening (readLines_written (k := 0) (by decide) text hdouble)
    have h : read ('"' :: '"' :: '"' :: _) = _ := Reader.orElse_eq hlines
    simpa [writeAs] using h
  | literalLines =>
    obtain ⟨hcontrol, hrun⟩ := hsuits
    have hhead (hline : '\n' ∉ text) :
        (text ++ '\'' :: '\'' :: '\'' :: rest).head? ≠ some '\n' ∧
          (text ++ '\'' :: '\'' :: '\'' :: rest).head? ≠ some '\r' := by
      cases text with
      | nil => exact ⟨nofun, nofun⟩
      | cons c text =>
        refine ⟨fun h => hline (Option.some.inj h ▸ List.mem_cons_self), fun h => ?_⟩
        have hcontrol := hcontrol c List.mem_cons_self
        rw [Option.some.inj h] at hcontrol
        cases hcontrol
    obtain ⟨skipped, hopening⟩ := optional_newline_opening hhead
    have hlines := lines_quoted hopening (readLines_verbatim (k := 0) hsingle hcontrol hrun)
    have h : read ('\'' :: '\'' :: '\'' :: _) = _ := Reader.orElse_eq hlines
    simpa [writeAs] using h

/-- A text is read back from the form that is chosen for it. -/
theorem read_write (text rest : List Char) (hdouble : rest.head? ≠ some '"')
    (hsingle : rest.head? ≠ some '\'') :
    read (write text ++ rest) = some (String.ofList text, rest) :=
  read_writeAs (Style.suits_of text) hdouble hsingle

/-- Some quote stands at the front of a text. -/
theorem head?_write (text : List Char) :
    (write text).head? = some '"' ∨ (write text).head? = some '\'' := by
  unfold write
  cases Style.of text with
  | basic => exact .inl rfl
  | literal => exact .inr rfl
  | basicLines => exact .inl (by simp [writeAs])
  | literalLines => exact .inr (by simp [writeAs])

end TelemetryLink.Toml.QuotedText
