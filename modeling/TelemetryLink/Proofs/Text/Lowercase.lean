import TelemetryLink.Text.Lowercase

/-!
# Small letters and ASCII

The small letters of a text, seen from ASCII. Its own letters become small one by one, and what
stands beyond it stays beyond it, with one exception: the Kelvin sign becomes a k.

- `lowerAll_of_ascii`: characters of ASCII.
- `exists_beyond_lowerAll`: a character beyond it.
- `lowerAll_eq_iff`: which characters become a given word of ASCII without a k.
-/

namespace TelemetryLink.Text.Lowercase

variable {before after cs : List Char} {c : Char}

/-! ## One character -/

theorem small_of_ascii (h : c.toNat < 128) : small c = c.toLower := by
  have hall : ∀ n < 128, small (Char.ofNat n) = (Char.ofNat n).toLower := by decide +kernel
  have hc := hall c.toNat h
  rwa [Char.ofNat_toNat] at hc

theorem lower_of_ascii (h : c.toNat < 128) : lower before c after = [c.toLower] := by
  have hsigma : c ≠ 'Σ' := by
    rintro rfl
    exact absurd h (by decide)
  have hdotted : c ≠ 'İ' := by
    rintro rfl
    exact absurd h (by decide)
  unfold lower
  rw [if_neg hsigma, if_neg hdotted, small_of_ascii h]

/-- Capitals beyond ASCII have their small letters there, where all code points are characters. Only
the Kelvin sign has not. -/
theorem beyond_of_mem_capitals :
    ∀ run ∈ capitals, 128 ≤ run.last →
      (run.first = 0x212A ∧ run.last = 0x212A ∧ run.shift = -8383) ∨
      (128 ≤ run.first + run.shift ∧
        (run.last + run.shift < 0xD800 ∨
          0xE000 ≤ run.first + run.shift ∧ run.last + run.shift < 0x110000)) := by
  decide +kernel

theorem small_beyond (h : 128 ≤ c.toNat) : 128 ≤ (small c).toNat ∨ small c = 'k' := by
  unfold small
  cases hfind : capitals.find? (·.has c.toNat) with
  | none => exact .inl h
  | some run =>
    have hhas := List.find?_some hfind
    simp only [Capitals.has, Bool.and_eq_true, decide_eq_true_eq] at hhas
    obtain ⟨⟨hfirst, hlast⟩, -⟩ := hhas
    rcases beyond_of_mem_capitals run (List.mem_of_find?_eq_some hfind) (Nat.le_trans h hlast) with
      ⟨hkelvin, hkelvin', hshift⟩ | ⟨hbeyond, hvalid⟩
    · have hc : c.toNat = 0x212A := by omega
      right
      simp only [Capitals.small, hc, hshift]
      rfl
    · -- All code points between the outermost small letters of a run are characters.
      have hchar : ((c.toNat : Int) + run.shift).toNat.isValidChar := by
        unfold Nat.isValidChar
        omega
      have hsmall : (run.small c.toNat).toNat = ((c.toNat : Int) + run.shift).toNat := by
        rw [Capitals.small, Char.ofNat, dif_pos hchar]
        rfl
      left
      change 128 ≤ (run.small c.toNat).toNat
      omega

/-- A character beyond ASCII never becomes characters of ASCII without a k. -/
theorem exists_beyond_lower (before after : List Char) (h : 128 ≤ c.toNat) :
    ∃ d ∈ lower before c after, 128 ≤ d.toNat ∨ d = 'k' := by
  unfold lower
  split
  · refine ⟨sigma before after, List.mem_singleton_self _, .inl ?_⟩
    unfold sigma
    split <;> decide
  · split
    · exact ⟨Char.ofNat 0x307, .tail _ (.head _), .inl (by decide)⟩
    · exact ⟨small c, List.mem_singleton_self _, small_beyond h⟩

/-! ## Several characters -/

theorem lowerAll_of_ascii (h : ∀ c ∈ cs, c.toNat < 128) :
    lowerAll before cs = cs.map Char.toLower := by
  induction cs generalizing before with
  | nil => rfl
  | cons c cs ih =>
    obtain ⟨hc, hcs⟩ := List.forall_mem_cons.1 h
    unfold lowerAll
    rw [lower_of_ascii hc, ih hcs]
    rfl

theorem exists_beyond_lowerAll (before : List Char) (hmem : c ∈ cs) (h : 128 ≤ c.toNat) :
    ∃ d ∈ lowerAll before cs, 128 ≤ d.toNat ∨ d = 'k' := by
  induction cs generalizing before with
  | nil => exact nomatch hmem
  | cons head cs ih =>
    unfold lowerAll
    rcases List.mem_cons.1 hmem with rfl | hmem
    · obtain ⟨d, hd, hbeyond⟩ := exists_beyond_lower before cs h
      exact ⟨d, List.mem_append_left _ hd, hbeyond⟩
    · obtain ⟨d, hd, hbeyond⟩ := ih (head :: before) hmem
      exact ⟨d, List.mem_append_right _ hd, hbeyond⟩

theorem toLower_of_beyond (h : 128 ≤ c.toNat) : c.toLower = c := by
  unfold Char.toLower
  rw [dif_neg]
  rintro ⟨-, hle⟩
  exact absurd (Nat.le_trans h hle) (by decide)

/-- A word of ASCII without a k comes from characters exactly if it does by the letters of ASCII
alone. -/
theorem lowerAll_eq_iff {word : List Char} (hword : ∀ d ∈ word, d.toNat < 128 ∧ d ≠ 'k') :
    lowerAll before cs = word ↔ cs.map Char.toLower = word := by
  by_cases hbeyond : ∃ c ∈ cs, 128 ≤ c.toNat
  · obtain ⟨c, hmem, hbeyond⟩ := hbeyond
    -- It leaves something on both sides that no such word has.
    refine iff_of_false ?_ ?_
    · rintro rfl
      obtain ⟨d, hd, hd'⟩ := exists_beyond_lowerAll before hmem hbeyond
      obtain ⟨hlt, hk⟩ := hword d hd
      exact hd'.elim (fun h => absurd h (by omega)) hk
    · rintro rfl
      have hc : c ∈ cs.map Char.toLower := List.mem_map.2 ⟨c, hmem, toLower_of_beyond hbeyond⟩
      exact absurd (hword c hc).1 (by omega)
  · rw [lowerAll_of_ascii fun c hc => Nat.lt_of_not_le fun h => hbeyond ⟨c, hc, h⟩]

end TelemetryLink.Text.Lowercase
