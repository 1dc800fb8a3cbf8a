import TelemetryLink.Proofs.Toml.Reader
import TelemetryLink.Toml.DateTime
import TelemetryLink.Toml.Number
import TelemetryLink.Toml.Writer

/-!
# Integers are read as they were written

An integer in decimal, at the end of its line, is neither a date nor a time nor a floating point
number, and is read as itself if the format can hold it.

- `whole_integerText`: the sign and the digits.
- `DateTime.read_eq_none`: digits alone are no date and no time.
- `read_integerText`: the integer.
-/

namespace TelemetryLink.Toml

open Reader

variable {ds rest : List Char}

/-! ## Digits -/

theorem toNat_of_isDigit {c : Char} (h : c.isDigit = true) : 48 ≤ c.toNat ∧ c.toNat ≤ 57 := by
  simp only [Char.isDigit, Bool.and_eq_true, decide_eq_true_eq] at h
  exact ⟨UInt32.le_iff_toNat_le.1 h.1, UInt32.le_iff_toNat_le.1 h.2⟩

/-- What follows in a line of digits is one more, or the end of the line. -/
theorem isDigit_of_head? (hds : ∀ c ∈ ds, c.isDigit = true) {c : Char}
    (h : (ds ++ '\n' :: rest).head? = some c) : c.isDigit = true ∨ c = '\n' := by
  cases ds with
  | nil => exact .inr (Option.some.inj h).symm
  | cons d ds => exact .inl (Option.some.inj h ▸ hds d List.mem_cons_self)

/-- A text that starts with neither a digit nor the end of a line stands nowhere among digits. -/
theorem exactly_digits_eq_none (hds : ∀ c ∈ ds, c.isDigit = true) (mark : Char)
    {text : String} (htext : text.toList.head? = some mark)
    (hmark : mark.isDigit = false ∧ mark ≠ '\n') :
    exactly text (ds ++ '\n' :: rest) = none := by
  refine exactly_eq_none fun ⟨after, h⟩ => ?_
  have hhead : (ds ++ '\n' :: rest).head? = some mark := by
    rw [← h, List.head?_append, htext, Option.some_or]
  rcases isDigit_of_head? hds hhead with hdigit | hline
  · rw [hmark.1] at hdigit
    cases hdigit
  · exact hmark.2 hline

/-! ## Dates and times -/

namespace DateTime

/-- A fixed count of digits leaves the digits behind them. -/
theorem fixed_digits (hds : ∀ c ∈ ds, c.isDigit = true) (value n : Nat) (rest : List Char) :
    fixed value n (ds ++ '\n' :: rest) = none ∨
      ∃ m later, (∀ c ∈ later, c.isDigit = true) ∧
        fixed value n (ds ++ '\n' :: rest) = some (m, later ++ '\n' :: rest) := by
  induction n generalizing value ds with
  | zero => exact .inr ⟨value, ds, hds, rfl⟩
  | succ n ih =>
    cases ds with
    | nil => exact .inl rfl
    | cons d ds =>
      have hd : satisfying Char.isDigit (d :: (ds ++ '\n' :: rest)) =
          some (d, ds ++ '\n' :: rest) := if_pos (hds d List.mem_cons_self)
      rw [fixed, List.cons_append, bind_eq hd]
      exact ih (fun c hc => hds c (List.mem_cons_of_mem _ hc)) _

theorem field_digits (hds : ∀ c ∈ ds, c.isDigit = true) (digits low high : Nat)
    (rest : List Char) :
    field digits low high (ds ++ '\n' :: rest) = none ∨
      ∃ m later, (∀ c ∈ later, c.isDigit = true) ∧
        field digits low high (ds ++ '\n' :: rest) = some (m, later ++ '\n' :: rest) := by
  obtain h | ⟨m, later, hlater, h⟩ := fixed_digits hds 0 digits rest
  · exact .inl (bind_eq_none h)
  · rw [field, bind_eq h]
    by_cases hbounds : low ≤ m ∧ m ≤ high
    · rw [if_pos hbounds]
      exact .inr ⟨m, later, hlater, rfl⟩
    · rw [if_neg hbounds]
      exact .inl rfl

/-- Digits alone are neither a date nor a time of the day. -/
theorem read_eq_none (hds : ∀ c ∈ ds, c.isDigit = true) : read (ds ++ '\n' :: rest) = none := by
  have hdate : date (ds ++ '\n' :: rest) = none := by
    obtain h | ⟨m, later, hlater, h⟩ := fixed_digits hds 0 4 rest
    · exact bind_eq_none h
    · rw [date, bind_eq h, bind_eq_none (exactly_digits_eq_none hlater '-' rfl (by decide))]
  have htime : time (ds ++ '\n' :: rest) = none := by
    obtain h | ⟨m, later, hlater, h⟩ := field_digits hds 2 0 23 rest
    · exact bind_eq_none h
    · rw [time, bind_eq h, bind_eq_none (exactly_digits_eq_none hlater ':' rfl (by decide))]
  exact bind_eq_none ((orElse_eq_right (bind_eq_none hdate)).trans htime)

/-- Nor is anything that does not start with a digit. -/
theorem read_eq_none_of_head {c : Char} (hc : c.isDigit = false) (cs : List Char) :
    read (c :: cs) = none := by
  have hdigit : satisfying Char.isDigit (c :: cs) = none := if_neg (by simp [hc])
  have hdate : date (c :: cs) = none := bind_eq_none (bind_eq_none hdigit)
  have htime : time (c :: cs) = none := bind_eq_none (bind_eq_none (bind_eq_none hdigit))
  exact bind_eq_none ((orElse_eq_right (bind_eq_none hdate)).trans htime)

end DateTime

/-! ## Numbers -/

namespace Number

theorem digitIn_of_isDigit {c : Char} (h : c.isDigit = true) :
    digitIn 10 c = some (c.toNat - '0'.toNat) := by
  obtain ⟨hlow, hhigh⟩ := toNat_of_isDigit h
  have hoctet : (UInt8.ofNat c.toNat).toNat = c.toNat :=
    UInt8.toNat_ofNat.trans (Nat.mod_eq_of_lt (by omega))
  have hdigit : Text.Hex.charDigit? c = some (c.toNat - 48) := by
    rw [Text.Hex.charDigit?, if_pos (by omega), Text.Hex.digit?, hoctet]
    exact if_pos ⟨hlow, hhigh⟩
  rw [digitIn, hdigit]
  exact if_pos (by omega)

/-- A run of digits ends with the line. -/
theorem digitRun_digits (hds : ∀ c ∈ ds, c.isDigit = true) :
    digitRun 10 (ds ++ '\n' :: rest) =
      (ds.map fun c => c.toNat - '0'.toNat, '\n' :: rest) := by
  induction ds with
  | nil => rfl
  | cons d ds ih =>
    have hd := hds d List.mem_cons_self
    have hunder : d ≠ '_' := by
      rintro rfl
      cases hd
    rw [List.cons_append, digitRun]
    · rw [digitIn_of_isDigit hd]
      dsimp only
      rw [ih fun c hc => hds c (List.mem_cons_of_mem _ hc)]
      rfl
    · exact fun c cs h _ => hunder h

/-- The number that digits stand for. -/
theorem ofDigits_map (ds : List Char) :
    ofDigits 10 (ds.map fun c => c.toNat - '0'.toNat) = Nat.ofDigitChars 10 ds 0 := by
  rw [ofDigits, List.foldl_map, Nat.ofDigitChars_eq_foldl]
  simp only [Nat.mul_comm]

/-- Only the number zero is written with a zero in front. -/
theorem head?_toDigits {n : Nat} (hn : n ≠ 0) : (Nat.toDigits 10 n).head? ≠ some '0' := by
  induction n using Nat.strongRecOn with
  | ind n ih =>
    by_cases hlt : n < 10
    · rw [Nat.toDigits_of_lt_base hlt]
      exact fun h => hn (Nat.digitChar_eq_zero.1 (Option.some.inj h))
    · have hfront := ih (n / 10) (by omega) (by omega)
      rw [Nat.toDigits_of_base_le (by decide) (by omega), List.head?_append]
      rcases h : Nat.toDigits 10 (n / 10) with _ | ⟨d, ds⟩
      · exact absurd h Nat.toDigits_ne_nil
      · rwa [h] at hfront

theorem isDigit_toDigits (n : Nat) : ∀ c ∈ Nat.toDigits 10 n, c.isDigit = true :=
  fun _ => Nat.isDigit_of_mem_toDigits (by decide) (by decide)

/-- A minus is written in front of a negative number, and nothing in front of another. -/
theorem sign_integerText (n : Int) :
    sign (Written.integerText n ++ '\n' :: rest) =
      some (decide (n < 0), Nat.toDigits 10 n.natAbs ++ '\n' :: rest) := by
  unfold Written.integerText
  by_cases hneg : n < 0
  · rw [if_pos hneg, decide_eq_true hneg]
    rfl
  · rw [if_neg hneg, decide_eq_false hneg, List.nil_append]
    have hsign {c : Char} (hc : c.isDigit = false ∧ c ≠ '\n') :
        (Nat.toDigits 10 n.natAbs ++ '\n' :: rest).head? ≠ some c :=
      fun h => absurd (isDigit_of_head? (isDigit_toDigits _) h) (by simp [hc])
    have hminus := hsign (c := '-') (by decide)
    have hplus := hsign (c := '+') (by decide)
    rw [sign, peek_bind]
    simp only
    rfl

/-- The sign and the digits of an integer that stands at the end of its line. -/
theorem whole_integerText (n : Int) (rest : List Char) :
    ∃ ds, ofDigits 10 ds = n.natAbs ∧
      whole (Written.integerText n ++ '\n' :: rest) =
        some ((decide (n < 0), ds), '\n' :: rest) := by
  have hdigits := isDigit_toDigits n.natAbs
  rw [whole, bind_eq (sign_integerText n)]
  by_cases hzero : n.natAbs = 0
  · rw [hzero, Nat.toDigits_zero]
    exact ⟨[0], rfl, rfl⟩
  · refine ⟨_, (ofDigits_map _).trans Nat.ofDigitChars_ten_toDigits, ?_⟩
    have hhead := head?_toDigits hzero
    rcases hds : Nat.toDigits 10 n.natAbs with _ | ⟨d, ds⟩
    · exact absurd hds Nat.toDigits_ne_nil
    rw [hds] at hhead hdigits
    have hread : digits 10 (d :: ds ++ '\n' :: rest) =
        some ((d :: ds).map fun c => c.toNat - '0'.toNat, '\n' :: rest) := by
      rw [← digitRun_digits hdigits]
      exact if_pos (by rw [digitIn_of_isDigit (hdigits d List.mem_cons_self)]; rfl)
    have hhead : (d :: ds ++ '\n' :: rest).head? ≠ some '0' := hhead
    rw [peek_bind]
    simp only
    exact bind_eq hread

/-! ## What an integer is not -/

theorem decimalFloat_eq_none (n : Int) :
    decimalFloat (Written.integerText n ++ '\n' :: rest) = none := by
  obtain ⟨ds, -, hwhole⟩ := whole_integerText n rest
  have hpoint : exactly "." ('\n' :: rest) = none := exactly_eq_none (by simp)
  rw [decimalFloat, bind_eq hwhole]
  dsimp only
  rw [bind_eq (optional_eq_none (bind_eq_none hpoint))]
  -- Without a fraction there is no exponent, either.
  exact bind_eq_none (map_eq_none (bind_eq_none rfl))

theorem specialFloat_eq_none (n : Int) :
    specialFloat (Written.integerText n ++ '\n' :: rest) = none := by
  have hdigits := isDigit_toDigits n.natAbs
  rw [specialFloat, bind_eq (sign_integerText n)]
  refine (orElse_eq_right (bind_eq_none ?_)).trans (bind_eq_none ?_)
  · exact exactly_digits_eq_none hdigits 'i' (by decide) (by decide)
  · exact exactly_digits_eq_none hdigits 'n' (by decide) (by decide)

/-- No integer in decimal starts like one in another base. -/
theorem exactly_base_eq_none (n : Int) {mark : Char} (hmark : mark.isDigit = false ∧ mark ≠ '\n') :
    exactly (String.ofList ['0', mark]) (Written.integerText n ++ '\n' :: rest) = none := by
  refine exactly_eq_none fun ⟨after, h⟩ => ?_
  rw [String.toList_ofList] at h
  have hdigits := isDigit_toDigits n.natAbs
  unfold Written.integerText at h
  by_cases hneg : n < 0
  · rw [if_pos hneg] at h
    cases (List.cons.inj h).1
  · rw [if_neg hneg, List.nil_append] at h
    rcases hds : Nat.toDigits 10 n.natAbs with _ | ⟨d, ds⟩
    · exact absurd hds Nat.toDigits_ne_nil
    rw [hds] at h hdigits
    have hnext : (ds ++ '\n' :: rest).head? = some mark :=
      congrArg List.head? (List.cons.inj h).2.symm
    rcases isDigit_of_head? (fun c hc => hdigits c (List.mem_cons_of_mem _ hc)) hnext with h | h
    · rw [hmark.1] at h
      cases h
    · exact hmark.2 h

/-! ## Integers -/

theorem signed_natAbs (n : Int) : signed (decide (n < 0)) n.natAbs = n := by
  unfold signed
  split
  next h =>
    have := of_decide_eq_true h
    omega
  next h =>
    have := of_decide_eq_false (Bool.eq_false_iff.2 h)
    omega

/-- An integer at the end of its line is read if the format can hold it. -/
theorem read_integerText {n : Int} (hn : inRange n = true) (rest : List Char) :
    read (Written.integerText n ++ '\n' :: rest) = some (.integer n, '\n' :: rest) := by
  obtain ⟨ds, hvalue, hwhole⟩ := whole_integerText n rest
  have hbase (mark : Char) (base : Nat) (hmark : mark.isDigit = false ∧ mark ≠ '\n') :
      (do
        exactly (String.ofList ['0', mark])
        checked (ofDigits base (← digits base)) : Reader Scalar)
        (Written.integerText n ++ '\n' :: rest) = none :=
    bind_eq_none (exactly_base_eq_none n hmark)
  refine (orElse_eq_right (decimalFloat_eq_none n)).trans <|
    (orElse_eq_right (specialFloat_eq_none n)).trans <|
    (orElse_eq_right (hbase 'x' 16 (by decide))).trans <|
    (orElse_eq_right (hbase 'o' 8 (by decide))).trans <|
    (orElse_eq_right (hbase 'b' 2 (by decide))).trans <| (bind_eq hwhole).trans ?_
  dsimp only
  rw [hvalue, signed_natAbs, checked, if_pos hn]
  rfl

end Number

/-- An integer at the end of its line is no date. -/
theorem DateTime.read_integerText (n : Int) :
    DateTime.read (Written.integerText n ++ '\n' :: rest) = none := by
  unfold Written.integerText
  split
  next => exact DateTime.read_eq_none_of_head (by decide) _
  next => exact DateTime.read_eq_none (Number.isDigit_toDigits n.natAbs)

end TelemetryLink.Toml
