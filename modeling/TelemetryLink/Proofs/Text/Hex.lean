import TelemetryLink.Text.Hex
import TelemetryLink.Proofs.Text.Utf8
import Mathlib.Data.List.Basic

/-!
# Hexadecimal digits and what they spell

Which characters are digits, and which octets a text of digits stands for. Everything is said of
characters; the reader works on their octets, and agrees because the octets of other characters than
digits are no digits.

- `IsDigit`: the digits in the order of their values, of either case.
- `charDigit?_eq_some_iff`, `digit?_eq_some_iff`: these are what the reader takes for digits.
- `Spells`: two digits for each octet.
- `decode_encodeChars_eq_some_iff`: the reader returns the octets that are spelled.
- `spells_octet`, `spells_upperOctet`: what the writers make of an octet spells it.
-/

namespace TelemetryLink.Text.Hex

/-! ## Digits -/

/-- The character is the hexadecimal digit of the value, in either case. -/
def IsDigit (c : Char) (value : Nat) : Prop :=
  "0123456789abcdef".toList[value]? = some c ∨ "0123456789ABCDEF".toList[value]? = some c

theorem IsDigit.lt {c : Char} {value : Nat} (h : IsDigit c value) : value < 16 := by
  rcases h with h | h
  · exact (List.getElem?_eq_some_iff.1 h).1
  · exact (List.getElem?_eq_some_iff.1 h).1

theorem getElem?_lower {value : Nat} (h : value < 16) :
    "0123456789abcdef".toList[value]? = some (lowerDigit value) := by
  revert value
  decide

theorem getElem?_upper {value : Nat} (h : value < 16) :
    "0123456789ABCDEF".toList[value]? = some (upperDigit value) := by
  revert value
  decide

/-- The digits of a value are those that are written for it. -/
theorem isDigit_iff {c : Char} {value : Nat} :
    IsDigit c value ↔ value < 16 ∧ (c = lowerDigit value ∨ c = upperDigit value) := by
  constructor
  · intro h
    have hlt := h.lt
    refine ⟨hlt, ?_⟩
    rw [IsDigit, getElem?_lower hlt, getElem?_upper hlt, Option.some.injEq, Option.some.injEq] at h
    exact h.imp Eq.symm Eq.symm
  · rintro ⟨hlt, rfl | rfl⟩
    · exact .inl (getElem?_lower hlt)
    · exact .inr (getElem?_upper hlt)

theorem charDigit?_lowerDigit {value : Nat} (h : value < 16) :
    charDigit? (lowerDigit value) = some value := by
  revert value
  decide

theorem charDigit?_upperDigit {value : Nat} (h : value < 16) :
    charDigit? (upperDigit value) = some value := by
  revert value
  decide

/-- The digits that the reader knows are those of the two alphabets. -/
theorem charDigit?_eq_some_iff {c : Char} {value : Nat} :
    charDigit? c = some value ↔ IsDigit c value := by
  rw [isDigit_iff]
  constructor
  · intro h
    rw [charDigit?] at h
    split at h
    case isFalse => cases h
    -- The number of an ASCII character is not cut down by being made an octet.
    have hoctet : (UInt8.ofNat c.toNat).toNat = c.toNat := by
      rw [UInt8.toNat_ofNat']
      omega
    rw [digit?, hoctet] at h
    -- The ranges of the decimal digits and of the letters of either case.
    split_ifs at h
    · obtain rfl := Option.some.inj h
      refine ⟨by omega, .inl ?_⟩
      rw [lowerDigit, if_pos (by omega), Nat.add_sub_cancel' (by omega), Char.ofNat_toNat]
    · obtain rfl := Option.some.inj h
      refine ⟨by omega, .inl ?_⟩
      rw [lowerDigit, if_neg (by omega), Nat.add_sub_cancel' (by omega), Char.ofNat_toNat]
    · obtain rfl := Option.some.inj h
      refine ⟨by omega, .inr ?_⟩
      rw [upperDigit, if_neg (by omega), Nat.add_sub_cancel' (by omega), Char.ofNat_toNat]
  · rintro ⟨hlt, rfl | rfl⟩
    · exact charDigit?_lowerDigit hlt
    · exact charDigit?_upperDigit hlt

/-- Only octets of ASCII characters are digits. -/
theorem lt_of_digit? {b : UInt8} {value : Nat} (h : digit? b = some value) : b.toNat < 128 := by
  rw [digit?] at h
  split_ifs at h
  all_goals omega

/-- An octet is a digit if the character with its number is one. -/
theorem charDigit?_eq_digit? {c : Char} {b : UInt8} (h : c.toNat = b.toNat) :
    charDigit? c = digit? b := by
  rw [charDigit?, h, UInt8.ofNat_toNat]
  split
  case isTrue => rfl
  case isFalse hlarge =>
    cases hdigit : digit? b with
    | none => rfl
    | some value => exact absurd (lt_of_digit? hdigit) hlarge

theorem digit?_eq_some_iff {b : UInt8} {value : Nat} :
    digit? b = some value ↔ IsDigit (Char.ofNat b.toNat) value := by
  have hb : (Char.ofNat b.toNat).toNat = b.toNat := by
    have hlt := b.toNat_lt
    rw [Char.ofNat, dif_pos (.inl (by omega))]
    rfl
  rw [← charDigit?_eq_some_iff, charDigit?_eq_digit? hb]

/-- The octet is a hexadecimal digit. -/
def IsDigitOctet (b : UInt8) : Prop :=
  ∃ value, IsDigit (Char.ofNat b.toNat) value

theorem isNone_digit?_iff {b : UInt8} : (digit? b).isNone = true ↔ ¬ IsDigitOctet b := by
  rw [IsDigitOctet, Option.isNone_iff_eq_none, Option.eq_none_iff_forall_ne_some, not_exists]
  refine forall_congr' fun value => ?_
  rw [Ne, digit?_eq_some_iff]

/-! ## Octets -/

/-- The text has two digits for each octet, of which the first one counts sixteen times. -/
def Spells (u : List Char) (bytes : Bytes) : Prop :=
  u.length = 2 * bytes.length ∧ ∀ i b, bytes[i]? = some b →
    ∃ c d high low, u[2 * i]? = some c ∧ u[2 * i + 1]? = some d ∧
      IsDigit c high ∧ IsDigit d low ∧ b.toNat = 16 * high + low

theorem spells_nil_iff {u : List Char} : Spells u [] ↔ u = [] := by
  simp [Spells]

/-- The first octet is spelled by the first two digits, and the others by the rest. -/
theorem spells_cons_iff {u : List Char} {b : UInt8} {bytes : Bytes} :
    Spells u (b :: bytes) ↔ ∃ c d rest high low, u = c :: d :: rest ∧ IsDigit c high ∧
      IsDigit d low ∧ b.toNat = 16 * high + low ∧ Spells rest bytes := by
  constructor
  · rintro ⟨hlength, hspelled⟩
    obtain ⟨c, d, high, low, hc, hd, hhigh, hlow, hb⟩ := hspelled 0 b rfl
    rcases u with _ | ⟨c', _ | ⟨d', rest⟩⟩
    · cases hc
    · cases hd
    obtain rfl : c' = c := Option.some.inj hc
    obtain rfl : d' = d := Option.some.inj hd
    -- The octets of the rest are one further on here, and their digits two.
    refine ⟨c', d', rest, high, low, rfl, hhigh, hlow, hb, ?_, fun i b hi => hspelled (i + 1) b hi⟩
    simp only [List.length_cons] at hlength
    omega
  · rintro ⟨c, d, rest, high, low, rfl, hhigh, hlow, hb, hlength, hspelled⟩
    refine ⟨by simp only [List.length_cons]; omega, fun i b' hi => ?_⟩
    cases i with
    | zero =>
      obtain rfl : b = b' := Option.some.inj hi
      exact ⟨c, d, high, low, rfl, rfl, hhigh, hlow, hb⟩
    | succ i => exact hspelled i b' hi

theorem decode_eq_nil_iff {raw : Bytes} : decode raw = some [] ↔ raw = [] := by
  fun_cases decode raw with
  | case1 => simp
  | case2 high low rest => simp [Option.bind_eq_some_iff]
  | case3 => simp

/-- The first octet is read from the first two digits, and the others from the rest. -/
theorem decode_eq_cons_iff {raw bytes : Bytes} {b : UInt8} :
    decode raw = some (b :: bytes) ↔ ∃ first second rest high low, raw = first :: second :: rest ∧
      digit? first = some high ∧ digit? second = some low ∧ decode rest = some bytes ∧
      UInt8.ofNat (16 * high + low) = b := by
  fun_cases decode raw with
  | case1 => simp
  | case2 first second rest => simp [Option.bind_eq_some_iff]
  | case3 => simp

/-- An octet in front that is a digit is the first character. -/
theorem exists_of_encodeChars_eq_digit {u : List Char} {first : UInt8} {rest : Bytes} {value : Nat}
    (h : Utf8.encodeChars u = first :: rest) (hvalue : digit? first = some value) :
    ∃ c tail, u = c :: tail ∧ IsDigit c value ∧ Utf8.encodeChars tail = rest := by
  obtain ⟨c, tail, rfl, hc, hrest⟩ := Utf8.exists_of_encodeChars_eq_cons h (lt_of_digit? hvalue)
  refine ⟨c, tail, rfl, ?_, hrest⟩
  rw [← charDigit?_eq_some_iff, charDigit?_eq_digit? hc, hvalue]

/-- The octet of a digit is a digit. -/
theorem encodeChars_digit_cons {c : Char} {value : Nat} (h : IsDigit c value) (u : List Char) :
    ∃ b, Utf8.encodeChars (c :: u) = b :: Utf8.encodeChars u ∧ digit? b = some value := by
  rw [← charDigit?_eq_some_iff, charDigit?] at h
  split at h
  case isTrue hc => exact ⟨_, Utf8.encodeChars_cons_of_ascii hc u, h⟩
  case isFalse => cases h

/-- The octets of digits are digits, one for each. -/
theorem encodeChars_digits {u : List Char} (h : ∀ c ∈ u, ∃ value, IsDigit c value) :
    (Utf8.encodeChars u).length = u.length ∧ ∀ b ∈ Utf8.encodeChars u, IsDigitOctet b := by
  induction u with
  | nil => exact ⟨rfl, nofun⟩
  | cons c u ih =>
    obtain ⟨value, hvalue⟩ := h c (by simp)
    obtain ⟨first, hfirst, hdigit⟩ := encodeChars_digit_cons hvalue u
    obtain ⟨hlength, hdigits⟩ := ih fun d hd => h d (by simp [hd])
    rw [hfirst]
    constructor
    · rw [List.length_cons, List.length_cons, hlength]
    · intro b hb
      rcases List.mem_cons.1 hb with rfl | hb
      · exact ⟨value, digit?_eq_some_iff.1 hdigit⟩
      · exact hdigits b hb

/-- The reader returns the octets that a text spells. -/
theorem decode_encodeChars_eq_some_iff {u : List Char} {bytes : Bytes} :
    decode (Utf8.encodeChars u) = some bytes ↔ Spells u bytes := by
  induction bytes generalizing u with
  | nil => rw [decode_eq_nil_iff, spells_nil_iff, Utf8.encodeChars_eq_nil_iff]
  | cons b bytes ih =>
    rw [decode_eq_cons_iff, spells_cons_iff]
    constructor
    -- Each octet that is a digit is a character of its own, and its value is below sixteen.
    · rintro ⟨first, second, rest, high, low, hraw, hfirst, hsecond, hrest, hb⟩
      obtain ⟨c, tail, rfl, hc, htail⟩ := exists_of_encodeChars_eq_digit hraw hfirst
      obtain ⟨d, u, rfl, hd, hu⟩ := exists_of_encodeChars_eq_digit htail hsecond
      refine ⟨c, d, u, high, low, rfl, hc, hd, ?_, ih.1 (hu ▸ hrest)⟩
      have hhigh := hc.lt
      have hlow := hd.lt
      rw [← hb, UInt8.toNat_ofNat']
      omega
    · rintro ⟨c, d, u, high, low, rfl, hc, hd, hb, hu⟩
      obtain ⟨first, hfirst, hhigh⟩ := encodeChars_digit_cons hc (d :: u)
      obtain ⟨second, hsecond, hlow⟩ := encodeChars_digit_cons hd u
      refine ⟨first, second, Utf8.encodeChars u, high, low, ?_, hhigh, hlow, ih.2 hu, ?_⟩
      · rw [hfirst, hsecond]
      · rw [← hb, UInt8.ofNat_toNat]

/-- What is read consists of digits, two for each octet. -/
theorem of_decode {raw bytes : Bytes} (h : decode raw = some bytes) :
    raw.length = 2 * bytes.length ∧ ∀ b ∈ raw, IsDigitOctet b := by
  induction bytes generalizing raw with
  | nil =>
    obtain rfl := decode_eq_nil_iff.1 h
    simp
  | cons b bytes ih =>
    obtain ⟨first, second, rest, high, low, rfl, hfirst, hsecond, hrest, -⟩ :=
      decode_eq_cons_iff.1 h
    obtain ⟨hlength, hdigits⟩ := ih hrest
    constructor
    · simp only [List.length_cons]
      omega
    · intro b hb
      rcases List.mem_cons.1 hb with rfl | hb
      · exact ⟨high, digit?_eq_some_iff.1 hfirst⟩
      rcases List.mem_cons.1 hb with rfl | hb
      · exact ⟨low, digit?_eq_some_iff.1 hsecond⟩
      · exact hdigits b hb

/-- Octets that are all digits are read if their count is even. -/
theorem exists_decode {n : Nat} {raw : Bytes} (hlength : raw.length = 2 * n)
    (hdigits : ∀ b ∈ raw, IsDigitOctet b) : ∃ bytes, decode raw = some bytes := by
  induction n generalizing raw with
  | zero =>
    obtain rfl := List.length_eq_zero_iff.1 hlength
    exact ⟨[], rfl⟩
  | succ n ih =>
    rcases raw with _ | ⟨first, _ | ⟨second, rest⟩⟩
    · cases hlength
    · simp only [List.length_cons, List.length_nil] at hlength
      omega
    obtain ⟨high, hhigh⟩ := hdigits first (by simp)
    obtain ⟨low, hlow⟩ := hdigits second (by simp)
    have hrest : rest.length = 2 * n := by
      simp only [List.length_cons] at hlength
      omega
    obtain ⟨bytes, hbytes⟩ := ih hrest fun b hb => hdigits b (by simp [hb])
    refine ⟨UInt8.ofNat (16 * high + low) :: bytes, ?_⟩
    exact decode_eq_cons_iff.2 ⟨first, second, rest, high, low, rfl, digit?_eq_some_iff.2 hhigh,
      digit?_eq_some_iff.2 hlow, hbytes, rfl⟩

/-! ## Octets that are written -/

/-- A text that spells octets has no other characters than digits. -/
theorem Spells.isDigit {u : List Char} {bytes : Bytes} (h : Spells u bytes) :
    ∀ c ∈ u, ∃ value, IsDigit c value := by
  induction bytes generalizing u with
  | nil =>
    obtain rfl := spells_nil_iff.1 h
    simp
  | cons b bytes ih =>
    obtain ⟨c, d, rest, high, low, rfl, hc, hd, -, hrest⟩ := spells_cons_iff.1 h
    intro x hx
    rcases List.mem_cons.1 hx with rfl | hx
    · exact ⟨high, hc⟩
    rcases List.mem_cons.1 hx with rfl | hx
    · exact ⟨low, hd⟩
    · exact ih hrest x hx

/-- The digits of one octet, then those of others. -/
theorem Spells.append_cons {u v : List Char} {b : UInt8} {bytes : Bytes} (hu : Spells u [b])
    (hv : Spells v bytes) : Spells (u ++ v) (b :: bytes) := by
  obtain ⟨c, d, rest, high, low, rfl, hc, hd, hb, hrest⟩ := spells_cons_iff.1 hu
  obtain rfl := spells_nil_iff.1 hrest
  exact spells_cons_iff.2 ⟨c, d, v, high, low, rfl, hc, hd, hb, hv⟩

/-- Octets are spelled by digits written one octet after the other. -/
theorem spells_flatMap {spell : UInt8 → List Char} (h : ∀ b, Spells (spell b) [b]) (bytes : Bytes) :
    Spells (bytes.flatMap spell) bytes := by
  induction bytes with
  | nil => exact spells_nil_iff.2 rfl
  | cons b bytes ih =>
    rw [List.flatMap_cons]
    exact (h b).append_cons ih

/-- An octet is spelled by the digits of its two halves, of either case each. -/
theorem spells_pair {c d : Char} {b : UInt8} (hc : IsDigit c (b.toNat / 16))
    (hd : IsDigit d (b.toNat % 16)) : Spells [c, d] [b] := by
  refine spells_cons_iff.2 ⟨c, d, [], b.toNat / 16, b.toNat % 16, rfl, hc, hd, ?_, ?_⟩
  · omega
  · exact spells_nil_iff.2 rfl

theorem spells_octet (b : UInt8) : Spells (octet b) [b] := by
  have hb := b.toNat_lt
  apply spells_pair
  · exact isDigit_iff.2 ⟨by omega, .inl rfl⟩
  · exact isDigit_iff.2 ⟨by omega, .inl rfl⟩

theorem spells_upperOctet (b : UInt8) : Spells (upperOctet b) [b] := by
  have hb := b.toNat_lt
  apply spells_pair
  · exact isDigit_iff.2 ⟨by omega, .inr rfl⟩
  · exact isDigit_iff.2 ⟨by omega, .inr rfl⟩

end TelemetryLink.Text.Hex
