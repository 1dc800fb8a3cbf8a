import TelemetryLink.Identity
import TelemetryLink.Proofs.Text.Blank
import TelemetryLink.Proofs.Text.Hex

/-!
# Device ids as texts

Exactly which texts are read as device ids, which id each of them is, and what is said of the
others. The length is counted in octets, so that a text of six characters may pass for one of twelve
digits, and the first wrong octet may be part of a character.

- `parse_cases`: all that can happen. An odd count of digits, or digits for other than six octets,
  cannot.
- `Reading`, `reading_digits`: what becomes of a text, told from what is left of it without white
  space around it and without separators.
- `parse_spelling`: every id is read back from its digits, of either case, with or without
  separators.
- `parse_exact`: all of it.
-/

namespace TelemetryLink.DeviceId

open Text

theorem length_bytes (id : DeviceId) : id.bytes.length = deviceIdSize :=
  id.block.property

theorem eq_of_bytes_eq {id other : DeviceId} (h : id.bytes = other.bytes) : id = other := by
  obtain ⟨⟨bytes, hbytes⟩⟩ := id
  obtain ⟨⟨more, hmore⟩⟩ := other
  obtain rfl : bytes = more := h
  rfl

/-! ## What can happen -/

/-- The octet stands at the index, is no hexadecimal digit, and stands behind digits only. -/
structure FirstStray (raw : Bytes) (byte : UInt8) (index : Nat) : Prop where
  found : raw[index]? = some byte
  stray : ¬ Hex.IsDigitOctet byte
  before : ∀ i b, i < index → raw[i]? = some b → Hex.IsDigitOctet b

theorem firstNonDigit_eq_some_iff {raw : Bytes} {byte : UInt8} {index : Nat} :
    firstNonDigit raw = some (byte, index) ↔ FirstStray raw byte index := by
  rw [firstNonDigit, List.find?_eq_some_iff_getElem]
  simp only [List.length_zipIdx, List.getElem_zipIdx, Nat.zero_add, Prod.mk.injEq,
    Bool.not_eq_true', Bool.eq_false_iff, ne_eq, Hex.isNone_digit?_iff, not_not]
  constructor
  · rintro ⟨hstray, i, hi, ⟨rfl, rfl⟩, hbefore⟩
    refine ⟨List.getElem?_eq_getElem hi, hstray, fun j b hj hb => ?_⟩
    obtain ⟨hlt, rfl⟩ := List.getElem?_eq_some_iff.1 hb
    exact hbefore j hj
  · rintro ⟨hfound, hstray, hbefore⟩
    obtain ⟨hlt, rfl⟩ := List.getElem?_eq_some_iff.1 hfound
    refine ⟨hstray, index, hlt, ⟨rfl, rfl⟩, fun j hj => ?_⟩
    exact hbefore j _ hj (List.getElem?_eq_getElem (by omega))

theorem firstNonDigit_eq_none_iff {raw : Bytes} :
    firstNonDigit raw = none ↔ ∀ b ∈ raw, Hex.IsDigitOctet b := by
  rw [firstNonDigit, List.find?_eq_none]
  simp only [Hex.isNone_digit?_iff, not_not]
  constructor
  · intro h b hb
    obtain ⟨i, hi⟩ := List.mem_iff_getElem?.1 hb
    exact h (b, i) (List.mk_mem_zipIdx_iff_getElem?.2 hi)
  · rintro h ⟨b, i⟩ hb
    exact h b (List.mem_of_getElem? (List.mk_mem_zipIdx_iff_getElem?.1 hb))

theorem FirstStray.not_all {raw : Bytes} {byte : UInt8} {index : Nat}
    (h : FirstStray raw byte index) : ¬ ∀ b ∈ raw, Hex.IsDigitOctet b :=
  fun hall => h.stray (hall byte (List.mem_of_getElem? h.found))

/-- An id is read, or the octets are not twelve, or one of the twelve is no digit. -/
theorem parse_cases (text : String) {raw : Bytes} (hraw : Utf8.encodeChars (digits text) = raw) :
    (raw.length ≠ 2 * deviceIdSize ∧ parse text = .error (.deviceIdLength text)) ∨
      (∃ id, Hex.decode raw = some id.bytes ∧ parse text = .ok id) ∨
      (raw.length = 2 * deviceIdSize ∧ ∃ byte index, FirstStray raw byte index ∧
        parse text = .error (.deviceIdDigit text byte index)) := by
  rw [parse, hraw]
  by_cases hlength : raw.length = 2 * deviceIdSize
  · rw [if_neg (not_not.2 hlength)]
    cases hbytes : Hex.decode raw with
    | some bytes =>
      -- Two digits for each octet, so that there are six.
      have hsize : bytes.length = deviceIdSize := by
        have htwice := (Hex.of_decode hbytes).1
        omega
      refine .inr (.inl ⟨⟨⟨bytes, hsize⟩⟩, rfl, ?_⟩)
      simp [ofBytes, hsize]
    | none =>
      cases hstray : firstNonDigit raw with
      | some entry =>
        obtain ⟨byte, index⟩ := entry
        exact .inr (.inr ⟨hlength, byte, index, firstNonDigit_eq_some_iff.1 hstray, rfl⟩)
      | none =>
        -- Digits without exception, and an even count of them, have a value.
        obtain ⟨bytes, hdecoded⟩ := Hex.exists_decode hlength (firstNonDigit_eq_none_iff.1 hstray)
        rw [hbytes] at hdecoded
        cases hdecoded
  · rw [if_pos hlength]
    exact .inl ⟨hlength, rfl⟩

/-! ## What is said of each text -/

/-- What becomes of a text of which `u` is left without white space around it and without
separators. -/
structure Reading (text : String) (u : List Char) : Prop where
  /-- An id is read from exactly the texts that spell its octets. -/
  ok_iff : ∀ id, parse text = .ok id ↔ Hex.Spells u id.bytes
  /-- Exactly twelve digits are accepted. -/
  accepted_iff : (∃ id, parse text = .ok id) ↔
    u.length = 12 ∧ ∀ c ∈ u, ∃ value, Hex.IsDigit c value
  /-- The length is blamed if there are not twelve octets. -/
  length_iff : parse text = .error (.deviceIdLength text) ↔ (Utf8.encodeChars u).length ≠ 12
  /-- Of twelve octets, the first one is blamed that is no digit. -/
  digit_iff : ∀ byte index, parse text = .error (.deviceIdDigit text byte index) ↔
    (Utf8.encodeChars u).length = 12 ∧ FirstStray (Utf8.encodeChars u) byte index
  /-- Nothing else is said, and both are said in these words. -/
  refused : ∀ cause, parse text = .error cause →
    (cause = .deviceIdLength text ∧ (ProtocolError.validation cause).message =
      "validation failed: device id must be 6 bytes (12 hex chars), got " ++
        Quoted.string text) ∨
    ∃ byte index, cause = .deviceIdDigit text byte index ∧
      (ProtocolError.validation cause).message =
        "validation failed: device id " ++ Quoted.string text ++
          " is not valid hex: Invalid character " ++ Quoted.char (Char.ofNat byte.toNat) ++
          " at position " ++ toString index

theorem parse_eq_ok_iff {text : String} {id : DeviceId} :
    parse text = .ok id ↔ Hex.Spells (digits text) id.bytes := by
  rw [← Hex.decode_encodeChars_eq_some_iff]
  rcases parse_cases text rfl with ⟨hlength, h⟩ | ⟨other, hother, h⟩ | ⟨-, byte, index, hstray, h⟩
  · rw [h]
    refine iff_of_false nofun fun hid => hlength ?_
    rw [(Hex.of_decode hid).1, length_bytes]
  · rw [h, hother, Except.ok.injEq, Option.some.injEq]
    exact ⟨congrArg bytes, eq_of_bytes_eq⟩
  · rw [h]
    exact iff_of_false nofun fun hid => hstray.not_all (Hex.of_decode hid).2

theorem parse_eq_length_iff {text : String} : parse text = .error (.deviceIdLength text) ↔
    (Utf8.encodeChars (digits text)).length ≠ 2 * deviceIdSize := by
  rcases parse_cases text rfl with ⟨hlength, h⟩ | ⟨id, hid, h⟩ | ⟨hlength, byte, index, -, h⟩
  · exact iff_of_true h hlength
  · rw [h]
    refine iff_of_false nofun (not_not.2 ?_)
    rw [(Hex.of_decode hid).1, length_bytes]
  · rw [h]
    exact iff_of_false nofun (not_not.2 hlength)

theorem parse_eq_digit_iff {text : String} {byte : UInt8} {index : Nat} :
    parse text = .error (.deviceIdDigit text byte index) ↔
      (Utf8.encodeChars (digits text)).length = 2 * deviceIdSize ∧
        FirstStray (Utf8.encodeChars (digits text)) byte index := by
  rcases parse_cases text rfl with
    ⟨hlength, h⟩ | ⟨id, hid, h⟩ | ⟨hlength, other, position, hstray, h⟩
  · rw [h]
    exact iff_of_false nofun fun hdigit => hlength hdigit.1
  · rw [h]
    exact iff_of_false nofun fun hdigit => hdigit.2.not_all (Hex.of_decode hid).2
  · rw [h, ← firstNonDigit_eq_some_iff, firstNonDigit_eq_some_iff.2 hstray]
    simp [hlength]

/-- Twelve digits are an id, whatever they are. -/
theorem exists_parse_eq_ok_iff {text : String} : (∃ id, parse text = .ok id) ↔
    (digits text).length = 2 * deviceIdSize ∧ ∀ c ∈ digits text, ∃ value, Hex.IsDigit c value := by
  constructor
  · rintro ⟨id, hid⟩
    have hspells := parse_eq_ok_iff.1 hid
    refine ⟨?_, hspells.isDigit⟩
    rw [hspells.1, length_bytes]
  · rintro ⟨hlength, hdigits⟩
    obtain ⟨hsize, hoctets⟩ := Hex.encodeChars_digits hdigits
    rcases parse_cases text rfl with ⟨hother, -⟩ | ⟨id, -, h⟩ | ⟨-, byte, index, hstray, -⟩
    · exact absurd (hsize.trans hlength) hother
    · exact ⟨id, h⟩
    · exact absurd hoctets hstray.not_all

theorem reading_digits (text : String) : Reading text (digits text) where
  ok_iff _ := parse_eq_ok_iff
  accepted_iff := exists_parse_eq_ok_iff
  length_iff := parse_eq_length_iff
  digit_iff _ _ := parse_eq_digit_iff
  refused cause hcause := by
    rcases parse_cases text rfl with ⟨-, h⟩ | ⟨id, -, h⟩ | ⟨-, byte, index, -, h⟩
    · rw [h] at hcause
      cases hcause
      exact .inl ⟨rfl, rfl⟩
    · rw [h] at hcause
      cases hcause
    · rw [h] at hcause
      cases hcause
      exact .inr ⟨byte, index, rfl, rfl⟩

/-! ## Ids that are written -/

theorem filter_intercalate {α : Type} {p : α → Bool} {separator : List α} {parts : List (List α)}
    (hseparator : ∀ a ∈ separator, p a = false) (hparts : ∀ part ∈ parts, ∀ a ∈ part, p a = true) :
    (separator.intercalate parts).filter p = parts.flatten := by
  induction parts with
  | nil => rfl
  | cons part parts ih =>
    have hpart : part.filter p = part := List.filter_eq_self.2 (hparts part (by simp))
    cases parts with
    | nil => simp [hpart]
    | cons next parts =>
      have hnone : separator.filter p = [] := by
        rw [List.filter_eq_nil_iff]
        intro a ha
        simp [hseparator a ha]
      have hrest := ih fun other hother => hparts other (by simp [hother])
      rw [List.intercalate_cons_cons, List.filter_append, List.filter_append, hpart, hnone, hrest]
      simp

theorem mem_of_mem_intercalate {α : Type} {a : α} {separator : List α} {parts : List (List α)}
    (h : a ∈ separator.intercalate parts) : a ∈ separator ∨ a ∈ parts.flatten := by
  induction parts with
  | nil => cases h
  | cons part parts ih =>
    cases parts with
    | nil => exact .inr (by simpa using h)
    | cons next parts =>
      rw [List.intercalate_cons_cons, List.append_assoc] at h
      rcases List.mem_append.1 h with h | h
      · exact .inr (List.mem_append_left _ h)
      rcases List.mem_append.1 h with h | h
      · exact .inl h
      · exact (ih h).imp_right (List.mem_append_right part)

/-- No digit is a separator or white space. -/
theorem isSeparator_of_isDigit {c : Char} {value : Nat} (h : Hex.IsDigit c value) :
    isSeparator c = false ∧ Blank.isBlank c = false := by
  obtain ⟨hlt, hc⟩ := Hex.isDigit_iff.1 h
  clear h
  rcases hc with rfl | rfl
  · revert value
    decide
  · revert value
    decide

/-- No separator is white space. -/
theorem isBlank_of_isSeparator {c : Char} (h : isSeparator c = true) : Blank.isBlank c = false := by
  rw [isSeparator, Bool.or_eq_true, beq_iff_eq, beq_iff_eq] at h
  rcases h with rfl | rfl
  · rfl
  · rfl

section Spelling

variable {spell : UInt8 → List Char} {separator lead trail : List Char}

/-- An id is read back from the digits of its octets, with the same separators between all of them
and white space around. -/
theorem parse_spelling (hspell : ∀ b, Hex.Spells (spell b) [b])
    (hseparator : ∀ c ∈ separator, isSeparator c = true)
    (hlead : ∀ c ∈ lead, Blank.isBlank c = true) (htrail : ∀ c ∈ trail, Blank.isBlank c = true)
    (id : DeviceId) :
    parse (String.ofList (lead ++ separator.intercalate (id.bytes.map spell) ++ trail)) =
      .ok id := by
  have hdigit : ∀ part ∈ id.bytes.map spell, ∀ c ∈ part, ∃ value, Hex.IsDigit c value := by
    intro part hpart c hc
    obtain ⟨b, -, rfl⟩ := List.mem_map.1 hpart
    exact (hspell b).isDigit c hc
  -- No white space inside, so that trimming removes what is around and stops there.
  have hcore : ∀ c ∈ separator.intercalate (id.bytes.map spell), ¬ Blank.isBlank c = true := by
    intro c hc
    rw [Bool.not_eq_true]
    rcases mem_of_mem_intercalate hc with hc | hc
    · exact isBlank_of_isSeparator (hseparator c hc)
    · obtain ⟨part, hpart, hc⟩ := List.mem_flatten.1 hc
      obtain ⟨value, hvalue⟩ := hdigit part hpart c hc
      exact (isSeparator_of_isDigit hvalue).2
  rw [parse_eq_ok_iff, digits, String.toList_ofList,
    (Blank.trimmed_append hlead htrail hcore).trim_eq, filter_intercalate, ← List.flatMap_def]
  -- Without the separators one octet follows the other.
  · exact Hex.spells_flatMap hspell id.bytes
  · intro c hc
    rw [hseparator c hc]
    rfl
  · intro part hpart c hc
    obtain ⟨value, hvalue⟩ := hdigit part hpart c hc
    rw [(isSeparator_of_isDigit hvalue).1]
    rfl

end Spelling

/-- An id is displayed in upper case, with colons. -/
theorem toList_display (id : DeviceId) :
    id.display.toList = [':'].intercalate (id.bytes.map Hex.upperOctet) := by
  rw [display, String.toList_intercalate, List.map_map]
  simp [Function.comp_def]

theorem parse_display (id : DeviceId) : parse id.display = .ok id := by
  have hcolon : ∀ c ∈ [':'], isSeparator c = true := by simp [isSeparator]
  have h := @parse_spelling Hex.upperOctet [':'] [] [] Hex.spells_upperOctet hcolon nofun nofun id
  rw [List.nil_append, List.append_nil, ← toList_display, String.ofList_toList] at h
  exact h

/-- What is read of a text depends on what is left of it without white space around it and without
separators, and is an id if that consists of twelve digits. Every id is read back from its octets in
digits of either case, between any separators and any white space, and so from its own text, which
stays the same when it is read and displayed again. -/
theorem parse_exact :
    (∀ text, ∃ core, Blank.Trimmed text.toList core ∧
      Reading text (core.filter fun c => c != ':' && c != '-')) ∧
    (∀ (id : DeviceId) (spell : UInt8 → List Char) (separator lead trail : List Char),
      spell = Hex.octet ∨ spell = Hex.upperOctet → (∀ c ∈ separator, c = ':' ∨ c = '-') →
      (∀ c ∈ lead, Blank.isBlank c = true) → (∀ c ∈ trail, Blank.isBlank c = true) →
      parse (String.ofList (lead ++ separator.intercalate (id.bytes.map spell) ++ trail)) =
        .ok id) ∧
    (∀ id : DeviceId, id.display.toList = [':'].intercalate (id.bytes.map Hex.upperOctet) ∧
      parse id.display = .ok id) ∧
    ∀ text shown, (parse text).map display = .ok shown →
      (parse shown).map display = .ok shown := by
  refine ⟨fun text => ⟨Blank.trim text.toList, Blank.trim_eq_iff.1 rfl, ?_⟩, ?_, ?_, ?_⟩
  · have hfilter : digits text =
        (Blank.trim text.toList).filter fun c => c != ':' && c != '-' := by
      simp only [digits, isSeparator, Bool.not_or]
      rfl
    rw [← hfilter]
    exact reading_digits text
  · intro id spell separator lead trail hspell hseparator hlead htrail
    refine parse_spelling ?_ (fun c hc => ?_) hlead htrail id
    · rcases hspell with rfl | rfl
      · exact Hex.spells_octet
      · exact Hex.spells_upperOctet
    · simpa [isSeparator] using hseparator c hc
  · exact fun id => ⟨toList_display id, parse_display id⟩
  · intro text shown hshown
    rcases hparse : parse text with cause | id
    · rw [hparse] at hshown
      cases hshown
    · rw [hparse] at hshown
      obtain rfl : id.display = shown := Except.ok.inj hshown
      rw [parse_display]
      rfl

/-- Lower case with dashes between white space, the text that is displayed, and six characters of
two octets each, which pass for twelve digits until the first octet is read. -/
theorem parse_exact_dashed :
    let id : DeviceId := ⟨⟨[0xDE, 0xAD, 0xBE, 0xEF, 0, 1], rfl⟩⟩
    parse (String.ofList (['\n', ' '] ++ ['-'].intercalate (id.bytes.map Hex.octet) ++ ['\t'])) =
        .ok id ∧
      (parse "DE:AD:BE:EF:00:01").map display = .ok "DE:AD:BE:EF:00:01" ∧
      parse " éééééé" = .error (.deviceIdDigit " éééééé" 0xC3 0) := by
  intro id
  obtain ⟨hreading, hspelling, hdisplay, hfixed⟩ := parse_exact
  refine ⟨?_, ?_, ?_⟩
  · apply hspelling id Hex.octet ['-'] ['\n', ' '] ['\t'] (.inl rfl)
    · simp
    · simp [Blank.isBlank]
    · simp [Blank.isBlank]
  · apply hfixed "de-adbe:ef00-01"
    decide +kernel
  · obtain ⟨core, htrimmed, h⟩ := hreading " éééééé"
    obtain rfl : "éééééé".toList = core := Blank.trim_eq_iff.2 htrimmed
    -- The first character is spelled `C3 A9`.
    refine (h.digit_iff 0xC3 0).2 ⟨rfl, rfl, ?_, nofun⟩
    rw [← Hex.isNone_digit?_iff]
    rfl

end TelemetryLink.DeviceId
