import TelemetryLink.Text.Utf8
import Mathlib.Tactic.SplitIfs

/-!
# Texts and their octets

Every text is read back from its octets, and only the empty text has none. An octet below 128 is a
character of its own and never part of another one.
-/

namespace TelemetryLink.Text.Utf8

/-- The octets of a text are those that it is made of. -/
theorem toByteArray_encode (text : String) :
    (⟨(encode text).toArray⟩ : ByteArray) = text.toByteArray := by
  have hchars : text.toByteArray = text.toList.utf8Encode := by
    rw [← String.toByteArray_ofList, String.ofList_toList]
  rw [hchars]
  apply ByteArray.ext
  apply Array.toList_inj.1
  simp [encode, encodeChars, List.utf8Encode]

theorem decode?_encode (text : String) : decode? (encode text) = some text := by
  rw [decode?, toByteArray_encode, String.fromUTF8?, dif_pos text.isValidUTF8]
  rfl

theorem encodeChars_eq_nil_iff {cs : List Char} : encodeChars cs = [] ↔ cs = [] := by
  rw [encodeChars, List.flatMap_eq_nil_iff]
  constructor
  · intro h
    -- Every character has octets, so that there is none.
    exact List.eq_nil_iff_forall_not_mem.2 fun c hc => String.utf8EncodeChar_ne_nil (h c hc)
  · rintro rfl
    exact fun c hc => absurd hc List.not_mem_nil

theorem encode_eq_nil_iff {text : String} : encode text = [] ↔ text = "" := by
  rw [encode, encodeChars_eq_nil_iff]
  constructor
  · intro hnone
    rw [← String.ofList_toList (s := text), hnone]
  · rintro rfl
    rfl

/-- An ASCII character is one octet, its number. -/
theorem utf8EncodeChar_of_ascii {c : Char} (h : c.toNat < 128) :
    String.utf8EncodeChar c = [UInt8.ofNat c.toNat] := by
  have hval : c.val.toNat ≤ 127 := Nat.le_of_lt_succ h
  rw [String.utf8EncodeChar, if_pos hval]
  rfl

/-- The first octet of any other character is no ASCII character. -/
theorem exists_utf8EncodeChar_of_le {c : Char} (h : 128 ≤ c.toNat) :
    ∃ first rest, String.utf8EncodeChar c = first :: rest ∧ 128 ≤ first.toNat := by
  have hval : ¬ c.val.toNat ≤ 127 := Nat.not_le_of_lt h
  rw [String.utf8EncodeChar, if_neg hval]
  -- Two, three or four octets, of which the first carries a mark of how many there are.
  split_ifs
  all_goals
    refine ⟨_, _, rfl, ?_⟩
    rw [UInt8.toNat_ofNat']
    omega

theorem encodeChars_cons (c : Char) (cs : List Char) :
    encodeChars (c :: cs) = String.utf8EncodeChar c ++ encodeChars cs := by
  simp [encodeChars]

theorem encodeChars_cons_of_ascii {c : Char} (h : c.toNat < 128) (cs : List Char) :
    encodeChars (c :: cs) = UInt8.ofNat c.toNat :: encodeChars cs := by
  rw [encodeChars_cons, utf8EncodeChar_of_ascii h]
  rfl

/-- An octet below 128 in front is the first character. -/
theorem exists_of_encodeChars_eq_cons {cs : List Char} {b : UInt8} {rest : Bytes}
    (h : encodeChars cs = b :: rest) (hb : b.toNat < 128) :
    ∃ c tail, cs = c :: tail ∧ c.toNat = b.toNat ∧ encodeChars tail = rest := by
  rcases cs with _ | ⟨c, tail⟩
  · cases h
  rcases Nat.lt_or_ge c.toNat 128 with hc | hc
  · rw [encodeChars_cons_of_ascii hc] at h
    obtain ⟨rfl, rfl⟩ := List.cons.inj h
    refine ⟨c, tail, rfl, ?_, rfl⟩
    rw [UInt8.toNat_ofNat']
    omega
  · -- Any other character would begin with an octet that is too large.
    obtain ⟨first, more, hfirst, hle⟩ := exists_utf8EncodeChar_of_le hc
    rw [encodeChars_cons, hfirst] at h
    obtain ⟨rfl, -⟩ := List.cons.inj h
    omega

end TelemetryLink.Text.Utf8
