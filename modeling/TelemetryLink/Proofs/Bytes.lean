import TelemetryLink.Bytes

/-!
# Integer layouts

The two integer layouts of the wire are read back as they were written.

- `ofBe_be32`, `be32_ofBe`: the length prefix, both ways.
- `eq_be32_append`: four octets and more are a length prefix and a rest.
- `ofLe16_le16`, `le16_ofLe16`: the fields of a record, both ways.
-/

namespace TelemetryLink.Bytes

/-! ## Length prefixes -/

/-- A number that fits into four octets is read back. -/
theorem ofBe_be32 {value : Nat} (h : value < 4294967296) : ofBe (be32 value) = value := by
  simp only [ofBe, be32, List.foldl_cons, List.foldl_nil, UInt8.toNat_ofNat']
  omega

/-- Four octets are what their number is written as. -/
theorem be32_ofBe {bytes : Bytes} (h : bytes.length = 4) :
    ofBe bytes < 4294967296 ∧ be32 (ofBe bytes) = bytes := by
  match bytes, h with
  | [a, b, c, d], _ =>
    have ha := a.toNat_lt
    have hb := b.toNat_lt
    have hc := c.toNat_lt
    have hd := d.toNat_lt
    simp only [ofBe, be32, List.foldl_cons, List.foldl_nil, List.cons.injEq, and_true,
      ← UInt8.toNat_inj, UInt8.toNat_ofNat']
    omega

/-- Octets that hold a length prefix start with some number's. -/
theorem eq_be32_append {bytes : Bytes} (h : 4 ≤ bytes.length) :
    ∃ value rest, value < 4294967296 ∧ bytes = be32 value ++ rest := by
  have hlength : (bytes.take 4).length = 4 := by
    rw [List.length_take]
    omega
  obtain ⟨hlt, hbe⟩ := be32_ofBe hlength
  exact ⟨ofBe (bytes.take 4), bytes.drop 4, hlt, by rw [hbe, List.take_append_drop]⟩

/-! ## Fields of records -/

/-- A word is read back. -/
theorem ofLe16_le16 (word : UInt16) :
    ofLe16 (.ofNat word.toNat) (.ofNat (word.toNat / 256)) = word := by
  have hword := word.toNat_lt
  rw [← UInt16.toNat_inj]
  simp only [ofLe16, UInt16.toNat_ofNat', UInt8.toNat_ofNat']
  omega

/-- Two octets are what their word is written as. -/
theorem le16_ofLe16 (low high : UInt8) : le16 (ofLe16 low high) = [low, high] := by
  have hlow := low.toNat_lt
  have hhigh := high.toNat_lt
  simp only [ofLe16, le16, List.cons.injEq, and_true, ← UInt8.toNat_inj, UInt16.toNat_ofNat',
    UInt8.toNat_ofNat']
  omega

end TelemetryLink.Bytes
