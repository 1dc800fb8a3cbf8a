import TelemetryLink.Duration

/-!
# Durations as exact numbers

A duration is the number of its nanoseconds, `Duration.toNanos`: two durations with the same number
are the same, and what is done to durations is done to their numbers.

- `toNanos_inj`: the number determines the duration.
- `toNanos_min`: the shorter of two durations has the smaller number.
- `toNanos_saturatingMul`: a product is exact unless it is beyond the longest duration, which it is
  then. Neither the carry from nanoseconds to seconds nor the bound on the seconds shows.
- `toNanos_ofSecs`, `toNanos_ofMillis`: seconds and milliseconds are so many nanoseconds.
-/

namespace TelemetryLink.Duration

@[simp]
theorem toNanos_max : max.toNanos = 18446744073709551615999999999 := rfl

/-- No duration is longer than the longest. -/
theorem toNanos_le_max (d : Duration) : d.toNanos ≤ max.toNanos := by
  have hsecs := d.secs.toNat_lt
  have hnanos := d.nanos.isLt
  rw [toNanos_max, toNanos, nanosPerSecond]
  omega

/-- The nanoseconds beyond whole seconds are fewer than a second, so that both parts of a duration
can be told from its number. -/
theorem toNanos_inj {a b : Duration} : a.toNanos = b.toNanos ↔ a = b := by
  constructor
  · intro h
    have hone := a.nanos.isLt
    have hother := b.nanos.isLt
    simp only [toNanos, nanosPerSecond] at h
    have hsecs : a.secs.toNat = b.secs.toNat := by omega
    have hnanos : a.nanos.val = b.nanos.val := by omega
    obtain ⟨secs, nanos⟩ := a
    obtain ⟨secs', nanos'⟩ := b
    simp only [mk.injEq]
    exact ⟨UInt64.toNat_inj.1 hsecs, Fin.ext hnanos⟩
  · intro h
    rw [h]

/-! ## The shorter of two -/

theorem lt_iff_toNanos_lt {a b : Duration} : a.lt b = true ↔ a.toNanos < b.toNanos := by
  have hone := a.nanos.isLt
  have hother := b.nanos.isLt
  simp only [lt, Bool.or_eq_true, Bool.and_eq_true, decide_eq_true_eq, beq_iff_eq,
    UInt64.lt_iff_toNat_lt, ← UInt64.toNat_inj, Fin.lt_def, toNanos, nanosPerSecond]
  omega

@[simp]
theorem toNanos_min (a b : Duration) :
    (a.min b).toNanos = Min.min a.toNanos b.toNanos := by
  rw [min]
  split
  next h =>
    have hlt := lt_iff_toNanos_lt.1 h
    omega
  next h =>
    have hle := mt lt_iff_toNanos_lt.2 h
    omega

/-! ## Products -/

/-- Seconds and nanoseconds multiplied apart, with the whole seconds among the nanoseconds carried,
make up the product. -/
theorem toNanos_mul (d : Duration) (n : Nat) :
    (d.secs.toNat * n + d.nanos.val * n / nanosPerSecond) * nanosPerSecond +
      d.nanos.val * n % nanosPerSecond = d.toNanos * n := by
  calc (d.secs.toNat * n + d.nanos.val * n / nanosPerSecond) * nanosPerSecond +
        d.nanos.val * n % nanosPerSecond
      = d.secs.toNat * n * nanosPerSecond +
        (d.nanos.val * n / nanosPerSecond * nanosPerSecond +
          d.nanos.val * n % nanosPerSecond) := by
        rw [Nat.add_mul, Nat.add_assoc]
    _ = d.secs.toNat * n * nanosPerSecond + d.nanos.val * n := by rw [Nat.div_add_mod']
    _ = d.toNanos * n := by
        rw [toNanos, Nat.add_mul, Nat.mul_right_comm]

/-- A product is exact up to the longest duration. -/
@[simp]
theorem toNanos_saturatingMul (d : Duration) (n : UInt32) :
    (d.saturatingMul n).toNanos = Min.min (d.toNanos * n.toNat) max.toNanos := by
  have hmul := toNanos_mul d n.toNat
  have hpart : d.nanos.val * n.toNat % nanosPerSecond < nanosPerSecond :=
    Nat.mod_lt _ (by decide)
  have hsize : UInt64.size = 18446744073709551616 := rfl
  rw [nanosPerSecond] at hmul hpart
  rw [saturatingMul, toNanos_max]
  split
  next hlt =>
    -- The seconds fit, and so does the product.
    have hsecs := UInt64.toNat_ofNat_of_lt' hlt
    rw [toNanos, nanosPerSecond]
    dsimp only
    rw [hsecs]
    omega
  next hge =>
    -- The seconds alone are beyond the range, so that the product is.
    rw [toNanos_max]
    omega

/-! ## Seconds and milliseconds -/

@[simp]
theorem toNanos_ofSecs (secs : UInt64) : (ofSecs secs).toNanos = secs.toNat * 1000000000 := by
  simp only [toNanos, ofSecs, nanosPerSecond, Fin.val_zero, Nat.add_zero]

@[simp]
theorem toNanos_ofMillis (millis : UInt64) :
    (ofMillis millis).toNanos = millis.toNat * 1000000 := by
  simp only [toNanos, ofMillis, nanosPerSecond, UInt64.toNat_div, UInt64.reduceToNat]
  omega

end TelemetryLink.Duration
