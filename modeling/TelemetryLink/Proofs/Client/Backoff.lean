import TelemetryLink.Config.Client
import TelemetryLink.Proofs.Config.Validation
import TelemetryLink.Proofs.Duration
import Mathlib.Algebra.Group.Nat.Defs

/-!
# The pauses of a client

How long a client waits after so many failures, in exact nanoseconds: the base, doubled with each
further failure up to the thirty-first doubling, and never more than the bound. The product is made
of durations, which saturate, but what is cut off is beyond the bound anyway.

- `Backoff.toNanos_backoff`: the pause as an exact number.
- `Backoff.toNanos_le_of_le`, `Backoff.toNanos_succ`, `Backoff.eq_of_le`: from one failure to the
  next.
- `Backoff.base_of_validated`: what the check of a configuration says about its pauses.
- `Backoff.backoff_schedule`: all of it, for every policy and every number of failures.
-/

namespace TelemetryLink.Backoff

variable {policy : ReconnectPolicy}

/-! ## The exact pause -/

/-- The factor is the power of two that it is meant to be, as it fits into its 32 bits. -/
theorem toNat_factor {doublings : Nat} (h : doublings < 32) :
    (UInt32.ofNat (2 ^ doublings)).toNat = 2 ^ doublings := by
  apply UInt32.toNat_ofNat_of_lt'
  exact Nat.pow_lt_pow_right (by decide) h

/-- No failure counts as one, and more than thirty-two count as thirty-two. -/
theorem doublings_eq (failures : UInt32) :
    min (failures.toNat - 1) ReconnectPolicy.maxDoublings =
      min (max failures.toNat 1 - 1) 31 := by
  rw [ReconnectPolicy.maxDoublings]
  omega

/-- The pause as an exact number of nanoseconds. -/
theorem toNanos_backoff (policy : ReconnectPolicy) (failures : UInt32) :
    (policy.backoff failures).toNanos =
      min (policy.base.toNanos * 2 ^ min (max failures.toNat 1 - 1) 31) policy.max.toNanos := by
  have hfactor : (UInt32.ofNat (2 ^ min (max failures.toNat 1 - 1) 31)).toNat =
      2 ^ min (max failures.toNat 1 - 1) 31 := toNat_factor (by omega)
  -- Where the product saturates it is cut down to something that is no shorter than the bound.
  have hbound := policy.max.toNanos_le_max
  simp only [ReconnectPolicy.backoff, Nat.pow_eq, Duration.toNanos_min,
    Duration.toNanos_saturatingMul, doublings_eq, hfactor]
  omega

/-! ## From one failure to the next -/

theorem toNanos_le_max (policy : ReconnectPolicy) (failures : UInt32) :
    (policy.backoff failures).toNanos ≤ policy.max.toNanos := by
  rw [toNanos_backoff]
  exact Nat.min_le_right _ _

/-- More failures never make a pause shorter. -/
theorem toNanos_le_of_le {failures later : UInt32} (h : failures ≤ later) :
    (policy.backoff failures).toNanos ≤ (policy.backoff later).toNanos := by
  have hle : failures.toNat ≤ later.toNat := UInt32.le_iff_toNat_le.1 h
  have hdoublings : min (max failures.toNat 1 - 1) 31 ≤ min (max later.toNat 1 - 1) 31 := by omega
  rw [toNanos_backoff, toNanos_backoff]
  have hproduct := Nat.mul_le_mul_left policy.base.toNanos
    (Nat.pow_le_pow_right (show 0 < 2 by decide) hdoublings)
  omega

/-- Up to the last doubling each pause is twice the one before, or the bound. -/
theorem toNanos_succ {failures : UInt32} (hpos : 1 ≤ failures.toNat) (hlast : failures.toNat ≤ 31) :
    (policy.backoff (failures + 1)).toNanos =
      min (2 * (policy.backoff failures).toNanos) policy.max.toNanos := by
  have hnext : (failures + 1).toNat = failures.toNat + 1 := by
    rw [UInt32.toNat_add, UInt32.toNat_one]
    omega
  have hdoublings : min (max (failures.toNat + 1) 1 - 1) 31 =
      min (max failures.toNat 1 - 1) 31 + 1 := by
    omega
  rw [toNanos_backoff, toNanos_backoff, hnext, hdoublings, Nat.pow_succ, ← Nat.mul_assoc]
  -- Doubling the bound makes no difference below the bound.
  omega

/-- From the thirty-second failure on all pauses are the same. -/
theorem eq_of_le {failures : UInt32} (h : 32 ≤ failures.toNat) :
    policy.backoff failures = policy.backoff 32 := by
  have hmany : min (max failures.toNat 1 - 1) 31 = 31 := by omega
  rw [← Duration.toNanos_inj, toNanos_backoff, toNanos_backoff, hmany]
  rfl

/-- A base within the bound is the first pause. -/
theorem first_of_le (h : policy.base.toNanos ≤ policy.max.toNanos) :
    policy.backoff 1 = policy.base := by
  rw [← Duration.toNanos_inj, toNanos_backoff]
  simp only [UInt32.toNat_one, Nat.max_self, Nat.sub_self, Nat.zero_min, Nat.pow_zero, Nat.mul_one]
  exact Nat.min_eq_left h

/-- Before any failure the pause would be that after the first. -/
theorem zero_eq_one : policy.backoff 0 = policy.backoff 1 := rfl

/-! ## Policies of configurations -/

/-- The policy of a client is that of its configuration. -/
theorem policy_of_ofConfig {config : Config} {client : Client}
    (hclient : Client.ofConfig config = .ok client) (hpolicy : client.reconnect = some policy) :
    policy.base = .ofMillis config.reconnect.baseBackoffMs ∧
      policy.max = .ofMillis config.reconnect.maxBackoffMs := by
  obtain ⟨id, -, hrest⟩ := bind_eq_ok_iff.1 hclient
  cases hkey : config.authKey with
  | none =>
    rw [hkey] at hrest
    cases hrest
  | some key =>
    rw [hkey] at hrest
    cases hrest
    obtain ⟨-, rfl⟩ := Config.reconnectPolicy_eq_some_iff.1 hpolicy
    exact ⟨rfl, rfl⟩

/-- In a valid configuration the base is not zero and not beyond the bound. -/
theorem base_of_validated {config : Config} {client : Client} (hvalid : config.validate = .ok ())
    (hclient : Client.ofConfig config = .ok client) (hpolicy : client.reconnect = some policy) :
    0 < policy.base.toNanos ∧ policy.base.toNanos ≤ policy.max.toNanos := by
  obtain ⟨-, -, -, -, -, -, hne, hle, -⟩ := Config.validate_eq_ok_iff.1 hvalid
  obtain ⟨hbase, hmax⟩ := policy_of_ofConfig hclient hpolicy
  have hpos : config.reconnect.baseBackoffMs.toNat ≠ 0 := by
    intro h
    exact hne (UInt64.toNat_inj.1 h)
  have hbound := UInt64.le_iff_toNat_le.1 hle
  rw [hbase, hmax, Duration.toNanos_ofMillis, Duration.toNanos_ofMillis]
  omega

/-! ## The schedule -/

/-- Every policy waits after so many failures for its base, doubled once for each failure after the
first up to thirty-one times, and at most for its bound, in exact nanoseconds; the factor fits into
32 bits. So no pause is longer than the bound, none is shorter than one after fewer failures, each
is twice the one before or the bound up to the thirty-second, and all are the same from there on. A
client of a valid configuration starts with the base itself, and never waits for no time at all. -/
theorem backoff_schedule :
    (∀ (policy : ReconnectPolicy) (failures : UInt32),
      let doublings := min (max failures.toNat 1 - 1) 31
      (policy.backoff failures).toNanos =
          min (policy.base.toNanos * 2 ^ doublings) policy.max.toNanos ∧
        min (failures.toNat - 1) ReconnectPolicy.maxDoublings = doublings ∧
        (UInt32.ofNat (2 ^ doublings)).toNat = 2 ^ doublings ∧
        (policy.backoff failures).toNanos ≤ policy.max.toNanos) ∧
    (∀ (policy : ReconnectPolicy) (failures later : UInt32), failures ≤ later →
      (policy.backoff failures).toNanos ≤ (policy.backoff later).toNanos) ∧
    (∀ (policy : ReconnectPolicy) (failures : UInt32), 1 ≤ failures.toNat →
      failures.toNat ≤ 31 →
      (policy.backoff (failures + 1)).toNanos =
        min (2 * (policy.backoff failures).toNanos) policy.max.toNanos) ∧
    (∀ (policy : ReconnectPolicy) (failures : UInt32), 32 ≤ failures.toNat →
      policy.backoff failures = policy.backoff 32) ∧
    ∀ (config : Config) (client : Client) (policy : ReconnectPolicy),
      config.validate = .ok () → Client.ofConfig config = .ok client →
      client.reconnect = some policy →
      policy.backoff 1 = policy.base ∧ ∀ failures, 0 < (policy.backoff failures).toNanos := by
  refine ⟨fun policy failures => ?_, fun policy failures later h => toNanos_le_of_le h,
    fun policy failures hpos hlast => toNanos_succ hpos hlast,
    fun policy failures h => eq_of_le h, fun config client policy hvalid hclient hpolicy => ?_⟩
  · intro doublings
    exact ⟨toNanos_backoff policy failures, doublings_eq failures,
      toNat_factor (by omega), toNanos_le_max policy failures⟩
  · obtain ⟨hpos, hle⟩ := base_of_validated hvalid hclient hpolicy
    have hfirst := first_of_le hle
    refine ⟨hfirst, fun failures => ?_⟩
    -- No pause is shorter than the one that counts no failure, which is the first one.
    calc 0 < policy.base.toNanos := hpos
      _ = (policy.backoff 0).toNanos := by rw [zero_eq_one, hfirst]
      _ ≤ (policy.backoff failures).toNanos := toNanos_le_of_le (UInt32.zero_le)

/-- The pauses of a client of the default configuration, of which the seventh is the first that is
cut down to the bound. -/
theorem backoff_schedule_defaults :
    let config : Config := { auth := { key := some "k" }, reconnect := { enabled := true } }
    let policy : ReconnectPolicy := ⟨5, .ofMillis 500, .ofMillis 30000⟩
    config.validate = .ok () ∧
      (∃ client, Client.ofConfig config = .ok client ∧ client.reconnect = some policy) ∧
      policy.backoff 1 = policy.base ∧ 0 < (policy.backoff 7).toNanos ∧
      (policy.backoff 6).toNanos ≤ (policy.backoff 7).toNanos ∧
      (policy.backoff (6 + 1)).toNanos =
        min (2 * (policy.backoff 6).toNanos) policy.max.toNanos ∧
      policy.backoff 4294967295 = policy.backoff 32 := by
  intro config policy
  obtain ⟨-, hmono, hdouble, hconstant, hvalidated⟩ := backoff_schedule
  have hvalid : config.validate = .ok () := by
    dsimp only [config]
    rfl
  obtain ⟨client, hclient, hpolicy⟩ : ∃ client, Client.ofConfig config = .ok client ∧
      client.reconnect = some policy := by
    dsimp only [config, policy]
    exact ⟨_, rfl, rfl⟩
  obtain ⟨hfirst, hpos⟩ := hvalidated config client policy hvalid hclient hpolicy
  exact ⟨hvalid, ⟨client, hclient, hpolicy⟩, hfirst, hpos 7, hmono policy 6 7 (by decide),
    hdouble policy 6 (by decide) (by decide), hconstant policy 4294967295 (by decide)⟩

end TelemetryLink.Backoff
