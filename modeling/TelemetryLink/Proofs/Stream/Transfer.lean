import TelemetryLink.Stream

/-!
# Transfers on scripted streams

What complete writes, flushes and exact reads do to a scripted stream, whatever its script says.

- `outlet_delivers`: a write takes all octets or fails with a prefix of them.
- `intake_collects`: a read takes exactly what it asked for, or fails with less.
- `writeAll_log`, `flush_log`, `readExact_log`: each operation adds one event to the log, which
  says how far it came.
-/

namespace TelemetryLink.Stream

/-- Of the octets offered a prefix is taken, and on success all of them. -/
theorem outlet_delivers (bytes taken : Bytes) (writes : List WriteStep) :
    ∃ sent, sent <+: bytes ∧ (outlet bytes taken writes).taken = taken ++ sent ∧
      ((outlet bytes taken writes).result = .ok () → sent = bytes) := by
  fun_induction outlet bytes taken writes with
  | case1 writes taken => exact ⟨[], List.nil_prefix, by simp, fun _ => rfl⟩
  | case2 bytes taken hne => exact ⟨bytes, List.prefix_rfl, rfl, fun _ => rfl⟩
  | case3 bytes taken hne rest => exact ⟨[], List.nil_prefix, by simp, by simp⟩
  | case4 bytes taken hne limit rest hlimit ih =>
    obtain ⟨sent, hsent, htaken, hall⟩ := ih
    refine ⟨bytes.take limit ++ sent, ?_, by rw [htaken, List.append_assoc], fun hok => ?_⟩
    · have hpre := (List.prefix_append_right_inj (bytes.take limit)).2 hsent
      rwa [List.take_append_drop] at hpre
    · rw [hall hok, List.take_append_drop]
  | case5 bytes taken hne fault rest hint ih => exact ih
  | case6 bytes taken hne fault rest hint => exact ⟨[], List.nil_prefix, by simp, by simp⟩

/-- A read that succeeds returns what it took, exactly as much as it asked for. A read that fails
took less. -/
theorem intake_collects (n : Nat) (taken : Bytes) (reads : List ReadStep)
    (h : taken.length ≤ n) :
    (∃ bytes, (intake n taken reads).result = .ok bytes ∧ (intake n taken reads).taken = bytes ∧
      bytes.length = n) ∨
    (∃ error, (intake n taken reads).result = .error error ∧
      (intake n taken reads).taken.length < n) := by
  fun_induction intake n taken reads with
  | case1 reads taken hn => exact .inl ⟨taken, rfl, rfl, by omega⟩
  | case2 taken hn => exact .inr ⟨_, rfl, by simpa using hn⟩
  | case3 taken hn rest => exact .inr ⟨_, rfl, by simpa using hn⟩
  | case4 taken hn fault rest hint ih => exact ih h
  | case5 taken hn fault rest hint => exact .inr ⟨_, rfl, by simpa using hn⟩
  | case6 taken hn bytes rest missing hle =>
    refine .inl ⟨_, rfl, rfl, ?_⟩
    simp only [List.length_append, List.length_take]
    omega
  | case7 taken hn bytes rest missing hle ih =>
    apply ih
    rw [List.length_append]
    omega

/-- A write adds one event to the log. -/
theorem writeAll_log (bytes : Bytes) (stream : Stream) :
    (∃ next, stream.writeAll bytes = (.ok (), next) ∧
      next.log = stream.log ++ [.wrote bytes bytes]) ∨
    (∃ fault taken next, stream.writeAll bytes = (.error fault, next) ∧ taken <+: bytes ∧
      next.log = stream.log ++ [.wrote bytes taken]) := by
  obtain ⟨sent, hpre, htaken, hall⟩ := outlet_delivers bytes [] stream.writes
  cases hres : (outlet bytes [] stream.writes).result with
  | ok done =>
    refine .inl ⟨_, Prod.ext hres rfl, ?_⟩
    simp [writeAll, record, htaken, hall hres]
  | error fault =>
    refine .inr ⟨fault, sent, _, Prod.ext hres rfl, hpre, ?_⟩
    simp [writeAll, record, htaken]

/-- A flush adds one event to the log. -/
theorem flush_log (stream : Stream) :
    (∃ next, stream.flush = (.ok (), next) ∧ next.log = stream.log ++ [.flushed true]) ∨
    (∃ fault next, stream.flush = (.error fault, next) ∧
      next.log = stream.log ++ [.flushed false]) := by
  unfold flush
  split
  · exact .inr ⟨_, _, rfl, rfl⟩
  · exact .inl ⟨_, rfl, rfl⟩
  · exact .inl ⟨_, rfl, rfl⟩

/-- A read adds one event to the log. -/
theorem readExact_log (n : Nat) (stream : Stream) :
    (∃ bytes next, stream.readExact n = (.ok bytes, next) ∧ bytes.length = n ∧
      next.log = stream.log ++ [.received bytes]) ∨
    (∃ error bytes next, stream.readExact n = (.error error, next) ∧ bytes.length < n ∧
      next.log = stream.log ++ [.received bytes]) := by
  rcases intake_collects n [] stream.reads (Nat.zero_le n) with
    ⟨bytes, hres, htaken, hlen⟩ | ⟨error, hres, hlen⟩
  · refine .inl ⟨bytes, _, Prod.ext hres rfl, hlen, ?_⟩
    simp [readExact, record, htaken]
  · exact .inr ⟨error, _, _, Prod.ext hres rfl, hlen, rfl⟩

end TelemetryLink.Stream
