import TelemetryLink.Proofs.Client.Progress

/-!
# Confirmations that do not name data

A run that succeeds lists the codes of confirmations that do not name data. The list is that of the
report of its last session: a session that fails leaves no report, so that the codes it had seen are
lost, although the records that it had confirmed are counted.

- `Client.unexpectedAckCodes_eq_iff`: the list covers all sessions exactly when no session before
  the last saw such a code.
- `Client.unexpectedAckCodes_lost`: a run in which one did.
-/

namespace TelemetryLink.Client

/-- The codes that a run returns are those of the last connection, and they are the codes of all
connections if and only if no other connection has any. -/
theorem unexpectedAckCodes_eq_iff (client : Client) {network : Net.Network Stream}
    (hfresh : network.Fresh) {summary : Summary}
    (hok : (client.runOn network).1 = .ok summary) :
    let logs := (client.runOn network).2.retired.map Stream.log
    logs.getLast?.map Log.unexpectedCodes = some summary.unexpectedAckCodes ∧
      (summary.unexpectedAckCodes = logs.flatMap Log.unexpectedCodes ↔
        ∀ log ∈ logs.dropLast, Log.unexpectedCodes log = []) := by
  intro logs
  have hended : client.Ended 0 logs (client.runOn network).1 := client.run_outcome hfresh
  obtain ⟨-, earlier, last, hlogs, hcodes⟩ := hended.ok summary hok
  rw [hlogs, List.getLast?_concat, List.dropLast_concat, List.flatMap_append,
    List.flatMap_singleton, hcodes]
  refine ⟨rfl, ?_⟩
  calc Log.unexpectedCodes last = earlier.flatMap Log.unexpectedCodes ++ Log.unexpectedCodes last
      ↔ earlier.flatMap Log.unexpectedCodes = [] := by
        rw [eq_comm]
        exact List.append_left_eq_self
    _ ↔ ∀ log ∈ earlier, Log.unexpectedCodes log = [] := List.flatMap_eq_nil_iff

/-- A run of two sessions, of which only the last saw codes that name no data. It returns both. -/
theorem unexpectedAckCodes_two_sessions :
    let device : DeviceId := ⟨⟨[1, 2, 3, 4, 5, 6], rfl⟩⟩
    let client : Client :=
      { host := "127.0.0.1", port := 9090, options := {},
        credentials := { key := ⟨[107], by decide⟩, deviceId := device },
        plan := { frames := 3 }, sample := ⟨5, 0, 0, 0, 0, 0, 0, 0, 0, 7, device⟩,
        reconnect := some ⟨2, .zero, .zero⟩ }
    let network : Net.Network Stream :=
      { hosts := fun _ => .ok [],
        links := [⟨[.chunk [0x01, 0x03, 0x01]], [], [], []⟩,
          ⟨[.chunk [0x01, 0x03, 0x05, 0x03, 0x07]], [], [], []⟩],
        spare := ⟨[], [], [], []⟩, spareNonce := ⟨[0, 0, 0, 0, 0, 0, 0, 1], rfl⟩ }
    let summary : Summary :=
      { attempts := 2, framesAcknowledged := 3, unexpectedAckCodes := [0x05, 0x07] }
    let logs := (client.runOn network).2.retired.map Stream.log
    network.Fresh ∧ (client.runOn network).1 = .ok summary ∧
      logs.map Log.unexpectedCodes = [[], [0x05, 0x07]] ∧
      logs.getLast?.map Log.unexpectedCodes = some summary.unexpectedAckCodes ∧
      (summary.unexpectedAckCodes = logs.flatMap Log.unexpectedCodes ↔
        ∀ log ∈ logs.dropLast, Log.unexpectedCodes log = []) := by
  intro device client network summary logs
  have hfresh : network.Fresh := ⟨⟨by simp [network], rfl⟩, rfl⟩
  have hok : (client.runOn network).1 = .ok summary := by decide +kernel
  exact ⟨hfresh, hok, by decide +kernel, unexpectedAckCodes_eq_iff client hfresh hok⟩

/-- The first session saw a code that names no data, and failed at the next record. The run, which
counts both records, returns no code. -/
theorem unexpectedAckCodes_lost :
    let device : DeviceId := ⟨⟨[1, 2, 3, 4, 5, 6], rfl⟩⟩
    let client : Client :=
      { host := "127.0.0.1", port := 9090, options := {},
        credentials := { key := ⟨[107], by decide⟩, deviceId := device },
        plan := { frames := 2 }, sample := ⟨5, 0, 0, 0, 0, 0, 0, 0, 0, 7, device⟩,
        reconnect := some ⟨2, .zero, .zero⟩ }
    let network : Net.Network Stream :=
      { hosts := fun _ => .ok [],
        links := [⟨[.chunk [0x01, 0x03, 0x05]], [], [], []⟩,
          ⟨[.chunk [0x01, 0x03, 0x01]], [], [], []⟩],
        spare := ⟨[], [], [], []⟩, spareNonce := ⟨[0, 0, 0, 0, 0, 0, 0, 1], rfl⟩ }
    let logs := (client.runOn network).2.retired.map Stream.log
    network.Fresh ∧
      (client.runOn network).1 =
        .ok { attempts := 2, framesAcknowledged := 2, unexpectedAckCodes := [] } ∧
      logs.flatMap Log.unexpectedCodes = [0x05] :=
  ⟨⟨⟨by simp, rfl⟩, rfl⟩, by decide +kernel, by decide +kernel⟩

end TelemetryLink.Client
