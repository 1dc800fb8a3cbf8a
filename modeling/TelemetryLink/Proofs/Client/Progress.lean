import TelemetryLink.Proofs.Client.Attempt

/-!
# Progress across sessions

A client that reconnects sends every record once and in order. The attempts of a run form a chain,
`Client.Chain`: each starts at the record at which the one before it stopped.

- `Attempt.chain`: one attempt is a link of the chain.
- `Client.runFrom_outcome`, `Client.runOn_outcome`: so the attempts of a run are a chain, whatever
  the network does.
- `Client.run_exactlyOnce`: what this means for the data frames on all connections.
-/

namespace TelemetryLink

namespace Client

variable (client : Client)

/-! ## Chains of sessions -/

/-- Connections, one after another, on which the records from one number up to another were
confirmed. -/
inductive Chain : Nat → List Log → Nat → Prop
  | nil (done : Nat) : Chain done [] done
  | cons {done n total log logs} (hlog : client.Carries done n log)
      (hrest : Chain (done + n) logs total) : Chain done (log :: logs) total

theorem length_payloads (start n : Nat) : (client.payloads start n).length = n := by
  simp [payloads]

theorem payloads_append (start m n : Nat) :
    client.payloads start m ++ client.payloads (start + m) n = client.payloads start (m + n) := by
  rw [payloads, payloads, payloads, ← List.map_append, List.range'_append_1]

theorem payloads_succ (start n : Nat) :
    client.payloads start (n + 1) = client.payload start :: client.payloads (start + 1) n := by
  rw [payloads, List.range'_succ, List.map_cons, payloads]

theorem payloads_concat (start n : Nat) :
    client.payloads start (n + 1) = client.payloads start n ++ [client.payload (start + n)] := by
  rw [payloads, List.range'_1_concat, List.map_append, payloads]
  rfl

variable {client}

theorem Carries.length_confirmed {done n : Nat} {log : Log} (h : client.Carries done n log) :
    (Log.confirmed log).length = n := by
  have hlength := congrArg List.length h.confirmed
  rwa [List.length_map, length_payloads] at hlength

/-- A connection that was only given up carries nothing. -/
theorem carries_released (done : Nat) : client.Carries done 0 [.released] :=
  ⟨rfl, 0, rfl, Nat.le_refl 0, Nat.zero_le 1⟩

namespace Chain

theorem append {done middle total : Nat} {logs rest : List Log}
    (hlogs : client.Chain done logs middle) (hrest : client.Chain middle rest total) :
    client.Chain done (logs ++ rest) total := by
  induction hlogs with
  | nil => exact hrest
  | cons hlog _ ih => exact .cons hlog (ih hrest)

/-- A chain confirms the records from its start to its end, each once and in order. -/
theorem confirmed {done total : Nat} {logs : List Log} (h : client.Chain done logs total) :
    ∃ n, total = done + n ∧
      logs.flatMap (fun log => (Log.confirmed log).map Prod.fst) = client.payloads done n := by
  induction h with
  | nil done => exact ⟨0, rfl, rfl⟩
  | @cons done n total log logs hlog _ ih =>
    obtain ⟨m, rfl, hrest⟩ := ih
    refine ⟨n + m, Nat.add_assoc done n m, ?_⟩
    rw [List.flatMap_cons, hlog.confirmed, hrest, payloads_append]

/-- A chain ends as far from its start as it has confirmed data frames. -/
theorem length_confirmed {done total : Nat} {logs : List Log}
    (h : client.Chain done logs total) : done + (logs.flatMap Log.confirmed).length = total := by
  obtain ⟨n, rfl, hconfirmed⟩ := h.confirmed
  have hlength := congrArg List.length hconfirmed
  rw [← List.map_flatMap, List.length_map, length_payloads] at hlength
  rw [hlength]

/-- Each connection of a chain carries on where those before it stopped. -/
theorem carries {done total : Nat} {before : List Log} {log : Log} {after : List Log}
    (h : client.Chain done (before ++ log :: after) total) :
    client.Carries (done + (before.flatMap Log.confirmed).length) (Log.confirmed log).length
      log := by
  induction before generalizing done with
  | nil =>
    cases h with
    | cons hlog _ =>
      rw [hlog.length_confirmed]
      exact hlog
  | cons first before ih =>
    cases h with
    | cons hfirst hrest =>
      have hlog := ih hrest
      rwa [List.flatMap_cons, List.length_append, hfirst.length_confirmed, ← Nat.add_assoc]

end Chain

/-- One attempt is a link of the chain. -/
theorem Attempt.chain {done confirmed : UInt32} {result : Except SessionError Report}
    {logs : List Log} (h : client.Attempt done confirmed result logs) :
    client.Chain done.toNat logs (done.toNat + confirmed.toNat) := by
  cases h with
  | @unopened error logs hlogs =>
    induction logs with
    | nil => exact .nil _
    | cons log logs ih =>
      rw [hlogs log List.mem_cons_self]
      exact .cons (carries_released _) (ih fun other hother =>
        hlogs other (List.mem_cons_of_mem _ hother))
  | completed hlog => exact .cons hlog (.nil _)
  | failed hlog => exact .cons hlog (.nil _)

/-! ## Runs -/

/-- What a run with so many retries left returns on a scripted network, and the network after it. -/
def runFromOn (client : Client) (retries : Nat) (progress : Progress)
    (network : Net.Network Stream) : Except RunError Summary × Net.Network Stream :=
  ((client.runFrom retries progress : StateT (Net.Network Stream) Id _).run network).run

/-- What a run on a scripted network returns, and the network after it. -/
def runOn (client : Client) (network : Net.Network Stream) :
    Except RunError Summary × Net.Network Stream :=
  ((client.run : StateT (Net.Network Stream) Id _).run network).run

/-- What was achieved by the end of a run. -/
def reached : Except RunError Summary → Progress
  | .ok summary => summary.toProgress
  | .error e => e.toProgress

section Equations

variable {network after : Net.Network Stream} (retries : Nat) {progress : Progress}
  {confirmed : UInt32} {result : Except SessionError Report}

/-- An attempt is counted, and so are the frames that it confirmed. -/
theorem advance_run
    (h : client.attemptOn progress.framesAcknowledged network = ((confirmed, result), after)) :
    (client.advance progress : StateT (Net.Network Stream) Id _).run network =
      (pure ((⟨progress.attempts + 1, progress.framesAcknowledged + confirmed⟩, result), after) :
        Id _) := by
  rw [advance, StateT.run_bind, show (client.attempt progress.framesAcknowledged).run network =
    (pure ((confirmed, result), after) : Id _) from h, pure_bind]
  rfl

/-- After an attempt a run ends with its result, or goes on. It goes on if the attempt failed, a
retry is left, and the error may pass. -/
theorem runFromOn_eq
    (h : client.attemptOn progress.framesAcknowledged network = ((confirmed, result), after)) :
    client.runFromOn retries progress network =
        (conclude ⟨progress.attempts + 1, progress.framesAcknowledged + confirmed⟩ result,
          after) ∧
      (∀ error, result = .error error → retries = 0 ∨ error.error.isRetryable = false) ∨
      ∃ error fewer, result = .error error ∧ error.error.isRetryable = true ∧
        retries = fewer + 1 ∧
        client.runFromOn retries progress network = client.runFromOn fewer
          ⟨progress.attempts + 1, progress.framesAcknowledged + confirmed⟩ after := by
  unfold runFromOn
  cases retries with
  | zero =>
    left
    rw [runFrom, StateT.run_bind, advance_run h, pure_bind]
    exact ⟨rfl, fun _ _ => .inl rfl⟩
  | succ fewer =>
    rw [runFrom, StateT.run_bind, advance_run h, pure_bind]
    cases result with
    | ok report => exact .inl ⟨rfl, fun _ herror => by cases herror⟩
    | error error =>
      dsimp only
      by_cases hretry : error.error.isRetryable = true
      · right
        refine ⟨error, fewer, rfl, hretry, rfl, ?_⟩
        rw [if_pos hretry]
        rfl
      · left
        rw [if_neg hretry]
        refine ⟨rfl, ?_⟩
        rintro _ ⟨⟩
        exact .inr (Bool.eq_false_iff.2 hretry)

end Equations

/-! ## How far a run comes -/

namespace Attempt

variable {done confirmed : UInt32} {result : Except SessionError Report} {logs : List Log}

theorem confirmed_le (h : client.Attempt done confirmed result logs) :
    confirmed ≤ client.plan.frames - done := by
  cases h with
  | unopened => exact UInt32.le_iff_toNat_le.2 (Nat.zero_le _)
  | completed => exact UInt32.le_refl _
  | failed _ hle => exact hle

/-- An attempt that fails leaves something to be confirmed, if there was anything. -/
theorem confirmed_lt {error : SessionError} (h : client.Attempt done confirmed (.error error) logs)
    (hdone : done < client.plan.frames) : confirmed < client.plan.frames - done := by
  cases h with
  | unopened =>
    rw [UInt32.lt_iff_toNat_lt] at hdone ⊢
    rw [UInt32.toNat_sub_of_le _ _ (UInt32.le_iff_toNat_le.2 (Nat.le_of_lt hdone))]
    exact Nat.sub_pos_of_lt hdone
  | failed _ _ hlt => exact hlt hdone

/-- The counter of the run does not overflow. -/
theorem toNat_add (h : client.Attempt done confirmed result logs)
    (hdone : done ≤ client.plan.frames) :
    (done + confirmed).toNat = done.toNat + confirmed.toNat := by
  have hle := UInt32.le_iff_toNat_le.1 h.confirmed_le
  rw [UInt32.toNat_sub_of_le _ _ hdone] at hle
  have hdone := UInt32.le_iff_toNat_le.1 hdone
  have hframes := client.plan.frames.toNat_lt
  rw [UInt32.toNat_add]
  exact Nat.mod_eq_of_lt (by omega)

theorem add_le (h : client.Attempt done confirmed result logs)
    (hdone : done ≤ client.plan.frames) : done + confirmed ≤ client.plan.frames := by
  have hle := UInt32.le_iff_toNat_le.1 h.confirmed_le
  rw [UInt32.toNat_sub_of_le _ _ hdone] at hle
  rw [UInt32.le_iff_toNat_le, h.toNat_add hdone]
  have hdone := UInt32.le_iff_toNat_le.1 hdone
  omega

theorem add_lt {error : SessionError} (h : client.Attempt done confirmed (.error error) logs)
    (hdone : done < client.plan.frames) : done + confirmed < client.plan.frames := by
  have hlt := UInt32.lt_iff_toNat_lt.1 (h.confirmed_lt hdone)
  rw [UInt32.toNat_sub_of_le _ _ (UInt32.le_of_lt hdone)] at hlt
  rw [UInt32.lt_iff_toNat_lt, h.toNat_add (UInt32.le_of_lt hdone)]
  omega

end Attempt

/-- How a run ends that starts with `done` confirmed records and releases connections with these
logs. -/
structure Ended (client : Client) (done : Nat) (logs : List Log)
    (result : Except RunError Summary) : Prop where
  chain : client.Chain done logs (reached result).framesAcknowledged.toNat
  ok : ∀ summary, result = .ok summary → summary.framesAcknowledged = client.plan.frames ∧
    ∃ earlier last, logs = earlier ++ [last] ∧
      summary.unexpectedAckCodes = Log.unexpectedCodes last
  error : ∀ e, result = .error e → 0 < client.plan.frames →
    e.framesAcknowledged < client.plan.frames

theorem reached_conclude (progress : Progress) (result : Except SessionError Report) :
    reached (conclude progress result) = progress := by
  cases result <;> rfl

/-- A run that ends with this attempt. -/
private theorem Attempt.ended {progress : Progress} {confirmed attempts : UInt32}
    {result : Except SessionError Report} {logs : List Log}
    (h : client.Attempt progress.framesAcknowledged confirmed result logs)
    (hle : progress.framesAcknowledged ≤ client.plan.frames)
    (hlt : 0 < client.plan.frames → progress.framesAcknowledged < client.plan.frames) :
    client.Ended progress.framesAcknowledged.toNat logs
      (conclude ⟨attempts, progress.framesAcknowledged + confirmed⟩ result) := by
  refine ⟨?_, ?_, ?_⟩
  · rw [reached_conclude, h.toNat_add hle]
    exact h.chain
  · intro summary hsummary
    cases h with
    | completed hlog hcodes =>
      cases hsummary
      exact ⟨(UInt32.add_comm _ _).trans (UInt32.sub_add_cancel _ _), [], _, rfl, hcodes⟩
    | unopened => cases hsummary
    | failed => cases hsummary
  · intro e he hpos
    cases result with
    | ok report => cases he
    | error error =>
      cases he
      exact h.add_lt (hlt hpos)

/-- The attempts of a run are a chain. A run that succeeds has confirmed all records, and one that
fails has not. -/
theorem runFrom_outcome (retries : Nat) {progress : Progress} {network : Net.Network Stream}
    (hunused : network.Unused) (hle : progress.framesAcknowledged ≤ client.plan.frames)
    (hlt : 0 < client.plan.frames → progress.framesAcknowledged < client.plan.frames) :
    ∃ result after logs, client.runFromOn retries progress network = (result, after) ∧
      after.retired.map Stream.log = network.retired.map Stream.log ++ logs ∧
      client.Ended progress.framesAcknowledged.toNat logs result := by
  induction retries generalizing progress network with
  | zero =>
    obtain ⟨confirmed, result, after, logs, hattempt, -, hretired, hended⟩ :=
      client.attempt_outcome progress.framesAcknowledged hunused
    rcases runFromOn_eq 0 hattempt with ⟨hrun, -⟩ | ⟨error, fewer, -, -, hfewer, -⟩
    · exact ⟨_, after, logs, hrun, hretired, hended.ended hle hlt⟩
    · cases hfewer
  | succ retries ih =>
    obtain ⟨confirmed, result, after, logs, hattempt, hafter, hretired, hended⟩ :=
      client.attempt_outcome progress.framesAcknowledged hunused
    rcases runFromOn_eq (retries + 1) hattempt with
      ⟨hrun, -⟩ | ⟨error, fewer, rfl, -, hfewer, hrun⟩
    · exact ⟨_, after, logs, hrun, hretired, hended.ended hle hlt⟩
    · -- The attempt failed, so that there is still something to confirm for the rest of the run.
      cases hfewer
      obtain ⟨last, final, more, hlast, hretired', hmore⟩ :=
        @ih ⟨progress.attempts + 1, progress.framesAcknowledged + confirmed⟩ after hafter
          (hended.add_le hle) (fun hpos => hended.add_lt (hlt hpos))
      refine ⟨last, final, logs ++ more, hrun.trans hlast, ?_, ?_, ?_, hmore.error⟩
      · rw [hretired', hretired, List.append_assoc]
      · have hchain := hended.chain
        rw [← hended.toNat_add hle] at hchain
        exact hchain.append hmore.chain
      · intro summary hsummary
        obtain ⟨hframes, earlier, log, rfl, hcodes⟩ := hmore.ok summary hsummary
        exact ⟨hframes, logs ++ earlier, log, (List.append_assoc _ _ _).symm, hcodes⟩

/-- A run starts with nothing confirmed. The connections that it releases are those of its
sessions. -/
theorem runOn_outcome (client : Client) {network : Net.Network Stream}
    (hunused : network.Unused) :
    ∃ logs, (client.runOn network).2.retired.map Stream.log =
        network.retired.map Stream.log ++ logs ∧
      client.Ended 0 logs (client.runOn network).1 := by
  have hzero : ({} : Progress).framesAcknowledged ≤ client.plan.frames :=
    UInt32.le_iff_toNat_le.2 (Nat.zero_le _)
  obtain ⟨result, after, logs, hrun, hretired, hended⟩ :=
    runFrom_outcome client.retries hunused hzero id
  rw [show client.runOn network = (result, after) from hrun]
  exact ⟨logs, hretired, hended⟩

/-- If no connection was released before, they are all there are. -/
theorem run_outcome (client : Client) {network : Net.Network Stream} (hfresh : network.Fresh) :
    client.Ended 0 ((client.runOn network).2.retired.map Stream.log)
      (client.runOn network).1 := by
  obtain ⟨logs, hretired, hended⟩ := client.runOn_outcome hfresh.toUnused
  rw [hfresh.retired] at hretired
  rw [hretired]
  exact hended

/-- The data frames on the connections of a run, oldest first, when `total` of them count as
confirmed. -/
structure ExactlyOnce (client : Client) (total : Nat) (logs : List Log) : Prop where
  /-- The confirmed data frames carry the first `total` records, each once and in order. -/
  confirmed : logs.flatMap (fun log => (Log.confirmed log).map Prod.fst) =
    (List.range total).map client.payload
  /-- Every session carries on where those before it stopped. The data frames that it begins carry
  the next records in order; those that are confirmed come first, and at most one is not. -/
  carries : ∀ before log after, logs = before ++ log :: after →
    client.Carries (before.flatMap Log.confirmed).length (Log.confirmed log).length log
  /-- A data frame that was begun and is not confirmed is the first that the next session begins,
  as soon as one begins any. -/
  resumes : ∀ before log between next after, logs = before ++ log :: (between ++ next :: after) →
    (Log.begun log).length = (Log.confirmed log).length + 1 →
    (∀ other ∈ between, Log.begun other = []) → Log.begun next ≠ [] →
    (Log.begun next).head? = (Log.begun log).getLast?

/-- A session that begins no data frame confirms none. -/
theorem Carries.confirmed_eq_nil {done n : Nat} {log : Log} (h : client.Carries done n log)
    (hnone : Log.begun log = []) : Log.confirmed log = [] := by
  obtain ⟨m, hbegun, hnm, -⟩ := h.begun
  have hm := congrArg List.length (hbegun.symm.trans hnone)
  rw [length_payloads, List.length_nil] at hm
  exact List.length_eq_zero_iff.1 (by rw [h.length_confirmed]; omega)

private theorem Chain.resumes {done total : Nat} {before between after : List Log} {log next : Log}
    (h : client.Chain done (before ++ log :: (between ++ next :: after)) total)
    (hopen : (Log.begun log).length = (Log.confirmed log).length + 1)
    (hsilent : ∀ other ∈ between, Log.begun other = []) (hbegins : Log.begun next ≠ []) :
    (Log.begun next).head? = (Log.begun log).getLast? := by
  -- Sessions that begin nothing confirm nothing, so that the next one starts where `log` stopped.
  have hnone : between.flatMap Log.confirmed = [] := by
    refine List.flatMap_eq_nil_iff.2 fun other hother => ?_
    obtain ⟨first, rest, rfl⟩ := List.append_of_mem hother
    have hsplit : client.Chain done
        ((before ++ log :: first) ++ other :: (rest ++ next :: after)) total := by simpa using h
    exact hsplit.carries.confirmed_eq_nil (hsilent other hother)
  have hsplit : client.Chain done ((before ++ log :: between) ++ next :: after) total := by
    simpa using h
  obtain ⟨m, hlog, -⟩ := h.carries.begun
  obtain ⟨k, hnext, -⟩ := hsplit.carries.begun
  -- The frame that is open has the number at which the next session starts.
  rw [List.flatMap_append, List.flatMap_cons, hnone, List.append_nil, List.length_append,
    ← Nat.add_assoc] at hnext
  rw [hlog, length_payloads] at hopen
  rw [hnext] at hbegins ⊢
  rw [hlog, hopen, payloads_concat, List.getLast?_concat]
  cases k with
  | zero => exact absurd rfl hbegins
  | succ k => rw [payloads_succ, List.head?_cons]

/-- In a run of a client over a network the data frames that are confirmed, taken over all
sessions, carry exactly the records that the run counts as confirmed, each once and in order; every
session carries on where those before it stopped. A run that succeeds has confirmed all records of
its plan, and one that fails has not, unless there are none. -/
theorem run_exactlyOnce (client : Client) (network : Net.Network Stream)
    (hfresh : network.Fresh) :
    let outcome := client.runOn network
    client.ExactlyOnce (reached outcome.1).framesAcknowledged.toNat
        (outcome.2.retired.map Stream.log) ∧
      (∀ summary, outcome.1 = .ok summary → summary.framesAcknowledged = client.plan.frames) ∧
      (∀ e, outcome.1 = .error e → 1 ≤ client.plan.frames →
        e.framesAcknowledged < client.plan.frames) := by
  intro outcome
  have hended : client.Ended 0 (outcome.2.retired.map Stream.log) outcome.1 :=
    client.run_outcome hfresh
  generalize outcome.2.retired.map Stream.log = logs at hended ⊢
  refine ⟨⟨?_, ?_, ?_⟩, fun summary hsummary => (hended.ok summary hsummary).1,
    fun e he hpos => hended.error e he (UInt32.le_iff_toNat_le.1 hpos)⟩
  · obtain ⟨n, htotal, hconfirmed⟩ := hended.chain.confirmed
    rw [hconfirmed, htotal, Nat.zero_add, List.range_eq_range', payloads]
  · rintro before log after rfl
    have hcarries := hended.chain.carries
    rwa [Nat.zero_add] at hcarries
  · rintro before log between next after rfl hopen hsilent hbegins
    exact hended.chain.resumes hopen hsilent hbegins

/-- A run that sends two records over two connections. The first one ends when the second record,
whose sequence number starts again at zero, is not confirmed yet; the other one sends it again. -/
theorem run_exactlyOnce_reconnect :
    let device : DeviceId := ⟨⟨[1, 2, 3, 4, 5, 6], rfl⟩⟩
    let client : Client :=
      { host := "127.0.0.1", port := 9090, options := {},
        credentials := { key := ⟨[107], by decide⟩, deviceId := device },
        plan := { frames := 2 }, sample := ⟨5, 0, 0, 0, 0, 0, 0, 0, 0, 65535, device⟩,
        reconnect := some ⟨2, .zero, .zero⟩ }
    let network : Net.Network Stream :=
      { hosts := fun _ => .ok [],
        links := [⟨[.chunk [0x01, 0x03, 0x01, 0x03]], [], [], []⟩,
          ⟨[.chunk [0x01, 0x03, 0x01]], [], [], []⟩],
        spare := ⟨[], [], [], []⟩, spareNonce := ⟨[0, 0, 0, 0, 0, 0, 0, 1], rfl⟩ }
    let first : Bytes := [0x01, 5, 0, 0, 0, 0, 0, 0, 0, 0, 0, 0, 0, 0, 0, 0, 0, 0xFF, 0xFF] ++
      [1, 2, 3, 4, 5, 6]
    let second : Bytes := [0x01, 5, 0, 0, 0, 0, 0, 0, 0, 0, 0, 0, 0, 0, 0, 0, 0, 0x00, 0x00] ++
      [1, 2, 3, 4, 5, 6]
    let outcome := client.runOn network
    network.Fresh ∧ outcome.1 = .ok { attempts := 2, framesAcknowledged := 2 } ∧
      outcome.2.retired.map (fun link => Log.begun link.log) = [[first, second], [second]] ∧
      client.ExactlyOnce (reached outcome.1).framesAcknowledged.toNat
        (outcome.2.retired.map Stream.log) ∧
      (∀ summary, outcome.1 = .ok summary → summary.framesAcknowledged = client.plan.frames) ∧
      (∀ e, outcome.1 = .error e → 1 ≤ client.plan.frames →
        e.framesAcknowledged < client.plan.frames) :=
  ⟨⟨⟨by simp, rfl⟩, rfl⟩, by decide +kernel, by decide +kernel,
    run_exactlyOnce _ _ ⟨⟨by simp, rfl⟩, rfl⟩⟩

end Client

end TelemetryLink
