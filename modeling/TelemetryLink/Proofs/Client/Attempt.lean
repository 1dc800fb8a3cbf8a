import TelemetryLink.Client
import TelemetryLink.Proofs.Client.Opening
import TelemetryLink.Proofs.Session.Run
import TelemetryLink.Proofs.Session.Wire

/-!
# One attempt of a client

An attempt opens one session and sends the records that are still to be confirmed, from number
`done` on. `Client.Attempt` lists how it can end, told from the logs of the connections that it
released; `Client.attempt_outcome` says that there is no other way.
-/

namespace TelemetryLink

namespace Client

open Stateful

variable (client : Client)

/-- The octets of the record with this number among all records of a run: the first record, with
its sequence number counted up `k` times. -/
def payload (k : Nat) : Bytes :=
  Record.encodePresent { client.sample with
    measurementSeq := client.sample.measurementSeq + UInt16.ofNat k }

/-- The octets of `n` records from number `start` on. -/
def payloads (start n : Nat) : List Bytes := (List.range' start n).map client.payload

/-- A connection on which the records from number `done` on were sent: so many of them are
confirmed, and at most one more was begun. -/
structure Carries (done n : Nat) (log : Log) : Prop where
  confirmed : (Log.confirmed log).map Prod.fst = client.payloads done n
  begun : ∃ m, Log.begun log = client.payloads done m ∧ n ≤ m ∧ m ≤ n + 1

/-- How an attempt ends that starts with `done` confirmed records: how many more are confirmed, the
result, and the logs of the connections released. -/
inductive Attempt (done : UInt32) : UInt32 → Except SessionError Report → List Log → Prop
  /-- No session was opened. A connection that could not be set up was released. -/
  | unopened {error logs} (hlogs : ∀ log ∈ logs, log = [.released]) :
    Attempt done 0 (.error error) logs
  /-- All records were sent and confirmed. -/
  | completed {report log} (hlog : client.Carries done.toNat (client.plan.frames - done).toNat log)
      (hcodes : report.unexpectedAckCodes = Log.unexpectedCodes log) :
    Attempt done (client.plan.frames - done) (.ok report) [log]
  /-- The session failed before the last record was confirmed. -/
  | failed {confirmed error log} (hlog : client.Carries done.toNat confirmed.toNat log)
      (hle : confirmed ≤ client.plan.frames - done)
      (hlt : done < client.plan.frames → confirmed < client.plan.frames - done) :
    Attempt done confirmed (.error error) [log]

/-! ## The attempt as a function -/

/-- What an attempt on a scripted network returns, and the network after it. -/
def attemptOn (done : UInt32) (network : Net.Network Stream) :
    (UInt32 × Except SessionError Report) × Net.Network Stream :=
  ((client.attempt done : StateT (Net.Network Stream) Id _).run network).run

/-- The plan of an attempt. -/
def remainder (done : UInt32) : Plan := { client.plan with frames := client.plan.frames - done }

/-- The record of an attempt with this index. -/
def recordFrom (done index : UInt32) : Record :=
  client.recordAt (done.toUInt16 + index.toUInt16)

theorem attemptOn_error {done : UInt32} {network after : Net.Network Stream} {error : SessionError}
    (h : on (Net.Dialer.openSession client.host client.port client.credentials client.options)
      network = (.error error, after)) :
    client.attemptOn done network = ((0, .error error), after) := by
  unfold attemptOn attempt
  rw [StateT.run_bind, show (Net.Dialer.openSession client.host client.port client.credentials
    client.options).run.run network = (pure (.error error, after) : Id _) from h]
  rfl

theorem attemptOn_ok {done : UInt32} {network after : Net.Network Stream}
    {session ended : Session Stream} {result : Except SessionError Report}
    (h : on (Net.Dialer.openSession client.host client.port client.credentials client.options)
      network = (.ok session, after))
    (hsession : (Session.run (client.remainder done) (after.nonces.headD after.spareNonce)
      (fun index => pure (client.recordFrom done index)) : SessionM Stream Id Report).on session =
        (result, ended)) :
    client.attemptOn done network = ((ended.closed.framesSent, result),
      { after with
        nonces := after.nonces.tail
        retired := after.retired ++ [ended.closed.link] }) := by
  have hnonce : StateT.run (fun network => Net.Dialer.nonce network) after =
      (pure (after.nonces.headD after.spareNonce, { after with nonces := after.nonces.tail }) :
        Id _) := rfl
  have hclose : (Session.close : SessionM Stream Id Unit).run.run ended =
      (pure (.ok (), ended.closed) : Id _) := Session.close_on ended
  -- The four effects of an attempt, one after another: the opening, the nonce, the run, the end.
  unfold attemptOn attempt
  rw [StateT.run_bind, show (Net.Dialer.openSession client.host client.port client.credentials
    client.options).run.run network = (pure (.ok session, after) : Id _) from h, pure_bind]
  dsimp only
  rw [StateT.run_bind, hnonce, pure_bind]
  dsimp only
  dsimp only [remainder, recordFrom] at hsession
  rw [StateT.run_bind, StateT.run_lift, show (Session.run _ _ _).run.run session =
    (pure (result, ended) : Id _) from hsession, pure_bind, pure_bind]
  dsimp only
  rw [StateT.run_bind, StateT.run_lift, hclose, pure_bind, pure_bind]
  rfl

/-- Nothing is looked up or tried in an attempt but what opening its session takes. -/
theorem attemptOn_record (done : UInt32) (network : Net.Network Stream) :
    let opened := (on (Net.Dialer.openSession client.host client.port client.credentials
      client.options) network).2
    let after := (client.attemptOn done network).2
    after.lookedUp = opened.lookedUp ∧ after.tried = opened.tried := by
  intro opened after
  rcases hopen : on (Net.Dialer.openSession client.host client.port client.credentials
    client.options) network with ⟨error | session, next⟩
  · have hafter : after = next := congrArg Prod.snd (client.attemptOn_error hopen)
    rw [hafter, show opened = next from congrArg Prod.snd hopen]
    exact ⟨rfl, rfl⟩
  · -- What the session does then concerns its own connection, and the nonces.
    have hafter : after = _ := congrArg Prod.snd (client.attemptOn_ok hopen (Prod.eta _).symm)
    rw [hafter, show opened = next from congrArg Prod.snd hopen]
    exact ⟨rfl, rfl⟩

/-- An attempt runs a new session and releases its connection, or it opens no session. -/
theorem attempt_cases (done : UInt32) {network : Net.Network Stream} (hunused : network.Unused) :
    (∃ link nonce result ended after, link.log = [] ∧
      (Session.run (client.remainder done) nonce
        (fun index => pure (client.recordFrom done index)) : SessionM Stream Id Report).on
          (Session.new link client.credentials) = (result, ended) ∧
      client.attemptOn done network = ((ended.closed.framesSent, result), after) ∧ after.Unused ∧
      after.retired = network.retired ++ [ended.closed.link]) ∨
    (∃ error released after, error.OfLink ∧ (∀ link ∈ released, link.log = [.released]) ∧
      client.attemptOn done network = ((0, .error ⟨.connect, error⟩), after) ∧ after.Unused ∧
      after.retired = network.retired ++ released) := by
  rcases Net.Dialer.openSession_outcome client.host client.port client.credentials client.options
      hunused with
    ⟨link, opened, hopen, hlink, hopened, hretired⟩ |
      ⟨error, opened, released, hopen, herror, hopened, hretired, hreleased⟩
  · rcases hrun : (Session.run (client.remainder done) (opened.nonces.headD opened.spareNonce)
        (fun index => pure (client.recordFrom done index)) : SessionM Stream Id Report).on
          (Session.new link client.credentials) with ⟨result, ended⟩
    refine .inl ⟨link, _, result, ended, _, hlink, hrun, client.attemptOn_ok hopen hrun,
      ⟨hopened.links, hopened.spare⟩, ?_⟩
    rw [hretired]
  · exact .inr ⟨error, released, opened, herror, hreleased, client.attemptOn_error hopen, hopened,
      hretired⟩

/-! ## The records of an attempt -/

theorem encodePresent_recordAt (k : Nat) :
    (client.recordAt (.ofNat k)).encodePresent = client.payload k := rfl

/-- The records of an attempt carry on where the last one stopped. -/
theorem records_remainder (done : UInt32) :
    ((client.remainder done).records (client.recordFrom done)).map Record.encodePresent =
      client.payloads done.toNat (client.plan.frames - done).toNat := by
  rw [Plan.records, payloads, List.range'_eq_map_range, List.map_map, List.map_map]
  refine List.map_congr_left fun i _ => ?_
  -- Both numbers are cut to 16 bits before they are added, which makes no difference to the sum.
  have hindex : done.toUInt16 + (UInt32.ofNat i).toUInt16 = UInt16.ofNat (done.toNat + i) := by
    rw [UInt16.ofNat_add, UInt16.ofNat_uInt32ToNat, UInt32.toUInt16_ofNat']
  simp only [Function.comp_apply, recordFrom, hindex, encodePresent_recordAt]

theorem take_payloads {start m n : Nat} (h : m ≤ n) :
    (client.payloads start n).take m = client.payloads start m := by
  rw [payloads, ← List.map_take, List.take_range'_of_length_ge h, payloads]

/-- What the dialogue of an attempt tells about the log of its connection. -/
theorem carries_of_accounts {done : UInt32} {ended : Session Stream} {dialogue : Dialogue}
    (haccounts : ended.Accounts dialogue) {n m : Nat}
    (hanswered : dialogue.answered.filterMap Message.record? =
      ((client.remainder done).records (client.recordFrom done)).take n)
    (hmessages : dialogue.messages.filterMap Message.record? =
      ((client.remainder done).records (client.recordFrom done)).take m)
    (hnm : n ≤ m) (hmn : m ≤ n + 1) (hm : m ≤ (client.plan.frames - done).toNat) :
    client.Carries done.toNat n ended.link.log where
  confirmed := by
    rw [haccounts.confirmed_payloads, hanswered, List.map_take, records_remainder]
    exact client.take_payloads (by omega)
  begun := by
    refine ⟨m, ?_, hnm, hmn⟩
    rw [haccounts.begun_log, hmessages, List.map_take, records_remainder]
    exact client.take_payloads hm

/-- The counter of a session counts the records that were confirmed. -/
theorem framesSent_of_accounts {done : UInt32} {ended : Session Stream} {dialogue : Dialogue}
    (haccounts : ended.Accounts dialogue) {n : Nat}
    (hanswered : dialogue.answered.filterMap Message.record? =
      ((client.remainder done).records (client.recordFrom done)).take n)
    (hn : n ≤ (client.plan.frames - done).toNat) : ended.framesSent = .ofNat n := by
  rw [haccounts.framesSent, hanswered, List.length_take, Plan.length_records]
  exact congrArg UInt32.ofNat (Nat.min_eq_left hn)

/-- An attempt ends in one of the ways listed. It releases what it connected to. -/
theorem attempt_outcome (done : UInt32) {network : Net.Network Stream}
    (hunused : network.Unused) :
    ∃ confirmed result after logs, client.attemptOn done network = ((confirmed, result), after) ∧
      after.Unused ∧
      after.retired.map Stream.log = network.retired.map Stream.log ++ logs ∧
      client.Attempt done confirmed result logs := by
  rcases client.attempt_cases done hunused with
    ⟨link, nonce, result, ended, after, hlink, hrun, hattempt, hafter, hretired⟩ |
      ⟨error, released, after, -, hreleased, hattempt, hafter, hretired⟩
  · refine ⟨_, _, after, [ended.closed.link.log], hattempt, hafter,
      by rw [hretired, List.map_append]; rfl, ?_⟩
    rcases result with error | report
    · obtain ⟨dialogue, n, m, haccounts, hanswered, hmessages, hnm, hmn, hm, hlt⟩ :=
        Session.new_run_error hlink hrun
      -- The counter tells how many records were confirmed, since it cannot have overflowed.
      have hn : n ≤ (client.plan.frames - done).toNat := Nat.le_trans hnm hm
      have hsent := client.framesSent_of_accounts haccounts.closed hanswered hn
      have hcount : ended.closed.framesSent.toNat = n := by
        rw [hsent, UInt32.toNat_ofNat_of_lt' (Nat.lt_of_le_of_lt hn (UInt32.toNat_lt _))]
      refine .failed ?_ ?_ ?_
      · rw [hcount]
        exact client.carries_of_accounts haccounts.closed hanswered hmessages hnm hmn hm
      · rw [UInt32.le_iff_toNat_le, hcount]
        exact hn
      · intro hdone
        rw [UInt32.lt_iff_toNat_lt, hcount]
        refine hlt ?_
        rw [remainder, UInt32.toNat_sub_of_le _ _ (UInt32.le_of_lt hdone)]
        exact Nat.sub_pos_of_lt (UInt32.lt_iff_toNat_lt.1 hdone)
    · obtain ⟨dialogue, haccounts, hanswered, hmessages, hcodes⟩ := Session.new_run_ok hlink hrun
      have hall : (client.remainder done).records (client.recordFrom done) =
          ((client.remainder done).records (client.recordFrom done)).take
            (client.plan.frames - done).toNat :=
        (List.take_of_length_le (Nat.le_of_eq (Plan.length_records _ _))).symm
      rw [hall] at hanswered hmessages
      have hsent := client.framesSent_of_accounts haccounts.closed hanswered (Nat.le_refl _)
      rw [UInt32.ofNat_toNat] at hsent
      rw [hsent]
      exact .completed (client.carries_of_accounts haccounts.closed hanswered hmessages
        (Nat.le_refl _) (Nat.le_succ _) (Nat.le_refl _))
        (hcodes.trans haccounts.closed.unexpectedCodes_log.symm)
  · refine ⟨0, _, after, released.map Stream.log, hattempt, hafter,
      by rw [hretired, List.map_append], .unopened ?_⟩
    intro log hlog
    obtain ⟨link, hlink, rfl⟩ := List.mem_map.1 hlog
    exact hreleased link hlink

end Client

end TelemetryLink
