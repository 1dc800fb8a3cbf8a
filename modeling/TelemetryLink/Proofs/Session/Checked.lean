import TelemetryLink.Proofs.Session.Provider

/-!
# The counters of a session do not overflow

The counters of a session are words. This module writes the session once more with every addition
checked, so that it has no outcome at all if one of them leaves the range of a word, and shows that
this makes no difference as long as the frames of the plan fit behind those that were sent before.

- `Checked.add`, `Checked.sub`: arithmetic that has no result outside the range.
- `Checked.run`: a run that adds like this.
- `Checked.Follows`: a checked computation does what another does.
- `Session.framesSent_of_run`: a run counts at most as many frames as its plan has.
- `Session.run_checked`: a checked run is the run.
-/

namespace TelemetryLink

namespace Checked

/-- The sum of two words, if it is one. -/
def add (a b : UInt32) : Option UInt32 :=
  if a.toNat + b.toNat < UInt32.size then some (a + b) else none

/-- The difference of two words, if it is one. -/
def sub (a b : UInt32) : Option UInt32 := if b ≤ a then some (a - b) else none

theorem add_eq {a b : UInt32} (h : a.toNat + b.toNat < UInt32.size) : add a b = some (a + b) :=
  if_pos h

/-- The greatest word has no successor. -/
example : add 0xFFFFFFFF 1 = none := by decide

theorem sub_eq {a b : UInt32} (h : b ≤ a) : sub a b = some (a - b) := if_pos h

/-! ## The checked session -/

open Session Stateful

/-- Sends one record and waits for its confirmation. -/
def sendRecord (record : Record) : SessionM Stream Option AckCode := do
  let stage := Stage.data (← ofOutside (add (← get).framesSent 1))
  among (expect .idle stage)
  among (enter .sending)
  match ← among (exchange stage (Exchange.request .data record.encodePresent)) with
  | .ack code =>
    let sent ← ofOutside (add (← get).framesSent 1)
    modify fun session => { session with framesSent := sent }
    among (enter .idle)
    return code
  | .serverError code => among (fail stage (.serverError code))
  | .malformed marker code => among (fail stage (.protocolViolation [marker, code]))

/-- Sends `n` more records, of which the first has the index `index`. -/
def sendRecords (interval : Duration) (record : UInt32 → Record) :
    Nat → UInt32 → Report → SessionM Stream Option Report
  | 0, _, report => return report
  | n + 1, index, report => do
    let code ← sendRecord (record index)
    let confirmed ← ofOutside (add report.framesAcknowledged 1)
    let next ← ofOutside (add index 1)
    if n ≠ 0 ∧ interval ≠ .zero then
      ofOutside (Link.pause Stream interval)
    sendRecords interval record n next
      { report.confirm code with framesAcknowledged := confirmed }

/-- Drives the whole life of a session. Nothing is counted before the first record. -/
def run (plan : Plan) (nonce : Nonce) (record : UInt32 → Record) :
    SessionM Stream Option Report := do
  let outcome ← among (prologue plan nonce)
  let report ← sendRecords plan.interval record plan.frames.toNat 0 { ping := outcome }
  among close
  return report

/-! ## Checked computations beside others -/

variable {α β : Type}

/-- In this session a checked computation does what another does. -/
def Follows (checked : SessionM Stream Option α) (step : SessionM Stream Id α)
    (session : Session Stream) : Prop :=
  checked.run.run session = some (step.on session)

namespace Follows

variable {checked : SessionM Stream Option α} {step : SessionM Stream Id α}
  {next : α → SessionM Stream Option β} {next' : α → SessionM Stream Id β}
  {session : Session Stream}

theorem among (step : SessionM Stream Id α) : Follows (among step) step session := rfl

theorem pure (a : α) : Follows (Pure.pure a) (Pure.pure a) session := rfl

/-- One after the other. -/
theorem bind (h : Follows checked step session)
    (hnext : ∀ a after, step.on session = (.ok a, after) → Follows (next a) (next' a) after) :
    Follows (checked >>= next) (step >>= next') session := by
  have hrun : (checked >>= next).run.run session = (checked.run.run session).bind fun p =>
      (ExceptT.bindCont next p.1).run p.2 := rfl
  rw [Follows] at h ⊢
  rw [hrun, h, SessionM.on_bind]
  rcases hstep : step.on session with ⟨e | a, after⟩
  · rfl
  · exact hnext a after hstep

theorem get_left {next : Session Stream → SessionM Stream Option α}
    (h : Follows (next session) step session) : Follows (get >>= next) step session := h

theorem get_right {next : Session Stream → SessionM Stream Id α}
    (h : Follows checked (next session) session) : Follows checked (get >>= next) session := h

/-- A sum that is in range. -/
theorem add_left {a b : UInt32} {next : UInt32 → SessionM Stream Option α}
    (hfit : a.toNat + b.toNat < UInt32.size)
    (h : Follows (next (a + b)) step session) :
    Follows (ofOutside (add a b) >>= next) step session := by
  rw [add_eq hfit]
  exact h

/-- What is given from outside without effects is there at once. -/
theorem given_right {a : β} {next : β → SessionM Stream Id α}
    (h : Follows checked (next a) session) :
    Follows checked (ofOutside (Pure.pure a) >>= next) session := h

end Follows

end Checked

namespace Session

open Checked SessionM

variable {session : Session Stream}

/-- An exchange leaves the counter as it is. -/
theorem framesSent_of_exchange {α : Type} {stage : Stage} {step : Exchange Stream Id α} {a : α}
    {after : Session Stream} (h : (exchange stage step).on session = (.ok a, after)) :
    after.framesSent = session.framesSent := by
  by_cases hheld : session.held = true
  · rw [exchange_on stage step hheld] at h
    split at h
    · cases h
      rfl
    · cases h
  · rw [exchange_on_of_released stage step (Bool.not_eq_true _ ▸ hheld)] at h
    cases h

/-- What was expected is left as it is. -/
theorem eq_of_expect {expected : SessionState} {stage : Stage} {a : Unit} {after : Session Stream}
    (h : (expect expected stage : SessionM Stream Id Unit).on session = (.ok a, after)) :
    after = session := by
  rw [expect_on] at h
  split at h
  · cases h
    rfl
  · cases h

/-- One more frame can be counted. -/
theorem sendRecord_checked (record : Record)
    (hfit : session.framesSent.toNat + 1 < UInt32.size) :
    Follows (Checked.sendRecord record) (sendRecord record) session := by
  unfold Checked.sendRecord sendRecord
  refine .get_left (.get_right ?_)
  refine .add_left hfit ?_
  refine .bind (.among _) fun _ ready hexpect => ?_
  refine .bind (.among _) fun _ sending henter => ?_
  refine .bind (.among _) fun reply answered hexchange => ?_
  cases reply with
  | ack code =>
    -- The counter is still the one that the number of the frame was made from.
    have hanswered : answered.framesSent.toNat + 1 < UInt32.size := by
      rw [framesSent_of_exchange hexchange]
      cases henter
      rw [eq_of_expect hexpect]
      exact hfit
    refine .get_left ?_
    refine .add_left hanswered ?_
    exact .bind rfl fun _ _ _ => .bind (.among _) fun _ _ _ => .pure _
  | serverError code => exact .among _
  | malformed marker code => exact .among _

/-- A record that is confirmed is counted, and no other. -/
theorem framesSent_of_sendRecord {record : Record} {result : Except SessionError AckCode}
    {after : Session Stream}
    (h : (sendRecord record : SessionM Stream Id AckCode).on session = (result, after)) :
    after.framesSent = session.framesSent + if result.isOk then 1 else 0 := by
  have hstep : ((Call.sendRecord record).step : SessionM Stream Id Receipt).on session =
      (result.map .data, after) := by
    rw [Call.step, on_bind, h]
    cases result <;> rfl
  cases result with
  | error e => exact (Call.framesSent_of_error hstep).trans (UInt32.add_zero _).symm
  | ok code =>
    obtain ⟨n, hreturns, hsent⟩ := Call.returns_of_ok hstep
    cases hreturns
    exact hsent

/-- Below the end of the range, one more is one more. -/
private theorem toNat_add_one {a : UInt32} {n : Nat} (h : a.toNat + (n + 1) < UInt32.size) :
    (a + 1).toNat = a.toNat + 1 := by
  rw [UInt32.toNat_add]
  exact Nat.mod_eq_of_lt (Nat.lt_of_le_of_lt (Nat.add_le_add_left (Nat.le_add_left 1 n) _) h)

/-- No more frames are counted than were to be sent. -/
theorem framesSent_of_sendRecords (interval : Duration) (record : UInt32 → Record) (n : Nat)
    (index : UInt32) (report : Report) (hfit : session.framesSent.toNat + n < UInt32.size) :
    ((sendRecords interval (fun i => pure (record i)) n index report :
      SessionM Stream Id Report).on session).2.framesSent.toNat ≤
        session.framesSent.toNat + n := by
  induction n generalizing index report session with
  | zero => exact Nat.le_refl _
  | succ n ih =>
    rw [sendRecords_succ, on_bind, on_ofOutside]
    dsimp only [Id.run_pure]
    rw [on_bind]
    rcases hcode : (sendRecord (record index) : SessionM Stream Id AckCode).on session with
      ⟨e | code, after⟩
    · have hsent : after.framesSent = session.framesSent :=
        (framesSent_of_sendRecord hcode).trans (UInt32.add_zero _)
      dsimp only
      rw [hsent]
      exact Nat.le_add_right _ _
    · have hsent : after.framesSent.toNat = session.framesSent.toNat + 1 := by
        rw [framesSent_of_sendRecord hcode]
        exact toNat_add_one hfit
      have hfit : after.framesSent.toNat + n < UInt32.size := by omega
      have hrest := ih (index + 1) (report.confirm code) hfit
      rw [hsent, Nat.add_assoc, Nat.add_comm 1] at hrest
      exact hrest

/-- As many frames as are left can be counted, in the session and in the report, and their indices
too. -/
theorem sendRecords_checked (interval : Duration) (record : UInt32 → Record) (n : Nat)
    {index : UInt32} {report : Report} (hindex : index.toNat + n < UInt32.size)
    (hreport : report.framesAcknowledged.toNat + n < UInt32.size)
    (hfit : session.framesSent.toNat + n < UInt32.size) :
    Follows (Checked.sendRecords interval record n index report)
      (sendRecords interval (fun i => pure (record i)) n index report) session := by
  -- Three counters go up together, and the frames that are left go down.
  induction n generalizing index report session with
  | zero => exact .pure _
  | succ n ih =>
    unfold Checked.sendRecords sendRecords
    refine .given_right ?_
    refine .bind (sendRecord_checked _ (by omega)) fun code after hcode => ?_
    have hsent : after.framesSent.toNat = session.framesSent.toNat + 1 := by
      rw [framesSent_of_sendRecord hcode]
      exact toNat_add_one hfit
    have hconfirmed := toNat_add_one hreport
    have hnext := toNat_add_one hindex
    refine .add_left (Nat.lt_of_le_of_lt (by simp) hreport) ?_
    refine .add_left (Nat.lt_of_le_of_lt (by simp) hindex) ?_
    have hindex : (index + 1).toNat + n < UInt32.size := by omega
    have hreport : (report.confirm code).framesAcknowledged.toNat + n < UInt32.size := by
      change (report.framesAcknowledged + 1).toNat + n < UInt32.size
      omega
    have hfit : after.framesSent.toNat + n < UInt32.size := by omega
    have hrest := ih hindex hreport hfit
    dsimp only
    split
    · refine .bind rfl fun _ paused hpause => ?_
      cases hpause
      exact hrest
    · exact hrest

/-- Before the first record nothing is counted. -/
theorem framesSent_of_prologue (plan : Plan) (nonce : Nonce) (session : Session Stream) :
    ((prologue plan nonce : SessionM Stream Id (Option PingOutcome)).on session).2.framesSent =
      session.framesSent := by
  have hping : ∀ session : Session Stream,
      ((if plan.ping then some <$> ping else pure none :
        SessionM Stream Id (Option PingOutcome)).on session).2.framesSent =
          session.framesSent := by
    intro session
    split
    · rw [on_map, ← Call.framesSent_perform .ping (by simp) session, Call.perform_ping]
    · rfl
  rw [prologue, on_bind, on_get]
  dsimp only
  split
  · rw [on_bind, ← Call.framesSent_perform (.handshake nonce) (by simp) session,
      Call.perform_handshake]
    rcases (handshake nonce : SessionM Stream Id Unit).on session with ⟨_ | _, next⟩
    · rfl
    · exact hping next
  · exact hping session

variable {plan : Plan}

/-- A run counts no more frames than its plan has. -/
theorem framesSent_of_run (nonce : Nonce) (record : UInt32 → Record)
    (hfit : session.framesSent.toNat + plan.frames.toNat < UInt32.size) :
    ((run plan nonce (fun i => pure (record i)) : SessionM Stream Id Report).on
      session).2.framesSent.toNat ≤ session.framesSent.toNat + plan.frames.toNat := by
  have hprologue := framesSent_of_prologue plan nonce session
  rw [run_eq_prologue, on_bind]
  generalize (prologue plan nonce : SessionM Stream Id (Option PingOutcome)).on session = opened
    at hprologue ⊢
  obtain ⟨e | outcome, next⟩ := opened
  · exact Nat.le_trans (Nat.le_of_eq (congrArg UInt32.toNat hprologue)) (Nat.le_add_right _ _)
  · have hprologue : next.framesSent = session.framesSent := hprologue
    rw [← hprologue] at hfit ⊢
    have hsend := framesSent_of_sendRecords plan.interval record plan.frames.toNat 0
      { ping := outcome } hfit
    dsimp only
    rw [on_bind]
    generalize (sendRecords plan.interval (fun i => pure (record i)) plan.frames.toNat 0
      { ping := outcome } : SessionM Stream Id Report).on next = sent at hsend ⊢
    obtain ⟨e | report, last⟩ := sent
    · exact hsend
    · dsimp only
      rw [on_bind, close_on]
      exact Nat.le_trans (Nat.le_of_eq (congrArg UInt32.toNat last.closed_framesSent)) hsend

/-- A run whose frames fit behind those that the session sent before counts without overflow. -/
theorem run_checked (nonce : Nonce) (record : UInt32 → Record)
    (hfit : session.framesSent.toNat + plan.frames.toNat < UInt32.size) :
    Follows (Checked.run plan nonce record) (run plan nonce (fun i => pure (record i)))
      session := by
  rw [run_eq_prologue]
  refine .bind (.among _) fun outcome next hprologue => ?_
  have hsent : next.framesSent = session.framesSent := by
    rw [← framesSent_of_prologue plan nonce session, hprologue]
  rw [← hsent] at hfit
  have hframes : (0 : UInt32).toNat + plan.frames.toNat < UInt32.size :=
    (Nat.zero_add _).symm ▸ plan.frames.toNat_lt
  refine .bind (sendRecords_checked _ _ _ hframes hframes hfit) fun report last _ => ?_
  exact .bind (.among _) fun _ _ _ => .pure _

end Session

end TelemetryLink
