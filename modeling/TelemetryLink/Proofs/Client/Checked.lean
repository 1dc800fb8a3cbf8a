import TelemetryLink.Proofs.Client.Retry
import TelemetryLink.Proofs.Session.Checked

/-!
# The counters of a client do not overflow

A client counts its attempts and the frames that were confirmed, and sends in each attempt the
difference to the frames of its plan. Here the client is written once more with this arithmetic
checked, on top of checked sessions. Every attempt, even one that fails, confirms at most as many
frames as were left, and so the checks make no difference.

- `Client.Checked.run`: a run of which nothing comes if a counter leaves its range.
- `Client.run_withinRange`: it is the run, on every network.
-/

namespace TelemetryLink

namespace Client

open Net Stateful
open TelemetryLink.Checked (add sub add_eq sub_eq)

/-! ## The checked client -/

namespace Checked

variable {α : Type} (client : Client)

/-- A computation on a network that counts nothing. -/
def plain (step : StateT (Network Stream) Id α) : StateT (Network Stream) Option α :=
  fun network => some (step.run network).run

/-- One session that sends the records from `done` on, `frames` of them. -/
def attempt (done frames : UInt32) :
    StateT (Network Stream) Option (UInt32 × Except SessionError Report) := do
  match ← plain
    (Dialer.openSession client.host client.port client.credentials client.options).run with
  | .error error => return (0, .error error)
  | .ok session =>
    let nonce ← plain fun network => Dialer.nonce network
    let plan := { client.plan with frames }
    let (result, session) ← StateT.lift
      ((TelemetryLink.Checked.run plan nonce (client.recordFrom done)).run.run session)
    let (_, session) ← plain (StateT.lift (Session.close.run.run session))
    let network ← get
    set (← plain (StateT.lift (Dialer.retire session.link network)))
    return (session.framesSent, result)

/-- One more attempt. It has to leave a number of frames that is not negative. -/
def advance (progress : Progress) :
    StateT (Network Stream) Option (Progress × Except SessionError Report) := do
  let attempts ← StateT.lift (add progress.attempts 1)
  let frames ← StateT.lift (sub client.plan.frames progress.framesAcknowledged)
  let (confirmed, result) ← attempt client progress.framesAcknowledged frames
  let _ ← StateT.lift (sub frames confirmed)
  let framesAcknowledged ← StateT.lift (add progress.framesAcknowledged confirmed)
  return (⟨attempts, framesAcknowledged⟩, result)

/-- Opens sessions until one completes, up to `retries` after the next. -/
def runFrom : (retries : Nat) → Progress →
    StateT (Network Stream) Option (Except RunError Summary)
  | 0, progress => do
    let (progress, result) ← advance client progress
    return conclude progress result
  | retries + 1, progress => do
    let (progress, result) ← advance client progress
    match result with
    | .ok _ => return conclude progress result
    | .error error =>
      if error.error.isRetryable then
        plain (StateT.lift (Link.pause Stream (client.backoff progress.attempts)))
        runFrom retries progress
      else return conclude progress result

/-- Sends all records of the plan. -/
def run : StateT (Network Stream) Option (Except RunError Summary) :=
  runFrom client client.retries {}

end Checked

/-! ## The checks make no difference -/

variable {client : Client} {progress : Progress} {network : Network Stream}

/-- One checked computation after another. -/
private theorem run_bind_some {α β : Type} {step : StateT (Network Stream) Option α}
    {next : α → StateT (Network Stream) Option β} {a : α} {after : Network Stream}
    (h : step.run network = some (a, after)) : (step >>= next).run network = (next a).run after := by
  rw [StateT.run_bind, h]
  rfl

private theorem run_lift_some {α : Type} {result : Option α} {a : α} (h : result = some a) :
    (StateT.lift result : StateT (Network Stream) Option α).run network = some (a, network) := by
  rw [h]
  rfl

/-- A session that was opened has sent nothing. -/
theorem framesSent_of_openSession {host : String} {port : UInt16} {credentials : Credentials}
    {options : ConnectOptions} {session : Session Stream} {after : Network Stream}
    (h : on (Dialer.openSession host port credentials options) network = (.ok session, after)) :
    session.framesSent = 0 := by
  unfold Dialer.openSession at h
  rw [on_adapt] at h
  rcases hconnect : on (Dialer.connect host port options) network with ⟨error | link, connected⟩
  · rw [on_bind_error _ hconnect] at h
    cases h
  · rw [on_bind_ok _ hconnect] at h
    cases h
    rfl

/-- An attempt to send what is left counts without overflow, and confirms no more than that. -/
theorem attempt_checked (client : Client) (done : UInt32) (network : Network Stream) :
    (Checked.attempt client done (client.plan.frames - done)).run network =
        some (client.attemptOn done network) ∧
      (client.attemptOn done network).1.1 ≤ client.plan.frames - done := by
  rcases hopen : on (Dialer.openSession client.host client.port client.credentials client.options)
    network with ⟨error | session, after⟩
  · have hplain : (Checked.plain (Dialer.openSession client.host client.port client.credentials
        client.options).run).run network = some (.error error, after) := congrArg some hopen
    rw [client.attemptOn_error hopen, Checked.attempt, StateT.run_bind, hplain]
    exact ⟨rfl, UInt32.le_iff_toNat_le.2 (Nat.zero_le _)⟩
  · have hplain : (Checked.plain (Dialer.openSession client.host client.port client.credentials
        client.options).run).run network = some (.ok session, after) := congrArg some hopen
    -- A new session counts from zero, so that any plan fits.
    have hnew := framesSent_of_openSession hopen
    have hfit : session.framesSent.toNat + (client.remainder done).frames.toNat < UInt32.size := by
      rw [hnew]
      exact (Nat.zero_add _).symm ▸ UInt32.toNat_lt _
    have hcount := Session.framesSent_of_run (after.nonces.headD after.spareNonce)
      (client.recordFrom done) hfit
    have hchecked := Session.run_checked (after.nonces.headD after.spareNonce)
      (client.recordFrom done) hfit
    rcases hrun : (Session.run (client.remainder done) (after.nonces.headD after.spareNonce)
      (fun index => pure (client.recordFrom done index)) : SessionM Stream Id Report).on session
        with ⟨result, ended⟩
    rw [TelemetryLink.Checked.Follows, hrun] at hchecked
    rw [hrun] at hcount
    rw [client.attemptOn_ok hopen hrun]
    constructor
    · have hclose (network : Network Stream) :
          (Checked.plain (StateT.lift (Session.close.run.run ended))).run network =
            some ((.ok (), ended.closed), network) :=
        congrArg (fun p => some (p, network)) (Session.close_on ended)
      have hnonce : (Checked.plain fun network => Dialer.nonce network).run after =
          some (after.nonces.headD after.spareNonce,
            { after with nonces := after.nonces.tail }) := rfl
      -- The opening, the nonce, the run and the end, as in an attempt that checks nothing.
      rw [Checked.attempt]
      refine (run_bind_some hplain).trans ?_
      refine (run_bind_some hnonce).trans ?_
      refine (run_bind_some (run_lift_some hchecked)).trans ?_
      refine (run_bind_some (hclose _)).trans ?_
      rfl
    · rw [hnew] at hcount
      rw [UInt32.le_iff_toNat_le, Session.closed_framesSent]
      exact Nat.le_trans hcount (Nat.le_of_eq (Nat.zero_add _))

/-- The progress after an attempt, and how it ended. -/
theorem advance_checked (network : Network Stream)
    (hattempts : progress.attempts.toNat + 1 < UInt32.size)
    (hle : progress.framesAcknowledged ≤ client.plan.frames) :
    ∃ next result after,
      (client.advance progress : StateT (Network Stream) Id _).run network =
        (pure ((next, result), after) : Id _) ∧
      (Checked.advance client progress).run network = some ((next, result), after) ∧
      next.attempts.toNat = progress.attempts.toNat + 1 ∧
      next.framesAcknowledged ≤ client.plan.frames := by
  obtain ⟨hchecked, hconfirmed⟩ := attempt_checked client progress.framesAcknowledged network
  rcases hattempt : client.attemptOn progress.framesAcknowledged network with
    ⟨⟨confirmed, result⟩, after⟩
  rw [hattempt] at hchecked hconfirmed
  have hconfirmed : confirmed ≤ client.plan.frames - progress.framesAcknowledged := hconfirmed
  -- What was confirmed before and what is confirmed now is no more than the plan has.
  have hsum : progress.framesAcknowledged.toNat + confirmed.toNat ≤ client.plan.frames.toNat := by
    have hleft := UInt32.le_iff_toNat_le.1 hconfirmed
    rw [UInt32.toNat_sub_of_le _ _ hle] at hleft
    have hle := UInt32.le_iff_toNat_le.1 hle
    omega
  have hfit : progress.framesAcknowledged.toNat + confirmed.toNat < UInt32.size :=
    Nat.lt_of_le_of_lt hsum client.plan.frames.toNat_lt
  refine ⟨⟨progress.attempts + 1, progress.framesAcknowledged + confirmed⟩, result, after, ?_, ?_,
    ?_, ?_⟩
  · exact advance_run hattempt
  · rw [Checked.advance, add_eq hattempts, sub_eq hle]
    refine (run_bind_some rfl).trans ?_
    refine (run_bind_some rfl).trans ?_
    refine (run_bind_some hchecked).trans ?_
    dsimp only
    rw [sub_eq hconfirmed, add_eq hfit]
    rfl
  · rw [UInt32.toNat_add]
    exact Nat.mod_eq_of_lt hattempts
  · rw [UInt32.le_iff_toNat_le, UInt32.toNat_add, Nat.mod_eq_of_lt hfit]
    exact hsum

/-- A run with so many retries left counts without overflow if they fit behind the attempts that
were made. -/
theorem runFrom_checked (retries : Nat)
    (hattempts : progress.attempts.toNat + retries + 1 < UInt32.size)
    (hle : progress.framesAcknowledged ≤ client.plan.frames) :
    (Checked.runFrom client retries progress).run network =
      some (client.runFromOn retries progress network) := by
  induction retries generalizing progress network with
  | zero =>
    obtain ⟨next, result, after, hplain, hchecked, -, -⟩ :=
      advance_checked network hattempts hle
    rw [Checked.runFrom]
    refine (run_bind_some hchecked).trans ?_
    rw [runFromOn, runFrom, StateT.run_bind, hplain, pure_bind]
    rfl
  | succ retries ih =>
    obtain ⟨next, result, after, hplain, hchecked, hnext, hle⟩ :=
      advance_checked network (by omega) hle
    rw [Checked.runFrom]
    refine (run_bind_some hchecked).trans ?_
    rw [runFromOn, runFrom, StateT.run_bind, hplain, pure_bind]
    cases result with
    | ok report => rfl
    | error error =>
      dsimp only
      by_cases hretry : error.error.isRetryable = true
      · rw [if_pos hretry, if_pos hretry]
        refine (run_bind_some rfl).trans ?_
        exact ih (by omega) hle
      · rw [if_neg hretry, if_neg hretry]
        rfl

/-- Whatever the plan and the policy of a client, and whatever the network does, nothing that is
counted in a run leaves the range of a word, and no attempt confirms more frames than were left. -/
theorem run_withinRange (client : Client) (network : Network Stream) :
    (Checked.run client).run network = some (client.runOn network) := by
  -- Not even the greatest number of attempts leaves the range.
  have hretries := client.retries_lt
  have hattempts : ({} : Progress).attempts.toNat + client.retries + 1 < UInt32.size := by
    rw [show ({} : Progress).attempts.toNat = 0 from rfl]
    omega
  exact runFrom_checked client.retries hattempts (UInt32.le_iff_toNat_le.2 (Nat.zero_le _))

end Client

end TelemetryLink
