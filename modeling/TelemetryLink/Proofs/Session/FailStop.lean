import TelemetryLink.Proofs.Session.Failure
import TelemetryLink.Proofs.Session.Lifecycle

/-!
# Errors end a session

Whatever the stream does, an operation that fails leaves the session closed and its connection
released, with an error that names the exchange that failed. Nothing is done to the connection
after that.

- `Session.Stopped`: a session that has come to its end.
- `Operation.FailStop`: what is known about the operations that fail on a session.
- `Operation.failStop_performAll`: this is so for every session, after any operations.
-/

namespace TelemetryLink

/-- The error that an operation returns, if it fails. -/
def Operation.error? : Operation → Session Stream → Option SessionError
  | single call, session =>
    match ((call.step : SessionM Stream Id Receipt).on session).1 with
    | .ok _ => none
    | .error e => some e
  | run plan nonce record, session =>
    match ((Session.run plan nonce (fun i => pure (record i)) :
      SessionM Stream Id Report).on session).1 with
    | .ok _ => none
    | .error e => some e

/-- A session that has come to its end. -/
structure Session.Stopped (session : Session Stream) : Prop where
  /-- It is closed. -/
  closed : session.state = .closed
  /-- Its connection was released, once. -/
  released : session.held = false ∧ session.link.releaseCount = 1
  /-- It makes no exchange any more. -/
  refuses : ∀ call : Call, call ≠ .close → ∃ stage misuse,
    (Operation.single call).error? session = some ⟨stage, .invalidState misuse⟩
  /-- No operation changes it or does anything to its connection. -/
  frozen : ∀ operations, Operation.performAll operations session = session

/-- What is known about the operations that fail on a session. -/
structure Operation.FailStop (session : Session Stream) : Prop where
  /-- They end it. -/
  stops : ∀ (operation : Operation) (e : SessionError),
    operation.error? session = some e → (operation.perform session).Stopped
  /-- The error of a call names its exchange, and the counter stays as it was. -/
  calls : ∀ (call : Call) (e : SessionError), (single call).error? session = some e →
    call.stage? session = some e.stage ∧ (call.perform session).framesSent = session.framesSent
  /-- The error of a run is that of the first of its calls that fails. -/
  runs : ∀ (plan : Plan) (nonce : Nonce) (record : UInt32 → Record) (e : SessionError),
    (run plan nonce record).error? session = some e →
    ∃ before call rest receipts reached,
      Session.script session.state plan nonce record = before ++ call :: rest ∧
      (Call.sequence before : SessionM Stream Id (List Receipt)).on session =
        (.ok receipts, reached) ∧
      (single call).error? reached = some e ∧ call.stage? reached = some e.stage ∧
      (run plan nonce record).perform session = call.perform reached
  /-- An error about a data frame names the frame after those that were confirmed. -/
  frames : ∀ (operation : Operation) (e : SessionError) (k : UInt32),
    operation.error? session = some e → e.stage = .data k →
    let after := operation.perform session
    after.framesSent = k - 1 ∧
      ((Log.confirmed after.link.log).length < UInt32.size - 1 →
        k.toNat = (Log.confirmed after.link.log).length + 1)
  /-- A call that is wrong in the state of the session does nothing but end it. -/
  misuses : ∀ (call : Call) (misuse : Misuse), call.misuse? session = some misuse →
    (∃ stage, (single call).error? session = some ⟨stage, .invalidState misuse⟩) ∧
      ∃ events, Log.Silent events ∧ (call.perform session).link.log = session.link.log ++ events

namespace Operation

variable {session : Session Stream} {e : SessionError}

theorem error?_single_eq_some_iff {call : Call} :
    (single call).error? session = some e ↔
      (call.step : SessionM Stream Id Receipt).on session = (.error e, call.perform session) := by
  rw [error?, Call.perform]
  rcases (call.step : SessionM Stream Id Receipt).on session with ⟨_ | _, _⟩ <;> simp

theorem error?_of_step {call : Call} {after : Session Stream}
    (hstep : (call.step : SessionM Stream Id Receipt).on session = (.error e, after)) :
    (single call).error? session = some e := by
  rw [error?_single_eq_some_iff, Call.perform_of_step hstep, hstep]

theorem error?_run_eq_some_iff {plan : Plan} {nonce : Nonce} {record : UInt32 → Record} :
    (run plan nonce record).error? session = some e ↔
      (Session.run plan nonce (fun i => pure (record i)) : SessionM Stream Id Report).on session =
        (.error e, (run plan nonce record).perform session) := by
  rw [error?, perform]
  rcases (Session.run plan nonce (fun i => pure (record i)) :
    SessionM Stream Id Report).on session with ⟨_ | _, _⟩ <;> simp

end Operation

/-! ## Failing calls -/

namespace Call

variable {session after : Session Stream} {call : Call} {e : SessionError}

/-- A call that fails closes the session, and its error names its exchange. It counts nothing. -/
theorem Failure.stopped (h : Failure session call e after) :
    call.stage? session = some e.stage ∧ after.state = .closed ∧
      after.framesSent = session.framesSent := by
  cases h with
  | misused hstage =>
    exact ⟨hstage, Session.closed_state session, Session.closed_framesSent session⟩
  | failed hstage => exact ⟨hstage, Session.closed_state _, Session.closed_framesSent _⟩

/-- The number of a data frame is the one after the counter. -/
theorem framesSent_of_stage? {k : UInt32} (h : call.stage? session = some (.data k)) :
    session.framesSent + 1 = k := by
  cases call with
  | sendRecord record => exact Stage.data.inj (Option.some.inj h)
  | handshake nonce => cases h
  | ping => cases h
  | close => cases h

end Call

namespace Session.Accounts

variable {session after : Session Stream} {dialogue : Dialogue}

/-- An accounted session that is closed has come to its end. -/
theorem stopped (h : session.Accounts dialogue) (hstate : session.state = .closed) :
    session.Stopped := by
  have hheld := h.held_of_closed hstate
  refine ⟨hstate, ⟨hheld, ?_⟩, fun call hclose => ?_, fun operations => ?_⟩
  · rw [h.releaseCount_link, hheld]
    rfl
  · -- No call has a message to exchange in a closed session.
    obtain ⟨misuse, hmisuse⟩ :=
      (Call.message?_eq_none_iff hclose).1 (Call.message?_of_closed hstate call)
    obtain ⟨stage, -, hstep⟩ := Call.step_of_misuse hmisuse
    exact ⟨stage, misuse, Operation.error?_of_step hstep⟩
  · rw [Operation.performAll_eq]
    exact Call.performAll_of_closed hstate hheld _

/-- A call that fails ends the session. -/
theorem stopped_of_step (h : session.Accounts dialogue) {call : Call} {e : SessionError}
    (hstep : (call.step : SessionM Stream Id Receipt).on session = (.error e, after)) :
    after.Stopped := by
  obtain ⟨next, hafter⟩ := h.of_step hstep
  exact hafter.stopped (Call.failure h.held hstep).stopped.2.1

/-- A run that fails does so by a call of its script. -/
theorem call_of_run (h : session.Accounts dialogue) {plan : Plan} {nonce : Nonce}
    {record : UInt32 → Record} {e : SessionError}
    (herror : (Operation.run plan nonce record).error? session = some e) :
    ∃ before call rest receipts reached next,
      script session.state plan nonce record = before ++ call :: rest ∧
      (Call.sequence before : SessionM Stream Id (List Receipt)).on session =
        (.ok receipts, reached) ∧
      reached.Accounts next ∧
      (call.step : SessionM Stream Id Receipt).on reached =
        (.error e, (Operation.run plan nonce record).perform session) := by
  have hrun := Operation.error?_run_eq_some_iff.1 herror
  obtain ⟨before, call, rest, receipts, reached, hscript, hbefore, hstep⟩ :=
    Call.sequence_error (run_error hrun)
  obtain ⟨turns, hreached, -⟩ := h.sequence_ok hbefore
  exact ⟨before, call, rest, receipts, reached, _, hscript, hbefore, hreached, hstep⟩

/-- An operation that fails does so by a call. -/
theorem call_of_operation (h : session.Accounts dialogue) {operation : Operation}
    {e : SessionError} (herror : operation.error? session = some e) :
    ∃ (call : Call) (reached : Session Stream) (next : Dialogue), reached.Accounts next ∧
      (call.step : SessionM Stream Id Receipt).on reached =
        (.error e, operation.perform session) := by
  cases operation with
  | single call => exact ⟨call, session, dialogue, h, Operation.error?_single_eq_some_iff.1 herror⟩
  | run plan nonce record =>
    obtain ⟨_, call, _, _, reached, next, -, -, hreached, hstep⟩ := h.call_of_run herror
    exact ⟨call, reached, next, hreached, hstep⟩

/-- The number of a data frame that failed is the one after the frames that were confirmed. -/
theorem frame_of_step (h : session.Accounts dialogue) {call : Call} {e : SessionError}
    {k : UInt32} (hstage : e.stage = .data k)
    (hstep : (call.step : SessionM Stream Id Receipt).on session = (.error e, after)) :
    after.framesSent = k - 1 ∧
      ((Log.confirmed after.link.log).length < UInt32.size - 1 →
        k.toNat = (Log.confirmed after.link.log).length + 1) := by
  obtain ⟨hcall, -, hsame⟩ := (Call.failure h.held hstep).stopped
  rw [hstage] at hcall
  obtain ⟨next, hafter⟩ := h.of_step hstep
  -- The counter did not move, so that it can be read after the call as well as before.
  have hk : k = after.framesSent + 1 := by rw [hsame, Call.framesSent_of_stage? hcall]
  refine ⟨by rw [hk, UInt32.add_sub_cancel], fun hcount => ?_⟩
  rw [hk, hafter.framesSent_log, ← UInt32.ofNat_one, ← UInt32.ofNat_add,
    UInt32.toNat_ofNat_of_lt' (by omega)]

/-- On an accounted session every operation that fails stops it. -/
theorem failStop (h : session.Accounts dialogue) : Operation.FailStop session where
  stops operation e herror := by
    obtain ⟨call, reached, next, hreached, hstep⟩ := h.call_of_operation herror
    exact hreached.stopped_of_step hstep
  calls call e herror := by
    have hstep := Operation.error?_single_eq_some_iff.1 herror
    obtain ⟨hstage, -, hsame⟩ := (Call.failure h.held hstep).stopped
    exact ⟨hstage, hsame⟩
  runs plan nonce record e herror := by
    obtain ⟨before, call, rest, receipts, reached, next, hscript, hbefore, hreached, hstep⟩ :=
      h.call_of_run herror
    exact ⟨before, call, rest, receipts, reached, hscript, hbefore,
      Operation.error?_of_step hstep, (Call.failure hreached.held hstep).stopped.1,
      (Call.perform_of_step hstep).symm⟩
  frames operation e k herror hstage := by
    obtain ⟨call, reached, next, hreached, hstep⟩ := h.call_of_operation herror
    exact hreached.frame_of_step hstage hstep
  misuses call misuse hmisuse := by
    obtain ⟨stage, -, hstep⟩ := Call.step_of_misuse hmisuse
    refine ⟨⟨stage, Operation.error?_of_step hstep⟩, ?_⟩
    rw [Call.perform_of_step hstep]
    exact session.log_closed

end Session.Accounts

/-- After any operations on a new session, whatever the stream does, every operation that fails
ends the session for good, with an error that names the exchange that failed. -/
theorem Operation.failStop_performAll (credentials : Credentials) (reads : List ReadStep)
    (writes : List WriteStep) (flushes : List (Option Fault)) (operations : List Operation) :
    FailStop (performAll operations
      (Session.new (Stream.mk reads writes flushes []) credentials)) := by
  obtain ⟨-, dialogue, haccounts⟩ :=
    Session.Accounts.performAll_new credentials reads writes flushes operations
  exact haccounts.failStop

end TelemetryLink
