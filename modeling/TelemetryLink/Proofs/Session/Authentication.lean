import TelemetryLink.Proofs.Session.Lifecycle
import TelemetryLink.Proofs.Session.Run

/-!
# What the success of a run says

A run succeeds on an open session only after the collector accepted a handshake. On a closed session
a run fails, unless its plan asks for nothing: no step of such a run looks at the state of the
session, so that the run succeeds whatever became of the session before.

- `Session.run_of_closed`: what a run does to a closed session.
- `Operation.run_authenticated`: what the success of a run says, after any operations.
- `Operation.run_after_rejection`: a run that succeeds although the handshake was rejected.
-/

namespace TelemetryLink

/-- Whether a plan asks for nothing between the handshake and the end. -/
def Plan.Empty (plan : Plan) : Prop := plan.ping = false ∧ plan.frames = 0

namespace Session

variable {session ended : Session Stream} {plan : Plan} {nonce : Nonce}
  {record : UInt32 → Record}

/-! ## Closed sessions -/

/-- A run without a plan does nothing to a closed session, and succeeds. -/
theorem run_of_closed_of_empty (hstate : session.state = .closed) (hheld : session.held = false)
    (hempty : plan.Empty) :
    (run plan nonce (fun i => pure (record i)) : SessionM Stream Id Report).on session =
      (.ok {}, session) := by
  have hscript : script .closed plan nonce record = [.close] := by
    simp [script, hempty.1, hempty.2]
  rw [run_on, hstate, hscript, Call.sequence_cons_on, Call.step, SessionM.on_bind, close_on,
    closed_eq_self hheld hstate]
  rfl

/-- A plan that asks for something asks for a ping or a data frame first. -/
private theorem script_closed (nonce : Nonce) (record : UInt32 → Record) (hplan : ¬ plan.Empty) :
    ∃ call calls, script .closed plan nonce record = call :: calls ∧
      (call = .ping ∨ ∃ first, call = .sendRecord first) := by
  by_cases hping : plan.ping = true
  · refine ⟨.ping, (plan.records record).map Call.sendRecord ++ [.close], ?_, .inl rfl⟩
    rw [script_eq, preamble, if_neg (by decide), if_pos hping]
    rfl
  · have hframes : plan.frames.toNat ≠ 0 := fun hzero =>
      hplan ⟨by simpa using hping, UInt32.toNat_inj.1 hzero⟩
    have hlength := plan.length_records record
    obtain ⟨first, others, hrecords⟩ : ∃ first others, plan.records record = first :: others :=
      List.exists_cons_of_length_pos (by omega)
    refine ⟨.sendRecord first, others.map Call.sendRecord ++ [.close], ?_, .inr ⟨first, rfl⟩⟩
    rw [script_eq, preamble, if_neg (by decide), if_neg hping, hrecords]
    rfl

/-- A run with a plan fails on a closed session with its first message, and does nothing to it. -/
theorem run_of_closed (hstate : session.state = .closed) (hheld : session.held = false)
    (hplan : ¬ plan.Empty) :
    ∃ stage, (run plan nonce (fun i => pure (record i)) : SessionM Stream Id Report).on session =
      (.error ⟨stage, .invalidState (.wrongState stage .idle .closed)⟩, session) := by
  have hclosed : session.closed = session := closed_eq_self hheld hstate
  obtain ⟨call, calls, hscript, hcall⟩ := script_closed nonce record hplan
  obtain ⟨stage, hstage, hmisuse⟩ : ∃ stage, call.stage? session = some stage ∧
      call.misuse? session = some (.wrongState stage .idle .closed) := by
    rcases hcall with rfl | ⟨first, rfl⟩
    · exact ⟨.ping, rfl, by simp [Call.misuse?, hstate]⟩
    · exact ⟨.data (session.framesSent + 1), rfl, by simp [Call.misuse?, hstate]⟩
  obtain ⟨stage', hstage', hstep⟩ := Call.step_of_misuse hmisuse
  cases hstage.symm.trans hstage'
  refine ⟨stage, ?_⟩
  rw [run_on, hstate, hscript, Call.sequence_cons_of_error _ hstep, hclosed]

/-! ## Open sessions -/

/-- A run that succeeds on an open session leaves it with an accepted handshake in the log. -/
theorem Accounts.handshake_of_run {dialogue : Dialogue} (h : session.Accounts dialogue)
    (hstate : session.state ≠ .closed) {report : Report}
    (hrun : (run plan nonce (fun i => pure (record i)) : SessionM Stream Id Report).on session =
      (.ok report, ended)) :
    ∃ nonce, (Message.handshake nonce).exchanged session.credentials [0x01] <+:
      ended.link.log := by
  obtain ⟨receipts, hsequence, -⟩ := run_ok hrun
  obtain ⟨turns, hended, hcredentials, hmessages, -⟩ := h.sequence_ok hsequence
  rw [← hcredentials]
  refine hended.handshake_prefix ?_
  rcases h.phase with ⟨hconnecting, -⟩ | ⟨-, hturns, -⟩ | hclosed
  · -- The handshake of the run was answered.
    rw [hconnecting, script, if_pos rfl] at hmessages
    have hne : turns ≠ [] := by
      rintro rfl
      cases hmessages
    exact fun hnil => hne (List.append_eq_nil_iff.1 hnil).2
  · exact fun hnil => hturns (List.append_eq_nil_iff.1 hnil).1
  · exact absurd hclosed hstate

end Session

/-! ## After any operations -/

namespace Operation

/-- After any operations on a new session, whatever the stream does: a run that succeeds on a
session that is not closed leaves in the log a handshake that was written as a whole and accepted,
and a run on a closed session fails, except with a plan that asks for nothing. -/
theorem run_authenticated (credentials : Credentials) (reads : List ReadStep)
    (writes : List WriteStep) (flushes : List (Option Fault)) (operations : List Operation)
    (plan : Plan) (nonce : Nonce) (record : UInt32 → Record) :
    let session := performAll operations
      (Session.new (Stream.mk reads writes flushes []) credentials)
    let outcome := (Session.run plan nonce (fun i => pure (record i)) :
      SessionM Stream Id Report).on session
    (session.state ≠ .closed → ∀ report, outcome.1 = .ok report → ∃ nonce,
      (Message.handshake nonce).exchanged credentials [0x01] <+: outcome.2.link.log) ∧
    (session.state = .closed → ¬ plan.Empty → ∃ stage,
      outcome = (.error ⟨stage, .invalidState (.wrongState stage .idle .closed)⟩, session)) ∧
    (session.state = .closed → plan.Empty → outcome = (.ok {}, session)) := by
  intro session outcome
  obtain ⟨hcredentials, dialogue, haccounts⟩ :=
    Session.Accounts.performAll_new credentials reads writes flushes operations
  refine ⟨fun hstate report hok => ?_, fun hstate hplan => ?_, fun hstate hempty => ?_⟩
  · have hrun : outcome = (.ok report, outcome.2) := Prod.ext hok rfl
    have hlog := haccounts.handshake_of_run hstate hrun
    rwa [hcredentials] at hlog
  · exact Session.run_of_closed hstate (haccounts.held_of_closed hstate) hplan
  · exact Session.run_of_closed_of_empty hstate (haccounts.held_of_closed hstate) hempty

/-- The collector rejected the handshake, so that the session is closed and was never
authenticated. A run without a ping and without data frames succeeds on it. -/
theorem run_after_rejection :
    let device : DeviceId := ⟨⟨[1, 2, 3, 4, 5, 6], rfl⟩⟩
    let credentials : Credentials := { key := ⟨[107], by decide⟩, deviceId := device }
    let nonce : Nonce := ⟨[0, 0, 0, 0, 0, 0, 0, 1], rfl⟩
    let session := performAll [.single (.handshake nonce)]
      (Session.new (Stream.mk [.chunk [0xFF]] [] [] []) credentials)
    let outcome := (Session.run { frames := 0 } nonce
        (fun _ => pure ⟨5, 0, 0, 0, 0, 0, 0, 0, 0, 7, device⟩) :
      SessionM Stream Id Report).on session
    session.state = .closed ∧ outcome.1 = .ok {} ∧ outcome.2.link.received = [0xFF] :=
  ⟨by decide +kernel, by decide +kernel, by decide +kernel⟩

end Operation

end TelemetryLink
