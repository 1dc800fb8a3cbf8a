import TelemetryLink.Proofs.Session.Call

/-!
# Runs as calls

`Session.run` is the primitive operations in a fixed order, and an operation on a session is one of
them or a run. This module resolves both into calls.

- `Session.run_on`: a run is the sequence of its `script`, and its report is read off what the calls
  return.
- `Operation.performAll_eq`: after any operations a session is what the calls that they made,
  listed by `Operation.callsOf`, leave of it.
-/

namespace TelemetryLink

/-- The report after one more call. -/
def Report.add (report : Report) : Receipt → Report
  | .done => report
  | .ping outcome => { report with ping := some outcome }
  | .data code => report.confirm code

/-- The code of a confirmation that does not name data. -/
def Receipt.unexpectedCode? : Receipt → Option UInt8
  | .data code => if code = .data then none else some code.toByte
  | _ => none

theorem Report.unexpectedAckCodes_add (report : Report) (receipt : Receipt) :
    (report.add receipt).unexpectedAckCodes =
      report.unexpectedAckCodes ++ receipt.unexpectedCode?.toList := by
  cases receipt with
  | done => simp [add, Receipt.unexpectedCode?]
  | ping outcome => simp [add, Receipt.unexpectedCode?]
  | data code =>
    rw [add, confirm, Receipt.unexpectedCode?]
    split
    · exact (List.append_nil _).symm
    · rfl

/-- The report lists the unexpected codes of the calls in order. -/
theorem Report.unexpectedAckCodes_foldl (report : Report) (receipts : List Receipt) :
    (receipts.foldl add report).unexpectedAckCodes =
      report.unexpectedAckCodes ++ receipts.filterMap Receipt.unexpectedCode? := by
  induction receipts generalizing report with
  | nil => simp
  | cons receipt receipts ih =>
    rw [List.foldl_cons, ih, unexpectedAckCodes_add]
    cases hcode : receipt.unexpectedCode? with
    | none => simp [hcode]
    | some code => simp [hcode]

/-- Confirmations add up in the report, and it keeps the codes that do not name data. -/
theorem Report.foldl_add_codes (report : Report) (codes : List AckCode) :
    (codes.map Receipt.data).foldl add report =
      { report with
        framesAcknowledged := report.framesAcknowledged + .ofNat codes.length
        unexpectedAckCodes := report.unexpectedAckCodes ++
          (codes.filter (· ≠ .data)).map AckCode.toByte } := by
  induction codes generalizing report with
  | nil => simp
  | cons code codes ih =>
    have hcount : report.framesAcknowledged + 1 + UInt32.ofNat codes.length =
        report.framesAcknowledged + UInt32.ofNat (codes.length + 1) := by
      rw [UInt32.ofNat_add, UInt32.add_assoc, UInt32.add_comm 1]
      rfl
    rw [List.map_cons, List.foldl_cons, ih, List.length_cons, ← hcount, add, confirm]
    by_cases hcode : code = .data
    · simp [hcode]
    · simp [hcode]

/-- The calls of a run: the handshake if the session was not used yet, the ping if the plan has
one, the data frames, and the end. -/
def Session.script (state : SessionState) (plan : Plan) (nonce : Nonce)
    (record : UInt32 → Record) : List Call :=
  (if state = .connecting then [.handshake nonce] else []) ++
    ((if plan.ping then [.ping] else []) ++
      ((List.range plan.frames.toNat).map (fun i => .sendRecord (record (.ofNat i))) ++
        [.close]))

namespace Call

open SessionM

variable {σ : Type} [Link σ Id]

theorem sequence_nil_on (session : Session σ) :
    (sequence [] : SessionM σ Id (List Receipt)).on session = (.ok [], session) := rfl

theorem sequence_cons_on (call : Call) (calls : List Call) (session : Session σ) :
    (sequence (call :: calls)).on session = match call.step.on session with
      | (.ok receipt, session) => match (sequence calls).on session with
        | (.ok receipts, session) => (.ok (receipt :: receipts), session)
        | (.error e, session) => (.error e, session)
      | (.error e, session) => (.error e, session) := by
  rw [sequence, on_bind]
  rcases call.step.on session with ⟨_ | receipt, session⟩
  · rfl
  · dsimp only
    rw [on_bind]
    rcases (sequence calls).on session with ⟨_ | receipts, session⟩
    · rfl
    · rfl

/-- A sequence succeeds by its first call and by the others. -/
theorem sequence_cons_ok {call : Call} {calls : List Call} {session after : Session σ}
    {receipts : List Receipt}
    (h : (sequence (call :: calls) : SessionM σ Id (List Receipt)).on session =
      (.ok receipts, after)) :
    ∃ receipt rest next, (call.step : SessionM σ Id Receipt).on session = (.ok receipt, next) ∧
      (sequence calls : SessionM σ Id (List Receipt)).on next = (.ok rest, after) ∧
      receipts = receipt :: rest := by
  rw [sequence_cons_on] at h
  rcases hstep : (call.step : SessionM σ Id Receipt).on session with ⟨_ | receipt, next⟩
  · rw [hstep] at h
    cases h
  · rw [hstep] at h
    dsimp only at h
    rcases hrest : (sequence calls : SessionM σ Id (List Receipt)).on next with ⟨_ | rest, last⟩
    · rw [hrest] at h
      cases h
    · rw [hrest] at h
      cases h
      exact ⟨receipt, rest, next, rfl, hrest, rfl⟩

/-- A sequence fails by its first call or by the others. -/
theorem sequence_cons_error {call : Call} {calls : List Call} {session after : Session σ}
    {e : SessionError}
    (h : (sequence (call :: calls) : SessionM σ Id (List Receipt)).on session =
      (.error e, after)) :
    (call.step : SessionM σ Id Receipt).on session = (.error e, after) ∨
      ∃ receipt next, (call.step : SessionM σ Id Receipt).on session = (.ok receipt, next) ∧
        (sequence calls : SessionM σ Id (List Receipt)).on next = (.error e, after) := by
  rw [sequence_cons_on] at h
  rcases hstep : (call.step : SessionM σ Id Receipt).on session with ⟨_ | receipt, next⟩
  · rw [hstep] at h
    cases h
    exact .inl rfl
  · rw [hstep] at h
    dsimp only at h
    rcases hrest : (sequence calls : SessionM σ Id (List Receipt)).on next with ⟨_ | rest, last⟩
    · rw [hrest] at h
      cases h
      exact .inr ⟨receipt, next, rfl, hrest⟩
    · rw [hrest] at h
      cases h

/-- A sequence fails by one of its calls, after those before it succeeded. -/
theorem sequence_error {calls : List Call} {session after : Session σ} {e : SessionError}
    (h : (sequence calls : SessionM σ Id (List Receipt)).on session = (.error e, after)) :
    ∃ before call rest receipts reached, calls = before ++ call :: rest ∧
      (sequence before : SessionM σ Id (List Receipt)).on session = (.ok receipts, reached) ∧
      (call.step : SessionM σ Id Receipt).on reached = (.error e, after) := by
  induction calls generalizing session with
  | nil => cases h
  | cons call calls ih =>
    rcases sequence_cons_error h with hstep | ⟨receipt, next, hstep, hrest⟩
    · exact ⟨[], call, calls, [], session, rfl, rfl, hstep⟩
    · obtain ⟨before, failed, rest, receipts, reached, rfl, hbefore, hfailed⟩ := ih hrest
      refine ⟨call :: before, failed, rest, receipt :: receipts, reached, rfl, ?_, hfailed⟩
      rw [sequence_cons_on, hstep]
      dsimp only
      rw [hbefore]

theorem sequence_append_on (calls rest : List Call) (session : Session σ) :
    (sequence (calls ++ rest)).on session = match (sequence calls).on session with
      | (.ok receipts, session) => match (sequence rest).on session with
        | (.ok more, session) => (.ok (receipts ++ more), session)
        | (.error e, session) => (.error e, session)
      | (.error e, session) => (.error e, session) := by
  induction calls generalizing session with
  | nil =>
    rw [List.nil_append, sequence_nil_on]
    dsimp only
    rcases (sequence rest).on session with ⟨_ | more, session⟩
    · rfl
    · rfl
  | cons call calls ih =>
    rw [List.cons_append, sequence_cons_on, sequence_cons_on]
    rcases call.step.on session with ⟨_ | receipt, session⟩
    · rfl
    · dsimp only
      rw [ih]
      rcases (sequence calls).on session with ⟨_ | receipts, session⟩
      · rfl
      · dsimp only
        rcases (sequence rest).on session with ⟨_ | more, session⟩
        · rfl
        · rfl

/-- A sequence whose first call fails fails with it. -/
theorem sequence_cons_of_error {call : Call} (calls : List Call) {session after : Session σ}
    {e : SessionError}
    (h : (call.step : SessionM σ Id Receipt).on session = (.error e, after)) :
    (sequence (call :: calls) : SessionM σ Id (List Receipt)).on session = (.error e, after) := by
  rw [sequence_cons_on, h]

/-- After calls that succeed a sequence goes on with the others. -/
theorem sequence_append_of_ok {calls : List Call} (rest : List Call) {session next : Session σ}
    {receipts : List Receipt}
    (h : (sequence calls : SessionM σ Id (List Receipt)).on session = (.ok receipts, next)) :
    (sequence (calls ++ rest)).on session = match (sequence rest).on next with
      | (.ok more, session) => (.ok (receipts ++ more), session)
      | (.error e, session) => (.error e, session) := by
  rw [sequence_append_on, h]

/-- After calls that fail it does not. -/
theorem sequence_append_of_error {calls : List Call} (rest : List Call) {session after : Session σ}
    {e : SessionError}
    (h : (sequence calls : SessionM σ Id (List Receipt)).on session = (.error e, after)) :
    (sequence (calls ++ rest) : SessionM σ Id (List Receipt)).on session = (.error e, after) := by
  rw [sequence_append_on, h]

/-- The calls of a sequence that are made: those up to the first that fails, and that one. -/
def made : List Call → Session σ → List Call
  | [], _ => []
  | call :: calls, session => match (call.step : SessionM σ Id Receipt).on session with
    | (.ok _, session) => call :: made calls session
    | (.error _, _) => [call]

/-- A sequence does what its calls do that are made. -/
theorem sequence_perform (calls : List Call) (session : Session Stream) :
    ((sequence calls : SessionM Stream Id (List Receipt)).on session).2 =
      performAll (made calls session) session := by
  induction calls generalizing session with
  | nil => rfl
  | cons call calls ih =>
    rw [sequence_cons_on, made]
    rcases hstep : (call.step : SessionM Stream Id Receipt).on session with ⟨_ | receipt, next⟩
    · have hperform := perform_of_step hstep
      exact hperform.symm
    · have hperform := perform_of_step hstep
      dsimp only
      rw [performAll, List.foldl_cons, hperform, ← performAll, ← ih]
      rcases (sequence calls : SessionM Stream Id (List Receipt)).on next with ⟨_ | receipts, last⟩
      · rfl
      · rfl

end Call

namespace Session

open SessionM

variable {σ : Type} [Link σ Id] (record : UInt32 → Record)

/-- The data frames of a run are one call each. The report grows by their receipts. -/
theorem sendRecords_on (interval : Duration) (n start : Nat) (report : Report)
    (session : Session σ) :
    (sendRecords interval (fun i => pure (record i)) n (.ofNat start) report :
        SessionM σ Id Report).on session =
      match (Call.sequence ((List.range' start n).map
          fun i => .sendRecord (record (.ofNat i)))).on session with
      | (.ok receipts, session) => (.ok (receipts.foldl Report.add report), session)
      | (.error e, session) => (.error e, session) := by
  induction n generalizing start report session with
  | zero => rfl
  | succ n ih =>
    have hnext : UInt32.ofNat start + 1 = UInt32.ofNat (start + 1) :=
      (UInt32.ofNat_add start 1).symm
    rw [sendRecords, on_bind, on_ofOutside, List.range'_succ, List.map_cons,
      Call.sequence_cons_on, Call.step]
    dsimp only [Id.run_pure]
    rw [on_bind, on_bind]
    rcases (sendRecord (record (.ofNat start)) : SessionM σ Id AckCode).on session with
      ⟨_ | code, session⟩
    · rfl
    · dsimp only
      rw [hnext, on_pure]
      -- The pause between two frames leaves the session as it is.
      have hpause : ∀ rest : SessionM σ Id Report,
          (if n ≠ 0 ∧ interval ≠ .zero then do ofOutside (Link.pause σ interval); rest
            else rest).on session = rest.on session := by
        intro rest
        split
        · rw [on_bind, on_ofOutside]
        · rfl
      refine (hpause _).trans ?_
      rw [ih]
      dsimp only
      rcases (Call.sequence ((List.range' (start + 1) n).map
          fun i => .sendRecord (record (.ofNat i)))).on session with ⟨_ | receipts, session⟩
      · rfl
      · rfl

/-- The end of a run: the data frames, and the end of the session. -/
private theorem finish_on (plan : Plan) (report : Report) (session : Session σ) :
    (do let report ← sendRecords plan.interval (fun i => pure (record i)) plan.frames.toNat 0 report
        close
        return report : SessionM σ Id Report).on session =
      match (Call.sequence ((List.range plan.frames.toNat).map
          (fun i => .sendRecord (record (.ofNat i))) ++ [.close])).on session with
      | (.ok receipts, session) => (.ok (receipts.foldl Report.add report), session)
      | (.error e, session) => (.error e, session) := by
  have hsend := sendRecords_on record plan.interval plan.frames.toNat 0 report session
  rw [on_bind, show (0 : UInt32) = .ofNat 0 from rfl, hsend, List.range_eq_range',
    Call.sequence_append_on]
  rcases (Call.sequence ((List.range' 0 plan.frames.toNat).map
      fun i => .sendRecord (record (.ofNat i)))).on session with ⟨_ | receipts, session⟩
  · rfl
  · dsimp only
    rw [on_bind, close_on, Call.sequence_cons_on, Call.step, on_bind, close_on]
    dsimp only [on_pure, Call.sequence_nil_on]
    rw [List.foldl_append]
    rfl

/-- A run from the ping on. -/
private theorem pingAndFinish_on (plan : Plan) (session : Session σ) :
    (do let outcome ← if plan.ping then some <$> ping else pure none
        let report ← sendRecords plan.interval (fun i => pure (record i)) plan.frames.toNat 0
          { ping := outcome }
        close
        return report : SessionM σ Id Report).on session =
      match (Call.sequence ((if plan.ping then [.ping] else []) ++
          ((List.range plan.frames.toNat).map (fun i => .sendRecord (record (.ofNat i))) ++
            [.close]))).on session with
      | (.ok receipts, session) => (.ok (receipts.foldl Report.add {}), session)
      | (.error e, session) => (.error e, session) := by
  dsimp only
  cases plan.ping with
  | false =>
    rw [if_neg (by simp), if_neg (by simp), on_bind, on_pure]
    exact finish_on record plan {} session
  | true =>
    rw [if_pos rfl, if_pos rfl, on_bind, on_map, List.singleton_append, Call.sequence_cons_on,
      Call.step, on_bind]
    rcases (ping : SessionM σ Id PingOutcome).on session with ⟨_ | outcome, session⟩
    · rfl
    · dsimp only [on_pure, Except.map]
      rw [finish_on]
      rcases (Call.sequence _).on session with ⟨_ | receipts, session⟩
      · rfl
      · rfl

/-- A run is the calls of its script, one after another up to the first that fails. Its report is
read off what they return. -/
theorem run_on (plan : Plan) (nonce : Nonce) (session : Session σ) :
    (run plan nonce (fun i => pure (record i)) : SessionM σ Id Report).on session =
      match (Call.sequence (script session.state plan nonce record)).on session with
      | (.ok receipts, session) => (.ok (receipts.foldl Report.add {}), session)
      | (.error e, session) => (.error e, session) := by
  rw [run, on_bind, on_get, script]
  dsimp only
  by_cases hstate : session.state = .connecting
  · rw [if_pos hstate, if_pos hstate, List.singleton_append, Call.sequence_cons_on, Call.step,
      on_bind, on_bind]
    rcases (handshake nonce : SessionM σ Id Unit).on session with ⟨_ | _, session⟩
    · rfl
    · dsimp only [on_pure]
      refine (pingAndFinish_on record plan session).trans ?_
      rcases (Call.sequence _).on session with ⟨_ | receipts, session⟩
      · rfl
      · rfl
  · rw [if_neg hstate, if_neg hstate, List.nil_append]
    exact pingAndFinish_on record plan session

variable {record}

theorem run_ok {plan : Plan} {nonce : Nonce} {session ended : Session σ} {report : Report}
    (h : (run plan nonce (fun i => pure (record i)) : SessionM σ Id Report).on session =
      (.ok report, ended)) :
    ∃ receipts, (Call.sequence (script session.state plan nonce record)).on session =
        (.ok receipts, ended) ∧ report = receipts.foldl Report.add {} := by
  rw [run_on] at h
  rcases hsequence : (Call.sequence (script session.state plan nonce record)).on session with
    ⟨_ | receipts, last⟩
  · rw [hsequence] at h
    cases h
  · rw [hsequence] at h
    cases h
    exact ⟨receipts, rfl, rfl⟩

theorem run_error {plan : Plan} {nonce : Nonce} {session ended : Session σ} {e : SessionError}
    (h : (run plan nonce (fun i => pure (record i)) : SessionM σ Id Report).on session =
      (.error e, ended)) :
    (Call.sequence (script session.state plan nonce record)).on session = (.error e, ended) := by
  rw [run_on] at h
  rcases hsequence : (Call.sequence (script session.state plan nonce record)).on session with
    ⟨_ | receipts, last⟩
  · rw [hsequence] at h
    cases h
    rfl
  · rw [hsequence] at h
    cases h

end Session

/-! ## Operations -/

/-- An operation on a session. -/
inductive Operation where
  /-- One of the primitive operations. -/
  | single (call : Call)
  /-- A run, which makes its records from their indices. -/
  | run (plan : Plan) (nonce : Nonce) (record : UInt32 → Record)

namespace Operation

/-- The session after an operation. -/
def perform : Operation → Session Stream → Session Stream
  | single call, session => call.perform session
  | run plan nonce record, session =>
    ((Session.run plan nonce (fun i => pure (record i)) : SessionM Stream Id Report).on session).2

/-- The session after operations one after another, whether they succeed or not. -/
def performAll (operations : List Operation) (session : Session Stream) : Session Stream :=
  operations.foldl (fun session operation => operation.perform session) session

/-- The calls that an operation makes. -/
def calls : Operation → Session Stream → List Call
  | single call, _ => [call]
  | run plan nonce record, session =>
    Call.made (Session.script session.state plan nonce record) session

/-- The calls that operations make one after another. -/
def callsOf : List Operation → Session Stream → List Call
  | [], _ => []
  | operation :: operations, session =>
    operation.calls session ++ callsOf operations (operation.perform session)

theorem perform_eq (operation : Operation) (session : Session Stream) :
    operation.perform session = Call.performAll (operation.calls session) session := by
  cases operation with
  | single call => rfl
  | run plan nonce record =>
    rw [perform, Session.run_on, calls, ← Call.sequence_perform]
    rcases (Call.sequence _).on session with ⟨_ | receipts, session⟩
    · rfl
    · rfl

/-- Operations do what the calls do that they make. -/
theorem performAll_eq (operations : List Operation) (session : Session Stream) :
    performAll operations session = Call.performAll (callsOf operations session) session := by
  induction operations generalizing session with
  | nil => rfl
  | cons operation operations ih =>
    have hrest := ih (operation.perform session)
    rw [callsOf, Call.performAll, List.foldl_append, ← Call.performAll, ← Call.performAll,
      ← perform_eq, ← hrest]
    rfl

end Operation

end TelemetryLink
