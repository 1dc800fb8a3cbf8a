import TelemetryLink.Proofs.Session.Dialogue

/-!
# Runs of new sessions

A run sends the records of its plan in order. On a new session it comes as far as the plan goes if
it succeeds, `Session.new_run_ok`, and falls short of that if it fails, `Session.new_run_error`; of
the records that were begun at most the last is then not confirmed.
-/

namespace TelemetryLink

/-- The record of a call that sends one. -/
def Call.record? (call : Call) : Option Record := call.message.bind Message.record?

/-- The records of a plan. -/
def Plan.records (plan : Plan) (record : UInt32 → Record) : List Record :=
  (List.range plan.frames.toNat).map fun i => record (.ofNat i)

theorem Plan.length_records (plan : Plan) (record : UInt32 → Record) :
    (plan.records record).length = plan.frames.toNat := by
  simp [records]

theorem Call.filterMap_record? (calls : List Call) :
    (calls.filterMap message).filterMap Message.record? = calls.filterMap record? :=
  List.filterMap_filterMap

namespace Session

variable (state : SessionState) (plan : Plan) (nonce : Nonce) (record : UInt32 → Record)

/-- The calls before the first record. -/
def preamble : List Call :=
  (if state = .connecting then [.handshake nonce] else []) ++ (if plan.ping then [.ping] else [])

theorem script_eq : script state plan nonce record =
    preamble state plan nonce ++
      ((plan.records record).map Call.sendRecord ++ [.close]) := by
  rw [script, preamble, Plan.records, List.map_map, List.append_assoc]
  rfl

private theorem preamble_records : (preamble state plan nonce).filterMap Call.record? = [] := by
  rw [preamble]
  by_cases hstate : state = .connecting
  · by_cases hping : plan.ping = true
    · simp [hstate, hping, Call.record?, Call.message, Message.record?]
    · simp [hstate, hping, Call.record?, Call.message, Message.record?]
  · by_cases hping : plan.ping = true
    · simp [hstate, hping, Call.record?, Call.message, Message.record?]
    · simp [hstate, hping]

/-- The records of a script are those of the plan. -/
theorem script_records :
    (script state plan nonce record).filterMap Call.record? = plan.records record := by
  have hsends : ((plan.records record).map Call.sendRecord).filterMap Call.record? =
      plan.records record := by
    rw [List.filterMap_map]
    exact List.filterMap_some
  rw [script_eq, List.filterMap_append, List.filterMap_append, preamble_records, hsends]
  simp [Call.record?, Call.message]

/-- Once a record was sent, every call of the script but the last sends one. -/
theorem script_split {before rest : List Call} {call : Call}
    (hscript : script state plan nonce record = before ++ call :: rest) (hclose : call ≠ .close) :
    before.filterMap Call.record? = [] ∨ ∃ r, call.record? = some r := by
  rw [script_eq] at hscript
  rcases List.append_eq_append_iff.1 hscript with ⟨sent, rfl, hrest⟩ | ⟨more, hpreamble, hrest⟩
  · -- The call stands among the records and the end.
    right
    have hmem : call ∈ (plan.records record).map Call.sendRecord ++ [.close] := by
      rw [hrest]
      simp
    rcases List.mem_append.1 hmem with hmem | hmem
    · obtain ⟨r, -, rfl⟩ := List.mem_map.1 hmem
      exact ⟨r, rfl⟩
    · exact absurd (List.mem_singleton.1 hmem) hclose
  · -- The call stands before the records.
    left
    have hnone := preamble_records state plan nonce
    rw [hpreamble, List.filterMap_append] at hnone
    exact (List.append_eq_nil_iff.1 hnone).1

variable {plan nonce record} {link : Stream} {credentials : Credentials} {ended : Session Stream}

/-- A run that succeeds on a new session sent all records, and all were confirmed. -/
theorem new_run_ok (hlink : link.log = []) {report : Report}
    (hrun : (run plan nonce (fun i => pure (record i)) : SessionM Stream Id Report).on
      (Session.new link credentials) = (.ok report, ended)) :
    ∃ dialogue, ended.Accounts dialogue ∧
      dialogue.answered.filterMap Message.record? = plan.records record ∧
      dialogue.messages.filterMap Message.record? = plan.records record ∧
      report.unexpectedAckCodes =
        dialogue.turns.filterMap fun turn => turn.code?.filter (· ≠ 0x01) := by
  obtain ⟨receipts, hsequence, rfl⟩ := run_ok hrun
  obtain ⟨turns, hafter, -, hmessages, hcodes⟩ :=
    (Accounts.new link credentials hlink).sequence_ok hsequence
  have hrecords : (turns.map Turn.message).filterMap Message.record? = plan.records record := by
    rw [hmessages, Call.filterMap_record?]
    exact script_records .connecting plan nonce record
  refine ⟨_, hafter, hrecords, ?_, ?_⟩
  · rw [Dialogue.messages_eq rfl]
    exact hrecords
  · rw [Report.unexpectedAckCodes_foldl, hcodes]
    rfl

/-- A run that fails on a new session falls short of its plan. The records begun are the first ones,
and of these at most the last is not confirmed. -/
theorem new_run_error (hlink : link.log = []) {e : SessionError}
    (hrun : (run plan nonce (fun i => pure (record i)) : SessionM Stream Id Report).on
      (Session.new link credentials) = (.error e, ended)) :
    ∃ dialogue n m, ended.Accounts dialogue ∧
      dialogue.answered.filterMap Message.record? = (plan.records record).take n ∧
      dialogue.messages.filterMap Message.record? = (plan.records record).take m ∧
      n ≤ m ∧ m ≤ n + 1 ∧ m ≤ plan.frames.toNat ∧
      (0 < plan.frames.toNat → n < plan.frames.toNat) := by
  obtain ⟨before, call, rest, turns, broken, hscript, hclose, -, -, hmessages, hafter, hbroken⟩ :=
    (Accounts.new link credentials hlink).sequence_error (run_error hrun)
  have hscript : script .connecting plan nonce record = before ++ call :: rest := hscript
  have hrecords : before.filterMap Call.record? ++
      (call.record?.toList ++ rest.filterMap Call.record?) = plan.records record := by
    rw [← script_records .connecting plan nonce record, hscript, List.filterMap_append,
      List.filterMap_cons]
    cases call.record? <;> rfl
  -- The records before the call that failed, its own and those after it make up the plan.
  have hlength := congrArg List.length hrecords
  rw [List.length_append, List.length_append, plan.length_records] at hlength
  have hanswered : (turns.map Turn.message).filterMap Message.record? =
      before.filterMap Call.record? := by
    rw [hmessages, Call.filterMap_record?]
  -- The message that broke off, if there is one, is that of the call that failed.
  obtain ⟨last, hlast, hlead⟩ : ∃ last,
      (broken.map Prod.fst).toList.filterMap Message.record? = last ∧
      last <+: call.record?.toList := by
    rcases hbroken with rfl | ⟨-, hmessage⟩
    · exact ⟨[], rfl, List.nil_prefix⟩
    · refine ⟨_, rfl, ?_⟩
      rw [hmessage, Call.record?]
      cases call <;> exact List.prefix_rfl
  have hbegun : before.filterMap Call.record? ++ last <+: plan.records record := by
    rw [← hrecords]
    exact (List.prefix_append_right_inj _).2 (hlead.trans (List.prefix_append _ _))
  have hsize : last.length ≤ call.record?.toList.length := hlead.length_le
  have hone : call.record?.toList.length ≤ 1 := by cases call.record? <;> simp
  refine ⟨_, (before.filterMap Call.record?).length,
    (before.filterMap Call.record? ++ last).length, hafter, ?_, ?_, ?_, ?_, ?_, ?_⟩
  · refine hanswered.trans (List.prefix_iff_eq_take.1 ?_)
    exact (List.prefix_append _ _).trans hbegun
  · rw [← List.prefix_iff_eq_take.1 hbegun, Dialogue.messages, List.filterMap_append, hlast]
    exact congrArg (· ++ last) hanswered
  · simp
  · rw [List.length_append]
    omega
  · rw [List.length_append]
    omega
  · intro hpos
    rcases script_split .connecting plan nonce record hscript hclose with hnil | ⟨r, hr⟩
    · simpa [hnil] using hpos
    · rw [hr] at hlength
      simp only [Option.toList_some, List.length_singleton] at hlength
      omega

end Session

end TelemetryLink
