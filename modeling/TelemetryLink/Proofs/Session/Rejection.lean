import TelemetryLink.Proofs.Session.Authentication
import TelemetryLink.Proofs.Session.Failure
import TelemetryLink.Retry

/-!
# The octet that answers the handshake

The collector answers a handshake with one octet, `Log.verdict?`. A run of a new session that
succeeds was accepted. One that fails was rejected with another octet, and its error says so, or it
failed otherwise, with an error that may pass.

- `Session.new_run_misuse`: the calls of a run are right in the state in which they are made.
- `Session.new_run_accepted`, `Session.new_run_failed`: what the log of a run tells about its
  result.
-/

namespace TelemetryLink

/-! ## Reading the verdict off a log -/

/-- The octet that answers the first message. -/
def Log.verdict? (log : Log) : Option UInt8 :=
  match log.answers with
  | (_, [byte]) :: _ => some byte
  | _ => none

namespace Message

variable {credentials : Credentials} {nonce : Nonce}

/-- After a handshake that was answered the verdict stands, whatever follows. -/
theorem verdict?_of_prefix {byte : UInt8} {log : Log}
    (h : (handshake nonce).exchanged credentials [byte] <+: log) : log.verdict? = some byte := by
  obtain ⟨rest, rfl⟩ := h
  have hanswers : Log.answers ((handshake nonce).exchanged credentials [byte] ++ rest) =
      ((handshake nonce).bytes credentials, [byte]) :: Log.answersAfter none rest :=
    Log.answersAfter_exchange none _ _ rest
  rw [Log.verdict?, hanswers]

/-- A handshake without a complete answer leaves no verdict. -/
theorem verdict?_of_outcome {error : ProtocolError} {events : Log}
    (h : Exchange.Outcome ((handshake nonce).bytes credentials) (handshake nonce).answerSize
      (.error error) events) : Log.verdict? (events ++ [.released]) = none := by
  cases h with
  | unsent => simp [Log.verdict?, Log.answers, Log.answersAfter]
  | unflushed => simp [Log.verdict?, Log.answers, Log.answersAfter]
  | unanswered hlen =>
    have hnil := List.length_eq_zero_iff.1 (Nat.lt_one_iff.1 hlen)
    simp [Log.verdict?, Log.answers, Log.answersAfter, hnil]

end Message

/-! ## Errors that may pass -/

/-- Errors of the connection may pass. -/
theorem ProtocolError.OfLink.isRetryable {error : ProtocolError} (h : error.OfLink) :
    error.isRetryable = true := by
  cases error with
  | connectionClosed | timeout | transport => rfl
  | _ => exact h.elim

/-- What the collector says about a frame may change. -/
theorem Message.isRetryable_of_complaint {message : Message} {answer : Bytes}
    {error : ProtocolError} (hmessage : message.isHandshake = false)
    (h : message.complaint? answer = some error) : error.isRetryable = true := by
  cases message with
  | handshake nonce => cases hmessage
  | ping => cases h
  | data record =>
    rw [complaint?, Option.ite_none_left_eq_some] at h
    obtain ⟨-, h⟩ := h
    split at h
    · cases h
      rfl
    · cases h
      rfl

namespace Session

/-! ## The calls of a run -/

variable {plan : Plan} {nonce : Nonce} {record : UInt32 → Record} {link : Stream}
  {credentials : Credentials} {ended : Session Stream}

/-- Calls that succeed, and do not close the session, leave it idle. -/
theorem Accounts.idle_of_sequence {session after : Session Stream} {dialogue : Dialogue}
    (h : session.Accounts dialogue) {calls : List Call} {receipts : List Receipt}
    (hne : calls ≠ []) (hopen : .close ∉ calls)
    (hrun : (Call.sequence calls : SessionM Stream Id (List Receipt)).on session =
      (.ok receipts, after)) : after.state = .idle := by
  induction calls generalizing session dialogue receipts with
  | nil => exact absurd rfl hne
  | cons call calls ih =>
    obtain ⟨receipt, rest, next, hstep, hrest, -⟩ := Call.sequence_cons_ok hrun
    have hidle : next.state = .idle := by
      cases Call.transition_ok h.held hstep with
      | closed hclose => exact absurd (hclose ▸ List.mem_cons_self) hopen
      | @answered message => cases message <;> rfl
    rcases calls with _ | ⟨second, calls⟩
    · cases hrest
      exact hidle
    · obtain ⟨_, hnext⟩ := h.of_step hstep
      exact ih hnext (List.cons_ne_nil _ _) (fun hmem => hopen (List.mem_cons_of_mem _ hmem)) hrest

/-- Calls that succeed on a new session, and do not ping it, leave it without a ping. -/
theorem Accounts.unpinged_of_sequence {session after : Session Stream}
    (h : session.Accounts {}) {calls : List Call} {receipts : List Receipt}
    (hnone : .ping ∉ calls)
    (hrun : (Call.sequence calls : SessionM Stream Id (List Receipt)).on session =
      (.ok receipts, after)) : after.pinged = false := by
  obtain ⟨turns, hafter, -, hmessages, -⟩ := h.sequence_ok hrun
  have hzero : (turns.map Turn.message).count .ping = 0 := by
    rw [hmessages, List.count_eq_zero]
    intro hmem
    obtain ⟨call, hcall, hping⟩ := List.mem_filterMap.1 hmem
    cases call with
    | ping => exact hnone hcall
    | handshake | sendRecord | close => cases hping
  have hpinged := hafter.pinged
  rw [show Dialogue.answered _ = turns.map Turn.message from rfl, hzero] at hpinged
  cases hflag : after.pinged with
  | false => rfl
  | true => simp [hflag] at hpinged

/-- The calls of a run between the handshake and the end. -/
def body (plan : Plan) (record : UInt32 → Record) : List Call :=
  (if plan.ping then [.ping] else []) ++ (plan.records record).map Call.sendRecord

theorem script_connecting : script .connecting plan nonce record =
    .handshake nonce :: (body plan record ++ [.close]) := by
  rw [script_eq, preamble, if_pos rfl, body, List.append_assoc, List.append_assoc,
    List.singleton_append]

theorem mem_body {call : Call} (h : call ∈ body plan record) :
    call = .ping ∨ ∃ first, call = .sendRecord first := by
  rcases List.mem_append.1 h with h | h
  · split at h
    · exact .inl (List.mem_singleton.1 h)
    · cases h
  · obtain ⟨first, -, rfl⟩ := List.mem_map.1 h
    exact .inr ⟨first, rfl⟩

theorem count_ping_body (plan : Plan) (record : UInt32 → Record) :
    (body plan record).count .ping ≤ 1 := by
  have hsends : ((plan.records record).map Call.sendRecord).count .ping = 0 :=
    List.count_eq_zero.2 (by simp)
  rw [body, List.count_append, hsends, Nat.add_zero]
  split
  · exact Nat.le_refl 1
  · exact Nat.zero_le 1

/-- The calls of a run of a new session are right in the state in which they are made. -/
theorem new_run_misuse (hlink : link.log = []) {before rest : List Call} {call : Call}
    {receipts : List Receipt} {reached : Session Stream}
    (hscript : script .connecting plan nonce record = before ++ call :: rest)
    (hbefore : (Call.sequence before : SessionM Stream Id (List Receipt)).on
      (Session.new link credentials) = (.ok receipts, reached)) :
    call.misuse? reached = none := by
  have hnew := Accounts.new link credentials hlink
  rw [script_connecting] at hscript
  rcases before with _ | ⟨first, more⟩
  · -- The handshake comes first.
    cases hscript
    cases hbefore
    rfl
  rw [List.cons_append] at hscript
  obtain ⟨rfl, htail⟩ := List.cons.inj hscript
  -- What was done after the handshake is a part of the body, because the end comes last.
  have hmore : more <+: body plan record := by
    have hstart : more <+: body plan record ++ [.close] := htail ▸ List.prefix_append _ _
    rcases List.prefix_concat_iff.1 hstart with hall | hbody
    · have hlength := congrArg List.length (hall ▸ htail)
      simp at hlength
    · exact hbody
  have hopen : Call.close ∉ .handshake nonce :: more := by
    rw [List.mem_cons, not_or]
    refine ⟨by simp, fun hmem => ?_⟩
    rcases mem_body (hmore.subset hmem) with h | ⟨_, h⟩ <;> cases h
  have hidle := hnew.idle_of_sequence (List.cons_ne_nil _ _) hopen hbefore
  have hcall : call ∈ body plan record ++ [.close] := by simp [htail]
  cases call with
  | handshake other =>
    rcases List.mem_append.1 hcall with hcall | hcall
    · rcases mem_body hcall with h | ⟨_, h⟩ <;> cases h
    · simp at hcall
  | ping =>
    -- The ping is the only one of the run, so that none was answered.
    have hcount := congrArg (List.count Call.ping) htail
    have hbody := count_ping_body plan record
    rw [List.count_append, List.count_append, List.count_cons_self] at hcount
    have hnone : Call.ping ∉ more := List.count_eq_zero.1 (by simp at hcount; omega)
    have hpinged := hnew.unpinged_of_sequence (by simpa using hnone) hbefore
    simp [Call.misuse?, hidle, hpinged]
  | sendRecord record => exact if_pos hidle
  | close => rfl

/-! ## Runs of new sessions -/

/-- A run of a new session that succeeds was accepted. -/
theorem new_run_accepted (hlink : link.log = []) {report : Report}
    (hrun : (run plan nonce (fun i => pure (record i)) : SessionM Stream Id Report).on
      (Session.new link credentials) = (.ok report, ended)) :
    Log.verdict? ended.closed.link.log = some 0x01 := by
  have hnew := Accounts.new link credentials hlink
  obtain ⟨nonce, hstart⟩ := hnew.handshake_of_run (by simp [new]) hrun
  obtain ⟨events, -, hlog⟩ := ended.log_closed
  refine Message.verdict?_of_prefix (hstart.trans ?_)
  rw [hlog]
  exact List.prefix_append _ _

/-- A run of a new session that fails was rejected, and says with which octet, or it failed with an
error that may pass. -/
theorem new_run_failed (hlink : link.log = []) {e : SessionError}
    (hrun : (run plan nonce (fun i => pure (record i)) : SessionM Stream Id Report).on
      (Session.new link credentials) = (.error e, ended)) :
    (∃ byte, byte ≠ 0x01 ∧ Log.verdict? ended.closed.link.log = some byte ∧
        e = ⟨.handshake, .handshakeRejected (.ofCode byte)⟩) ∨
      (∀ byte, Log.verdict? ended.closed.link.log = some byte → byte = 0x01) ∧
        e.error.isRetryable = true := by
  obtain ⟨before, call, rest, receipts, reached, hscript, hbefore, hstep⟩ :=
    Call.sequence_error (run_error hrun)
  have hmisuse := new_run_misuse hlink hscript hbefore
  obtain ⟨turns, hreached, -⟩ := (Accounts.new link credentials hlink).sequence_ok hbefore
  cases Call.failure hreached.held hstep with
  | misused _ hwrong =>
    -- No call of a run is wrong.
    rw [hmisuse] at hwrong
    cases hwrong
  | @failed stage message error events last hstage hmessage hfails hlog =>
    have hallowed := ((call.message?_eq_some_iff reached message).1 hmessage).2
    obtain ⟨hheld, -, hphase⟩ := hreached.ready hallowed
    -- The connection was held until now, so that its release is the last event.
    have hended : (Session.closed { reached with link := last }).closed.link.log =
        reached.link.log ++ (events ++ [.released]) := by
      rw [closed_eq_self (closed_held _) (closed_state _), closed, if_pos hheld]
      simp [Link.release, Stream.release, Stream.record, hlog]
    rw [hended]
    rcases hphase with ⟨hnew, hshake⟩ | ⟨hturns, hshake⟩
    · cases message with
      | ping | data => cases hshake
      | handshake nonce =>
        have hnothing : reached.link.log = [] := by
          rw [hreached.log, hnew, hheld]
          rfl
        cases hstage.symm.trans (Call.stage?_of_message? hmessage)
        rw [hnothing, List.nil_append]
        cases hfails with
        | link herror houtcome =>
          refine .inr ⟨fun byte hbyte => ?_, herror.isRetryable⟩
          rw [Message.verdict?_of_outcome houtcome] at hbyte
          cases hbyte
        | complaint hlen hcomplaint =>
          obtain ⟨byte, rfl⟩ := List.length_eq_one_iff.1 hlen
          obtain ⟨hbyte, herror⟩ := Option.ite_none_left_eq_some.1 hcomplaint
          cases herror
          exact .inl ⟨byte, hbyte, Message.verdict?_of_prefix (List.prefix_append _ _), rfl⟩
    · -- The handshake was accepted before.
      obtain ⟨nonce, hstart⟩ := hreached.handshake_prefix hturns
      refine .inr ⟨fun byte hbyte => ?_, ?_⟩
      · rw [Message.verdict?_of_prefix (hstart.trans (List.prefix_append _ _))] at hbyte
        exact (Option.some.inj hbyte).symm
      · cases hfails with
        | link herror => exact herror.isRetryable
        | complaint _ hcomplaint => exact Message.isRetryable_of_complaint hshake hcomplaint

end Session

end TelemetryLink
