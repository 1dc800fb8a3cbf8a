import TelemetryLink.Proofs.Session.Failure
import TelemetryLink.Proofs.Session.Run

/-!
# The replies that a run accepts

On a connection that accepts whatever is sent, the octets that come back decide how a run of a new
session ends. `Replies.Accepted` is the grammar of the replies that a plan asks for, with the report
that they make, and `Replies.Offence` the first reply that is not as it should be, with the error
that it causes.

- `Replies.accepted_or_offence`: all octets are one or the other.
- `Session.run_of_accepted`, `Session.run_of_offence`: what a run makes of them.
- `Session.run_replies`: so a run succeeds on the replies of the grammar and on no others.
-/

namespace TelemetryLink

/-! ## The grammar -/

namespace Replies

/-- One confirmation of a data frame after another, with these codes. -/
def confirmations (codes : List UInt8) : Bytes := codes.flatMap fun code => [0x03, code]

/-- Octets in the reply to the ping of a plan, if it has one. -/
def pingSize (plan : Plan) : Nat := if plan.ping then 2 else 0

/-- Octets in all replies that a plan asks for. -/
def size (plan : Plan) : Nat := 1 + pingSize plan + 2 * plan.frames.toNat

/-- How the ping of a plan ended, if it has one, that was answered by this reply. -/
def pingOutcome? (plan : Plan) (reply : Bytes) : Option PingOutcome :=
  if plan.ping then some (if reply = [0x03, 0x02] then .acknowledged else .unexpected reply)
  else none

/-- The replies that a plan asks for, and the report that they make: the handshake is accepted, the
ping is answered by any two octets, and every data frame is confirmed under some code. -/
inductive Accepted (plan : Plan) : Bytes → Report → Prop
  | intro {reply codes rest} (hreply : reply.length = pingSize plan)
    (hcodes : codes.length = plan.frames.toNat) :
    Accepted plan (0x01 :: (reply ++ (confirmations codes ++ rest)))
      { framesAcknowledged := plan.frames
        ping := pingOutcome? plan reply
        unexpectedAckCodes := codes.filter (· ≠ 0x01) }

/-- Octets that do not confirm a data frame, and the error that they cause. -/
inductive Unconfirmed : Bytes → ProtocolError → Prop
  | short {replies} (h : replies.length < 2) :
    Unconfirmed replies (.connectionClosed (.byPeer replies.length 2))
  | serverError {code rest} : Unconfirmed (0x10 :: code :: rest) (.serverError code)
  | violation {marker code rest} (hack : marker ≠ 0x03) (herror : marker ≠ 0x10) :
    Unconfirmed (marker :: code :: rest) (.protocolViolation [marker, code])

/-- Replies of which the first that is not as it should be causes this error. -/
inductive Offence (plan : Plan) : Bytes → SessionError → Prop
  | noVerdict : Offence plan [] ⟨.handshake, .connectionClosed (.byPeer 0 1)⟩
  | rejected {byte rest} (h : byte ≠ 0x01) :
    Offence plan (byte :: rest) ⟨.handshake, .handshakeRejected (.ofCode byte)⟩
  | noPingReply {rest} (hping : plan.ping = true) (h : rest.length < 2) :
    Offence plan (0x01 :: rest) ⟨.ping, .connectionClosed (.byPeer rest.length 2)⟩
  /-- The data frame after those that were confirmed is not confirmed. -/
  | unconfirmed {reply codes rest error} (hreply : reply.length = pingSize plan)
    (hcodes : codes.length < plan.frames.toNat) (h : Unconfirmed rest error) :
    Offence plan (0x01 :: (reply ++ (confirmations codes ++ rest)))
      ⟨.data (.ofNat (codes.length + 1)), error⟩

theorem length_confirmations (codes : List UInt8) :
    (confirmations codes).length = 2 * codes.length := by
  induction codes with
  | nil => rfl
  | cons code codes ih =>
    rw [confirmations, List.flatMap_cons, ← confirmations, List.length_append, ih]
    simp only [List.length_cons, List.length_nil]
    omega

theorem confirmations_cons (code : UInt8) (codes : List UInt8) (rest : Bytes) :
    confirmations (code :: codes) ++ rest = 0x03 :: code :: (confirmations codes ++ rest) := rfl

/-- Octets start with a confirmation or do not confirm. -/
theorem confirmed_or_unconfirmed (replies : Bytes) :
    (∃ code rest, replies = 0x03 :: code :: rest) ∨ ∃ error, Unconfirmed replies error := by
  rcases replies with _ | ⟨marker, _ | ⟨code, rest⟩⟩
  · exact .inr ⟨_, .short (by simp)⟩
  · exact .inr ⟨_, .short (by simp)⟩
  · by_cases hack : marker = 0x03
    · exact .inl ⟨code, rest, by rw [hack]⟩
    · by_cases herror : marker = 0x10
      · subst herror
        exact .inr ⟨_, .serverError⟩
      · exact .inr ⟨_, .violation hack herror⟩

/-- Octets confirm `n` data frames, or fail to confirm one of them. -/
theorem confirmations_or_unconfirmed (n : Nat) (replies : Bytes) :
    (∃ codes rest, replies = confirmations codes ++ rest ∧ codes.length = n) ∨
      ∃ codes rest error, replies = confirmations codes ++ rest ∧ codes.length < n ∧
        Unconfirmed rest error := by
  -- The induction is on the frames that still wait for their confirmation.
  induction n generalizing replies with
  | zero => exact .inl ⟨[], replies, rfl, rfl⟩
  | succ n ih =>
    rcases confirmed_or_unconfirmed replies with ⟨code, rest, rfl⟩ | ⟨error, herror⟩
    · rcases ih rest with ⟨codes, rest, rfl, hlen⟩ | ⟨codes, rest, error, rfl, hlen, herror⟩
      · exact .inl ⟨code :: codes, rest, rfl, congrArg (· + 1) hlen⟩
      · exact .inr ⟨code :: codes, rest, error, rfl, Nat.succ_lt_succ hlen, herror⟩
    · exact .inr ⟨[], replies, error, rfl, Nat.succ_pos n, herror⟩

/-- All octets are replies that a plan asks for, or offend. -/
theorem accepted_or_offence (plan : Plan) (replies : Bytes) :
    (∃ report, Accepted plan replies report) ∨ ∃ e, Offence plan replies e := by
  rcases replies with _ | ⟨byte, rest⟩
  · exact .inr ⟨_, .noVerdict⟩
  by_cases hbyte : byte = 0x01
  · subst hbyte
    by_cases hshort : rest.length < pingSize plan
    · have hping : plan.ping = true := by
        by_contra hnone
        simp [pingSize, hnone] at hshort
      rw [pingSize, if_pos hping] at hshort
      exact .inr ⟨_, .noPingReply hping hshort⟩
    · -- The reply to the ping is complete, so that the data frames decide.
      have hreply : (rest.take (pingSize plan)).length = pingSize plan := by
        rw [List.length_take]
        omega
      rw [← List.take_append_drop (pingSize plan) rest]
      rcases confirmations_or_unconfirmed plan.frames.toNat (rest.drop (pingSize plan)) with
        ⟨codes, more, hdrop, hlen⟩ | ⟨codes, more, error, hdrop, hlen, herror⟩
      · rw [hdrop]
        exact .inl ⟨_, .intro hreply hlen⟩
      · rw [hdrop]
        exact .inr ⟨_, .unconfirmed hreply hlen herror⟩
  · exact .inr ⟨_, .rejected hbyte⟩

end Replies

/-! ## Reports -/

theorem AckCode.toByte_ofByte (byte : UInt8) : (ofByte byte).toByte = byte := by
  unfold ofByte
  split
  next h => exact h.symm
  next =>
    split
    next h => exact h.symm
    next => rfl

theorem AckCode.ofByte_eq_data_iff {byte : UInt8} : ofByte byte = .data ↔ byte = 0x01 := by
  refine ⟨fun h => ?_, fun h => by rw [h]; rfl⟩
  rw [← toByte_ofByte byte, h]
  rfl

/-- The report on confirmations with these octets for codes. -/
theorem Report.foldl_add_data (report : Report) (codes : List UInt8) :
    (codes.map fun code => Receipt.data (.ofByte code)).foldl add report =
      { report with
        framesAcknowledged := report.framesAcknowledged + .ofNat codes.length
        unexpectedAckCodes := report.unexpectedAckCodes ++ codes.filter (· ≠ 0x01) } := by
  have hcodes : ((codes.map AckCode.ofByte).filter (· ≠ .data)).map AckCode.toByte =
      codes.filter (· ≠ 0x01) := by
    have hdata : ((fun code => decide (code ≠ .data)) ∘ AckCode.ofByte) =
        fun code => decide (code ≠ 0x01) :=
      funext fun code => decide_eq_decide.2 (not_congr AckCode.ofByte_eq_data_iff)
    have hbyte : AckCode.toByte ∘ AckCode.ofByte = id := funext AckCode.toByte_ofByte
    rw [List.filter_map, List.map_map, hdata, hbyte, List.map_id]
  have hreport := foldl_add_codes report (codes.map AckCode.ofByte)
  rw [List.map_map, List.length_map, hcodes] at hreport
  exact hreport

/-! ## Calls on a stream that answers -/

namespace Call

variable {session : Session Stream} {call : Call} {message : Message} {rest : Bytes}

/-- A call that is right, with a complete answer. -/
private theorem step_of_serves (answer : Bytes) (hheld : session.held = true)
    (hmessage : call.message? session = some message)
    (hserves : session.link.Serves (answer ++ rest))
    (hlen : answer.length = message.answerSize) :
    ∃ link, (call.step : SessionM Stream Id Receipt).on session =
        message.settle session (.ok answer, link) ∧
      link.Serves rest ∧ link.received = session.link.received ++ answer := by
  obtain ⟨link, hon, hrest, hlog⟩ := Exchange.transact_of_serves
    (message.bytes session.credentials) message.answerSize hserves
    (by rw [List.length_append]; omega)
  rw [← hlen, List.take_left] at hon hlog
  rw [← hlen, List.drop_left] at hrest
  refine ⟨link, ?_, hrest, ?_⟩
  · rw [step_on hheld hmessage, ← hlen, hon]
  · simp [Stream.received, hlog, Stream.receivedBy]

/-- A call that is right goes on after the right answer, and takes it off the replies. -/
theorem step_of_answer (answer : Bytes) (hheld : session.held = true)
    (hmessage : call.message? session = some message)
    (hserves : session.link.Serves (answer ++ rest))
    (hlen : answer.length = message.answerSize) (hanswer : message.complaint? answer = none) :
    ∃ link, (call.step : SessionM Stream Id Receipt).on session =
        (.ok (message.receipt answer), message.proceed session link) ∧
      link.Serves rest ∧ link.received = session.link.received ++ answer := by
  obtain ⟨link, hstep, hlink⟩ := step_of_serves answer hheld hmessage hserves hlen
  exact ⟨link, hstep.trans (Message.settle_of_none hanswer), hlink⟩

/-- A call that is right fails for what is wrong about its answer. -/
theorem step_of_complaint (answer : Bytes) {error : ProtocolError} (hheld : session.held = true)
    (hmessage : call.message? session = some message)
    (hserves : session.link.Serves (answer ++ rest))
    (hlen : answer.length = message.answerSize)
    (hanswer : message.complaint? answer = some error) :
    ∃ next, (call.step : SessionM Stream Id Receipt).on session =
      (.error ⟨message.stage session, error⟩, next) := by
  obtain ⟨link, hstep, -⟩ := step_of_serves answer hheld hmessage hserves hlen
  exact ⟨_, hstep.trans (Message.settle_of_some hanswer)⟩

/-- A call that is right fails where the replies are used up. -/
theorem step_of_short {replies : Bytes} (hheld : session.held = true)
    (hmessage : call.message? session = some message) (hserves : session.link.Serves replies)
    (hshort : replies.length < message.answerSize) :
    ∃ next, (call.step : SessionM Stream Id Receipt).on session =
      (.error ⟨message.stage session,
        .connectionClosed (.byPeer replies.length message.answerSize)⟩, next) := by
  obtain ⟨link, hon⟩ := Exchange.transact_of_short (message.bytes session.credentials)
    message.answerSize hserves hshort
  rw [step_on hheld hmessage, hon]
  exact ⟨_, rfl⟩

end Call

/-! ## Runs -/

namespace Session

open Replies

/-- An idle session over a stream that delivers these replies. -/
structure Attended (session : Session Stream) (replies : Bytes) : Prop where
  idle : session.state = .idle
  held : session.held = true
  serves : session.link.Serves replies

variable {session : Session Stream} {replies reply rest : Bytes}

/-- A data frame that is confirmed. -/
theorem sendRecord_of_confirmed {code : UInt8} (h : session.Attended (0x03 :: code :: rest))
    (record : Record) :
    ∃ next, ((Call.sendRecord record).step : SessionM Stream Id Receipt).on session =
        (.ok (.data (.ofByte code)), next) ∧ next.Attended rest ∧
      next.framesSent = session.framesSent + 1 ∧
      next.link.received = session.link.received ++ [0x03, code] := by
  have hmessage : (Call.sendRecord record).message? session = some (.data record) := if_pos h.idle
  obtain ⟨link, hstep, hserves, hreceived⟩ := Call.step_of_answer [0x03, code] h.held
    hmessage h.serves rfl rfl
  exact ⟨_, hstep, ⟨rfl, h.held, hserves⟩, rfl, hreceived⟩

/-- A data frame that is not confirmed. -/
theorem sendRecord_of_unconfirmed {error : ProtocolError} (h : session.Attended replies)
    (herror : Unconfirmed replies error) (record : Record) :
    ∃ next, ((Call.sendRecord record).step : SessionM Stream Id Receipt).on session =
      (.error ⟨.data (session.framesSent + 1), error⟩, next) := by
  have hmessage : (Call.sendRecord record).message? session = some (.data record) := if_pos h.idle
  cases herror with
  | short hshort => exact Call.step_of_short h.held hmessage h.serves hshort
  | @serverError code rest =>
    exact Call.step_of_complaint [0x10, code] h.held hmessage h.serves rfl rfl
  | @violation marker code rest hack herror =>
    exact Call.step_of_complaint [marker, code] h.held hmessage h.serves rfl
      ((if_neg hack).trans (if_neg herror))

/-- Data frames that are all confirmed. -/
theorem sendRecords_of_confirmed {records : List Record} {codes : List UInt8}
    (hlen : codes.length = records.length) (h : session.Attended (confirmations codes ++ rest)) :
    ∃ next, (Call.sequence (records.map Call.sendRecord)).on session =
        (.ok (codes.map fun code => .data (.ofByte code)), next) ∧ next.Attended rest ∧
      next.framesSent = session.framesSent + .ofNat codes.length ∧
      next.link.received = session.link.received ++ confirmations codes := by
  induction codes generalizing session records with
  | nil =>
    cases List.length_eq_zero_iff.1 hlen.symm
    exact ⟨session, rfl, h, (UInt32.add_zero _).symm, (List.append_nil _).symm⟩
  | cons code codes ih =>
    rcases records with _ | ⟨record, records⟩
    · cases hlen
    rw [confirmations_cons] at h
    obtain ⟨middle, hstep, hmiddle, hcount, hreceived⟩ := sendRecord_of_confirmed h record
    obtain ⟨next, hrest, hnext, hcount', hreceived'⟩ := ih (Nat.succ.inj hlen) hmiddle
    refine ⟨next, ?_, hnext, ?_, ?_⟩
    · rw [List.map_cons, Call.sequence_cons_on, hstep]
      dsimp only
      rw [hrest]
      rfl
    · rw [hcount', hcount, List.length_cons, UInt32.ofNat_add, UInt32.add_assoc,
        UInt32.add_comm 1]
      rfl
    · rw [hreceived', hreceived, List.append_assoc]
      rfl

/-- Data frames of which the one after those with these codes is not confirmed. -/
theorem sendRecords_of_unconfirmed {records : List Record} {codes : List UInt8}
    {error : ProtocolError} (hlen : codes.length < records.length)
    (h : session.Attended (confirmations codes ++ rest)) (herror : Unconfirmed rest error) :
    ∃ next, (Call.sequence (records.map Call.sendRecord)).on session =
      (.error ⟨.data (session.framesSent + .ofNat codes.length + 1), error⟩, next) := by
  -- The records split where the confirmations end, and the first behind the cut fails.
  have hfirst : codes.length = (records.take codes.length).length := by
    rw [List.length_take]
    omega
  obtain ⟨middle, hconfirmed, hmiddle, hcount, -⟩ := sendRecords_of_confirmed hfirst h
  obtain ⟨next, hstep⟩ := sendRecord_of_unconfirmed hmiddle herror records[codes.length]
  refine ⟨next, ?_⟩
  rw [← List.take_append_drop codes.length records, List.drop_eq_getElem_cons hlen,
    List.map_append, Call.sequence_append_of_ok _ hconfirmed, List.map_cons,
    Call.sequence_cons_of_error _ hstep, hcount]

variable {plan : Plan} (nonce : Nonce) (record : UInt32 → Record) (credentials : Credentials)
  {link : Stream}

/-- A handshake that is accepted. -/
theorem handshake_of_accepted (hserves : link.Serves (0x01 :: rest)) :
    ∃ next, ((Call.handshake nonce).step : SessionM Stream Id Receipt).on
        (Session.new link credentials) = (.ok .done, next) ∧ next.Attended rest ∧
      next.pinged = false ∧ next.framesSent = 0 ∧
      next.link.received = link.received ++ [0x01] := by
  have hmessage : (Call.handshake nonce).message? (Session.new link credentials) =
      some (.handshake nonce) := rfl
  obtain ⟨answered, hstep, hserves', hreceived⟩ :=
    Call.step_of_answer [0x01] rfl hmessage hserves rfl rfl
  exact ⟨_, hstep, ⟨rfl, rfl, hserves'⟩, rfl, rfl, hreceived⟩

/-- A ping that is answered. -/
theorem ping_of_reply (h : session.Attended (reply ++ rest)) (hpinged : session.pinged = false)
    (hreply : reply.length = 2) :
    ∃ next, (Call.ping.step : SessionM Stream Id Receipt).on session =
        (.ok (.ping (if reply = [0x03, 0x02] then .acknowledged else .unexpected reply)), next) ∧
      next.Attended rest ∧ next.framesSent = session.framesSent ∧
      next.link.received = session.link.received ++ reply := by
  have hmessage : Call.ping.message? session = some .ping := if_pos ⟨h.idle, hpinged⟩
  obtain ⟨answered, hstep, hserves, hreceived⟩ :=
    Call.step_of_answer reply h.held hmessage h.serves hreply rfl
  exact ⟨_, hstep, ⟨rfl, h.held, hserves⟩, rfl, hreceived⟩

/-- The calls before the first data frame, when the handshake is accepted and the ping answered. -/
theorem preamble_of_accepted (hserves : link.Serves (0x01 :: (reply ++ rest)))
    (hreply : reply.length = pingSize plan) :
    ∃ receipts next, (Call.sequence (preamble .connecting plan nonce)).on
        (Session.new link credentials) = (.ok receipts, next) ∧ next.Attended rest ∧
      next.framesSent = 0 ∧ next.link.received = link.received ++ 0x01 :: reply ∧
      receipts.foldl Report.add {} = { ping := pingOutcome? plan reply } := by
  obtain ⟨opened, hstep, hopened, hpinged, hcount, hreceived⟩ :=
    handshake_of_accepted nonce credentials hserves
  unfold preamble pingOutcome?
  rw [if_pos rfl, List.singleton_append, Call.sequence_cons_on, hstep]
  dsimp only
  rw [pingSize] at hreply
  by_cases hping : plan.ping = true
  · rw [if_pos hping] at hreply
    obtain ⟨next, hanswered, hnext, hcount', hreceived'⟩ := ping_of_reply hopened hpinged hreply
    rw [if_pos hping, if_pos hping, Call.sequence_cons_on, hanswered]
    refine ⟨_, next, rfl, hnext, hcount'.trans hcount, ?_, rfl⟩
    rw [hreceived', hreceived, List.append_assoc]
    rfl
  · rw [if_neg hping] at hreply
    cases List.length_eq_zero_iff.1 hreply
    rw [if_neg hping, if_neg hping]
    exact ⟨_, opened, rfl, hopened, hcount, hreceived, rfl⟩

/-- The calls of a run of a new session: the handshake and the ping, the data frames, the end. -/
private theorem script_new :
    script (Session.new link credentials).state plan nonce record =
      preamble .connecting plan nonce ++
        ((plan.records record).map Call.sendRecord ++ [.close]) :=
  script_eq .connecting plan nonce record

/-- A run that fails before the first data frame. -/
private theorem run_of_preamble_error {e : SessionError} {next : Session Stream}
    (h : (Call.sequence (preamble .connecting plan nonce) :
      SessionM Stream Id (List Receipt)).on (Session.new link credentials) = (.error e, next)) :
    (run plan nonce (fun i => pure (record i)) : SessionM Stream Id Report).on
      (Session.new link credentials) = (.error e, next) := by
  rw [run_on, script_new, Call.sequence_append_of_error _ h]

/-- A run that fails with the handshake. -/
private theorem run_of_handshake_error {e : SessionError} {next : Session Stream}
    (h : ((Call.handshake nonce).step : SessionM Stream Id Receipt).on
      (Session.new link credentials) = (.error e, next)) :
    (run plan nonce (fun i => pure (record i)) : SessionM Stream Id Report).on
      (Session.new link credentials) = (.error e, next) := by
  refine run_of_preamble_error nonce record credentials ?_
  rw [preamble, if_pos rfl]
  exact Call.sequence_cons_of_error _ h

/-- A run on replies that the plan asks for succeeds, and takes just these replies. -/
theorem run_of_accepted {report : Report} (hlink : link.log = []) (hserves : link.Serves replies)
    (h : Accepted plan replies report) :
    ∃ ended, (run plan nonce (fun i => pure (record i)) : SessionM Stream Id Report).on
        (Session.new link credentials) = (.ok report, ended) ∧
      ended.link.received = replies.take (size plan) ∧ size plan ≤ replies.length ∧
      ended.link.Serves (replies.drop (size plan)) := by
  cases h with
  | @intro reply codes rest hreply hcodes =>
  obtain ⟨first, opened, hpreamble, hopened, -, hreceived, hreport⟩ :=
    preamble_of_accepted nonce credentials hserves hreply
  obtain ⟨ready, hsends, hready, -, hreceived'⟩ := sendRecords_of_confirmed
    (hcodes.trans (plan.length_records record).symm) hopened
  -- What was received in the end are the replies to the preamble and then the confirmations.
  have hnothing : link.received = [] := by rw [Stream.received, hlink]; rfl
  have hsize : size plan = (0x01 :: (reply ++ confirmations codes)).length := by
    rw [size, List.length_cons, List.length_append, hreply, length_confirmations, hcodes]
    omega
  have hsplit : 0x01 :: (reply ++ (confirmations codes ++ rest)) =
      (0x01 :: (reply ++ confirmations codes)) ++ rest := by
    rw [List.cons_append, List.append_assoc]
  have hclosed : ready.closed.link = ready.link.release := by
    rw [closed, if_pos hready.held]
    rfl
  refine ⟨ready.closed, ?_, ?_, ?_, ?_⟩
  · rw [run_on, script_new, Call.sequence_append_of_ok _ hpreamble,
      Call.sequence_append_of_ok _ hsends, Call.sequence_cons_on, Call.step, SessionM.on_bind,
      close_on]
    dsimp only [SessionM.on_pure, Call.sequence_nil_on]
    rw [List.foldl_append, hreport, List.foldl_append, Report.foldl_add_data, hcodes,
      UInt32.ofNat_toNat]
    simp only [UInt32.zero_add, List.nil_append]
    rfl
  · rw [hsize, hsplit, List.take_left, hclosed, Stream.received_release, hreceived', hreceived,
      hnothing]
    rfl
  · rw [hsize, hsplit, List.length_append]
    omega
  · rw [hsize, hsplit, List.drop_left, hclosed]
    exact hready.serves.release

/-- A run on replies that offend fails with the error of the first that does. -/
theorem run_of_offence {e : SessionError} (hserves : link.Serves replies)
    (h : Offence plan replies e) :
    ∃ ended, (run plan nonce (fun i => pure (record i)) : SessionM Stream Id Report).on
      (Session.new link credentials) = (.error e, ended) := by
  have hmessage : (Call.handshake nonce).message? (Session.new link credentials) =
      some (.handshake nonce) := rfl
  cases h with
  | noVerdict =>
    obtain ⟨ended, hstep⟩ := Call.step_of_short rfl hmessage hserves Nat.one_pos
    exact ⟨ended, run_of_handshake_error nonce record credentials hstep⟩
  | @rejected byte rest hbyte =>
    obtain ⟨ended, hstep⟩ := Call.step_of_complaint [byte] rfl hmessage hserves rfl
      (if_neg hbyte)
    exact ⟨ended, run_of_handshake_error nonce record credentials hstep⟩
  | @noPingReply rest hping hshort =>
    obtain ⟨opened, hstep, hopened, hpinged, -⟩ :=
      handshake_of_accepted nonce credentials hserves
    have hmessage' : Call.ping.message? opened = some .ping := if_pos ⟨hopened.idle, hpinged⟩
    obtain ⟨ended, hstep'⟩ :=
      Call.step_of_short hopened.held hmessage' hopened.serves hshort
    refine ⟨ended, run_of_preamble_error nonce record credentials ?_⟩
    rw [preamble, if_pos rfl, if_pos hping, List.singleton_append, Call.sequence_cons_on, hstep]
    dsimp only
    rw [Call.sequence_cons_of_error _ hstep']
    rfl
  | @unconfirmed reply codes rest error hreply hcodes herror =>
    obtain ⟨receipts, opened, hpreamble, hopened, hcount, -⟩ :=
      preamble_of_accepted nonce credentials hserves hreply
    obtain ⟨ended, hsends⟩ := sendRecords_of_unconfirmed
      (by rwa [plan.length_records record]) hopened herror
    refine ⟨ended, ?_⟩
    rw [run_on, script_new, Call.sequence_append_of_ok _ hpreamble,
      Call.sequence_append_of_error _ hsends, hcount, UInt32.zero_add, UInt32.ofNat_add]
    rfl

/-- On a connection that accepts whatever is sent, a run of a new session succeeds exactly on the
replies that its plan asks for. It reports what they say and takes no more of them; on all other
replies it fails with the error of the first that offends. -/
theorem run_replies (plan : Plan) (nonce : Nonce) (record : UInt32 → Record)
    (credentials : Credentials) {link : Stream} {replies : Bytes} (hlink : link.log = [])
    (hserves : link.Serves replies) :
    let outcome := (run plan nonce (fun i => pure (record i)) : SessionM Stream Id Report).on
      (Session.new link credentials)
    (∀ report, outcome.1 = .ok report ↔ Accepted plan replies report) ∧
      (∀ e, outcome.1 = .error e ↔ Offence plan replies e) ∧
      ∀ report, outcome.1 = .ok report →
        outcome.2.link.received = replies.take (size plan) ∧ size plan ≤ replies.length ∧
          outcome.2.link.Serves (replies.drop (size plan)) := by
  intro outcome
  have haccepted : ∀ {report}, Accepted plan replies report → ∃ ended,
      outcome = (.ok report, ended) ∧
        ended.link.received = replies.take (size plan) ∧ size plan ≤ replies.length ∧
          ended.link.Serves (replies.drop (size plan)) :=
    fun h => run_of_accepted nonce record credentials hlink hserves h
  have hoffence : ∀ {e}, Offence plan replies e → ∃ ended, outcome = (.error e, ended) :=
    fun h => run_of_offence nonce record credentials hserves h
  generalize outcome = result at haccepted hoffence
  -- One of the two applies, and the other cannot, because a run ends in one way only.
  rcases accepted_or_offence plan replies with ⟨report, h⟩ | ⟨e, h⟩
  · obtain ⟨ended, rfl, htaken⟩ := haccepted h
    refine ⟨fun report' => ⟨?_, fun h' => ?_⟩, fun e => ⟨by simp, fun h' => ?_⟩, fun _ _ => htaken⟩
    · rintro ⟨⟩
      exact h
    · obtain ⟨_, heq, -⟩ := haccepted h'
      exact congrArg Prod.fst heq
    · obtain ⟨_, heq⟩ := hoffence h'
      cases heq
  · obtain ⟨ended, rfl⟩ := hoffence h
    refine ⟨fun report => ⟨by simp, fun h' => ?_⟩, fun e' => ⟨?_, fun h' => ?_⟩, by simp⟩
    · obtain ⟨_, heq, -⟩ := haccepted h'
      cases heq
    · rintro ⟨⟩
      exact h
    · obtain ⟨_, heq⟩ := hoffence h'
      exact congrArg Prod.fst heq

/-- A session with a ping and two data frames, on a connection that takes messages in pieces and
cuts the replies anywhere. The reply to the ping and the second code are not the usual ones, and the
last octet is not asked for. -/
theorem run_replies_two_frames :
    let device : DeviceId := ⟨⟨[1, 2, 3, 4, 5, 6], rfl⟩⟩
    let credentials : Credentials := { key := ⟨[107], by decide⟩, deviceId := device }
    let nonce : Nonce := ⟨[0, 0, 0, 0, 0, 0, 0, 1], rfl⟩
    let record : UInt32 → Record := fun i => ⟨5, 0, 0, 0, 0, 0, 0, 0, 0, i.toUInt16, device⟩
    let plan : Plan := { frames := 2, ping := true }
    let interrupted : Fault := .bare .interrupted
    let link : Stream :=
      { reads := [.fault interrupted, .chunk [0x01, 0x03], .fault interrupted,
          .chunk [0x09, 0x03, 0x01, 0x03], .chunk [0x07, 0xAA], .eof]
        writes := [.take 5, .fault interrupted]
        flushes := [none] }
    let outcome := (run plan nonce (fun i => pure (record i)) : SessionM Stream Id Report).on
      (Session.new link credentials)
    link.log = [] ∧ link.Serves [0x01, 0x03, 0x09, 0x03, 0x01, 0x03, 0x07, 0xAA] ∧
      outcome.1 = .ok
        { framesAcknowledged := 2
          ping := some (.unexpected [0x03, 0x09])
          unexpectedAckCodes := [0x07] } ∧
      outcome.2.link.received = [0x01, 0x03, 0x09, 0x03, 0x01, 0x03, 0x07] := by
  intro device credentials nonce record plan interrupted link
  have hserves : link.Serves [0x01, 0x03, 0x09, 0x03, 0x01, 0x03, 0x07, 0xAA] :=
    ⟨by simp [link, interrupted, Stream.Accepts, Fault.bare], by simp [link], rfl, rfl⟩
  have haccepted : Accepted plan [0x01, 0x03, 0x09, 0x03, 0x01, 0x03, 0x07, 0xAA]
      { framesAcknowledged := 2
        ping := some (.unexpected [0x03, 0x09])
        unexpectedAckCodes := [0x07] } :=
    @Accepted.intro plan [0x03, 0x09] [0x01, 0x07] [0xAA] rfl rfl
  obtain ⟨hok, -, htaken⟩ := run_replies plan nonce record credentials rfl hserves
  have hresult := (hok _).2 haccepted
  have hreceived := (htaken _ hresult).1
  have hsize : size plan = 7 := rfl
  rw [hsize] at hreceived
  exact ⟨rfl, hserves, hresult, hreceived⟩

end Session

end TelemetryLink
