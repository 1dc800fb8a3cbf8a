import Mathlib.Data.List.Basic
import TelemetryLink.Proofs.Session.Message

/-!
# Calls on a session

A session is used by calls of its primitive operations and by `Session.run`. This module says once
what a call does to a session over a scripted stream, so that nothing later has to look into an
operation.

- `Call.step_of_misuse`: a call that is wrong in the state of the session does nothing but end it.
- `Call.step_on`: any other call exchanges its message, and goes on if there is no
  `Message.complaint?` about the answer.
- `Call.step_cases`: in any state a call closes the session, fails and ends it, or lets it go on.
- `Call.transition`: so a call closes the session, is refused, sends a message and goes on, or sends
  a message and breaks off.
-/

namespace TelemetryLink

/-- A call of a primitive operation. -/
inductive Call where
  | handshake (nonce : Nonce)
  | ping
  | sendRecord (record : Record)
  | close
  deriving DecidableEq

/-- What a call that succeeds returns. -/
inductive Receipt where
  | done
  | ping (outcome : PingOutcome)
  | data (code : AckCode)
  deriving DecidableEq

namespace Call

section Step

variable {σ : Type} {m : Type → Type} [Monad m] [Link σ m]

/-- The operation that a call calls. -/
def step : Call → SessionM σ m Receipt
  | handshake nonce => do
    Session.handshake nonce
    return .done
  | ping => return .ping (← Session.ping)
  | sendRecord record => return .data (← Session.sendRecord record)
  | close => do
    Session.close
    return .done

/-- Calls one after another, up to the first that fails. -/
def sequence : List Call → SessionM σ m (List Receipt)
  | [] => return []
  | call :: calls => do
    let receipt ← call.step
    let receipts ← sequence calls
    return receipt :: receipts

end Step

/-- The session after a call. -/
def perform (call : Call) (session : Session Stream) : Session Stream :=
  ((call.step : SessionM Stream Id Receipt).on session).2

/-- The session after calls one after another, whether they succeed or not. -/
def performAll (calls : List Call) (session : Session Stream) : Session Stream :=
  calls.foldl (fun session call => call.perform session) session

/-- The message that a call sends in this state of the session, if the call is right in it. -/
def message? (session : Session Stream) : Call → Option Message
  | handshake nonce => if session.state = .connecting then some (.handshake nonce) else none
  | ping => if session.state = .idle ∧ session.pinged = false then some .ping else none
  | sendRecord record => if session.state = .idle then some (.data record) else none
  | close => none

end Call

/-! ## What a call can do -/

namespace Message

/-- What a call returns that was answered like this. -/
def receipt : Message → Bytes → Receipt
  | handshake _, _ => .done
  | ping, answer => .ping (if answer = Reply.pingAck then .acknowledged else .unexpected answer)
  | data _, answer => .data (.ofByte (answer.getD 1 0))

/-- The session after the right answer to a message, with the connection as it is then. -/
def proceed (session : Session Stream) (link : Stream) : Message → Session Stream
  | handshake _ => { session with link, state := .idle }
  | ping => { session with link, state := .idle, pinged := true }
  | data _ => { session with link, state := .idle, framesSent := session.framesSent + 1 }

end Message

/-- What a call can do to a session: what it returns, `none` for an error, and the session after
it. -/
inductive Transition (session : Session Stream) (call : Call) :
    Option Receipt → Session Stream → Prop
  /-- The session is closed on request. -/
  | closed (h : call = .close) : Transition session call (some .done) session.closed
  /-- The call is wrong in this state. It sends nothing, and ends the session. -/
  | refused (h : call ≠ .close) (hnone : call.message? session = none) :
    Transition session call none session.closed
  /-- The call sends a message, and the answer lets the session go on. -/
  | answered {message answer link} (hsome : call.message? session = some message)
      (hcont : message.Continues answer)
      (hlog : link.log = session.link.log ++ message.exchanged session.credentials answer) :
    Transition session call (some (message.receipt answer)) (message.proceed session link)
  /-- The call sends a message, and the exchange ends the session. -/
  | broken {message events link} (hsome : call.message? session = some message)
      (hbroken : message.Broken session.credentials events)
      (hlog : link.log = session.link.log ++ events) :
    Transition session call none (Session.closed { session with link })

/-! ## Answers -/

namespace Rejection

/-- The reason that an octet gives: the named one with this code, if there is one. -/
def ofCode (code : UInt8) : Rejection :=
  ([badMagic, badVersion, badAuthentication].find? fun reason => code = reason.code).getD
    (.unknown code)

end Rejection

/-- Every octet but one rejects the handshake, for the reason that it gives. -/
theorem Verdict.ofByte_of_ne {byte : UInt8} (h : byte ≠ 0x01) :
    Verdict.ofByte byte = .rejected (.ofCode byte) := by
  unfold Verdict.ofByte Verdict.acceptance Rejection.ofCode
  rw [if_neg h]
  simp only [List.find?_cons, List.find?_nil, Rejection.code]
  by_cases hmagic : byte = 0xFF
  · simp [hmagic]
  by_cases hversion : byte = 0xFE
  · simp [hversion]
  by_cases hauthentication : byte = 0xFD
  · simp [hauthentication]
  simp [hmagic, hversion, hauthentication]

/-- A reply is written as it was read. -/
theorem Reply.toBytes_ofBytes (marker code : UInt8) :
    (Reply.ofBytes marker code).toBytes = [marker, code] := by
  unfold Reply.ofBytes
  split
  next h =>
    unfold AckCode.ofByte
    repeat' split
    all_goals simp_all [Reply.toBytes, AckCode.toByte]
  next h =>
    split
    next h' => simp [Reply.toBytes, h']
    next => rfl

namespace Message

/-- The exchange of a message, as errors name it. A data frame has the number after those that were
confirmed. -/
def stage {σ : Type} (session : Session σ) : Message → Stage
  | handshake _ => .handshake
  | ping => .ping
  | data _ => .data (session.framesSent + 1)

/-- What is wrong about a complete answer, if anything is. -/
def complaint? : Message → Bytes → Option ProtocolError
  | handshake _, answer =>
    if answer.getD 0 0 = 0x01 then none
    else some (.handshakeRejected (.ofCode (answer.getD 0 0)))
  | ping, _ => none
  | data _, answer =>
    if answer.getD 0 0 = 0x03 then none
    else if answer.getD 0 0 = 0x10 then some (.serverError (answer.getD 1 0))
    else some (.protocolViolation [answer.getD 0 0, answer.getD 1 0])

/-- The result of an exchange of a message, and what the session does about it: it goes on, or
ends with an error. -/
def settle (message : Message) (session : Session Stream) :
    Except ProtocolError Bytes × Stream → Except SessionError Receipt × Session Stream
  | (.error error, link) =>
    (.error ⟨message.stage session, error⟩, Session.closed { session with link })
  | (.ok answer, link) => match message.complaint? answer with
    | none => (.ok (message.receipt answer), message.proceed session link)
    | some error => (.error ⟨message.stage session, error⟩, Session.closed { session with link })

theorem settle_of_none {message : Message} {session : Session Stream} {answer : Bytes}
    {link : Stream} (h : message.complaint? answer = none) :
    message.settle session (.ok answer, link) =
      (.ok (message.receipt answer), message.proceed session link) := by
  rw [settle, h]

theorem settle_of_some {message : Message} {session : Session Stream} {answer : Bytes}
    {link : Stream} {error : ProtocolError} (h : message.complaint? answer = some error) :
    message.settle session (.ok answer, link) =
      (.error ⟨message.stage session, error⟩, Session.closed { session with link }) := by
  rw [settle, h]

/-- A session goes on after the answers about which there is no complaint. -/
theorem complaint?_eq_none_iff {message : Message} {answer : Bytes}
    (hlen : answer.length = message.answerSize) :
    message.complaint? answer = none ↔ message.Continues answer := by
  cases message with
  | handshake nonce =>
    obtain ⟨byte, rfl⟩ := List.length_eq_one_iff.1 hlen
    simp [complaint?, Continues]
  | ping => exact iff_of_true rfl hlen
  | data record =>
    obtain ⟨marker, code, rfl⟩ := List.length_eq_two.1 hlen
    by_cases hack : marker = 0x03
    · simp [complaint?, Continues, hack]
    · by_cases herror : marker = 0x10
      · simp [complaint?, Continues, herror]
      · simp [complaint?, Continues, hack, herror]

end Message

namespace Call

/-! ## Calls that are wrong -/

section Misuse

variable {σ : Type}

/-- The exchange of a call, as errors name it. -/
def stage? (session : Session σ) : Call → Option Stage
  | handshake _ => some .handshake
  | ping => some .ping
  | sendRecord _ => some (.data (session.framesSent + 1))
  | close => none

/-- What is wrong about a call in this state of the session, if anything is. -/
def misuse? (session : Session σ) : Call → Option Misuse
  | handshake _ =>
    if session.state = .connecting then none
    else some (.wrongState .handshake .connecting session.state)
  | ping =>
    if session.state = .idle then if session.pinged then some .secondPing else none
    else some (.wrongState .ping .idle session.state)
  | sendRecord _ =>
    if session.state = .idle then none
    else some (.wrongState (.data (session.framesSent + 1)) .idle session.state)
  | close => none

variable [Link σ Id] {session : Session σ}

/-- A call that is wrong does nothing but end the session. -/
theorem step_of_misuse {call : Call} {misuse : Misuse} (h : call.misuse? session = some misuse) :
    ∃ stage, call.stage? session = some stage ∧
      (call.step : SessionM σ Id Receipt).on session =
        (.error ⟨stage, .invalidState misuse⟩, session.closed) := by
  cases call with
  | handshake nonce =>
    rw [misuse?, Option.ite_none_left_eq_some] at h
    obtain ⟨hstate, hmisuse⟩ := h
    cases hmisuse
    refine ⟨_, rfl, ?_⟩
    unfold step
    rw [SessionM.on_bind, Session.handshake_on_of_ne nonce hstate]
  | ping =>
    rw [misuse?] at h
    refine ⟨_, rfl, ?_⟩
    unfold step
    rw [SessionM.on_bind]
    split at h
    next hstate =>
      obtain ⟨hpinged, hmisuse⟩ := Option.ite_none_right_eq_some.1 h
      cases hmisuse
      rw [Session.ping_on_of_pinged hstate hpinged]
    next hstate =>
      cases h
      rw [Session.ping_on_of_ne hstate]
  | sendRecord record =>
    rw [misuse?, Option.ite_none_left_eq_some] at h
    obtain ⟨hstate, hmisuse⟩ := h
    cases hmisuse
    refine ⟨_, rfl, ?_⟩
    unfold step
    rw [SessionM.on_bind, Session.sendRecord_on_of_ne record hstate]
  | close => cases h

end Misuse

variable {session : Session Stream} {call : Call}

/-- A call that is not wrong sends a message, unless it closes the session. -/
theorem message?_eq_none_iff (hclose : call ≠ .close) :
    call.message? session = none ↔ ∃ misuse, call.misuse? session = some misuse := by
  cases call with
  | handshake nonce => by_cases h : session.state = .connecting <;> simp [message?, misuse?, h]
  | ping =>
    by_cases h : session.state = .idle <;> by_cases hpinged : session.pinged = true <;>
      simp [message?, misuse?, h, hpinged]
  | sendRecord record => by_cases h : session.state = .idle <;> simp [message?, misuse?, h]
  | close => exact absurd rfl hclose

/-! ## Calls that are right -/

/-- The stage of a call is that of its message. -/
theorem stage?_of_message? {message : Message} (h : call.message? session = some message) :
    call.stage? session = some (message.stage session) := by
  cases call with
  | handshake nonce =>
    obtain ⟨-, hmessage⟩ := Option.ite_none_right_eq_some.1 h
    cases hmessage
    rfl
  | ping =>
    obtain ⟨-, hmessage⟩ := Option.ite_none_right_eq_some.1 h
    cases hmessage
    rfl
  | sendRecord record =>
    obtain ⟨-, hmessage⟩ := Option.ite_none_right_eq_some.1 h
    cases hmessage
    rfl
  | close => cases h

/-- A closed session sends no message. -/
theorem message?_of_closed (hstate : session.state = .closed) (call : Call) :
    call.message? session = none := by
  cases call <;> simp [message?, hstate]

/-- A call that is right finds the connection held. -/
theorem held_of_message? (hheld : session.held = true ↔ session.state ≠ .closed)
    {message : Message} (h : call.message? session = some message) : session.held = true := by
  refine hheld.2 fun hclosed => ?_
  rw [message?_of_closed hclosed] at h
  cases h

private theorem step_handshake_on {nonce : Nonce} (hheld : session.held = true)
    (hstate : session.state = .connecting) :
    ((handshake nonce).step : SessionM Stream Id Receipt).on session =
      (Message.handshake nonce).settle session
        ((Exchange.transact ((Message.handshake nonce).bytes session.credentials)
          (Message.handshake nonce).answerSize).on session.link) := by
  have hshape : (Exchange.handshake (Handshake.build session.credentials.key
      session.credentials.deviceId session.credentials.flags nonce) :
        Exchange Stream Id Verdict) = (fun answer => Verdict.ofByte (answer.getD 0 0)) <$>
      Exchange.transact ((Message.handshake nonce).bytes session.credentials)
        (Message.handshake nonce).answerSize := Exchange.handshake_eq_transact _
  unfold step
  rw [SessionM.on_bind, Session.handshake_on nonce hstate hheld, hshape, Exchange.on_map]
  rcases Exchange.on _ session.link with ⟨error | answer, link⟩
  · rfl
  · simp only [Except.map, Message.settle, Message.complaint?]
    by_cases hbyte : answer.getD 0 0 = 0x01
    · rw [if_pos hbyte, hbyte]
      rfl
    · rw [if_neg hbyte, Verdict.ofByte_of_ne hbyte]
      rfl

private theorem step_ping_on (hheld : session.held = true) (hstate : session.state = .idle)
    (hpinged : session.pinged = false) :
    (ping.step : SessionM Stream Id Receipt).on session =
      Message.ping.settle session
        ((Exchange.transact (Message.ping.bytes session.credentials)
          Message.ping.answerSize).on session.link) := by
  have hshape : (Exchange.request .ping [] : Exchange Stream Id Reply) =
      (fun answer => Reply.ofBytes (answer.getD 0 0) (answer.getD 1 0)) <$>
        Exchange.transact (Message.ping.bytes session.credentials) Message.ping.answerSize :=
    Exchange.request_eq_transact (Message.build_ping session.credentials)
  unfold step
  rw [SessionM.on_bind, Session.ping_on hstate hheld hpinged, hshape, Exchange.on_map]
  obtain ⟨result, link, events, htransact, -, houtcome⟩ :=
    Exchange.transact_outcome (Message.ping.bytes session.credentials) Message.ping.answerSize
      session.link
  rw [htransact]
  cases houtcome with
  | answered hlen =>
    obtain ⟨marker, code, rfl⟩ := List.length_eq_two.1 hlen
    have houtcome : Session.pingOutcome (Reply.ofBytes marker code) =
        if [marker, code] = Reply.pingAck then .acknowledged
        else .unexpected [marker, code] := by
      rw [Session.pingOutcome, Reply.toBytes_ofBytes]
    simp only [Except.map, List.getD_cons_zero, List.getD_cons_succ, houtcome]
    rfl
  | unsent | unflushed | unanswered => rfl

private theorem step_sendRecord_on {record : Record} (hheld : session.held = true)
    (hstate : session.state = .idle) :
    ((sendRecord record).step : SessionM Stream Id Receipt).on session =
      (Message.data record).settle session
        ((Exchange.transact ((Message.data record).bytes session.credentials)
          (Message.data record).answerSize).on session.link) := by
  have hshape : (Exchange.request .data record.encodePresent : Exchange Stream Id Reply) =
      (fun answer => Reply.ofBytes (answer.getD 0 0) (answer.getD 1 0)) <$>
        Exchange.transact ((Message.data record).bytes session.credentials)
          (Message.data record).answerSize :=
    Exchange.request_eq_transact (Message.build_data session.credentials record)
  unfold step
  rw [SessionM.on_bind, Session.sendRecord_on record hstate hheld, hshape, Exchange.on_map]
  rcases Exchange.on _ session.link with ⟨error | answer, link⟩
  · rfl
  · simp only [Except.map, Message.settle, Message.complaint?]
    by_cases hack : answer.getD 0 0 = 0x03
    · have hreply : Reply.ofBytes (answer.getD 0 0) (answer.getD 1 0) =
          .ack (.ofByte (answer.getD 1 0)) := if_pos hack
      rw [hreply, if_pos hack]
      rfl
    rw [if_neg hack]
    by_cases herror : answer.getD 0 0 = 0x10
    · have hreply : Reply.ofBytes (answer.getD 0 0) (answer.getD 1 0) =
          .serverError (answer.getD 1 0) := (if_neg hack).trans (if_pos herror)
      rw [hreply, if_pos herror]
      rfl
    · have hreply : Reply.ofBytes (answer.getD 0 0) (answer.getD 1 0) =
          .malformed (answer.getD 0 0) (answer.getD 1 0) := (if_neg hack).trans (if_neg herror)
      rw [hreply, if_neg herror]
      rfl

/-- A call that is right exchanges its message, and the session goes on from the result. -/
theorem step_on {message : Message} (hheld : session.held = true)
    (hmessage : call.message? session = some message) :
    (call.step : SessionM Stream Id Receipt).on session =
      message.settle session
        ((Exchange.transact (message.bytes session.credentials) message.answerSize).on
          session.link) := by
  cases call with
  | handshake nonce =>
    obtain ⟨hstate, hmessage⟩ := Option.ite_none_right_eq_some.1 hmessage
    cases hmessage
    exact step_handshake_on hheld hstate
  | ping =>
    obtain ⟨⟨hstate, hpinged⟩, hmessage⟩ := Option.ite_none_right_eq_some.1 hmessage
    cases hmessage
    exact step_ping_on hheld hstate hpinged
  | sendRecord record =>
    obtain ⟨hstate, hmessage⟩ := Option.ite_none_right_eq_some.1 hmessage
    cases hmessage
    exact step_sendRecord_on hheld hstate
  | close => cases hmessage

/-- A call that is right fails without the connection. -/
theorem step_of_released {message : Message} (hheld : session.held = false)
    (hmessage : call.message? session = some message) :
    (call.step : SessionM Stream Id Receipt).on session =
      (.error ⟨message.stage session, .invalidState .released⟩, session.closed) := by
  cases call with
  | handshake nonce =>
    obtain ⟨hstate, hmessage⟩ := Option.ite_none_right_eq_some.1 hmessage
    cases hmessage
    rw [step, SessionM.on_bind, Session.handshake, SessionM.on_bind, Session.expect_on,
      if_pos hstate]
    dsimp only
    rw [SessionM.on_bind, SessionM.on_get]
    dsimp only
    rw [Session.enter_exchange_on_of_released _ _ _ _ hheld]
    rfl
  | ping =>
    obtain ⟨⟨hstate, hpinged⟩, hmessage⟩ := Option.ite_none_right_eq_some.1 hmessage
    cases hmessage
    rw [step, SessionM.on_bind, Session.ping, SessionM.on_bind, Session.expect_on, if_pos hstate]
    dsimp only
    rw [SessionM.on_bind, SessionM.on_get]
    dsimp only
    rw [if_neg (by simp [hpinged]), Session.enter_exchange_on_of_released _ _ _ _ hheld]
    rfl
  | sendRecord record =>
    obtain ⟨hstate, hmessage⟩ := Option.ite_none_right_eq_some.1 hmessage
    cases hmessage
    rw [step, SessionM.on_bind, Session.sendRecord, SessionM.on_bind, SessionM.on_get]
    dsimp only
    rw [SessionM.on_bind, Session.expect_on, if_pos hstate]
    dsimp only
    rw [Session.enter_exchange_on_of_released _ _ _ _ hheld]
    rfl
  | close => cases hmessage

/-- Whatever the state of the session, a call closes it on request, fails and ends it, or sends its
message and is answered so that the session goes on. -/
theorem step_cases (session : Session Stream) (call : Call) :
    (call = .close ∧
      (call.step : SessionM Stream Id Receipt).on session = (.ok .done, session.closed)) ∨
    (∃ e link, (call.step : SessionM Stream Id Receipt).on session =
      (.error e, Session.closed { session with link })) ∨
    ∃ message answer link, call.message? session = some message ∧
      (call.step : SessionM Stream Id Receipt).on session =
        (.ok (message.receipt answer), message.proceed session link) := by
  rcases hmessage : call.message? session with _ | message
  · by_cases hclose : call = .close
    · subst hclose
      refine .inl ⟨rfl, ?_⟩
      rw [step, SessionM.on_bind, Session.close_on]
      rfl
    · obtain ⟨misuse, hmisuse⟩ := (message?_eq_none_iff hclose).1 hmessage
      obtain ⟨stage, -, hfails⟩ := step_of_misuse hmisuse
      exact .inr (.inl ⟨_, session.link, hfails⟩)
  · by_cases hheld : session.held = true
    · rw [step_on hheld hmessage]
      rcases (Exchange.transact (message.bytes session.credentials) message.answerSize).on
        session.link with ⟨error | answer, link⟩
      · exact .inr (.inl ⟨_, link, rfl⟩)
      · cases hcomplaint : message.complaint? answer with
        | none => exact .inr (.inr ⟨message, answer, link, rfl, Message.settle_of_none hcomplaint⟩)
        | some error => exact .inr (.inl ⟨_, link, Message.settle_of_some hcomplaint⟩)
    · rw [Bool.not_eq_true] at hheld
      exact .inr (.inl ⟨_, session.link, step_of_released hheld hmessage⟩)

/-- What a call can return, and how many more data frames are confirmed then. -/
inductive Returns : Call → Receipt → UInt32 → Prop
  | handshake {nonce} : Returns (.handshake nonce) .done 0
  | ping {outcome} : Returns .ping (.ping outcome) 0
  | sendRecord {record code} : Returns (.sendRecord record) (.data code) 1
  | close : Returns .close .done 0

/-- The counter of a session counts the calls that succeed to send a record. -/
theorem returns_of_ok {receipt : Receipt} {after : Session Stream}
    (hstep : (call.step : SessionM Stream Id Receipt).on session = (.ok receipt, after)) :
    ∃ n, call.Returns receipt n ∧ after.framesSent = session.framesSent + n := by
  rcases step_cases session call with
    ⟨rfl, hok⟩ | ⟨e, link, herror⟩ | ⟨message, answer, link, hmessage, hok⟩
  · cases hok.symm.trans hstep
    exact ⟨0, .close, session.closed_framesSent.trans (UInt32.add_zero _).symm⟩
  · cases herror.symm.trans hstep
  · cases hok.symm.trans hstep
    cases call with
    | handshake nonce =>
      obtain ⟨-, hmessage⟩ := Option.ite_none_right_eq_some.1 hmessage
      cases hmessage
      exact ⟨0, .handshake, (UInt32.add_zero _).symm⟩
    | ping =>
      obtain ⟨-, hmessage⟩ := Option.ite_none_right_eq_some.1 hmessage
      cases hmessage
      exact ⟨0, .ping, (UInt32.add_zero _).symm⟩
    | sendRecord record =>
      obtain ⟨-, hmessage⟩ := Option.ite_none_right_eq_some.1 hmessage
      cases hmessage
      exact ⟨1, .sendRecord, rfl⟩
    | close => cases hmessage

/-- A call that fails leaves the counter as it is. -/
theorem framesSent_of_error {e : SessionError} {after : Session Stream}
    (hstep : (call.step : SessionM Stream Id Receipt).on session = (.error e, after)) :
    after.framesSent = session.framesSent := by
  rcases step_cases session call with
    ⟨-, hok⟩ | ⟨e, link, herror⟩ | ⟨message, answer, link, -, hok⟩
  · cases hok.symm.trans hstep
  · cases herror.symm.trans hstep
    exact Session.closed_framesSent _
  · cases hok.symm.trans hstep

/-! ## Transitions -/

theorem perform_of_step {result : Except SessionError Receipt} {after : Session Stream}
    (hstep : (call.step : SessionM Stream Id Receipt).on session = (result, after)) :
    call.perform session = after := congrArg Prod.snd hstep

theorem perform_close (session : Session Stream) : close.perform session = session.closed := by
  unfold perform step
  rw [SessionM.on_bind, Session.close_on]
  rfl

/-- The counter counts no other calls than those that send a record. -/
theorem framesSent_perform (call : Call) (h : ∀ record, call ≠ .sendRecord record)
    (session : Session Stream) :
    (call.perform session).framesSent = session.framesSent := by
  rcases hstep : (call.step : SessionM Stream Id Receipt).on session with ⟨e | receipt, after⟩
  · rw [perform_of_step hstep, framesSent_of_error hstep]
  · obtain ⟨n, hreturns, hsent⟩ := returns_of_ok hstep
    rw [perform_of_step hstep, hsent]
    cases hreturns with
    | sendRecord => exact absurd rfl (h _)
    | handshake | ping | close => exact UInt32.add_zero _

theorem perform_handshake (nonce : Nonce) (session : Session Stream) :
    (handshake nonce).perform session =
      ((Session.handshake nonce : SessionM Stream Id Unit).on session).2 := by
  rw [perform, step, SessionM.on_bind]
  rcases (Session.handshake nonce : SessionM Stream Id Unit).on session with ⟨_ | _, _⟩ <;> rfl

theorem perform_ping (session : Session Stream) :
    ping.perform session = ((Session.ping : SessionM Stream Id PingOutcome).on session).2 := by
  rw [perform, step, SessionM.on_bind]
  rcases (Session.ping : SessionM Stream Id PingOutcome).on session with ⟨_ | _, _⟩ <;> rfl

/-- What a call does is one of the transitions. -/
theorem transition (call : Call) (hheld : session.held = true ↔ session.state ≠ .closed) :
    Transition session call
      ((call.step : SessionM Stream Id Receipt).on session).1.toOption
      (call.perform session) := by
  unfold perform
  rcases hmessage : call.message? session with _ | message
  · by_cases hclose : call = .close
    · subst hclose
      unfold step
      rw [SessionM.on_bind, Session.close_on]
      exact .closed rfl
    · obtain ⟨misuse, hmisuse⟩ := (message?_eq_none_iff hclose).1 hmessage
      obtain ⟨stage, -, hstep⟩ := step_of_misuse hmisuse
      rw [hstep]
      exact .refused hclose hmessage
  · obtain ⟨result, link, events, htransact, hlog, houtcome⟩ :=
      Exchange.transact_outcome (message.bytes session.credentials) message.answerSize session.link
    rw [step_on (held_of_message? hheld hmessage) hmessage, htransact]
    rcases result with error | answer
    · exact .broken hmessage (Message.broken_of_outcome houtcome) hlog
    · cases houtcome with
      | answered hlen =>
        have hcontinues := Message.complaint?_eq_none_iff hlen
        cases hcomplaint : message.complaint? answer with
        | none =>
          rw [Message.settle_of_none hcomplaint]
          exact .answered hmessage (hcontinues.1 hcomplaint) hlog
        | some error =>
          rw [Message.settle_of_some hcomplaint]
          refine .broken hmessage (.unanswered (Nat.le_of_eq hlen) fun hcont => ?_) hlog
          rw [hcontinues.2 hcont] at hcomplaint
          cases hcomplaint

variable {after : Session Stream}

theorem transition_ok (hheld : session.held = true ↔ session.state ≠ .closed) {receipt : Receipt}
    (hstep : (call.step : SessionM Stream Id Receipt).on session = (.ok receipt, after)) :
    Transition session call (some receipt) after := by
  have htransition := call.transition hheld
  rwa [perform, hstep] at htransition

theorem transition_error (hheld : session.held = true ↔ session.state ≠ .closed) {e : SessionError}
    (hstep : (call.step : SessionM Stream Id Receipt).on session = (.error e, after)) :
    Transition session call none after := by
  have htransition := call.transition hheld
  rwa [perform, hstep] at htransition

end Call

end TelemetryLink
