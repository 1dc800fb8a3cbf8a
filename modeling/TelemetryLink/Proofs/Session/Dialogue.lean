import TelemetryLink.Proofs.Session.Script

/-!
# What a session said and heard

A dialogue lists the messages of a session with their answers. `Session.Accounts` ties the fields of
a session and the log of its connection to a dialogue; it is the invariant from which everything
about sessions is read off.

- `Accounts.new`: it holds of a session over a fresh connection, with the empty dialogue.
- `Accounts.closed`, `Accounts.answered`, `Accounts.broken`: it is preserved by each transition.
- `Accounts.performAll`: so it holds after any calls, and the dialogue has grown by exactly the
  messages of these calls.
-/

namespace TelemetryLink

/-- A message with the answer that let the session go on. -/
structure Turn where
  /-- What was sent. -/
  message : Message
  /-- What was read. -/
  answer : Bytes

/-- The code of the answer to a data frame. -/
def Turn.code? (turn : Turn) : Option UInt8 :=
  match turn.message with
  | .data _ => some (turn.answer.getD 1 0)
  | _ => none

/-- What a call returns tells the code of the answer. -/
theorem Message.unexpectedCode?_receipt (message : Message) (answer : Bytes) :
    (message.receipt answer).unexpectedCode? =
      (Turn.code? ⟨message, answer⟩).filter (· ≠ 0x01) := by
  cases message with
  | handshake nonce => rfl
  | ping => rfl
  | data record =>
    simp only [Message.receipt, Receipt.unexpectedCode?, Turn.code?]
    generalize answer.getD 1 0 = code
    unfold AckCode.ofByte
    split
    next h => simp [h, Option.filter]
    next h =>
      split
      next h' => simp [h', AckCode.toByte, Option.filter]
      next => simp [h, AckCode.toByte, Option.filter]

/-- What a session said and heard. -/
structure Dialogue where
  /-- The messages that were answered, oldest first. -/
  turns : List Turn := []
  /-- The message whose exchange ended the session, and what came of it. -/
  broken : Option (Message × Log) := none

namespace Dialogue

variable (credentials : Credentials) (dialogue : Dialogue)

/-- The messages that were answered. -/
def answered : List Message := dialogue.turns.map Turn.message

/-- All messages. -/
def messages : List Message := dialogue.answered ++ (dialogue.broken.map Prod.fst).toList

/-- The events of the messages that were answered. -/
def exchanges (turns : List Turn) : Log :=
  turns.flatMap fun turn => turn.message.exchanged credentials turn.answer

/-- The events of all messages. -/
def events : Log := exchanges credentials dialogue.turns ++ dialogue.broken.elim [] Prod.snd

/-- The dialogue with one more turn. -/
def answer (message : Message) (answer : Bytes) : Dialogue :=
  { dialogue with turns := dialogue.turns ++ [⟨message, answer⟩] }

/-- The dialogue with the message that ended it. -/
def breakOff (message : Message) (events : Log) : Dialogue :=
  { dialogue with broken := some (message, events) }

@[simp]
theorem answered_answer (message : Message) (answer : Bytes) :
    (dialogue.answer message answer).answered = dialogue.answered ++ [message] := by
  simp [Dialogue.answer, answered]

variable {dialogue}

theorem messages_eq (hbroken : dialogue.broken = none) :
    dialogue.messages = dialogue.answered := by
  simp [messages, hbroken]

theorem messages_answer (hbroken : dialogue.broken = none) (message : Message) (answer : Bytes) :
    (dialogue.answer message answer).messages = dialogue.messages ++ [message] := by
  rw [messages_eq hbroken, messages_eq (by exact hbroken), answered_answer]

theorem messages_breakOff (hbroken : dialogue.broken = none) (message : Message) (events : Log) :
    (dialogue.breakOff message events).messages = dialogue.messages ++ [message] := by
  rw [messages_eq hbroken]
  rfl

theorem events_answer (hbroken : dialogue.broken = none) (message : Message) (answer : Bytes) :
    (dialogue.answer message answer).events credentials =
      dialogue.events credentials ++ message.exchanged credentials answer := by
  simp [events, exchanges, Dialogue.answer, hbroken]

theorem events_breakOff (hbroken : dialogue.broken = none) (message : Message) (events : Log) :
    (dialogue.breakOff message events).events credentials =
      dialogue.events credentials ++ events := by
  simp [Dialogue.events, breakOff, hbroken]

end Dialogue

/-! ## When a message is sent -/

/-- What a session must be ready for to send a message. -/
def Message.Allowed (session : Session Stream) : Message → Prop
  | handshake _ => session.state = .connecting
  | ping => session.state = .idle ∧ session.pinged = false
  | data _ => session.state = .idle

/-- The message that a call sends if it is right. -/
def Call.message : Call → Option Message
  | handshake nonce => some (.handshake nonce)
  | ping => some .ping
  | sendRecord record => some (.data record)
  | close => none

theorem Call.message?_eq_some_iff (call : Call) (session : Session Stream) (message : Message) :
    call.message? session = some message ↔
      call.message = some message ∧ message.Allowed session := by
  cases call
  case close => simp [Call.message?, Call.message]
  -- The other three differ only in the condition, which is that of their message.
  all_goals
    rw [Call.message?, Call.message, Option.ite_none_right_eq_some, and_comm]
    exact and_congr_right fun h => by cases h; exact Iff.rfl

/-- The messages that calls send one after another. -/
def Call.messages : List Call → Session Stream → List Message
  | [], _ => []
  | call :: calls, session =>
    (call.message? session).toList ++ messages calls (call.perform session)

/-- Messages that start with a handshake, if there are any, and hold no other. -/
def Message.Opened (messages : List Message) : Prop :=
  messages = [] ∨ ∃ nonce rest, messages = .handshake nonce :: rest ∧
    ∀ message ∈ rest, message.isHandshake = false

theorem Message.Opened.snoc {messages : List Message} (h : Message.Opened messages)
    (hne : messages ≠ []) {message : Message} (hmessage : message.isHandshake = false) :
    Message.Opened (messages ++ [message]) := by
  rcases h with h | ⟨nonce, rest, rfl, hrest⟩
  · exact absurd h hne
  · refine .inr ⟨nonce, rest ++ [message], rfl, fun other hother => ?_⟩
    rcases List.mem_append.1 hother with hother | hother
    · exact hrest other hother
    · rw [List.mem_singleton.1 hother, hmessage]

/-! ## The invariant -/

/-- A dialogue accounts for a session: the connection's log and the session's fields are what this
dialogue makes them. -/
structure Session.Accounts (session : Session Stream) (dialogue : Dialogue) : Prop where
  /-- The log is the dialogue, and one release when the connection is no longer held. -/
  log : session.link.log =
    dialogue.events session.credentials ++ if session.held then [] else [.released]
  /-- The connection is held until the session is closed. -/
  held : session.held = true ↔ session.state ≠ .closed
  /-- Between calls a session is new, or was accepted and nothing went wrong, or is closed. -/
  phase : (session.state = .connecting ∧ dialogue = {}) ∨
    (session.state = .idle ∧ dialogue.turns ≠ [] ∧ dialogue.broken = none) ∨
    session.state = .closed
  /-- The handshake comes first, and once. -/
  opened : Message.Opened dialogue.messages
  /-- Every turn let the session go on. -/
  continues : ∀ turn ∈ dialogue.turns, turn.message.Continues turn.answer
  /-- The last message did not. -/
  breaks : ∀ message events, dialogue.broken = some (message, events) →
    message.Broken session.credentials events
  /-- The ping is remembered when it was answered. -/
  pinged : dialogue.answered.count .ping = if session.pinged then 1 else 0
  /-- There is one ping at most. -/
  pings : dialogue.messages.count .ping ≤ 1
  /-- The counter counts the data frames that were answered. -/
  framesSent : session.framesSent = .ofNat (dialogue.answered.filterMap Message.record?).length

namespace Session.Accounts

variable {session : Session Stream} {dialogue : Dialogue}

/-- A session over a connection that nothing was done to has an empty dialogue. -/
theorem new (link : Stream) (credentials : Credentials) (hlink : link.log = []) :
    (Session.new link credentials).Accounts {} where
  log := hlink
  held := by simp [Session.new]
  phase := .inl ⟨rfl, rfl⟩
  opened := .inl rfl
  continues := by simp
  breaks := by simp
  pinged := rfl
  pings := by simp [Dialogue.messages, Dialogue.answered]
  framesSent := rfl

/-! ### Before a message -/

theorem of_connecting (h : session.Accounts dialogue) (hstate : session.state = .connecting) :
    dialogue = {} := by
  rcases h.phase with ⟨-, hdialogue⟩ | ⟨hidle, -⟩ | hclosed
  · exact hdialogue
  · simp [hstate] at hidle
  · simp [hstate] at hclosed

theorem of_idle (h : session.Accounts dialogue) (hstate : session.state = .idle) :
    dialogue.turns ≠ [] ∧ dialogue.broken = none := by
  rcases h.phase with ⟨hconnecting, -⟩ | ⟨-, hdialogue⟩ | hclosed
  · simp [hstate] at hconnecting
  · exact hdialogue
  · simp [hstate] at hclosed

/-- A session that may send a message holds its connection, and nothing went wrong so far. -/
theorem ready (h : session.Accounts dialogue) {message : Message}
    (hallowed : message.Allowed session) :
    session.held = true ∧ dialogue.broken = none ∧
      (dialogue = {} ∧ message.isHandshake = true ∨
        dialogue.turns ≠ [] ∧ message.isHandshake = false) := by
  have hheld : session.state ≠ .closed → session.held = true := h.held.2
  cases message with
  | handshake nonce =>
    have hstate : session.state = .connecting := hallowed
    have hnew := h.of_connecting hstate
    exact ⟨hheld (by simp [hstate]), by rw [hnew], .inl ⟨hnew, rfl⟩⟩
  | ping =>
    have hstate : session.state = .idle := hallowed.1
    obtain ⟨hturns, hbroken⟩ := h.of_idle hstate
    exact ⟨hheld (by simp [hstate]), hbroken, .inr ⟨hturns, rfl⟩⟩
  | data record =>
    have hstate : session.state = .idle := hallowed
    obtain ⟨hturns, hbroken⟩ := h.of_idle hstate
    exact ⟨hheld (by simp [hstate]), hbroken, .inr ⟨hturns, rfl⟩⟩

/-- The messages stay in order. -/
theorem opened_snoc (h : session.Accounts dialogue) {message : Message}
    (hallowed : message.Allowed session) :
    Message.Opened (dialogue.messages ++ [message]) := by
  obtain ⟨-, hbroken, ⟨rfl, hmessage⟩ | ⟨hturns, hmessage⟩⟩ := h.ready hallowed
  · cases message with
    | handshake nonce => exact .inr ⟨nonce, [], rfl, by simp⟩
    | ping => simp [Message.isHandshake] at hmessage
    | data record => simp [Message.isHandshake] at hmessage
  · -- The session is idle, so that the handshake stands there already.
    have hne : dialogue.messages ≠ [] := by
      simpa [Dialogue.messages_eq hbroken, Dialogue.answered] using hturns
    exact h.opened.snoc hne hmessage

/-- There is no second ping. -/
theorem pings_snoc (h : session.Accounts dialogue) {message : Message}
    (hallowed : message.Allowed session) :
    (dialogue.messages ++ [message]).count .ping ≤ 1 := by
  have hbroken := (h.ready hallowed).2.1
  have hpings := h.pings
  rw [List.count_append]
  cases message with
  | handshake nonce => simpa using hpings
  | ping =>
    -- The flag says that no ping was answered, and an unanswered one would have ended the session.
    have hnone : dialogue.answered.count .ping = 0 := by simp [h.pinged, hallowed.2]
    simp [Dialogue.messages_eq hbroken, hnone]
  | data record => simpa using hpings

/-! ### After a message -/

/-- The end of a session adds one release to the log. -/
theorem closed (h : session.Accounts dialogue) : session.closed.Accounts dialogue where
  log := by
    rw [closed_credentials, closed_held]
    have hlog := h.log
    unfold Session.closed
    split at hlog
    next hheld => simp [hheld, Link.release, Stream.release, Stream.record, hlog]
    next hheld => simp [hheld, hlog]
  held := by simp
  phase := .inr (.inr (closed_state session))
  opened := h.opened
  continues := h.continues
  breaks := by
    rw [closed_credentials]
    exact h.breaks
  pinged := by
    rw [closed_pinged]
    exact h.pinged
  pings := h.pings
  framesSent := by
    rw [closed_framesSent]
    exact h.framesSent

/-- A message whose answer lets the session go on is one more turn. -/
theorem answered (h : session.Accounts dialogue) {message : Message} {answer : Bytes}
    {link : Stream} (hallowed : message.Allowed session) (hcont : message.Continues answer)
    (hlog : link.log = session.link.log ++ message.exchanged session.credentials answer) :
    (message.proceed session link).Accounts (dialogue.answer message answer) := by
  obtain ⟨hheld, hbroken, -⟩ := h.ready hallowed
  -- Every message leads to the same state of an open session.
  have hnext : (message.proceed session link).link = link ∧
      (message.proceed session link).held = true ∧
      (message.proceed session link).state = .idle ∧
      (message.proceed session link).credentials = session.credentials := by
    cases message <;> exact ⟨rfl, hheld, rfl, rfl⟩
  obtain ⟨hlink, hheld', hstate, hcredentials⟩ := hnext
  have hmessages := Dialogue.messages_answer hbroken message answer
  exact {
    log := by
      rw [hlink, hheld', hcredentials, Dialogue.events_answer _ hbroken, hlog, h.log, hheld]
      simp
    held := by simp [hheld', hstate]
    phase := .inr (.inl ⟨hstate, by simp [Dialogue.answer], hbroken⟩)
    opened := by
      rw [hmessages]
      exact h.opened_snoc hallowed
    continues := by
      intro turn hturn
      rcases List.mem_append.1 hturn with hturn | hturn
      · exact h.continues turn hturn
      · rw [List.mem_singleton.1 hturn]
        exact hcont
    breaks := by
      intro message' events hsome
      rw [show (dialogue.answer message answer).broken = dialogue.broken from rfl, hbroken] at hsome
      cases hsome
    pinged := by
      rw [Dialogue.answered_answer, List.count_append, h.pinged]
      cases message with
      | handshake nonce => rfl
      | ping => simp [Message.proceed, hallowed.2]
      | data record => rfl
    pings := by
      rw [hmessages]
      exact h.pings_snoc hallowed
    framesSent := by
      rw [Dialogue.answered_answer, List.filterMap_append, List.length_append]
      cases message with
      | handshake nonce => exact h.framesSent
      | ping => exact h.framesSent
      | data record =>
        rw [UInt32.ofNat_add, ← h.framesSent]
        rfl }

/-- A message whose exchange ends the session is the last one. -/
theorem broken (h : session.Accounts dialogue) {message : Message} {events : Log} {link : Stream}
    (hallowed : message.Allowed session) (hevents : message.Broken session.credentials events)
    (hlog : link.log = session.link.log ++ events) :
    (Session.closed { session with link }).Accounts (dialogue.breakOff message events) := by
  obtain ⟨hheld, hbroken, -⟩ := h.ready hallowed
  have hmessages := Dialogue.messages_breakOff hbroken message events
  exact {
    log := by
      rw [closed_credentials, closed_held, Dialogue.events_breakOff _ hbroken]
      simp [Session.closed, hheld, Link.release, Stream.release, Stream.record, hlog, h.log]
    held := by simp
    phase := .inr (.inr (closed_state _))
    opened := by
      rw [hmessages]
      exact h.opened_snoc hallowed
    continues := h.continues
    breaks := by
      rintro message' events' ⟨⟩
      rw [closed_credentials]
      exact hevents
    pinged := by
      rw [closed_pinged]
      exact h.pinged
    pings := by
      rw [hmessages]
      exact h.pings_snoc hallowed
    framesSent := by
      rw [closed_framesSent]
      exact h.framesSent }

/-! ### After calls -/

/-- A call keeps the account. The dialogue grows by the message that the call sends. -/
theorem perform (h : session.Accounts dialogue) (call : Call) :
    ∃ next, (call.perform session).Accounts next ∧
      (call.perform session).credentials = session.credentials ∧
      next.messages = dialogue.messages ++ (call.message? session).toList := by
  obtain ⟨receipt, htransition⟩ : ∃ receipt, Transition session call receipt
    (call.perform session) := ⟨_, call.transition h.held⟩
  generalize call.perform session = after at htransition ⊢
  -- Only the last two transitions send a message.
  cases htransition with
  | closed hclose =>
    subst hclose
    exact ⟨dialogue, h.closed, closed_credentials session, by simp [Call.message?]⟩
  | refused _ hnone =>
    exact ⟨dialogue, h.closed, closed_credentials session, by simp [hnone]⟩
  | @answered message answer link hsome hcont hlog =>
    have hallowed := ((call.message?_eq_some_iff session message).1 hsome).2
    refine ⟨_, h.answered hallowed hcont hlog, by cases message <;> rfl, ?_⟩
    rw [Dialogue.messages_answer (h.ready hallowed).2.1, hsome]
    rfl
  | @broken message events link hsome hevents hlog =>
    have hallowed := ((call.message?_eq_some_iff session message).1 hsome).2
    refine ⟨_, h.broken hallowed hevents hlog, closed_credentials _, ?_⟩
    rw [Dialogue.messages_breakOff (h.ready hallowed).2.1, hsome]
    rfl

/-- A session is accounted for after a call, however the call ends. -/
theorem of_step (h : session.Accounts dialogue) {call : Call}
    {result : Except SessionError Receipt} {after : Session Stream}
    (hstep : (call.step : SessionM Stream Id Receipt).on session = (result, after)) :
    ∃ next, after.Accounts next := by
  obtain ⟨next, hafter, -⟩ := h.perform call
  rw [Call.perform_of_step hstep] at hafter
  exact ⟨next, hafter⟩

/-- Calls keep the account. The dialogue grows by their messages. -/
theorem performAll (h : session.Accounts dialogue) (calls : List Call) :
    ∃ next, (Call.performAll calls session).Accounts next ∧
      (Call.performAll calls session).credentials = session.credentials ∧
      next.messages = dialogue.messages ++ Call.messages calls session := by
  induction calls generalizing session dialogue with
  | nil => exact ⟨dialogue, h, rfl, by simp [Call.messages]⟩
  | cons call calls ih =>
    obtain ⟨next, hnext, hcredentials, hmessages⟩ := h.perform call
    obtain ⟨last, hlast, hcredentials', hmessages'⟩ := ih hnext
    refine ⟨last, hlast, hcredentials'.trans hcredentials, ?_⟩
    rw [hmessages', hmessages, Call.messages, List.append_assoc]

/-! ### After a sequence -/

/-- A call that succeeds adds its message, if it has one, as a turn. -/
private theorem step_ok (h : session.Accounts dialogue) {call : Call} {receipt : Receipt}
    {after : Session Stream}
    (hstep : (call.step : SessionM Stream Id Receipt).on session = (.ok receipt, after)) :
    ∃ turns, after.Accounts { dialogue with turns := dialogue.turns ++ turns } ∧
      after.credentials = session.credentials ∧
      turns.map Turn.message = call.message.toList ∧
      [receipt].filterMap Receipt.unexpectedCode? =
        turns.filterMap fun turn => turn.code?.filter (· ≠ 0x01) := by
  cases Call.transition_ok h.held hstep with
  | closed hclose =>
    subst hclose
    exact ⟨[], by simpa using h.closed, closed_credentials session, rfl, rfl⟩
  | @answered message answer link hsome hcont hlog =>
    obtain ⟨hmessage, hallowed⟩ := (call.message?_eq_some_iff session message).1 hsome
    refine ⟨[⟨message, answer⟩], h.answered hallowed hcont hlog, by cases message <;> rfl,
      by rw [hmessage]; rfl, ?_⟩
    simp only [List.filterMap_cons, Message.unexpectedCode?_receipt, List.filterMap_nil]

/-- A call that fails ends the session, at most with its message as the last one. -/
private theorem step_error (h : session.Accounts dialogue) {call : Call} {e : SessionError}
    {after : Session Stream}
    (hstep : (call.step : SessionM Stream Id Receipt).on session = (.error e, after)) :
    call ≠ .close ∧ after.state = .closed ∧ after.credentials = session.credentials ∧
      ∃ broken, after.Accounts { dialogue with broken } ∧
        (broken = dialogue.broken ∨
          dialogue.broken = none ∧ broken.map Prod.fst = call.message) := by
  cases Call.transition_error h.held hstep with
  | refused hclose =>
    exact ⟨hclose, closed_state session, closed_credentials session, dialogue.broken, h.closed,
      .inl rfl⟩
  | @broken message events link hsome hevents hlog =>
    obtain ⟨hmessage, hallowed⟩ := (call.message?_eq_some_iff session message).1 hsome
    have hclose : call ≠ .close := by
      rintro rfl
      cases hmessage
    exact ⟨hclose, closed_state _, closed_credentials _, some (message, events),
      h.broken hallowed hevents hlog, .inr ⟨(h.ready hallowed).2.1, hmessage.symm⟩⟩

/-- A sequence that succeeds adds all its messages as turns. -/
theorem sequence_ok (h : session.Accounts dialogue) {calls : List Call} {receipts : List Receipt}
    {after : Session Stream}
    (hrun : (Call.sequence calls : SessionM Stream Id (List Receipt)).on session =
      (.ok receipts, after)) :
    ∃ turns, after.Accounts { dialogue with turns := dialogue.turns ++ turns } ∧
      after.credentials = session.credentials ∧
      turns.map Turn.message = calls.filterMap Call.message ∧
      receipts.filterMap Receipt.unexpectedCode? =
        turns.filterMap fun turn => turn.code?.filter (· ≠ 0x01) := by
  induction calls generalizing session dialogue receipts with
  | nil =>
    cases hrun
    exact ⟨[], by simpa using h, rfl, rfl, rfl⟩
  | cons call calls ih =>
    obtain ⟨receipt, rest, next, hstep, hrest, rfl⟩ := Call.sequence_cons_ok hrun
    obtain ⟨turns, hnext, hcredentials, hmessages, hcodes⟩ := h.step_ok hstep
    obtain ⟨more, hlast, hcredentials', hmessages', hcodes'⟩ := ih hnext hrest
    refine ⟨turns ++ more, by simpa using hlast, hcredentials'.trans hcredentials, ?_, ?_⟩
    · rw [List.map_append, hmessages, hmessages', ← List.singleton_append, List.filterMap_append]
      cases call <;> rfl
    · rw [← List.singleton_append, List.filterMap_append, List.filterMap_append, hcodes, hcodes']

/-- A sequence that fails adds the messages before the call that failed as turns, and at most the
message of that call as the last one. -/
theorem sequence_error (h : session.Accounts dialogue) {calls : List Call} {e : SessionError}
    {after : Session Stream}
    (hrun : (Call.sequence calls : SessionM Stream Id (List Receipt)).on session =
      (.error e, after)) :
    ∃ before call rest turns broken, calls = before ++ call :: rest ∧ call ≠ .close ∧
      after.state = .closed ∧ after.credentials = session.credentials ∧
      turns.map Turn.message = before.filterMap Call.message ∧
      after.Accounts { turns := dialogue.turns ++ turns, broken } ∧
      (broken = dialogue.broken ∨
        dialogue.broken = none ∧ broken.map Prod.fst = call.message) := by
  obtain ⟨before, call, rest, receipts, reached, rfl, hbefore, hstep⟩ := Call.sequence_error hrun
  obtain ⟨turns, hreached, hcredentials, hmessages, -⟩ := h.sequence_ok hbefore
  obtain ⟨hclose, hstate, hcredentials', broken, hafter, hbroken⟩ := hreached.step_error hstep
  exact ⟨before, call, rest, turns, broken, rfl, hclose, hstate, hcredentials'.trans hcredentials,
    hmessages, hafter, hbroken⟩

/-! ### After operations -/

/-- After any operations on a new session, whatever the stream does, a dialogue accounts for it. -/
theorem performAll_new (credentials : Credentials) (reads : List ReadStep)
    (writes : List WriteStep) (flushes : List (Option Fault)) (operations : List Operation) :
    let session := Operation.performAll operations
      (Session.new (Stream.mk reads writes flushes []) credentials)
    session.credentials = credentials ∧ ∃ dialogue, session.Accounts dialogue := by
  intro session
  obtain ⟨dialogue, haccounts, hcredentials, -⟩ :=
    (new (Stream.mk reads writes flushes []) credentials rfl).performAll
      (Operation.callsOf operations _)
  rw [← Operation.performAll_eq] at haccounts hcredentials
  exact ⟨hcredentials, dialogue, haccounts⟩

end Session.Accounts

end TelemetryLink
