import TelemetryLink.Proofs.Session.Wire

/-!
# Stop and wait

A session sends one message at a time. `StopAndWait` says what this means for the log of its
connection: the handshake comes first, then at most one ping and the data frames of the records
that were sent in the idle state, in the order of the calls; a message is offered only when every
message before it was accepted as a whole, flushed, and answered by the answer that it waits for;
and no octet is read that belongs to no answer.

- `Operation.stopAndWait_performAll`: this holds after any operations over any stream.
-/

namespace TelemetryLink

/-- The log of a connection on which these messages were sent, one at a time. -/
structure StopAndWait (credentials : Credentials) (sent : List Message) (log : Log) : Prop where
  /-- The first message is a handshake, and no other is. -/
  opened : Message.Opened sent
  /-- There is one ping at most. -/
  pings : sent.count .ping ≤ 1
  /-- A handshake has 52 octets, a ping 5, and a data frame 30. -/
  sizes : ∀ message ∈ sent, (message.bytes credentials).length = message.size
  /-- The stream accepted a prefix of the messages one after another. -/
  written : Log.written log <+: (sent.map (Message.bytes credentials)).flatten
  /-- Each message is offered once, in order. -/
  offers : Log.offers log = sent.map (Message.bytes credentials)
  /-- A message is offered after complete exchanges of all messages before it. -/
  waits : ∀ before offered taken after, log = before ++ .wrote offered taken :: after →
    ∃ turns message later, sent = turns.map Turn.message ++ message :: later ∧
      offered = message.bytes credentials ∧
      before = Dialogue.exchanges credentials turns ∧
      ∀ turn ∈ turns, turn.message.Continues turn.answer
  /-- With the handshake one octet is read at most, and with every later message two more. -/
  reads : ∀ before, before <+: log →
    (Log.received before).length ≤ 2 * (Log.offers before).length - 1

/-! ## Records sent -/

namespace Call

/-- The record that a call sends, if it is made in the idle state. -/
def idleRecord? (session : Session Stream) : Call → Option Record
  | sendRecord record => if session.state = .idle then some record else none
  | _ => none

/-- The records that calls send in the idle state. -/
def idleRecords : List Call → Session Stream → List Record
  | [], _ => []
  | call :: calls, session =>
    (call.idleRecord? session).toList ++ idleRecords calls (call.perform session)

/-- The data frames among the messages of calls are those of the records. -/
theorem filterMap_record?_messages (calls : List Call) (session : Session Stream) :
    (messages calls session).filterMap Message.record? = idleRecords calls session := by
  induction calls generalizing session with
  | nil => rfl
  | cons call calls ih =>
    rw [messages, idleRecords, List.filterMap_append, ih]
    congr 1
    cases call with
    | handshake nonce =>
      simp only [message?, idleRecord?]
      split <;> rfl
    | ping =>
      simp only [message?, idleRecord?]
      split <;> rfl
    | sendRecord record =>
      simp only [message?, idleRecord?]
      split <;> rfl
    | close => rfl

end Call

/-! ## Sessions -/

/-- The messages of a session are sent one at a time. -/
theorem Session.Accounts.stopAndWait {session : Session Stream} {dialogue : Dialogue}
    (h : session.Accounts dialogue) :
    StopAndWait session.credentials dialogue.messages session.link.log where
  opened := h.opened
  pings := h.pings
  sizes := fun message _ => message.length_bytes session.credentials
  written := h.written_log
  offers := h.offers_log
  waits := by
    intro before offered taken after hsplit
    obtain ⟨done, message, later, hdone, hsent, hbefore, hoffered⟩ := h.before_offer hsplit
    exact ⟨done, message, later, hsent, hoffered, hbefore,
      fun turn hturn => h.continues turn (hdone.subset hturn)⟩
  reads := by
    intro before hbefore
    calc (Log.received before).length
        ≤ Message.budget (dialogue.messages.take (Log.offers before).length) :=
          h.received_prefix hbefore
      _ ≤ 2 * (Log.offers before).length - 1 := h.opened.budget_take _

/-- After any operations on a new session, whatever the stream does, the log of the connection
shows messages sent one at a time. Their data frames carry the records sent in the idle state, by
single calls or by runs, in the order of the calls. -/
theorem Operation.stopAndWait_performAll (credentials : Credentials) (reads : List ReadStep)
    (writes : List WriteStep) (flushes : List (Option Fault)) (operations : List Operation) :
    let session := Session.new (Stream.mk reads writes flushes []) credentials
    ∃ sent : List Message,
      sent.filterMap Message.record? = Call.idleRecords (callsOf operations session) session ∧
      StopAndWait credentials sent (performAll operations session).link.log := by
  intro session
  have hnew : session.Accounts {} := Session.Accounts.new _ credentials rfl
  obtain ⟨dialogue, haccounts, hcredentials, hmessages⟩ :=
    hnew.performAll (callsOf operations session)
  rw [← performAll_eq] at haccounts hcredentials
  refine ⟨dialogue.messages, ?_, ?_⟩
  · rw [hmessages, List.filterMap_append, Call.filterMap_record?_messages]
    rfl
  · have hlog := haccounts.stopAndWait
    rwa [hcredentials] at hlog

end TelemetryLink
