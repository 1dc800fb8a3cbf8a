import TelemetryLink.Proofs.Session.Dialogue
import TelemetryLink.Proofs.Stream.Log

/-!
# Dialogues on the wire

What a reader of the log finds of a dialogue. The views of `TelemetryLink.Proofs.Stream.Log` are
computed on the log of a session that a dialogue accounts for.

- `offers_log`: the messages of the dialogue are what was offered, one after another.
- `answers_log`: a turn is an answer, and a broken exchange is none that confirms.
- `before_offer`: when a message is offered, nothing but complete turns went before.
- `received_prefix`: at no time was more read than the answers to the messages so far.
-/

namespace TelemetryLink

variable (credentials : Credentials)

/-! ## Answers to messages -/

namespace Message

variable (message : Message) (answer : Bytes)

/-- An answer confirms a data frame when it lets the session go on, and only then. -/
theorem confirmation?_bytes :
    (message.Continues answer → Log.confirmation? (message.bytes credentials, answer) =
      message.record?.map fun record => (record.encodePresent, answer.getD 1 0)) ∧
    (¬ message.Continues answer →
      Log.confirmation? (message.bytes credentials, answer) = none) := by
  rw [Log.confirmation?, dataPayload?_bytes]
  cases message with
  | handshake nonce => exact ⟨fun _ => rfl, fun _ => rfl⟩
  | ping => exact ⟨fun _ => rfl, fun _ => rfl⟩
  | data record =>
    constructor
    · rintro ⟨code, rfl⟩
      rfl
    · intro hnot
      have hcode : Log.confirmationCode? answer = none := by
        unfold Log.confirmationCode?
        split
        next marker code =>
          split
          next hmarker => exact absurd ⟨code, by rw [hmarker]⟩ hnot
          next => rfl
        next => rfl
      rw [hcode]
      rfl

theorem bytes_eq_ping_iff :
    message.bytes credentials = [0x00, 0x00, 0x00, 0x01, 0x02] ↔ message = .ping := by
  -- The three kinds of messages differ in size.
  constructor
  · intro h
    have hsize := congrArg List.length h
    rw [length_bytes] at hsize
    cases message with
    | handshake nonce => cases hsize
    | ping => rfl
    | data record => cases hsize
  · rintro rfl
    rfl

theorem isPingReply_bytes :
    Log.isPingReply (message.bytes credentials, answer) = true ↔
      message = .ping ∧ message.Continues answer := by
  rw [Log.isPingReply, decide_eq_true_iff, bytes_eq_ping_iff]
  refine and_congr_right ?_
  rintro rfl
  exact Iff.rfl

end Message

/-! ## Broken exchanges -/

namespace Message

variable {credentials} {message : Message} {events : Log}

/-- A broken exchange offers its message once, accepts no more than that, and reads no more than the
answer. -/
theorem Broken.shape (h : message.Broken credentials events) :
    ∃ taken more, events = .wrote (message.bytes credentials) taken :: more ∧
      taken <+: message.bytes credentials ∧ Log.offers more = [] ∧ Log.written more = [] ∧
      (Log.received more).length ≤ message.answerSize := by
  cases h with
  | unsent htaken => exact ⟨_, [], rfl, htaken, rfl, rfl, Nat.zero_le _⟩
  | unflushed => exact ⟨_, [.flushed false], rfl, List.prefix_rfl, rfl, rfl, Nat.zero_le _⟩
  | @unanswered answer hsize hnot =>
    refine ⟨_, [.flushed true, .received answer], rfl, List.prefix_rfl, rfl, rfl, ?_⟩
    simpa [Log.received, Stream.receivedBy] using hsize

theorem Broken.offers (h : message.Broken credentials events) :
    Log.offers events = [message.bytes credentials] := by
  obtain ⟨taken, more, rfl, -, hmore, -⟩ := h.shape
  exact congrArg (List.cons _) hmore

theorem Broken.written_prefix (h : message.Broken credentials events) :
    Log.written events <+: message.bytes credentials := by
  obtain ⟨taken, more, rfl, htaken, -, hmore, -⟩ := h.shape
  rw [← List.singleton_append, Log.written_append, hmore, List.append_nil]
  simpa [Log.written, Stream.sentBy] using htaken

/-- A broken exchange is read as no answer, or as one that does not let the session go on. -/
theorem Broken.answers (h : message.Broken credentials events) (rest : Log)
    (hrest : rest.Silent) :
    Log.answers (events ++ rest) = [] ∨
      ∃ answer, Log.answers (events ++ rest) = [(message.bytes credentials, answer)] ∧
        ¬ message.Continues answer := by
  have hnone := hrest.answersAfter_eq_nil
  cases h with
  | unsent =>
    refine .inl ?_
    simp [Log.answers, Log.answersAfter, hnone]
  | unflushed =>
    refine .inl ?_
    simp [Log.answers, Log.answersAfter, hnone]
  | @unanswered answer hsize hnot =>
    refine .inr ⟨answer, ?_, hnot⟩
    simp [exchanged, Log.answers, Log.answersAfter_exchange, hnone]

end Message

/-! ## Turns -/

/-- Octets in the answers to messages. -/
def Message.budget : List Message → Nat
  | [] => 0
  | message :: messages => message.answerSize + budget messages

theorem Message.budget_le (messages : List Message) : budget messages ≤ 2 * messages.length := by
  induction messages with
  | nil => exact Nat.le_refl 0
  | cons message messages ih =>
    have hsize : message.answerSize ≤ 2 := by cases message <;> simp [answerSize]
    rw [budget, List.length_cons]
    omega

/-- The verdict on the handshake is one octet, and every other answer two. -/
theorem Message.Opened.budget_take {messages : List Message} (h : Opened messages) (n : Nat) :
    budget (messages.take n) ≤ 2 * n - 1 := by
  rcases h with rfl | ⟨nonce, rest, rfl, -⟩
  · simp [budget]
  · cases n with
    | zero => simp [budget]
    | succ n =>
      have hrest := budget_le (rest.take n)
      have hlen := List.length_take_le n rest
      rw [List.take_succ_cons, budget, answerSize]
      omega

namespace Dialogue

theorem offers_exchanges (turns : List Turn) :
    Log.offers (exchanges credentials turns) =
      turns.map fun turn => turn.message.bytes credentials := by
  induction turns with
  | nil => rfl
  | cons turn turns ih =>
    rw [exchanges, List.flatMap_cons, Log.offers_append, ← exchanges, ih]
    rfl

theorem written_exchanges (turns : List Turn) :
    Log.written (exchanges credentials turns) =
      (turns.map fun turn => turn.message.bytes credentials).flatten := by
  induction turns with
  | nil => rfl
  | cons turn turns ih =>
    rw [exchanges, List.flatMap_cons, Log.written_append, ← exchanges, ih]
    simp [Message.exchanged, Log.written, Stream.sentBy]

theorem answers_exchanges (turns : List Turn) (rest : Log) :
    Log.answers (exchanges credentials turns ++ rest) =
      turns.map (fun turn => (turn.message.bytes credentials, turn.answer)) ++
        Log.answers rest := by
  induction turns with
  | nil => rfl
  | cons turn turns ih =>
    rw [exchanges, List.flatMap_cons, ← exchanges, List.append_assoc, List.map_cons,
      List.cons_append, ← ih]
    exact Log.answersAfter_exchange none _ _ _

/-- A message is offered between two turns, or after all of them. -/
theorem before_offer_exchanges (turns : List Turn) {rest before after : Log}
    {offered taken : Bytes}
    (h : exchanges credentials turns ++ rest = before ++ .wrote offered taken :: after) :
    (∃ done turn later, turns = done ++ turn :: later ∧ before = exchanges credentials done ∧
        offered = turn.message.bytes credentials) ∨
      ∃ middle, before = exchanges credentials turns ++ middle ∧
        rest = middle ++ .wrote offered taken :: after := by
  induction turns generalizing before with
  | nil => exact .inr ⟨before, rfl, h⟩
  | cons turn turns ih =>
    rw [exchanges, List.flatMap_cons, ← exchanges, Message.exchanged] at h
    -- The first event offers the message of the first turn, and the next two offer nothing.
    rcases before with _ | ⟨_, _ | ⟨_, _ | ⟨_, before⟩⟩⟩
    · cases h
      exact .inl ⟨[], turn, turns, rfl, rfl, rfl⟩
    · cases h
    · cases h
    · injection h with hwrote h
      injection h with hflushed h
      injection h with hreceived h
      subst hwrote hflushed hreceived
      rcases ih h with ⟨done, later, more, rfl, rfl, hoffered⟩ | ⟨middle, rfl, hrest⟩
      · exact .inl ⟨turn :: done, later, more, rfl, rfl, hoffered⟩
      · exact .inr ⟨middle, rfl, hrest⟩

/-- Turns read no more than the answers to the messages offered so far, when the rest does not. -/
theorem received_exchanges (turns : List Turn) {rest : Log} {tail : List Message}
    (hturns : ∀ turn ∈ turns, turn.answer.length = turn.message.answerSize)
    (hrest : ∀ before, before <+: rest →
      (Log.received before).length ≤ Message.budget (tail.take (Log.offers before).length))
    {before : Log} (hbefore : before <+: exchanges credentials turns ++ rest) :
    (Log.received before).length ≤
      Message.budget ((turns.map Turn.message ++ tail).take (Log.offers before).length) := by
  induction turns generalizing before with
  | nil => exact hrest before hbefore
  | cons turn turns ih =>
    rw [exchanges, List.flatMap_cons, ← exchanges, Message.exchanged] at hbefore
    -- Nothing is read before the third event, which is the answer to the first message.
    rcases before with _ | ⟨_, _ | ⟨_, _ | ⟨_, before⟩⟩⟩ <;>
      simp only [List.cons_append, List.nil_append, List.cons_prefix_cons] at hbefore
    · exact Nat.zero_le _
    · obtain ⟨rfl, -⟩ := hbefore
      exact Nat.zero_le _
    · obtain ⟨rfl, rfl, -⟩ := hbefore
      exact Nat.zero_le _
    · obtain ⟨rfl, rfl, rfl, hbefore⟩ := hbefore
      have hlater := ih (fun other hother => hturns other (List.mem_cons_of_mem _ hother)) hbefore
      have hfirst := hturns turn List.mem_cons_self
      simp only [Log.received, Log.offers, Message.budget, Stream.receivedBy, Log.offeredBy,
        List.flatMap_cons, List.filterMap_cons, List.length_append, List.length_cons,
        List.map_cons, List.cons_append, List.take_succ_cons, List.length_nil] at hlater ⊢
      omega

end Dialogue

/-! ## The log of a session -/

namespace Session.Accounts

variable {session : Session Stream} {dialogue : Dialogue}

/-- After the turns the log holds at most a broken exchange and the release. -/
theorem log_tail (h : session.Accounts dialogue) :
    ∃ events release, session.link.log =
        Dialogue.exchanges session.credentials dialogue.turns ++ (events ++ release) ∧
      Log.Silent release ∧
      (dialogue.broken = none ∧ events = [] ∨
        ∃ message, dialogue.broken = some (message, events) ∧
          message.Broken session.credentials events) := by
  refine ⟨dialogue.broken.elim [] Prod.snd, if session.held then [] else [.released], ?_, ?_, ?_⟩
  · rw [h.log, Dialogue.events, List.append_assoc]
  · split
    · exact .inl rfl
    · exact .inr rfl
  · rcases hbroken : dialogue.broken with _ | ⟨message, events⟩
    · exact .inl ⟨rfl, rfl⟩
    · exact .inr ⟨message, rfl, h.breaks message events hbroken⟩

/-- Exactly the messages of the dialogue are offered, in order. -/
theorem offers_log (h : session.Accounts dialogue) :
    Log.offers session.link.log = dialogue.messages.map (Message.bytes session.credentials) := by
  obtain ⟨events, release, hlog, hrelease, htail⟩ := h.log_tail
  rw [hlog, Log.offers_append, Log.offers_append, Dialogue.offers_exchanges, hrelease.offers_eq_nil,
    Dialogue.messages, Dialogue.answered, List.map_append, List.map_map, List.append_nil]
  rcases htail with ⟨hbroken, rfl⟩ | ⟨message, hbroken, hevents⟩
  · rw [hbroken]
    rfl
  · rw [hbroken, hevents.offers]
    rfl

/-- What was accepted is a prefix of the messages. -/
theorem written_log (h : session.Accounts dialogue) :
    Log.written session.link.log <+:
      (dialogue.messages.map (Message.bytes session.credentials)).flatten := by
  obtain ⟨events, release, hlog, hrelease, htail⟩ := h.log_tail
  rw [hlog, Log.written_append, Log.written_append, Dialogue.written_exchanges,
    hrelease.written_eq_nil, List.append_nil, Dialogue.messages, Dialogue.answered,
    List.map_append, List.map_map, List.flatten_append]
  refine (List.prefix_append_right_inj _).2 ?_
  rcases htail with ⟨hbroken, rfl⟩ | ⟨message, hbroken, hevents⟩
  · exact List.nil_prefix
  · rw [hbroken]
    simpa using hevents.written_prefix

/-- Where nothing broke off, all messages were accepted as a whole. -/
theorem written_log_of_none (h : session.Accounts dialogue) (hbroken : dialogue.broken = none) :
    Log.written session.link.log =
      (dialogue.messages.map (Message.bytes session.credentials)).flatten := by
  obtain ⟨events, release, hlog, hrelease, ⟨-, rfl⟩ | ⟨message, hsome, -⟩⟩ := h.log_tail
  · rw [hlog, List.nil_append, Log.written_append, Dialogue.written_exchanges,
      hrelease.written_eq_nil, List.append_nil, Dialogue.messages_eq hbroken, Dialogue.answered,
      List.map_map]
    rfl
  · rw [hbroken] at hsome
    cases hsome

/-- The data frames begun are those of the dialogue. -/
theorem begun_log (h : session.Accounts dialogue) :
    Log.begun session.link.log =
      (dialogue.messages.filterMap Message.record?).map Record.encodePresent := by
  rw [Log.begun, h.offers_log, List.filterMap_map, List.map_filterMap]
  refine List.filterMap_congr fun message _ => ?_
  exact Message.dataPayload?_bytes session.credentials message

/-- The answers are those of the turns, and at most one more, after which the session did not go
on. -/
theorem answers_log (h : session.Accounts dialogue) :
    ∃ extra, Log.answers session.link.log =
        dialogue.turns.map (fun turn =>
          (turn.message.bytes session.credentials, turn.answer)) ++ extra ∧
      (extra = [] ∨ ∃ (message : Message) (answer : Bytes),
        extra = [(message.bytes session.credentials, answer)] ∧ ¬ message.Continues answer) := by
  obtain ⟨events, release, hlog, hrelease, htail⟩ := h.log_tail
  refine ⟨Log.answers (events ++ release), ?_, ?_⟩
  · rw [hlog, Dialogue.answers_exchanges]
  · rcases htail with ⟨-, rfl⟩ | ⟨message, -, hevents⟩
    · exact .inl (hrelease.answersAfter_eq_nil none)
    · rcases hevents.answers release hrelease with hnone | ⟨answer, hextra, hnot⟩
      · exact .inl hnone
      · exact .inr ⟨message, answer, hextra, hnot⟩

/-- When a message is offered, the events before it are complete turns, those of the messages that
stand before it in the dialogue. -/
theorem before_offer (h : session.Accounts dialogue) {before after : Log}
    {offered taken : Bytes}
    (hsplit : session.link.log = before ++ .wrote offered taken :: after) :
    ∃ done message later, done <+: dialogue.turns ∧
      dialogue.messages = done.map Turn.message ++ message :: later ∧
      before = Dialogue.exchanges session.credentials done ∧
      offered = message.bytes session.credentials := by
  obtain ⟨events, release, hlog, hrelease, htail⟩ := h.log_tail
  rw [hlog] at hsplit
  rcases Dialogue.before_offer_exchanges _ _ hsplit with
    ⟨done, turn, later, hturns, hbefore, hoffered⟩ | ⟨middle, rfl, hrest⟩
  · refine ⟨done, turn.message,
      later.map Turn.message ++ (dialogue.broken.map Prod.fst).toList,
      ⟨turn :: later, hturns.symm⟩, ?_, hbefore, hoffered⟩
    rw [Dialogue.messages, Dialogue.answered, hturns, List.map_append, List.append_assoc]
    rfl
  · have hoffers := congrArg Log.offers hrest
    rw [Log.offers_append, Log.offers_append, hrelease.offers_eq_nil, List.append_nil] at hoffers
    rcases htail with ⟨-, rfl⟩ | ⟨message, hbroken, hevents⟩
    · cases (List.append_eq_nil_iff.1 hoffers.symm).2
    · -- The broken exchange offers once, so that nothing stands before its offer.
      rw [hevents.offers] at hoffers
      obtain ⟨taken', more, rfl, -⟩ := hevents.shape
      rcases middle with _ | ⟨_, middle⟩
      · cases hrest
        refine ⟨dialogue.turns, message, [], List.prefix_rfl, ?_, List.append_nil _, rfl⟩
        rw [Dialogue.messages, hbroken]
        rfl
      · injection hrest with hwrote
        subst hwrote
        cases (List.append_eq_nil_iff.1 (List.cons.inj hoffers).2.symm).2

/-- At no time more octets were read than the answers to the messages offered so far have. -/
theorem received_prefix (h : session.Accounts dialogue) {before : Log}
    (hbefore : before <+: session.link.log) :
    (Log.received before).length ≤
      Message.budget (dialogue.messages.take (Log.offers before).length) := by
  obtain ⟨events, release, hlog, hrelease, htail⟩ := h.log_tail
  rw [hlog] at hbefore
  refine Dialogue.received_exchanges _ _
    (fun turn hturn => Message.length_of_continues (h.continues turn hturn)) ?_ hbefore
  rintro before ⟨later, hbefore⟩
  rcases htail with ⟨-, rfl⟩ | ⟨message, hbroken, hevents⟩
  · have hreceived : Log.received before = [] := by
      have hall := congrArg Log.received hbefore
      rw [Log.received_append, List.nil_append, hrelease.received_eq_nil] at hall
      exact (List.append_eq_nil_iff.1 hall).1
    rw [hreceived]
    exact Nat.zero_le _
  · obtain ⟨taken, more, rfl, -, hoffers, -, hsize⟩ := hevents.shape
    rcases before with _ | ⟨_, before⟩
    · exact Nat.zero_le _
    · rw [List.cons_append, List.cons_append, List.cons.injEq] at hbefore
      obtain ⟨rfl, hbefore⟩ := hbefore
      have hmore := congrArg Log.received hbefore
      have hnone := congrArg Log.offers hbefore
      rw [Log.received_append, Log.received_append, hrelease.received_eq_nil,
        List.append_nil] at hmore
      rw [Log.offers_append, Log.offers_append, hrelease.offers_eq_nil, hoffers] at hnone
      have hone : Log.offers (.wrote (message.bytes session.credentials) taken :: before) =
          [message.bytes session.credentials] :=
        congrArg (List.cons _) (List.append_eq_nil_iff.1 hnone).1
      rw [hone, hbroken]
      calc (Log.received before).length
          ≤ (Log.received more).length := by
            rw [← hmore, List.length_append]
            exact Nat.le_add_right _ _
        _ ≤ message.answerSize := hsize

/-- The data frames of the turns are confirmed, with the codes of their answers, and no others. -/
theorem confirmed_log (h : session.Accounts dialogue) :
    Log.confirmed session.link.log = dialogue.turns.filterMap fun turn =>
      turn.message.record?.map fun record => (record.encodePresent, turn.answer.getD 1 0) := by
  obtain ⟨extra, hanswers, hextra⟩ := h.answers_log
  have hnone : extra.filterMap Log.confirmation? = [] := by
    rcases hextra with rfl | ⟨message, answer, rfl, hnot⟩
    · rfl
    · simp [(message.confirmation?_bytes session.credentials answer).2 hnot]
  rw [Log.confirmed, hanswers, List.filterMap_append, hnone, List.append_nil, List.filterMap_map]
  refine List.filterMap_congr fun turn hturn => ?_
  exact (turn.message.confirmation?_bytes session.credentials turn.answer).1
    (h.continues turn hturn)

/-- The payloads of the confirmed frames are those of the messages that were answered. -/
theorem confirmed_payloads (h : session.Accounts dialogue) :
    (Log.confirmed session.link.log).map Prod.fst =
      (dialogue.answered.filterMap Message.record?).map Record.encodePresent := by
  rw [h.confirmed_log, Dialogue.answered, List.filterMap_map, List.map_filterMap,
    List.map_filterMap]
  refine List.filterMap_congr fun turn _ => ?_
  rw [Option.map_map]
  rfl

/-- The unexpected codes are those of the turns. -/
theorem unexpectedCodes_log (h : session.Accounts dialogue) :
    Log.unexpectedCodes session.link.log =
      dialogue.turns.filterMap fun turn => turn.code?.filter (· ≠ 0x01) := by
  rw [Log.unexpectedCodes, h.confirmed_log, List.map_filterMap, List.filter_filterMap]
  refine List.filterMap_congr fun turn _ => ?_
  rw [Turn.code?]
  cases turn.message <;> rfl

/-- The pings that were answered are those of the turns. -/
theorem pingReplies_log (h : session.Accounts dialogue) :
    Log.pingReplies session.link.log = dialogue.answered.count .ping := by
  obtain ⟨extra, hanswers, hextra⟩ := h.answers_log
  have hnone : extra.countP Log.isPingReply = 0 := by
    rcases hextra with rfl | ⟨message, answer, rfl, hnot⟩
    · rfl
    · refine List.countP_eq_zero.2 fun pair hpair hreply => ?_
      rw [List.mem_singleton.1 hpair] at hreply
      exact hnot ((message.isPingReply_bytes session.credentials answer).1 hreply).2
  rw [Log.pingReplies, hanswers, List.countP_append, hnone, Nat.add_zero, List.countP_map,
    Dialogue.answered, List.count_eq_countP, List.countP_map]
  refine List.countP_congr fun turn hturn => ?_
  rw [Function.comp_apply, Function.comp_apply, Message.isPingReply_bytes, beq_iff_eq]
  exact and_iff_left (h.continues turn hturn)

end Session.Accounts

end TelemetryLink
