import TelemetryLink.Proofs.Session.Wire

/-!
# The life of a session

Between two operations a session is new, idle or closed. `Lifecycle` ties its fields to what was
done to its connection: the connection is released when the session is closed, once; the session is
idle only after a handshake that was accepted; and the counter and the ping flag say what the log
says.

- `Operation.lifecycle_performAll`: this holds after any operations over any stream, and nothing
  changes a closed session.
-/

namespace TelemetryLink

/-- The fields of a session agree with each other and with the log of its connection. -/
structure Session.Lifecycle (session : Session Stream) : Prop where
  /-- No operation leaves a session in the middle of an exchange. -/
  states : session.state = .connecting ∨ session.state = .idle ∨ session.state = .closed
  /-- The connection is held until the session is closed. -/
  held : session.held = true ↔ session.state ≠ .closed
  /-- The connection of a closed session was released once, any other not at all. -/
  released : session.link.releaseCount = if session.state = .closed then 1 else 0
  /-- Giving up the session, in whatever state, leaves the connection released once. -/
  dropped : (Call.close.perform session).link.releaseCount = 1
  /-- Nothing was done to the connection of a new session. -/
  connecting : session.state = .connecting →
    session.link.log = [] ∧ session.pinged = false ∧ session.framesSent = 0
  /-- An idle session has written a whole handshake and read that it was accepted. -/
  idle : session.state = .idle → ∃ nonce,
    (Message.handshake nonce).exchanged session.credentials [0x01] <+: session.link.log
  /-- The ping is remembered when its two octets were read, and there was one ping at most. -/
  pinged : Log.pingReplies session.link.log = if session.pinged then 1 else 0
  /-- The counter counts the confirmed data frames. -/
  framesSent : session.framesSent.toNat = (Log.confirmed session.link.log).length

/-- The end of a session adds at most a release to the log. -/
theorem Session.log_closed (session : Session Stream) :
    ∃ events, Log.Silent events ∧ session.closed.link.log = session.link.log ++ events := by
  unfold Session.closed
  split
  · exact ⟨[.released], .inr rfl, rfl⟩
  · exact ⟨[], .inl rfl, (List.append_nil _).symm⟩

namespace Session.Accounts

variable {session : Session Stream} {dialogue : Dialogue}

/-- A closed session does not hold its connection. -/
theorem held_of_closed (h : session.Accounts dialogue) (hstate : session.state = .closed) :
    session.held = false := by
  rw [Bool.eq_false_iff, ne_eq, h.held]
  exact fun hne => hne hstate

/-- The messages release nothing, so that the connection was released if it is no longer held. -/
theorem releaseCount_link (h : session.Accounts dialogue) :
    session.link.releaseCount = if session.held then 0 else 1 := by
  have hturns : ∀ turns : List Turn,
      (Dialogue.exchanges session.credentials turns).count .released = 0 := by
    intro turns
    refine List.count_eq_zero.2 fun hmem => ?_
    obtain ⟨turn, -, hturn⟩ := List.mem_flatMap.1 hmem
    simp [Message.exchanged] at hturn
  have hbroken : (dialogue.broken.elim [] Prod.snd).count .released = 0 := by
    rcases hsome : dialogue.broken with _ | ⟨message, events⟩
    · rfl
    · have hevents := h.breaks message events hsome
      cases hevents <;> rfl
  rw [Stream.releaseCount, h.log, Dialogue.events, List.count_append, List.count_append,
    hturns, hbroken]
  cases session.held <;> rfl

/-- A session that was answered at all starts with a handshake that was accepted. -/
theorem handshake_prefix (h : session.Accounts dialogue) (hne : dialogue.turns ≠ []) :
    ∃ nonce, (Message.handshake nonce).exchanged session.credentials [0x01] <+:
      session.link.log := by
  obtain ⟨turn, turns, hturns⟩ := List.exists_cons_of_ne_nil hne
  have hmessages : dialogue.messages = turn.message :: (turns.map Turn.message ++
      (dialogue.broken.map Prod.fst).toList) := by
    rw [Dialogue.messages, Dialogue.answered, hturns]
    rfl
  rcases h.opened with hnil | ⟨nonce, rest, hfirst, -⟩
  · simp [hmessages] at hnil
  · rw [hmessages] at hfirst
    have hmessage : turn.message = .handshake nonce := (List.cons.inj hfirst).1
    have hanswer := h.continues turn (by simp [hturns])
    rw [hmessage] at hanswer
    refine ⟨nonce, ?_⟩
    rw [h.log, Dialogue.events, Dialogue.exchanges, hturns, List.flatMap_cons, hmessage,
      show turn.answer = [0x01] from hanswer, List.append_assoc, List.append_assoc]
    exact List.prefix_append _ _

/-- The counter is the number of confirmed data frames, as a word. -/
theorem framesSent_log (h : session.Accounts dialogue) :
    session.framesSent = .ofNat (Log.confirmed session.link.log).length := by
  have hpayloads := congrArg List.length h.confirmed_payloads
  rw [List.length_map, List.length_map] at hpayloads
  rw [h.framesSent, hpayloads]

/-- As long as the counter does not overflow, an accounted session is in order. -/
theorem lifecycle (h : session.Accounts dialogue)
    (hcount : (Log.confirmed session.link.log).length < UInt32.size) : session.Lifecycle where
  states := by
    rcases h.phase with ⟨hstate, -⟩ | ⟨hstate, -⟩ | hstate
    · exact .inl hstate
    · exact .inr (.inl hstate)
    · exact .inr (.inr hstate)
  held := h.held
  released := by
    rw [h.releaseCount_link]
    by_cases hstate : session.state = .closed
    · rw [if_neg (by simp [h.held, hstate]), if_pos hstate]
    · rw [if_pos (h.held.2 hstate), if_neg hstate]
  dropped := by
    rw [Call.perform_close, h.closed.releaseCount_link, closed_held]
    rfl
  connecting := by
    intro hstate
    have hnew := h.of_connecting hstate
    subst hnew
    have hheld : session.held = true := h.held.2 (by simp [hstate])
    refine ⟨?_, ?_, h.framesSent⟩
    · rw [h.log, hheld]
      rfl
    · -- A ping that was answered would stand in the dialogue.
      have hpinged := h.pinged
      cases hflag : session.pinged with
      | false => rfl
      | true => simp [hflag, Dialogue.answered] at hpinged
  idle := fun hstate => h.handshake_prefix (h.of_idle hstate).1
  pinged := by rw [h.pingReplies_log, h.pinged]
  framesSent := by rw [h.framesSent_log, UInt32.toNat_ofNat_of_lt' hcount]

end Session.Accounts

/-! ## Closed sessions -/

/-- A call on a closed session does nothing. -/
theorem Call.perform_of_closed {session : Session Stream} (hstate : session.state = .closed)
    (hheld : session.held = false) (call : Call) : call.perform session = session := by
  have hclosed : session.closed = session := Session.closed_eq_self hheld hstate
  have hboth : session.held = true ↔ session.state ≠ .closed := by simp [hstate, hheld]
  obtain ⟨receipt, htransition⟩ : ∃ receipt, Transition session call receipt
    (call.perform session) := ⟨_, call.transition hboth⟩
  generalize call.perform session = after at htransition ⊢
  have hnone : ∀ message : Message, call.message? session ≠ some message := by
    simp [message?_of_closed hstate call]
  -- No message is allowed any more, so that the call closes the session again or is refused.
  cases htransition with
  | closed => exact hclosed
  | refused => exact hclosed
  | answered hsome => exact absurd hsome (hnone _)
  | broken hsome => exact absurd hsome (hnone _)

theorem Call.performAll_of_closed {session : Session Stream} (hstate : session.state = .closed)
    (hheld : session.held = false) (calls : List Call) :
    Call.performAll calls session = session := by
  induction calls with
  | nil => rfl
  | cons call calls ih =>
    rw [performAll, List.foldl_cons, perform_of_closed hstate hheld]
    exact ih

/-- After any operations on a new session, whatever the stream does, the session is in order, and
if it is closed then no operation changes it any more. -/
theorem Operation.lifecycle_performAll (credentials : Credentials) (reads : List ReadStep)
    (writes : List WriteStep) (flushes : List (Option Fault)) (operations : List Operation)
    (hcount : (Log.confirmed (performAll operations
      (Session.new (Stream.mk reads writes flushes []) credentials)).link.log).length <
        UInt32.size - 1) :
    let session := performAll operations
      (Session.new (Stream.mk reads writes flushes []) credentials)
    session.Lifecycle ∧
      (session.state = .closed → ∀ more : List Operation, performAll more session = session) := by
  intro session
  have hnew := Session.Accounts.new (Stream.mk reads writes flushes []) credentials rfl
  obtain ⟨dialogue, haccounts, -⟩ := hnew.performAll (callsOf operations _)
  rw [← performAll_eq] at haccounts
  refine ⟨haccounts.lifecycle (by omega), ?_⟩
  intro hstate more
  have hheld : session.held = false := by
    rw [Bool.eq_false_iff, ne_eq, haccounts.held]
    exact fun hne => hne hstate
  rw [performAll_eq more session]
  exact Call.performAll_of_closed hstate hheld _

/-- A session that shakes hands, pings, and has one record confirmed, under a code that names no
data, before it is closed. -/
theorem Operation.lifecycle_one_frame :
    let device : DeviceId := ⟨⟨[1, 2, 3, 4, 5, 6], rfl⟩⟩
    let credentials : Credentials := { key := ⟨[107], by decide⟩, deviceId := device }
    let operations : List Operation :=
      [.single (.handshake ⟨[0, 0, 0, 0, 0, 0, 0, 1], rfl⟩), .single .ping,
        .single (.sendRecord ⟨5, 0, 0, 0, 0, 0, 0, 0, 0, 7, device⟩), .single .close]
    let session := performAll operations
      (Session.new (Stream.mk [.chunk [0x01, 0x03, 0x02, 0x03, 0x05]] [] [] []) credentials)
    (Log.confirmed session.link.log).length < UInt32.size - 1 ∧
      session.state = .closed ∧ session.framesSent = 1 ∧ session.Lifecycle ∧
      (session.state = .closed → ∀ more : List Operation, performAll more session = session) :=
  ⟨by decide +kernel, by decide +kernel, by decide +kernel,
    lifecycle_performAll _ _ _ _ _ (by decide +kernel)⟩

end TelemetryLink
