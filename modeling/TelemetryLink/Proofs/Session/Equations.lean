import TelemetryLink.Session
import TelemetryLink.Proofs.Exchange

/-!
# Session operations as functions

Each operation of a session is a computation in `SessionM`. This module says what it does to a
session, as an equation without the monad: `closed` is the session after its end, and an
operation either ends the session with an error or goes on as the answer says.

The equations hold over every connection without outside effects.
-/

namespace TelemetryLink

namespace SessionM

variable {σ α β : Type}

theorem on_pure (a : α) (session : Session σ) :
    (pure a : SessionM σ Id α).on session = (.ok a, session) := rfl

/-- The second computation starts where the first succeeded, and is not made after a failure. -/
theorem on_bind (step : SessionM σ Id α) (next : α → SessionM σ Id β) (session : Session σ) :
    (step >>= next).on session = match step.on session with
      | (.ok a, session) => (next a).on session
      | (.error e, session) => (.error e, session) := by
  rcases h : step.on session with ⟨e | a, after⟩
  · exact Stateful.on_bind_error next h
  · exact Stateful.on_bind_ok next h

theorem on_map (f : α → β) (step : SessionM σ Id α) (session : Session σ) :
    (f <$> step).on session = ((step.on session).1.map f, (step.on session).2) := by
  rw [map_eq_pure_bind, on_bind]
  rcases step.on session with ⟨_ | _, _⟩ <;> rfl

theorem on_get (session : Session σ) :
    (get : SessionM σ Id (Session σ)).on session = (.ok session, session) := rfl

theorem on_set (next session : Session σ) :
    (set next : SessionM σ Id PUnit).on session = (.ok ⟨⟩, next) := rfl

theorem on_modify (f : Session σ → Session σ) (session : Session σ) :
    (modify f : SessionM σ Id PUnit).on session = (.ok ⟨⟩, f session) := rfl

theorem on_ofOutside (operation : Id α) (session : Session σ) :
    (Session.ofOutside operation : SessionM σ Id α).on session = (.ok operation.run, session) :=
  rfl

end SessionM

namespace Session

open SessionM

variable {σ α : Type} [Link σ Id]

/-- The session after its end. -/
def closed (session : Session σ) : Session σ :=
  if session.held then
    { session with link := Id.run (Link.release session.link), held := false, state := .closed }
  else { session with state := .closed }

@[simp]
theorem closed_state (session : Session σ) : session.closed.state = .closed := by
  unfold closed
  split <;> rfl

@[simp]
theorem closed_held (session : Session σ) : session.closed.held = false := by
  unfold closed
  split
  next => rfl
  next h => simpa using h

@[simp]
theorem closed_framesSent (session : Session σ) :
    session.closed.framesSent = session.framesSent := by
  unfold closed
  split <;> rfl

@[simp]
theorem closed_pinged (session : Session σ) : session.closed.pinged = session.pinged := by
  unfold closed
  split <;> rfl

@[simp]
theorem closed_credentials (session : Session σ) :
    session.closed.credentials = session.credentials := by
  unfold closed
  split <;> rfl

/-- The state in which a session ends makes no difference. -/
@[simp]
theorem closed_enter (session : Session σ) (state : SessionState) :
    closed { session with state } = session.closed := by
  unfold closed
  split <;> rfl

/-- A session ends once. -/
theorem closed_eq_self {session : Session σ} (hheld : session.held = false)
    (hstate : session.state = .closed) : session.closed = session := by
  obtain ⟨link, held, state, credentials, pinged, framesSent⟩ := session
  cases hheld
  cases hstate
  rfl

theorem close_on (session : Session σ) :
    (close : SessionM σ Id Unit).on session = (.ok (), session.closed) := by
  obtain ⟨link, held, state, credentials, pinged, framesSent⟩ := session
  cases held
  · rfl
  · rfl

theorem fail_on (stage : Stage) (error : ProtocolError) (session : Session σ) :
    (fail stage error : SessionM σ Id α).on session = (.error ⟨stage, error⟩, session.closed) := by
  unfold fail
  rw [on_bind, close_on]
  rfl

theorem expect_on (expected : SessionState) (stage : Stage) (session : Session σ) :
    (expect expected stage : SessionM σ Id Unit).on session =
      if session.state = expected then (.ok (), session)
      else (.error ⟨stage, .invalidState (.wrongState stage expected session.state)⟩,
        session.closed) := by
  unfold expect
  rw [on_bind, on_get]
  by_cases h : session.state = expected
  · simp [h, on_pure]
  · simp [h, fail_on]

variable {session : Session σ}

theorem exchange_on (stage : Stage) (exchange : Exchange σ Id α)
    (hheld : session.held = true) :
    (Session.exchange stage exchange).on session = match exchange.on session.link with
      | (.ok value, link) => (.ok value, { session with link })
      | (.error error, link) => (.error ⟨stage, error⟩, closed { session with link }) := by
  have hrun : (exchange.run session.link).run = exchange.on session.link := rfl
  unfold Session.exchange
  rw [on_bind, on_get]
  simp only [hheld, if_true]
  rw [on_bind, on_ofOutside, hrun]
  dsimp only
  rw [on_bind, on_set]
  rcases exchange.on session.link with ⟨_ | _, _⟩
  · exact fail_on _ _ _
  · rfl

/-- Without a connection there is no exchange. -/
theorem exchange_on_of_released (stage : Stage) (exchange : Exchange σ Id α)
    (hheld : session.held = false) :
    (Session.exchange stage exchange).on session =
      (.error ⟨stage, .invalidState .released⟩, session.closed) := by
  unfold Session.exchange
  rw [on_bind, on_get]
  simp only [hheld, Bool.false_eq_true, if_false]
  exact fail_on _ _ _

/-- The common part of all operations: a session enters a state and makes an exchange. A failure
ends it, so that the state is seen only by what follows a success. -/
theorem enter_exchange_on {β : Type} (state : SessionState) (stage : Stage)
    (exchange : Exchange σ Id α) (next : α → SessionM σ Id β) (hheld : session.held = true) :
    (do enter state; next (← Session.exchange stage exchange) : SessionM σ Id β).on session =
      match exchange.on session.link with
      | (.ok value, link) => (next value).on { session with link, state }
      | (.error error, link) => (.error ⟨stage, error⟩, closed { session with link }) := by
  unfold enter
  rw [on_bind, on_modify]
  dsimp only
  rw [on_bind, exchange_on stage exchange (by exact hheld)]
  rcases exchange.on session.link with ⟨error | value, link⟩
  · exact congrArg (Prod.mk _) (closed_enter { session with link } state)
  · rfl

theorem enter_exchange_on_of_released {β : Type} (state : SessionState) (stage : Stage)
    (exchange : Exchange σ Id α) (next : α → SessionM σ Id β) (hheld : session.held = false) :
    (do enter state; next (← Session.exchange stage exchange) : SessionM σ Id β).on session =
      (.error ⟨stage, .invalidState .released⟩, session.closed) := by
  unfold enter
  rw [on_bind, on_modify]
  dsimp only
  rw [on_bind, exchange_on_of_released stage exchange (by exact hheld)]
  exact congrArg (Prod.mk _) (closed_enter session state)

/-! ## Shaking hands -/

theorem handshake_on (nonce : Nonce) (hstate : session.state = .connecting)
    (hheld : session.held = true) :
    (handshake nonce : SessionM σ Id Unit).on session =
      match (Exchange.handshake (Handshake.build session.credentials.key
          session.credentials.deviceId session.credentials.flags nonce)).on session.link with
      | (.ok .accepted, link) => (.ok (), { session with link, state := .idle })
      | (.ok (.rejected reason), link) =>
        (.error ⟨.handshake, .handshakeRejected reason⟩, closed { session with link })
      | (.error error, link) => (.error ⟨.handshake, error⟩, closed { session with link }) := by
  unfold handshake
  rw [on_bind, expect_on, if_pos hstate]
  dsimp only
  rw [on_bind, on_get]
  dsimp only
  rw [enter_exchange_on .handshaking .handshake _ _ hheld]
  rcases (Exchange.handshake _).on session.link with ⟨_ | _ | reason, link⟩
  · rfl
  · rfl
  · exact (fail_on _ _ _).trans
      (congrArg (Prod.mk _) (closed_enter { session with link } .handshaking))

theorem handshake_on_of_ne (nonce : Nonce) (hstate : session.state ≠ .connecting) :
    (handshake nonce : SessionM σ Id Unit).on session =
      (.error ⟨.handshake, .invalidState (.wrongState .handshake .connecting session.state)⟩,
        session.closed) := by
  unfold handshake
  rw [on_bind, expect_on, if_neg hstate]

/-! ## Pinging -/

/-- How a ping ended that was answered by this reply. -/
def pingOutcome (reply : Reply) : PingOutcome :=
  if reply.toBytes = Reply.pingAck then .acknowledged else .unexpected reply.toBytes

theorem ping_on (hstate : session.state = .idle) (hheld : session.held = true)
    (hpinged : session.pinged = false) :
    (ping : SessionM σ Id PingOutcome).on session =
      match (Exchange.request .ping []).on session.link with
      | (.ok reply, link) =>
        (.ok (pingOutcome reply), { session with link, state := .idle, pinged := true })
      | (.error error, link) => (.error ⟨.ping, error⟩, closed { session with link }) := by
  unfold ping
  rw [on_bind, expect_on, if_pos hstate]
  dsimp only
  rw [on_bind, on_get]
  dsimp only
  rw [if_neg (by simp [hpinged]), enter_exchange_on .pinging .ping _ _ hheld]
  rcases (Exchange.request .ping []).on session.link with ⟨_ | reply, link⟩
  · rfl
  · simp only [enter, on_bind, on_modify, pingOutcome]
    split <;> rfl

theorem ping_on_of_ne (hstate : session.state ≠ .idle) :
    (ping : SessionM σ Id PingOutcome).on session =
      (.error ⟨.ping, .invalidState (.wrongState .ping .idle session.state)⟩,
        session.closed) := by
  unfold ping
  rw [on_bind, expect_on, if_neg hstate]

theorem ping_on_of_pinged (hstate : session.state = .idle) (hpinged : session.pinged = true) :
    (ping : SessionM σ Id PingOutcome).on session =
      (.error ⟨.ping, .invalidState .secondPing⟩, session.closed) := by
  unfold ping
  rw [on_bind, expect_on, if_pos hstate]
  dsimp only
  rw [on_bind, on_get]
  dsimp only
  rw [if_pos hpinged, on_bind, fail_on]

/-! ## Sending records -/

theorem sendRecord_on (record : Record) (hstate : session.state = .idle)
    (hheld : session.held = true) :
    (sendRecord record : SessionM σ Id AckCode).on session =
      match (Exchange.request .data record.encodePresent).on session.link with
      | (.ok (.ack code), link) =>
        (.ok code,
          { session with link, state := .idle, framesSent := session.framesSent + 1 })
      | (.ok (.serverError code), link) =>
        (.error ⟨.data (session.framesSent + 1), .serverError code⟩, closed { session with link })
      | (.ok (.malformed marker code), link) =>
        (.error ⟨.data (session.framesSent + 1), .protocolViolation [marker, code]⟩,
          closed { session with link })
      | (.error error, link) =>
        (.error ⟨.data (session.framesSent + 1), error⟩, closed { session with link }) := by
  unfold sendRecord
  rw [on_bind, on_get]
  dsimp only
  rw [on_bind, expect_on, if_pos hstate]
  dsimp only
  rw [enter_exchange_on .sending _ _ _ hheld]
  rcases (Exchange.request .data record.encodePresent).on session.link with
    ⟨_ | code | code | ⟨marker, code⟩, link⟩
  · rfl
  · rfl
  · exact (fail_on _ _ _).trans
      (congrArg (Prod.mk _) (closed_enter { session with link } .sending))
  · exact (fail_on _ _ _).trans
      (congrArg (Prod.mk _) (closed_enter { session with link } .sending))

theorem sendRecord_on_of_ne (record : Record) (hstate : session.state ≠ .idle) :
    (sendRecord record : SessionM σ Id AckCode).on session =
      (.error ⟨.data (session.framesSent + 1),
          .invalidState (.wrongState (.data (session.framesSent + 1)) .idle session.state)⟩,
        session.closed) := by
  unfold sendRecord
  rw [on_bind, on_get]
  dsimp only
  rw [on_bind, expect_on, if_neg hstate]

end Session

end TelemetryLink
