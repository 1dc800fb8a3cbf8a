import TelemetryLink.Proofs.Session.Call
import TelemetryLink.Proofs.Stream.Delivery

/-!
# How calls fail

`Call.Failure` says once what a call that fails on a session over a scripted stream can have met,
with the error that it returns: it was wrong in the state of the session, `Call.misuse?`, or the
exchange of its message failed, `Message.Fails`. In both cases the error names the exchange of the
call, `Call.stage?`, and the session is closed.

- `Exchange.ofLink_of_transact`: an exchange without a complete answer gives an error of the
  connection.
- `Call.failure`: every call that fails does so in one of these two ways.
-/

namespace TelemetryLink

/-! ## Errors of connections -/

theorem Stream.ofLink_shortfall (n filled : Nat) (stop : Option Fault) :
    (shortfall n filled stop).OfLink := by
  cases stop with
  | none => trivial
  | some fault => exact ProtocolError.ofLink_ofFault fault

namespace Exchange

/-- An exchange that fails does so with an error of the connection. -/
theorem ofLink_of_transact {message : Bytes} {size : Nat} {stream next : Stream}
    {error : ProtocolError}
    (h : (transact message size : Exchange Stream Id Bytes).on stream = (.error error, next)) :
    error.OfLink := by
  unfold transact at h
  rw [on_bind, writeAll_on] at h
  rcases hwrite : (stream.writeAll message).1.mapError ProtocolError.ofFault with fault | done
  · rw [hwrite] at h
    cases h
    exact ProtocolError.ofLink_of_mapError hwrite
  · rw [hwrite] at h
    dsimp only at h
    rw [on_bind, flush_on] at h
    rcases hflush : ((stream.writeAll message).2.flush).1.mapError ProtocolError.ofFault with
      fault | done
    · rw [hflush] at h
      cases h
      exact ProtocolError.ofLink_of_mapError hflush
    · rw [hflush] at h
      dsimp only at h
      rw [readExact_on] at h
      rw [Stream.readExact_eq_error h]
      exact Stream.ofLink_shortfall _ _ _

end Exchange

/-! ## Calls that fail -/

/-- How the exchange of a message fails: the error, and the events in the log. -/
inductive Message.Fails (credentials : Credentials) (message : Message) :
    ProtocolError → Log → Prop
  /-- The message was not accepted as a whole, or not flushed, or its answer is incomplete. -/
  | link {error events} (herror : error.OfLink)
    (hevents : Exchange.Outcome (message.bytes credentials) message.answerSize (.error error)
      events) :
    Fails credentials message error events
  /-- The answer is complete, but not the right one. -/
  | complaint {answer error} (hlen : answer.length = message.answerSize)
    (hcomplaint : message.complaint? answer = some error) :
    Fails credentials message error (message.exchanged credentials answer)

namespace Call

variable {session : Session Stream} {call : Call}

/-- How a call fails: the error that it returns, and the session after it. -/
inductive Failure (session : Session Stream) (call : Call) :
    SessionError → Session Stream → Prop
  /-- The call is wrong in this state. -/
  | misused {stage misuse} (hstage : call.stage? session = some stage)
    (hmisuse : call.misuse? session = some misuse) :
    Failure session call ⟨stage, .invalidState misuse⟩ session.closed
  /-- The exchange of its message failed. -/
  | failed {stage message error events link} (hstage : call.stage? session = some stage)
    (hmessage : call.message? session = some message)
    (hfails : message.Fails session.credentials error events)
    (hlog : link.log = session.link.log ++ events) :
    Failure session call ⟨stage, error⟩ (Session.closed { session with link })

/-- A call that fails is wrong, or the exchange of its message fails. -/
theorem failure {e : SessionError} {after : Session Stream}
    (hheld : session.held = true ↔ session.state ≠ .closed)
    (hstep : (call.step : SessionM Stream Id Receipt).on session = (.error e, after)) :
    Failure session call e after := by
  rcases hmessage : call.message? session with _ | message
  · -- A call without a message closes the session, and cannot fail, or it is wrong.
    by_cases hclose : call = .close
    · subst hclose
      unfold step at hstep
      rw [SessionM.on_bind, Session.close_on] at hstep
      cases hstep
    · obtain ⟨misuse, hmisuse⟩ := (message?_eq_none_iff hclose).1 hmessage
      obtain ⟨stage, hstage, hrefused⟩ := step_of_misuse hmisuse
      rw [hrefused] at hstep
      cases hstep
      exact .misused hstage hmisuse
  · obtain ⟨result, link, events, htransact, hlog, houtcome⟩ :=
      Exchange.transact_outcome (message.bytes session.credentials) message.answerSize session.link
    rw [step_on (held_of_message? hheld hmessage) hmessage, htransact] at hstep
    have hstage := stage?_of_message? hmessage
    rcases result with error | answer
    · cases hstep
      exact .failed hstage hmessage (.link (Exchange.ofLink_of_transact htransact) houtcome) hlog
    · cases houtcome with
      | answered hlen =>
        cases hcomplaint : message.complaint? answer with
        | none =>
          rw [Message.settle_of_none hcomplaint] at hstep
          cases hstep
        | some error =>
          rw [Message.settle_of_some hcomplaint] at hstep
          cases hstep
          exact .failed hstage hmessage (.complaint hlen hcomplaint) hlog

end Call

end TelemetryLink
