import TelemetryLink.Proofs.Session.Script
import TelemetryLink.Proofs.Stream.Independence

/-!
# Sessions do not see how replies are cut

A session over a stream behaves like the same session over any stream that is alike: every operation
returns the same, writes the same and leaves the session in the same state, also where it fails.
The records of a run are a function of their indices here; `Session.run_onWith` says which function
that is for a provider with a state.

- `Session.Alike`: two sessions that differ only in streams that are alike.
- `Call.step_alike`, `Call.sequence_alike`: calls keep sessions alike.
- `Stream.delivery_independence`: so do all operations, and those on bare streams.
-/

namespace TelemetryLink

namespace Session

/-- Two sessions that differ only in how their streams are cut. -/
structure Alike (first second : Session Stream) : Prop where
  link : first.link.Alike second.link
  fields : second = { first with link := second.link }
  /-- Their connections are held until they are closed. -/
  held : first.held = true ↔ first.state ≠ .closed

namespace Alike

variable {first second : Session Stream}

theorem new {link link' : Stream} (h : link.Alike link') (credentials : Credentials) :
    (Session.new link credentials).Alike (Session.new link' credentials) where
  link := h
  fields := rfl
  held := by simp [Session.new]

/-- The fields of a session beside its stream. -/
theorem same (h : first.Alike second) :
    first.held = second.held ∧ first.state = second.state ∧
      first.credentials = second.credentials ∧ first.pinged = second.pinged ∧
      first.framesSent = second.framesSent := by
  rw [h.fields]
  exact ⟨rfl, rfl, rfl, rfl, rfl⟩

/-- Sessions that ended are alike. -/
theorem closed {link link' : Stream} (h : link.Alike link') (session : Session Stream) :
    (Session.closed { session with link }).Alike (Session.closed { session with link := link' })
    where
  link := by
    unfold Session.closed
    split
    · exact h.release
    · exact h
  fields := by
    unfold Session.closed
    split
    · rfl
    · rfl
  held := by simp

end Alike

end Session

open Stateful (Agree)

/-- What came of two exchanges that ended alike is settled alike. -/
theorem Message.settle_alike (message : Message) {session : Session Stream}
    (hheld : session.held = true) (result : Except ProtocolError Bytes)
    {link link' before : Stream} (h : link.Alike link') :
    Agree Session.Alike (message.settle session (result, link))
      (message.settle { session with link := before } (result, link')) := by
  have hstage : message.stage { session with link := before } = message.stage session := by
    cases message <;> rfl
  have hclosed := Session.Alike.closed h session
  rcases result with error | answer
  · rw [settle, settle, hstage]
    exact .intro ⟨rfl, hclosed⟩
  · cases hcomplaint : message.complaint? answer with
    | some error =>
      rw [settle_of_some hcomplaint, settle_of_some hcomplaint, hstage]
      exact .intro ⟨rfl, hclosed⟩
    | none =>
      rw [settle_of_none hcomplaint, settle_of_none hcomplaint]
      have hproceed : (message.proceed session link).Alike
          (message.proceed { session with link := before } link') := by
        cases message <;> exact ⟨h, rfl, by simp [proceed, hheld]⟩
      exact .intro ⟨rfl, hproceed⟩

namespace Call

variable {first second : Session Stream}

/-- A call ends alike on sessions that are alike, and leaves them alike. -/
theorem step_alike (call : Call) (h : first.Alike second) :
    Agree Session.Alike ((call.step : SessionM Stream Id Receipt).on first)
      ((call.step : SessionM Stream Id Receipt).on second) := by
  -- The second session is the first one with another stream.
  obtain ⟨hlink, hfields, hheld⟩ := h
  generalize second.link = link at hlink hfields
  subst hfields
  have hsame : call.message? { first with link } = call.message? first := by cases call <;> rfl
  rcases hmessage : call.message? first with _ | message
  · -- The call closes the session, or is wrong in both of them.
    have hclosed := Session.Alike.closed hlink first
    by_cases hclose : call = .close
    · subst hclose
      unfold step
      rw [SessionM.on_bind, SessionM.on_bind, Session.close_on, Session.close_on]
      exact .intro ⟨rfl, hclosed⟩
    · obtain ⟨misuse, hmisuse⟩ := (message?_eq_none_iff hclose).1 hmessage
      have hmisuse' : call.misuse? { first with link } = some misuse := by
        rw [← hmisuse]
        cases call <;> rfl
      have hstages : call.stage? { first with link } = call.stage? first := by cases call <;> rfl
      obtain ⟨stage, hstage, hstep⟩ := step_of_misuse hmisuse
      obtain ⟨stage', hstage', hstep'⟩ := step_of_misuse hmisuse'
      rw [hstages, hstage] at hstage'
      cases hstage'
      exact ⟨_, _, _, hstep, hstep', hclosed⟩
  · -- The call exchanges the same message on both streams.
    have hready := held_of_message? hheld hmessage
    obtain ⟨result, next, next', hfirst, hsecond, halike⟩ := Exchange.uniform_transact
      (message.bytes first.credentials) message.answerSize first.link link hlink
    rw [step_on hready hmessage, step_on (by exact hready) (hsame.trans hmessage), hfirst, hsecond]
    exact message.settle_alike hready result halike

/-- Calls one after another end alike on sessions that are alike, and leave them alike. -/
theorem sequence_alike (calls : List Call) (h : first.Alike second) :
    Agree Session.Alike ((sequence calls : SessionM Stream Id (List Receipt)).on first)
      ((sequence calls : SessionM Stream Id (List Receipt)).on second) := by
  induction calls generalizing first second with
  | nil => exact .intro ⟨rfl, h⟩
  | cons call calls ih =>
    refine Agree.bind (call.step_alike h) fun receipt next next' hnext => ?_
    exact Agree.bind (ih hnext) fun receipts last last' hlast => .intro ⟨rfl, hlast⟩

end Call

/-! ## Operations -/

namespace Operation

/-- What an operation returns: a call its receipt, a run its report. -/
def answer : Operation → Session Stream → Except SessionError (Receipt ⊕ Report)
  | single call, session =>
    ((call.step : SessionM Stream Id Receipt).on session).1.map .inl
  | run plan nonce record, session =>
    ((Session.run plan nonce (fun i => pure (record i)) :
      SessionM Stream Id Report).on session).1.map .inr

/-- What operations return one after another, whether they succeed or not. -/
def answers : List Operation → Session Stream → List (Except SessionError (Receipt ⊕ Report))
  | [], _ => []
  | operation :: operations, session =>
    operation.answer session :: answers operations (operation.perform session)

variable {first second : Session Stream}

/-- An operation ends alike on sessions that are alike, and leaves them alike. -/
theorem perform_alike (operation : Operation) (h : first.Alike second) :
    operation.answer first = operation.answer second ∧
      (operation.perform first).Alike (operation.perform second) := by
  cases operation with
  | single call =>
    have hagree := call.step_alike h
    exact ⟨congrArg (Except.map Sum.inl) hagree.result_eq, hagree.related⟩
  | run plan nonce record =>
    -- Both runs make the same calls, because the sessions are in the same state.
    have hscript : Session.script second.state plan nonce record =
        Session.script first.state plan nonce record := by rw [h.same.2.1]
    obtain ⟨result, ended, ended', hfirst, hsecond, hended⟩ :=
      Call.sequence_alike (Session.script first.state plan nonce record) h
    rw [answer, answer, perform, perform, Session.run_on, Session.run_on, hscript, hfirst, hsecond]
    cases result with
    | error e => exact ⟨rfl, hended⟩
    | ok receipts => exact ⟨rfl, hended⟩

/-- Operations return the same on sessions that are alike, and leave them alike. -/
theorem performAll_alike (operations : List Operation) (h : first.Alike second) :
    answers operations first = answers operations second ∧
      (performAll operations first).Alike (performAll operations second) := by
  induction operations generalizing first second with
  | nil => exact ⟨rfl, h⟩
  | cons operation operations ih =>
    obtain ⟨hanswer, halike⟩ := operation.perform_alike h
    obtain ⟨hanswers, hlast⟩ := ih halike
    rw [answers, answers, hanswer, hanswers]
    exact ⟨rfl, hlast⟩

end Operation

/-! ## All operations -/

namespace Stream

/-- Nothing that is done on a stream shows how it is cut. On two streams that differ only in how
their octets are cut into chunks and in where reads are interrupted, any operations return the same,
errors included, and with them their texts. They write the same, leave as many octets unread, and
leave the streams alike, so that this holds again for whatever is done on them next. It holds for
operations on the bare streams and for operations on sessions over them, which also end in the same
state. -/
theorem delivery_independence {first second : Stream} (h : first.Alike second) :
    (∀ operations : List DirectOperation,
      let one := DirectOperation.performAll operations first
      let other := DirectOperation.performAll operations second
      one.1 = other.1 ∧ one.2.written = other.2.written ∧ one.2.unread = other.2.unread ∧
        one.2.Alike other.2) ∧
    ∀ (credentials : Credentials) (operations : List Operation),
      let session := Session.new first credentials
      let session' := Session.new second credentials
      let ended := Operation.performAll operations session
      let ended' := Operation.performAll operations session'
      Operation.answers operations session = Operation.answers operations session' ∧
        ended.link.written = ended'.link.written ∧ ended.link.unread = ended'.link.unread ∧
        ended.link.Alike ended'.link ∧ ended.held = ended'.held ∧ ended.state = ended'.state ∧
        ended.credentials = ended'.credentials ∧ ended.pinged = ended'.pinged ∧
        ended.framesSent = ended'.framesSent := by
  refine ⟨fun operations => ?_, fun credentials operations => ?_⟩
  · obtain ⟨hresults, hended⟩ := DirectOperation.performAll_uniform operations h
    exact ⟨hresults, hended.written, hended.unread, hended⟩
  · obtain ⟨hanswers, hended⟩ :=
      Operation.performAll_alike operations (Session.Alike.new h credentials)
    exact ⟨hanswers, hended.link.written, hended.link.unread, hended.link, hended.same⟩

/-- Replies that arrive together, and the same replies one octet at a time with interrupted reads
between them. After them the connection is reset, in the middle of a frame or of a reply. -/
theorem delivery_independence_trickle :
    let interrupted : Fault := .bare .interrupted
    let reset : Fault := .bare .connectionReset
    let first : Stream := { reads := [.chunk [0x01, 0x03, 0x02, 0x03], .fault reset] }
    let second : Stream :=
      { reads := [.fault interrupted, .chunk [0x01], .chunk [], .chunk [0x03],
          .fault interrupted, .chunk [0x02], .chunk [0x03], .fault interrupted, .fault reset] }
    let direct : List DirectOperation := [.readExact 1, .readReply, .readFrame]
    let credentials : Credentials :=
      { key := ⟨[107], by decide⟩, deviceId := ⟨⟨[1, 2, 3, 4, 5, 6], rfl⟩⟩ }
    let calls : List Operation :=
      [.single (.handshake ⟨[0, 0, 0, 0, 0, 0, 0, 1], rfl⟩), .single .ping, .single .close]
    first.Alike second ∧
      (DirectOperation.performAll direct second).1 =
        [.ok (.bytes [0x01]), .ok (.reply (.ack .ping)),
          .error (.ofFault reset)] ∧
      Operation.answers calls (Session.new first credentials) =
        Operation.answers calls (Session.new second credentials) := by
  intro interrupted reset first second direct credentials calls
  have halike : first.Alike second := ⟨rfl, rfl, rfl, rfl⟩
  obtain ⟨hdirect, hcalls⟩ := delivery_independence halike
  exact ⟨halike, (hdirect direct).1.symm.trans rfl, (hcalls credentials calls).1⟩

end Stream

end TelemetryLink
