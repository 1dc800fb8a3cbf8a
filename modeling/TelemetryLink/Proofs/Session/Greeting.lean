import TelemetryLink.Proofs.Frame.Writing
import TelemetryLink.Proofs.Session.Call
import TelemetryLink.Proofs.Stream.Delivery

/-!
# Shaking hands with and without a session

A handshake can be made on a bare connection, `Exchange.sendHandshake`, or by a session that was just
opened, `Session.handshake`. Both do the same to the connection, and a session adds only its state
and the stage to what comes of it.

- `Session.handshake_on_eq_send`: this, over every connection without outside effects.
- `Exchange.Greeting`, `Exchange.sendHandshake_greeting`: how shaking hands goes on a scripted
  stream, told by its scripts.
- `Session.handshake_agree`: what both do on a scripted stream, and when they succeed.
-/

namespace TelemetryLink

/-! ## Verdicts as results -/

/-- What a verdict makes of a handshake. -/
def Verdict.result : Verdict → Except ProtocolError Unit
  | accepted => .ok ()
  | rejected reason => .error (.handshakeRejected reason)

/-- The reason that an octet gives names this octet. -/
theorem Rejection.code_ofCode (byte : UInt8) : (ofCode byte).code = byte := by
  unfold ofCode
  cases hfind : [badMagic, badVersion, badAuthentication].find? fun reason => byte = reason.code with
  | none => rfl
  | some reason =>
    have hcode := List.find?_some hfind
    exact (of_decide_eq_true hcode).symm

/-- One octet accepts the handshake. -/
theorem Verdict.result_ofByte_eq_ok_iff (byte : UInt8) :
    (ofByte byte).result = .ok () ↔ byte = 0x01 := by
  by_cases h : byte = 0x01
  · subst h
    exact iff_of_true rfl rfl
  · rw [ofByte_of_ne h]
    exact iff_of_false nofun h

namespace Exchange

/-! ## On a bare connection -/

section Bare

variable {σ : Type}

theorem accept_on (verdict : Verdict) (link : σ) :
    (accept verdict : Exchange σ Id Unit).on link = (verdict.result, link) := by
  cases verdict with
  | accepted => rfl
  | rejected reason => rfl

variable [Link σ Id]

/-- For a device id of six octets a message is built, and its verdict decides. -/
theorem sendHandshake_on (key : AuthKey) (deviceId : DeviceId) (flags : Flags) (nonce : Nonce)
    (link : σ) :
    (sendHandshake key deviceId.bytes flags nonce : Exchange σ Id Unit).on link =
      let (verdict, link) := (handshake (Handshake.build key deviceId flags nonce)).on link
      (verdict >>= Verdict.result, link) := by
  have hbuild : Handshake.buildRaw key deviceId.bytes flags nonce =
      .ok (Handshake.build key deviceId flags nonce) :=
    Handshake.buildRaw_eq_ok_iff.2 ⟨deviceId.block.property, rfl⟩
  rw [sendHandshake, hbuild, on_bind, on_ofResult]
  dsimp only
  rw [on_bind]
  rcases (handshake (Handshake.build key deviceId flags nonce)).on link with ⟨error | verdict, after⟩
  · rfl
  · exact accept_on verdict after

end Bare

end Exchange

namespace Session

/-- A session that is still connecting shakes hands as it is done on its bare connection. It is idle
after a success, and an error names the exchange and ends it. -/
theorem handshake_on_eq_send {σ : Type} [Link σ Id] {session : Session σ} (nonce : Nonce)
    (hstate : session.state = .connecting) (hheld : session.held = true) :
    (handshake nonce : SessionM σ Id Unit).on session =
      match (Exchange.sendHandshake session.credentials.key session.credentials.deviceId.bytes
          session.credentials.flags nonce : Exchange σ Id Unit).on session.link with
      | (.ok (), link) => (.ok (), { session with link, state := .idle })
      | (.error error, link) => (.error ⟨.handshake, error⟩, closed { session with link }) := by
  rw [handshake_on nonce hstate hheld, Exchange.sendHandshake_on]
  rcases (Exchange.handshake _).on session.link with ⟨_ | _ | reason, link⟩
  · rfl
  · rfl
  · rfl

end Session

namespace Exchange

open TelemetryLink.Stream (WriteLoop SingleWrite delivered halt shortfall)

/-- How shaking hands goes on a scripted stream: the result, and what it leaves in the log. -/
inductive Greeting (message : Bytes) (stream : Stream) : Except ProtocolError Unit → Log → Prop
  /-- A write has failed. -/
  | unsent {calls fault} (hloop : WriteLoop message stream.writes calls (some fault)) :
    Greeting message stream (.error (.ofFault fault))
      [.wrote message (calls.flatMap SingleWrite.taken)]
  /-- The message was taken as a whole, and the flush after it has failed. -/
  | unflushed {calls fault} (hloop : WriteLoop message stream.writes calls none)
    (hflush : stream.flushes.head? = some (some fault)) :
    Greeting message stream (.error (.ofFault fault)) [.wrote message message, .flushed false]
  /-- The message was sent, and no octet was there to answer it. -/
  | unanswered {calls} (hloop : WriteLoop message stream.writes calls none)
    (hflush : ∀ fault, stream.flushes.head? ≠ some (some fault))
    (hreply : (delivered stream.reads).head? = none) :
    Greeting message stream (.error (shortfall 1 0 (halt stream.reads).1))
      [.wrote message message, .flushed true, .received []]
  /-- The message was sent, and an octet answered it. -/
  | answered {calls byte} (hloop : WriteLoop message stream.writes calls none)
    (hflush : ∀ fault, stream.flushes.head? ≠ some (some fault))
    (hreply : (delivered stream.reads).head? = some byte) :
    Greeting message stream (Verdict.ofByte byte).result
      [.wrote message message, .flushed true, .received [byte]]

/-- The next octet of a stream, or the end of what it delivers. -/
private theorem readExact_one (stream : Stream) :
    (∃ byte next, (delivered stream.reads).head? = some byte ∧
      stream.readExact 1 = (.ok [byte], next) ∧
      next.log = stream.log ++ [.received [byte]] ∧ next.unread + 1 = stream.unread) ∨
    ∃ next, (delivered stream.reads).head? = none ∧
      stream.readExact 1 = (.error (shortfall 1 0 (halt stream.reads).1), next) ∧
      next.log = stream.log ++ [.received []] ∧ next.unread = stream.unread := by
  have hlog := stream.readExact_log 1
  cases hdelivered : delivered stream.reads with
  | nil =>
    have hshort : (delivered stream.reads).length < 1 := by
      rw [hdelivered]
      exact Nat.zero_lt_one
    obtain ⟨next, hread, htook⟩ := Stream.readExact_of_lt hshort
    rw [hdelivered] at hread htook
    rw [hread] at hlog
    rcases hlog with ⟨_, _, h, -⟩ | ⟨_, bytes, _, h, hlength, hlog⟩
    · cases h
    · cases h
      obtain rfl := List.length_eq_zero_iff.1 (Nat.lt_one_iff.1 hlength)
      exact .inr ⟨next, rfl, hread, hlog, htook.unread⟩
  | cons byte bytes =>
    have henough : 1 ≤ (delivered stream.reads).length := by
      rw [hdelivered]
      exact Nat.succ_le_succ (Nat.zero_le _)
    obtain ⟨next, hread, htook, -⟩ := Stream.readExact_of_le henough
    rw [hdelivered] at hread
    rw [hread] at hlog
    rcases hlog with ⟨_, _, h, -, hlog⟩ | ⟨_, _, _, h, -⟩
    · cases h
      exact .inl ⟨byte, next, rfl, hread, hlog, htook.unread⟩
    · cases h

/-- Where every write is accepted, none has failed. -/
theorem fault?_of_accepts {bytes : Bytes} {script : List WriteStep} {calls : List SingleWrite}
    {fault? : Option Fault} (hloop : WriteLoop bytes script calls fault?)
    (haccepts : ∀ step ∈ script, Stream.Accepts step) : fault? = none := by
  induction hloop with
  | done => rfl
  | @failed bytes script fault hne hfault =>
    match script, haccepts, hfault with
    | [], _, hfault =>
      rw [SingleWrite.first, SingleWrite.fault?_of_taken hne] at hfault
      cases hfault
    | .take limit :: _, haccepts, hfault =>
      have hlimit : 0 < limit := haccepts (.take limit) List.mem_cons_self
      have hsome : bytes.take limit ≠ [] := by
        rw [Ne, List.take_eq_nil_iff, not_or]
        exact ⟨Nat.ne_of_gt hlimit, hne⟩
      rw [SingleWrite.first, SingleWrite.fault?_of_taken hsome] at hfault
      cases hfault
    | .fault other :: _, haccepts, hfault =>
      have hint : other.kind = .interrupted := haccepts (.fault other) List.mem_cons_self
      rw [SingleWrite.first, SingleWrite.fault?] at hfault
      simp [hint] at hfault
  | next hne hfault hleft hrest ih =>
    exact ih fun step hstep => haccepts step (List.mem_of_mem_tail hstep)

/-- A flush fails with the next fault of its script, if that is one. -/
private theorem flush_cases (stream : Stream) :
    (∃ fault next, stream.flushes.head? = some (some fault) ∧
      stream.flush = (.error fault, next) ∧ next.log = stream.log ++ [.flushed false] ∧
      next.reads = stream.reads) ∨
    ∃ next, (∀ fault, stream.flushes.head? ≠ some (some fault)) ∧
      stream.flush = (.ok (), next) ∧ next.log = stream.log ++ [.flushed true] ∧
      next.reads = stream.reads := by
  unfold Stream.flush
  split
  next fault rest hflushes => exact .inl ⟨fault, _, by simp [hflushes], rfl, rfl, rfl⟩
  next rest hflushes => exact .inr ⟨_, by simp [hflushes], rfl, rfl, rfl⟩
  next hflushes => exact .inr ⟨_, by simp [hflushes], rfl, rfl, rfl⟩

/-- On a scripted stream shaking hands goes like that. -/
theorem sendHandshake_greeting (key : AuthKey) (deviceId : DeviceId) (flags : Flags)
    (nonce : Nonce) (stream : Stream) :
    ∃ result next events,
      (sendHandshake key deviceId.bytes flags nonce : Exchange Stream Id Unit).on stream =
        (result, next) ∧
      Greeting (Handshake.build key deviceId flags nonce).toBytes stream result events ∧
      next.log = stream.log ++ events ∧
      next.unread + (Log.received events).length = stream.unread := by
  rw [sendHandshake_on, handshake_eq_transact, on_map, transact, on_bind]
  generalize (Handshake.build key deviceId flags nonce).toBytes = message
  obtain ⟨calls, fault?, hloop, hwrite⟩ := writeAll_loop message stream
  rw [hwrite]
  cases fault? with
  | some fault => exact ⟨_, _, _, rfl, .unsent hloop, rfl, rfl⟩
  | none =>
    have hsent : (unflushed stream message calls).log =
        stream.log ++ [.wrote message message] := by
      rw [unflushed, hloop.taken_eq_iff.2 rfl]
      rfl
    dsimp only
    rw [on_bind, flush_on]
    rcases flush_cases (unflushed stream message calls) with
      ⟨fault, flushed, hhead, hflush, hlog, hreads⟩ | ⟨flushed, hhead, hflush, hlog, hreads⟩
    · rw [hsent, List.append_assoc] at hlog
      rw [hflush]
      exact ⟨_, flushed, _, rfl, .unflushed hloop hhead, hlog, congrArg (List.foldr _ 0) hreads⟩
    · rw [hsent, List.append_assoc] at hlog
      have hreplies : delivered flushed.reads = delivered stream.reads := congrArg _ hreads
      have hhalts : halt flushed.reads = halt stream.reads := congrArg _ hreads
      have hunread : flushed.unread = stream.unread := congrArg (List.foldr _ 0) hreads
      rw [hflush]
      dsimp only [Except.mapError]
      rw [readExact_on]
      rcases readExact_one flushed with
        ⟨byte, next, hbyte, hread, hnext, hleft⟩ | ⟨next, hnone, hread, hnext, hleft⟩
      · rw [hlog, List.append_assoc] at hnext
        rw [hread]
        exact ⟨_, next, _, rfl, .answered hloop hhead (hreplies ▸ hbyte), hnext,
          hleft.trans hunread⟩
      · rw [hlog, List.append_assoc] at hnext
        rw [hread, hhalts]
        exact ⟨_, next, _, rfl, .unanswered hloop hhead (hreplies ▸ hnone), hnext,
          hleft.trans hunread⟩

namespace Greeting

variable {message : Bytes} {stream : Stream} {result : Except ProtocolError Unit} {events : Log}

/-- What the scripts say about a greeting: whether it succeeds, and how it is rejected. -/
theorem decided (h : Greeting message stream result events) :
    ∃ calls fault?, WriteLoop message stream.writes calls fault? ∧
      events.written = calls.flatMap SingleWrite.taken ∧
      (result = .ok () ↔ calls.flatMap SingleWrite.taken = message ∧
        (∀ fault, stream.flushes.head? ≠ some (some fault)) ∧
        (delivered stream.reads).head? = some 0x01) ∧
      ∀ byte, calls.flatMap SingleWrite.taken = message →
        (∀ fault, stream.flushes.head? ≠ some (some fault)) →
        (delivered stream.reads).head? = some byte → byte ≠ 0x01 →
        ∃ reason, result = .error (.handshakeRejected reason) ∧ reason.code = byte := by
  cases h with
  | unsent hloop =>
    have hpart := mt hloop.taken_eq_iff.1 (Option.some_ne_none _)
    refine ⟨_, _, hloop, by simp [Log.written, Stream.sentBy], iff_of_false ?_ ?_, ?_⟩
    · rintro ⟨⟩
    · exact fun h => hpart h.1
    · exact fun _ hall => absurd hall hpart
  | unflushed hloop hflush =>
    have hall := hloop.taken_eq_iff.2 rfl
    refine ⟨_, _, hloop, by simp [Log.written, Stream.sentBy, hall], iff_of_false ?_ ?_, ?_⟩
    · rintro ⟨⟩
    · exact fun h => absurd hflush (h.2.1 _)
    · exact fun _ _ h => absurd hflush (h _)
  | unanswered hloop hflush hreply =>
    have hall := hloop.taken_eq_iff.2 rfl
    refine ⟨_, _, hloop, by simp [Log.written, Stream.sentBy, hall], iff_of_false ?_ ?_, ?_⟩
    · rintro ⟨⟩
    · rw [hreply]
      rintro ⟨-, -, ⟨⟩⟩
    · rw [hreply]
      rintro _ - - ⟨⟩
  | @answered calls byte hloop hflush hreply =>
    have hall := hloop.taken_eq_iff.2 rfl
    refine ⟨_, _, hloop, by simp [Log.written, Stream.sentBy, hall], ?_, ?_⟩
    · rw [Verdict.result_ofByte_eq_ok_iff, hreply]
      exact ⟨fun h => ⟨hall, hflush, congrArg some h⟩, fun h => Option.some.inj h.2.2⟩
    · rintro _ - - hbyte hne
      rw [hreply] at hbyte
      obtain rfl := Option.some.inj hbyte
      exact ⟨_, by rw [Verdict.ofByte_of_ne hne]; rfl, Rejection.code_ofCode _⟩

/-- At most one octet is read. -/
theorem length_received_le (h : Greeting message stream result events) :
    events.received.length ≤ 1 := by
  cases h with
  | unsent | unflushed | unanswered => exact Nat.zero_le 1
  | answered => exact Nat.le_refl 1

/-- Nothing is read before the message was taken as a whole and flushed. -/
theorem reads_last (h : Greeting message stream result events) {reply : Bytes}
    (hread : .received reply ∈ events) :
    events = [.wrote message message, .flushed true, .received reply] := by
  cases h with
  | unsent | unflushed => simp at hread
  | unanswered =>
    obtain rfl : reply = [] := by simpa using hread
    rfl
  | @answered calls byte =>
    obtain rfl : reply = [byte] := by simpa using hread
    rfl

end Greeting

end Exchange

/-! ## Both alike -/

/-- Two streams that were used alike: they were offered the same messages and took the same octets of
them, they were flushed as often, the same octets were read, and the same is still to come. -/
structure Stream.UsedAlike (one other : Stream) : Prop where
  offers : Log.offers one.log = Log.offers other.log
  written : one.written = other.written
  flushCount : one.flushCount = other.flushCount
  received : one.received = other.received
  scripts : one.reads = other.reads ∧ one.writes = other.writes ∧ one.flushes = other.flushes

/-- Giving a stream up is no other use of it. -/
theorem Stream.usedAlike_release (stream : Stream) : stream.release.UsedAlike stream where
  offers := by simp [release, record, Log.offers, Log.offeredBy]
  written := by simp [release, record, Stream.written, sentBy]
  flushCount := by simp [release, record, Stream.flushCount]
  received := received_release stream
  scripts := ⟨rfl, rfl, rfl⟩

namespace Session

open TelemetryLink.Exchange (Greeting)
open TelemetryLink.Stream (WriteLoop SingleWrite delivered)

/-- A new session shakes hands exactly as it is done on the bare connection: the stream is used alike,
and given up after a failure; the session is idle after a success, and otherwise it is closed and its
error is the same, with the stage. Both succeed if and only if the 52 octets of the message were taken
as a whole, the flush went well and the next octet to read is `01`; any other octet there is the code of
the rejection. At most one octet is read, and nothing before the flush went well. -/
theorem handshake_agree (credentials : Credentials) (nonce : Nonce) (stream : Stream) :
    let message :=
      (Handshake.build credentials.key credentials.deviceId credentials.flags nonce).toBytes
    let bare := (Exchange.sendHandshake credentials.key credentials.deviceId.bytes
      credentials.flags nonce : Exchange Stream Id Unit).on stream
    let session := (handshake nonce : SessionM Stream Id Unit).on (Session.new stream credentials)
    session.2.link.UsedAlike bare.2 ∧
    ((bare.1 = .ok () ∧ session.1 = .ok () ∧ session.2.state = .idle ∧
        session.2.link.releaseCount = bare.2.releaseCount) ∨
      ∃ error, bare.1 = .error error ∧ session.1 = .error ⟨.handshake, error⟩ ∧
        session.2.state = .closed ∧
        session.2.link.releaseCount = bare.2.releaseCount + 1) ∧
    message.length = 52 ∧
    ∃ calls fault? events, WriteLoop message stream.writes calls fault? ∧
      Greeting message stream bare.1 events ∧ bare.2.log = stream.log ++ events ∧
      (let sent := calls.flatMap SingleWrite.taken = message ∧
        ∀ fault, stream.flushes.head? ≠ some (some fault)
      (bare.1 = .ok () ↔ sent ∧ (delivered stream.reads).head? = some 0x01) ∧
      ∀ byte, sent → (delivered stream.reads).head? = some byte → byte ≠ 0x01 →
        ∃ reason, bare.1 = .error (.handshakeRejected reason) ∧ reason.code = byte) ∧
      events.written = calls.flatMap SingleWrite.taken ∧
      bare.2.unread + events.received.length = stream.unread ∧ events.received.length ≤ 1 ∧
      ∀ reply, .received reply ∈ events →
        events = [.wrote message message, .flushed true, .received reply] := by
  intro message bare session
  obtain ⟨result, next, events, hbare, hgreeting, hlog, hunread⟩ :=
    Exchange.sendHandshake_greeting credentials.key credentials.deviceId credentials.flags nonce
      stream
  have hsession : session = _ :=
    @handshake_on_eq_send _ _ (Session.new stream credentials) nonce rfl rfl
  have hsent : (Exchange.sendHandshake (Session.new stream credentials).credentials.key
      (Session.new stream credentials).credentials.deviceId.bytes
      (Session.new stream credentials).credentials.flags nonce : Exchange Stream Id Unit).on
      (Session.new stream credentials).link = (result, next) := hbare
  have hbare : bare = (result, next) := hbare
  obtain ⟨calls, fault?, hloop, hwritten, hok, hrejected⟩ := hgreeting.decided
  rw [hsession, hsent, hbare]
  refine ⟨?_, ?_, Handshake.length_toBytes _, calls, fault?, events, hloop, hgreeting, hlog,
    ⟨by rw [and_assoc]; exact hok, fun byte hsent => hrejected byte hsent.1 hsent.2⟩, hwritten,
    hunread, hgreeting.length_received_le, fun reply => hgreeting.reads_last⟩
  · cases result with
    | ok => exact ⟨rfl, rfl, rfl, rfl, rfl, rfl, rfl⟩
    | error error => exact next.usedAlike_release
  · cases result with
    | ok => exact .inl ⟨rfl, rfl, rfl, rfl⟩
    | error error =>
      refine .inr ⟨error, rfl, rfl, rfl, ?_⟩
      have hreleased : next.release.releaseCount = next.releaseCount + 1 := by
        simp [Stream.release, Stream.record, Stream.releaseCount]
      exact hreleased

/-- A handshake that is taken in three pieces, with an interruption between them, and rejected. The
octet behind the one that rejects it is not read. -/
theorem handshake_agree_rejected :
    let credentials : Credentials :=
      { key := ⟨[0x73], by decide⟩, deviceId := ⟨⟨[0xDE, 0xAD, 0xBE, 0xEF, 0, 1], rfl⟩⟩ }
    let nonce : Nonce := ⟨[1, 2, 3, 4, 5, 6, 7, 8], rfl⟩
    let stream : Stream :=
      { reads := [.fault (.bare .interrupted), .chunk [0xFD, 0x03]]
        writes := [.take 30, .fault (.bare .interrupted), .take 1] }
    let bare := (Exchange.sendHandshake credentials.key credentials.deviceId.bytes
      credentials.flags nonce : Exchange Stream Id Unit).on stream
    let session := (handshake nonce : SessionM Stream Id Unit).on (Session.new stream credentials)
    (delivered stream.reads).head? = some 0xFD ∧
      ∃ error, bare.1 = .error error ∧ session.1 = .error ⟨.handshake, error⟩ ∧
        session.2.state = .closed ∧
        (∃ reason, error = .handshakeRejected reason ∧ reason.code = 0xFD) ∧
        session.2.link.written = bare.2.written ∧ bare.2.written.length = 52 := by
  intro credentials nonce stream
  have hagree := handshake_agree credentials nonce stream
  -- Without a look into either: the digest in the message is none of the matter.
  generalize (Exchange.sendHandshake credentials.key credentials.deviceId.bytes
    credentials.flags nonce : Exchange Stream Id Unit).on stream = bare at hagree ⊢
  generalize (handshake nonce : SessionM Stream Id Unit).on (Session.new stream credentials) =
    session at hagree ⊢
  obtain ⟨halike, hresults, hlength, calls, fault?, events, hloop, -, hlog, ⟨-, hrejected⟩, hwritten,
    -⟩ := hagree
  have haccepts : ∀ step ∈ stream.writes, Stream.Accepts step := by
    simp [stream, Stream.Accepts, Fault.bare]
  have hall := hloop.taken_eq_iff.2 (Exchange.fault?_of_accepts hloop haccepts)
  obtain ⟨reason, hbare, hcode⟩ :=
    hrejected 0xFD ⟨hall, fun fault => nofun⟩ rfl (by decide)
  refine ⟨rfl, .handshakeRejected reason, hbare, ?_⟩
  rcases hresults with ⟨hok, -⟩ | ⟨error, herror, hsession, hstate, -⟩
  · rw [hbare] at hok
    cases hok
  · rw [hbare] at herror
    cases herror
    refine ⟨hsession, hstate, ⟨reason, rfl, hcode⟩, halike.written, ?_⟩
    have hbytes : bare.2.written = events.written := congrArg Log.written hlog
    rw [hbytes, hwritten, hall, hlength]

end Session

end TelemetryLink
