import TelemetryLink.Proofs.Stateful
import TelemetryLink.Proofs.Stream.Transfer
import TelemetryLink.Proofs.Stream.Log

/-!
# Exchanges on scripted streams

Every exchange of a session has one shape: write a message, flush, and read an answer of a known
size. `Exchange.transact` is that shape, `handshake_eq_transact` and `request_eq_transact` say
that the protocol's exchanges have it, and `transact_outcome` says how it can go on a stream,
whatever the script. What goes wrong on a connection gives an error of its own class,
`ProtocolError.OfLink`.
-/

namespace TelemetryLink

/-! ## Errors of connections -/

/-- Whether an error is one of the connection: it ended, it took too long, or it failed
otherwise. -/
def ProtocolError.OfLink : ProtocolError → Prop
  | .connectionClosed _ => True
  | .timeout _ => True
  | .transport _ => True
  | _ => False

theorem ProtocolError.ofLink_ofFault (fault : Fault) : (ofFault fault).OfLink := by
  unfold ofFault
  split <;> trivial

/-- An operation of the connection that fails gives an error of the connection. -/
theorem ProtocolError.ofLink_of_mapError {α : Type} {result : Except Fault α}
    {error : ProtocolError} (h : result.mapError ofFault = .error error) : error.OfLink := by
  cases result with
  | ok value => cases h
  | error fault =>
    cases h
    exact ofLink_ofFault fault

namespace Exchange

/-! ## The shape of exchanges -/

section Shape

variable {σ : Type} {m : Type → Type} [Monad m] [Link σ m]

/-- Writes a message, flushes, and reads an answer of `size` octets. -/
def transact (message : Bytes) (size : Nat) : Exchange σ m Bytes := do
  writeAll message
  flush
  readExact size

/-- A handshake is answered by one octet. -/
theorem handshake_eq_transact [LawfulMonad m] (message : Handshake) :
    (handshake message : Exchange σ m Verdict) =
      (fun answer => Verdict.ofByte (answer.getD 0 0)) <$> transact message.toBytes 1 := by
  simp [handshake, transact]

/-- A frame that can be built is answered by two octets. -/
theorem request_eq_transact [LawfulMonad m] {type : FrameType} {payload bytes : Bytes}
    (h : Frame.build type payload = .ok bytes) :
    (request type payload : Exchange σ m Reply) =
      (fun answer => Reply.ofBytes (answer.getD 0 0) (answer.getD 1 0)) <$>
        transact bytes Reply.size := by
  have hbuild : (ExceptT.mk (pure (Frame.build type payload)) : Exchange σ m Bytes) =
      pure bytes := by rw [h]; rfl
  simp [request, writeFrame, readReply, transact, hbuild]

end Shape

/-! ## Exchanges one after the other -/

section On

variable {σ α β : Type}

theorem on_bind (exchange : Exchange σ Id α) (next : α → Exchange σ Id β) (link : σ) :
    (exchange >>= next).on link = match exchange.on link with
      | (.ok a, link) => (next a).on link
      | (.error e, link) => (.error e, link) := by
  rcases h : exchange.on link with ⟨e | a, after⟩
  · exact Stateful.on_bind_error next h
  · exact Stateful.on_bind_ok next h

/-- A result that is known does nothing to the connection. -/
theorem on_ofResult (result : Except ProtocolError α) (link : σ) :
    on (ExceptT.mk (pure result) : Exchange σ Id α) link = (result, link) := rfl

/-- Mapping the value of an exchange does nothing to the connection. -/
theorem on_map (f : α → β) (exchange : Exchange σ Id α) (link : σ) :
    (f <$> exchange).on link = ((exchange.on link).1.map f, (exchange.on link).2) := by
  rw [map_eq_pure_bind, on_bind]
  rcases exchange.on link with ⟨_ | _, _⟩ <;> rfl

end On

/-! ## On a scripted stream -/

/-- How the exchange of a message for an answer of `size` octets ends: its result, and what it
leaves in the log. -/
inductive Outcome (message : Bytes) (size : Nat) : Except ProtocolError Bytes → Log → Prop
  | unsent {error taken} (h : taken <+: message) :
    Outcome message size (.error error) [.wrote message taken]
  | unflushed {error} : Outcome message size (.error error) [.wrote message message, .flushed false]
  | unanswered {error answer} (h : answer.length < size) :
    Outcome message size (.error error)
      [.wrote message message, .flushed true, .received answer]
  | answered {answer} (h : answer.length = size) :
    Outcome message size (.ok answer) [.wrote message message, .flushed true, .received answer]

private theorem mapError_ok {ε ε' α : Type} (f : ε → ε') (a : α) :
    (Except.ok a).mapError f = .ok a := rfl

private theorem mapError_error {ε ε' α : Type} (f : ε → ε') (e : ε) :
    (Except.error e : Except ε α).mapError f = .error (f e) := rfl

theorem writeAll_on (bytes : Bytes) (stream : Stream) :
    (writeAll bytes : Exchange Stream Id Unit).on stream =
      ((stream.writeAll bytes).1.mapError .ofFault, (stream.writeAll bytes).2) := rfl

theorem flush_on (stream : Stream) :
    (flush : Exchange Stream Id Unit).on stream =
      (stream.flush.1.mapError .ofFault, stream.flush.2) := rfl

theorem readExact_on (n : Nat) (stream : Stream) :
    (readExact n : Exchange Stream Id Bytes).on stream = stream.readExact n := rfl

/-- On a scripted stream an exchange has one of the four outcomes. -/
theorem transact_outcome (message : Bytes) (size : Nat) (stream : Stream) :
    ∃ result next events, (transact message size).on stream = (result, next) ∧
      next.log = stream.log ++ events ∧ Outcome message size result events := by
  unfold transact
  rw [on_bind, writeAll_on]
  rcases stream.writeAll_log message with
    ⟨sent, hwrite, hsent⟩ | ⟨fault, taken, sent, hwrite, hpre, hsent⟩
  · simp only [hwrite, mapError_ok, on_bind, flush_on]
    rcases sent.flush_log with ⟨flushed, hflush, hflushed⟩ | ⟨fault, flushed, hflush, hflushed⟩
    · simp only [hflush, mapError_ok, readExact_on]
      rcases flushed.readExact_log size with
        ⟨answer, next, hread, hlen, hnext⟩ | ⟨error, answer, next, hread, hlen, hnext⟩
      · exact ⟨_, next, _, hread, by simp [hnext, hflushed, hsent], .answered hlen⟩
      · exact ⟨_, next, _, hread, by simp [hnext, hflushed, hsent], .unanswered hlen⟩
    · simp only [hflush, mapError_error]
      exact ⟨_, flushed, _, rfl, by simp [hflushed, hsent], .unflushed⟩
  · simp only [hwrite, mapError_error]
    exact ⟨_, sent, _, rfl, hsent, .unsent hpre⟩

end Exchange

end TelemetryLink
