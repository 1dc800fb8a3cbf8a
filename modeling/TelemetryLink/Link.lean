import TelemetryLink.Duration
import TelemetryLink.Frame
import TelemetryLink.Handshake
import TelemetryLink.Record.Codec
import TelemetryLink.Reply

/-!
# Links

A link is a connection as the protocol uses it: exact reads, complete writes, and flushes, as
operations on the connection's state `σ` in a monad `m`. Exchanges are written once for every
link. `TelemetryLink.Stream` gives a link that follows a script, in which `m` is the identity;
the command line gives one over a socket.
-/

namespace TelemetryLink

/-- The operations of a connection. Each returns its result with the new state. -/
class Link (σ : Type) (m : Type → Type) where
  /-- Reads exactly so many octets, however they arrive, or fails. -/
  readExact : Nat → σ → m (Except ProtocolError Bytes × σ)
  /-- Writes all octets, in as many pieces as it takes, or fails. -/
  writeAll : Bytes → σ → m (Except Fault Unit × σ)
  /-- Hands over what is written and not yet sent. -/
  flush : σ → m (Except Fault Unit × σ)
  /-- Gives the connection up. -/
  release : σ → m σ
  /-- Waits. -/
  pause : Duration → m Unit

/-- A computation on a connection that may fail. -/
abbrev Exchange (σ : Type) (m : Type → Type) (α : Type) :=
  ExceptT ProtocolError (StateT σ m) α

namespace Exchange

/-- The result of an exchange without outside effects, and the connection after it. -/
def on {σ α : Type} (exchange : Exchange σ Id α) (link : σ) : Except ProtocolError α × σ :=
  (exchange.run.run link).run

variable {σ : Type} {m : Type → Type} [Monad m] [Link σ m]

/-- An operation of the link that fails with a transport fault, as an exchange. -/
def ofOperation (operation : σ → m (Except Fault Unit × σ)) : Exchange σ m Unit :=
  ExceptT.mk fun link => do
    let (result, link) ← operation link
    return (result.mapError ProtocolError.ofFault, link)

/-- Reads exactly `n` octets. -/
def readExact (n : Nat) : Exchange σ m Bytes :=
  ExceptT.mk fun link => Link.readExact n link

/-- Writes all octets. -/
def writeAll (bytes : Bytes) : Exchange σ m Unit :=
  ofOperation (Link.writeAll bytes)

/-- Flushes the connection. -/
def flush : Exchange σ m Unit :=
  ofOperation Link.flush

/-- Reads one frame: its length first, which is judged before anything more is read. -/
def readFrame : Exchange σ m Frame := do
  let length := Bytes.ofBe (← readExact Frame.lengthSize)
  -- A length out of range is refused before the body is waited for.
  ExceptT.mk (pure (Frame.checkLength length))
  return Frame.ofBody (← readExact length)

/-- Writes one frame and flushes. A payload that is too long writes nothing. -/
def writeFrame (type : FrameType) (payload : Bytes) : Exchange σ m Unit := do
  let bytes ← ExceptT.mk (pure (Frame.build type payload))
  writeAll bytes
  flush

/-- Reads the two octets of a reply. -/
def readReply : Exchange σ m Reply := do
  let bytes ← readExact Reply.size
  return Reply.ofBytes (bytes.getD 0 0) (bytes.getD 1 0)

/-- Writes one frame and reads the reply to it. -/
def request (type : FrameType) (payload : Bytes) : Exchange σ m Reply := do
  writeFrame type payload
  readReply

/-- Writes a handshake, flushes, and reads the verdict. -/
def handshake (message : Handshake) : Exchange σ m Verdict := do
  writeAll message.toBytes
  flush
  return Verdict.ofByte ((← readExact 1).getD 0 0)

/-- Fails on a rejection. -/
def accept : Verdict → Exchange σ m Unit
  | .accepted => pure ()
  | .rejected reason => throw (.handshakeRejected reason)

/-- Builds a handshake for a device given by raw octets, writes it, and fails unless it is
accepted. -/
def sendHandshake (key : AuthKey) (deviceId : Bytes) (flags : Flags) (nonce : Nonce) :
    Exchange σ m Unit := do
  let message ← ExceptT.mk (pure (Handshake.buildRaw key deviceId flags nonce))
  accept (← handshake message)

end Exchange

end TelemetryLink
