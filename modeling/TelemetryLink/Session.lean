import TelemetryLink.Link

/-!
# Sessions

A session owns one connection. It shakes hands once, may ping once, and sends data frames; after
every message it waits for the answer before it sends another. Every error ends the session: the
connection is released at the first error, at `Session.close`, and never twice.

`Session.run` drives the whole life of a session according to a plan.
-/

namespace TelemetryLink

/-- Whom a session presents itself as. -/
structure Credentials where
  /-- The key that the handshake is signed with. -/
  key : AuthKey
  /-- The device that speaks. -/
  deviceId : DeviceId
  /-- The flags of the handshake. -/
  flags : Flags := .empty

/-- What to send after the handshake. -/
structure Plan where
  /-- How many data frames. -/
  frames : UInt32
  /-- The pause between two data frames. -/
  interval : Duration := .zero
  /-- Whether to ping before the first data frame. -/
  ping : Bool := false
  deriving DecidableEq, Repr

/-- How a ping ended that was answered at all. -/
inductive PingOutcome where
  /-- The answer confirmed the ping. -/
  | acknowledged
  /-- The answer was these two octets. -/
  | unexpected (bytes : Bytes)
  deriving DecidableEq, Repr

/-- What a completed run has to tell. -/
structure Report where
  /-- Confirmed data frames. -/
  framesAcknowledged : UInt32 := 0
  /-- How the ping ended, if there was one. -/
  ping : Option PingOutcome := none
  /-- The codes of confirmations that do not name data, in order. -/
  unexpectedAckCodes : List UInt8 := []
  deriving DecidableEq, Repr

/-- The report after one more confirmation. -/
def Report.confirm (report : Report) (code : AckCode) : Report :=
  { report with
    framesAcknowledged := report.framesAcknowledged + 1
    unexpectedAckCodes :=
      if code = .data then report.unexpectedAckCodes
      else report.unexpectedAckCodes ++ [code.toByte] }

/-- A session over a connection of type `σ`. -/
structure Session (σ : Type) where
  /-- The connection. -/
  link : σ
  /-- Whether the connection is still held. -/
  held : Bool := true
  /-- What the session is ready for. -/
  state : SessionState := .connecting
  /-- Whom the session presents itself as. -/
  credentials : Credentials
  /-- Whether the ping was answered. -/
  pinged : Bool := false
  /-- Confirmed data frames. -/
  framesSent : UInt32 := 0

/-- A computation on a session that may fail. -/
abbrev SessionM (σ : Type) (m : Type → Type) (α : Type) :=
  ExceptT SessionError (StateT (Session σ) m) α

/-- The result of a computation without outside effects, and the session after it. -/
def SessionM.on {σ α : Type} (step : SessionM σ Id α) (session : Session σ) :
    Except SessionError α × Session σ :=
  (step.run.run session).run

namespace Session

/-- A session over a connection that was just opened. -/
def new {σ : Type} (link : σ) (credentials : Credentials) : Session σ :=
  { link, credentials }

/-- What a session shows of itself. -/
def describe {σ : Type} (session : Session σ) : String :=
  "Session \x7b state: " ++ session.state.title ++ ", device_id: " ++
    session.credentials.deviceId.describe ++ ", frames_sent: " ++
    toString session.framesSent.toNat ++ " \x7d"

variable {σ : Type} {m : Type → Type} [Monad m] [Link σ m]

/-- An operation outside the session, which cannot fail. -/
def ofOutside {α : Type} (operation : m α) : SessionM σ m α :=
  ExceptT.lift (StateT.lift operation)

/-- Ends the session. The connection is released if it is still held. -/
def close : SessionM σ m Unit := do
  let session ← get
  if session.held then
    let link ← ofOutside (Link.release session.link)
    set { session with link, held := false, state := .closed }
  else
    set { session with state := .closed }

/-- Ends the session with an error. -/
def fail {α : Type} (stage : Stage) (error : ProtocolError) : SessionM σ m α := do
  close
  throw ⟨stage, error⟩

/-- Enters a state. -/
def enter (state : SessionState) : SessionM σ m Unit :=
  modify fun session => { session with state }

/-- Fails unless the session is in the state that the stage asks for. -/
def expect (expected : SessionState) (stage : Stage) : SessionM σ m Unit := do
  let actual := (← get).state
  if actual = expected then return
  fail stage (.invalidState (.wrongState stage expected actual))

/-- Makes an exchange on the connection. A failure ends the session. -/
def exchange {α : Type} (stage : Stage) (exchange : Exchange σ m α) : SessionM σ m α := do
  let session ← get
  if session.held then
    let (result, link) ← ofOutside (exchange.run session.link)
    set { session with link }
    match result with
    | .ok value => return value
    | .error error => fail stage error
  else
    fail stage (.invalidState .released)

/-- Shakes hands under a nonce. A rejection ends the session. -/
def handshake (nonce : Nonce) : SessionM σ m Unit := do
  expect .connecting .handshake
  let credentials := (← get).credentials
  -- The message is made anew for every session, so that the tag covers its own nonce.
  let message := Handshake.build credentials.key credentials.deviceId credentials.flags nonce
  enter .handshaking
  match ← exchange .handshake (Exchange.handshake message) with
  | .accepted => enter .idle
  | .rejected reason => fail .handshake (.handshakeRejected reason)

/-- Pings, once in a session. An answer that does not confirm is reported, and the session goes
on. -/
def ping : SessionM σ m PingOutcome := do
  expect .idle .ping
  if (← get).pinged then
    fail .ping (.invalidState .secondPing)
  -- From here on the ping counts as sent only when both octets of its reply are there.
  enter .pinging
  let reply ← exchange .ping (Exchange.request .ping [])
  modify fun session => { session with pinged := true }
  enter .idle
  if reply.toBytes = Reply.pingAck then return .acknowledged
  return .unexpected reply.toBytes

/-- Sends one record and waits for its confirmation, whatever code it has. Any other answer ends
the session. -/
def sendRecord (record : Record) : SessionM σ m AckCode := do
  -- The number counts the frames of the whole session, not those of one run.
  let stage := Stage.data ((← get).framesSent + 1)
  expect .idle stage
  enter .sending
  match ← exchange stage (Exchange.request .data record.encodePresent) with
  | .ack code =>
    modify fun session => { session with framesSent := session.framesSent + 1 }
    enter .idle
    return code
  | .serverError code => fail stage (.serverError code)
  | .malformed marker code => fail stage (.protocolViolation [marker, code])

/-- Sends `n` more records, of which the first has the index `index`, with a pause between
two. Each record is made just before it is sent. -/
def sendRecords (interval : Duration) (record : UInt32 → m Record) :
    Nat → UInt32 → Report → SessionM σ m Report
  | 0, _, report => return report
  | n + 1, index, report => do
    let code ← sendRecord (← ofOutside (record index))
    -- There is no pause after the last frame.
    if n ≠ 0 ∧ interval ≠ .zero then
      ofOutside (Link.pause σ interval)
    sendRecords interval record n (index + 1) (report.confirm code)

/-- Drives the whole life of a session: the handshake if it is still to be made, the ping and the
data frames of the plan, and the end. `record` makes the record of each data frame from its index,
which counts from zero. -/
def run (plan : Plan) (nonce : Nonce) (record : UInt32 → m Record) : SessionM σ m Report := do
  if (← get).state = .connecting then
    handshake nonce
  let outcome ← if plan.ping then some <$> ping else pure none
  let report ← sendRecords plan.interval record plan.frames.toNat 0 { ping := outcome }
  close
  return report

end Session

end TelemetryLink
