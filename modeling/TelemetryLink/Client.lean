import TelemetryLink.Net.Dialer
import TelemetryLink.Retry

/-!
# Clients

A client sends a number of records to a collector. Sessions themselves never retry: when one
fails and the policy allows it, the client opens another after a pause, and sends only the
records that are not confirmed yet.
-/

namespace TelemetryLink

/-- Where to connect, who to be, and what to send. -/
structure Client where
  /-- The name or address of the collector. -/
  host : String
  /-- Its port. -/
  port : UInt16
  /-- Bounds on waiting. -/
  options : ConnectOptions
  /-- Presented in every handshake. -/
  credentials : Credentials
  /-- Frames, pauses and ping of the whole run. -/
  plan : Plan
  /-- The first record. Later ones count its sequence number up. -/
  sample : Record
  /-- When to retry; `none` is never. -/
  reconnect : Option ReconnectPolicy

/-- What a client has achieved so far. -/
structure Progress where
  /-- Sessions opened or tried. -/
  attempts : UInt32 := 0
  /-- Confirmed data frames of all sessions. -/
  framesAcknowledged : UInt32 := 0
  deriving DecidableEq, Repr

/-- How a run ended that sent everything. -/
structure Summary extends Progress where
  /-- How the ping of the last session ended, if there was one. -/
  ping : Option PingOutcome := none
  /-- The codes of confirmations in the last session that do not name data, in order. -/
  unexpectedAckCodes : List UInt8 := []
  deriving DecidableEq, Repr

/-- How a run ended that gave up. -/
structure RunError extends Progress where
  /-- The error of the last session. -/
  error : SessionError
  deriving DecidableEq, Repr

/-- The error in words: that of the last session. -/
def RunError.message (e : RunError) : String := e.error.message

namespace Client

open Net

/-- How many sessions may follow the first. -/
def retries (client : Client) : Nat :=
  match client.reconnect with
  | none => 0
  | some policy => policy.maxAttempts.toNat - 1

/-- The pause after so many failures. -/
def backoff (client : Client) (failures : UInt32) : Duration :=
  match client.reconnect with
  | none => .zero
  | some policy => policy.backoff failures

/-- The record of the data frame with this index among all frames of the run. -/
def recordAt (client : Client) (index : UInt16) : Record :=
  client.sample.withSequence (client.sample.measurementSeq + index)

variable {ν σ : Type} {m : Type → Type} [Monad m] [Link σ m] [Dialer ν σ m]

/-- One session that sends the records from `done` on. Returns how many were confirmed, also when
the session failed. -/
def attempt (client : Client) (done : UInt32) :
    StateT ν m (UInt32 × Except SessionError Report) := do
  match ← (Dialer.openSession client.host client.port client.credentials client.options).run with
  | .error error => return (0, .error error)
  | .ok session =>
    let nonce ← fun network => Dialer.nonce network
    -- Confirmed frames are never sent again: the plan shrinks and the sequence starts later.
    let plan := { client.plan with frames := client.plan.frames - done }
    let record := fun index : UInt32 =>
      pure (client.recordAt (done.toUInt16 + index.toUInt16))
    let (result, session) ← StateT.lift ((Session.run plan nonce record).run.run session)
    -- A failed session is closed already, and closing again does nothing.
    let (_, session) ← StateT.lift (Session.close.run.run session)
    let network ← get
    set (← StateT.lift (Dialer.retire session.link network))
    return (session.framesSent, result)

/-- One more attempt: the progress after it, and how the session ended. -/
def advance (client : Client) (progress : Progress) :
    StateT ν m (Progress × Except SessionError Report) := do
  let (confirmed, result) ← client.attempt progress.framesAcknowledged
  -- What a failed session had confirmed counts as well.
  return (⟨progress.attempts + 1, progress.framesAcknowledged + confirmed⟩, result)

/-- The result of a run whose last session ended like this. -/
def conclude (progress : Progress) : Except SessionError Report → Except RunError Summary
  | .ok report => .ok { progress with
      ping := report.ping
      unexpectedAckCodes := report.unexpectedAckCodes }
  | .error error => .error { progress with error }

/-- Opens sessions until one completes, up to `retries` after the next. -/
def runFrom (client : Client) :
    (retries : Nat) → Progress → StateT ν m (Except RunError Summary)
  | 0, progress => do
    let (progress, result) ← client.advance progress
    return conclude progress result
  | retries + 1, progress => do
    let (progress, result) ← client.advance progress
    match result with
    | .ok _ => return conclude progress result
    | .error error =>
      if error.error.isRetryable then
        StateT.lift (Link.pause σ (client.backoff progress.attempts))
        runFrom client retries progress
      else return conclude progress result

/-- Sends all records of the plan. -/
def run (client : Client) : StateT ν m (Except RunError Summary) :=
  client.runFrom client.retries {}

end Client

end TelemetryLink
